import Karaoke.Proofs.Browser.Step
import Mathlib.Algebra.BigOperators.Intervals
import Mathlib.Algebra.Order.BigOperators.Group.LocallyFinite
import Mathlib.Data.Fintype.BigOperators
import Mathlib.Data.List.Permutation
import Mathlib.Data.Nat.Factorial.BigOperators
import Mathlib.Data.Set.Card
import Mathlib.Order.Interval.Finset.Nat

/-!
# Orders that are drawn

A shuffle settles one place at each draw, from the last down: what is drawn for a place is what ends
up there, and later draws leave it alone. Of songs that differ the order therefore tells the draws,
and there are as many draws as orders.
-/

set_option autoImplicit false

namespace Karaoke

namespace Dice

variable {α : Type} {xs : Array α} {i k n : Nat} {d d' : Dice}

/-! ## Draws -/

/-- A draw for each place of `n` but the first, no higher than the place itself. -/
abbrev Draws (n : Nat) := (i : Finset.Ioo 0 n) → Fin (i.val + 1)

/-- The source that answers with the draw for the place that is the bound. -/
def ofDraws (v : Draws n) : Dice where
  roll _ i := if h : 0 < i ∧ i < n then v ⟨i, Finset.mem_Ioo.mpr h⟩ else ⟨0, Nat.succ_pos i⟩

/-- What a source answers to the bound `k` if the bounds from `i` down to it are asked for. -/
def answer (d : Dice) (i k : Nat) : Fin (k + 1) :=
  d.roll (List.range' (k + 1) (i - k) ++ d.asked) k

/-- What a source answers when it is to shuffle `n` things. -/
def answers (d : Dice) (n : Nat) : Draws n :=
  fun k => d.answer (n - 1) k

theorem answers_ofDraws (v : Draws n) : (ofDraws v).answers n = v := by
  funext k
  simp only [answers, answer, ofDraws, dif_pos (Finset.mem_Ioo.mp k.property)]

theorem answer_self : d.answer i i = (d.draw i).1 := by
  simp [answer, draw]

theorem answer_draw (le : k ≤ i) : (d.draw (i + 1)).2.answer i k = d.answer (i + 1) k := by
  have bounds : List.range' (k + 1) (i + 1 - k) = List.range' (k + 1) (i - k) ++ [i + 1] := by
    rw [Nat.succ_sub le, List.range'_1_concat]
    congr 2
    omega
  simp [answer, draw, bounds]

theorem prod_places (n : Nat) : ∏ k : Finset.Ioo 0 n, (k.val + 1) = n.factorial := by
  rw [Finset.prod_coe_sort (Finset.Ioo 0 n) (· + 1), ← Finset.prod_range_add_one_eq_factorial]
  cases n with
  | zero => rfl
  | succ n =>
    rw [Finset.range_eq_Ico, ← Finset.mul_prod_Ioo_eq_prod_Ico (Nat.succ_pos n), Nat.zero_add,
      Nat.one_mul]

theorem card_draws (n : Nat) : Fintype.card (Draws n) = n.factorial := by
  rw [Fintype.card_pi, ← prod_places]
  exact Finset.prod_congr rfl fun k _ => Fintype.card_fin _

/-! ## Exchanges -/

theorem exchange_succ (xs : Array α) (i : Nat) (d : Dice) : exchange xs (i + 1) d =
    exchange (xs.swapIfInBounds (i + 1) (d.draw (i + 1)).1) i (d.draw (i + 1)).2 :=
  rfl

theorem asked_exchange (xs : Array α) (i : Nat) (d : Dice) :
    (exchange xs i d).2.asked = List.range' 1 i ++ d.asked := by
  induction i generalizing xs d with
  | zero => rfl
  | succ i ih =>
    rw [exchange_succ, ih, List.range'_1_concat]
    simp [draw, Nat.add_comm]

theorem getElem?_swapIfInBounds_of_ne {j : Nat} (hi : i ≠ k) (hj : j ≠ k) :
    (xs.swapIfInBounds i j)[k]? = xs[k]? := by
  rw [Array.swapIfInBounds_def]
  split
  · split
    · rw [Array.getElem?_swap, if_neg hj, if_neg hi]
    · rfl
  · rfl

theorem getElem?_swapIfInBounds_left {j : Nat} (hi : i < xs.size) (hj : j < xs.size) :
    (xs.swapIfInBounds i j)[i]? = xs[j]? := by
  rw [Array.swapIfInBounds_def, dif_pos hi, dif_pos hj, Array.getElem?_swap, if_pos rfl,
    Array.getElem?_eq_getElem hj]
  split
  · next same => simp [same]
  · rfl

theorem getElem?_exchange (lt : i < k) (xs : Array α) (d : Dice) :
    (exchange xs i d).1[k]? = xs[k]? := by
  induction i generalizing xs d with
  | zero => rfl
  | succ i ih =>
    rw [exchange_succ, ih (by omega)]
    exact getElem?_swapIfInBounds_of_ne (by omega) (by omega)

/-- What is drawn for a place ends up there. -/
theorem getElem?_exchange_succ (lt : i + 1 < xs.size) (d : Dice) :
    (exchange xs (i + 1) d).1[i + 1]? = xs[(d.draw (i + 1)).1.val]? := by
  rw [exchange_succ, getElem?_exchange (Nat.lt_succ_self i)]
  exact getElem?_swapIfInBounds_left lt (by omega)

/-- The order depends on nothing but what is drawn for the places. -/
theorem exchange_congr (xs : Array α)
    (same : ∀ k, 0 < k → k ≤ i → d.answer i k = d'.answer i k) :
    (exchange xs i d).1 = (exchange xs i d').1 := by
  induction i generalizing xs d d' with
  | zero => rfl
  | succ i ih =>
    have first : (d.draw (i + 1)).1 = (d'.draw (i + 1)).1 := by
      rw [← answer_self, ← answer_self]
      exact same (i + 1) (Nat.succ_pos i) le_rfl
    rw [exchange_succ, exchange_succ, first]
    refine ih _ fun k pos le => ?_
    rw [answer_draw le, answer_draw le]
    exact same k pos (Nat.le_succ_of_le le)

theorem draw_eq_of_exchange_eq (nodup : xs.toList.Nodup) (lt : i + 1 < xs.size)
    (same : (exchange xs (i + 1) d).1 = (exchange xs (i + 1) d').1) :
    (d.draw (i + 1)).1 = (d'.draw (i + 1)).1 := by
  have there := congrArg (fun ys : Array α => ys[i + 1]?) same
  rw [getElem?_exchange_succ lt, getElem?_exchange_succ lt, ← Array.getElem?_toList,
    ← Array.getElem?_toList] at there
  refine Fin.ext ((List.getElem?_inj ?_ nodup).mp there)
  rw [Array.length_toList]
  omega

/-- Of different things the order tells what was drawn for every place. -/
theorem answer_eq_of_exchange_eq (nodup : xs.toList.Nodup) (lt : i < xs.size)
    (same : (exchange xs i d).1 = (exchange xs i d').1) (pos : 0 < k) (le : k ≤ i) :
    d.answer i k = d'.answer i k := by
  induction i generalizing xs d d' with
  | zero => omega
  | succ i ih =>
    have first := draw_eq_of_exchange_eq nodup lt same
    rcases Nat.le_succ_iff.mp le with le | rfl
    · rw [exchange_succ, exchange_succ, ← first] at same
      rw [← answer_draw le, ← answer_draw le]
      refine ih ?_ ?_ same le
      · exact (swapIfInBounds_perm xs (i + 1) _).nodup_iff.mpr nodup
      · rw [Array.size_swapIfInBounds]
        omega
    · rw [answer_self, answer_self, first]

/-! ## Shuffles -/

/-- The order that some draws give. -/
def reordered (xs : List α) (v : Draws xs.length) : List α :=
  ((ofDraws v).shuffle xs).1

theorem asked_shuffle (xs : List α) (d : Dice) :
    (d.shuffle xs).2.asked = List.range' 1 (xs.length - 1) ++ d.asked :=
  asked_exchange xs.toArray (xs.length - 1) d

theorem used_shuffle (xs : List α) (d : Dice) :
    (d.shuffle xs).2.used = d.used + (xs.length - 1) := by
  rw [used, asked_shuffle, List.length_append, List.length_range', Nat.add_comm]
  rfl

theorem shuffle_congr (xs : List α) (same : d.answers xs.length = d'.answers xs.length) :
    (d.shuffle xs).1 = (d'.shuffle xs).1 := by
  refine congrArg Array.toList (exchange_congr xs.toArray fun k pos le => ?_)
  exact congrFun same ⟨k, Finset.mem_Ioo.mpr ⟨pos, by omega⟩⟩

theorem answers_eq_of_shuffle_eq {xs : List α} (nodup : xs.Nodup)
    (same : (d.shuffle xs).1 = (d'.shuffle xs).1) :
    d.answers xs.length = d'.answers xs.length := by
  funext ⟨k, place⟩
  obtain ⟨pos, lt⟩ := Finset.mem_Ioo.mp place
  have differ : xs.toArray.toList.Nodup := nodup
  have size : xs.length - 1 < xs.toArray.size := by
    rw [List.size_toArray]
    omega
  exact answer_eq_of_exchange_eq differ size (Array.toList_inj.mp same) pos
    (Nat.le_sub_one_of_lt lt)

theorem reordered_answers (xs : List α) (d : Dice) :
    reordered xs (d.answers xs.length) = (d.shuffle xs).1 :=
  shuffle_congr xs (answers_ofDraws _)

/-! ## Orders -/

theorem orders_eq [DecidableEq α] (xs : List α) :
    {ys : List α | ys.Perm xs} = (xs.permutations.toFinset : Set (List α)) := by
  ext ys
  simp

theorem card_orders [DecidableEq α] {xs : List α} (nodup : xs.Nodup) :
    xs.permutations.toFinset.card = xs.length.factorial := by
  rw [List.toFinset_card_of_nodup (List.nodup_permutations xs nodup), List.length_permutations]

/-- Of different things each order comes from draws of its own. -/
theorem bijOn_reordered [DecidableEq α] {xs : List α} (nodup : xs.Nodup) :
    Set.BijOn (reordered xs) Set.univ {ys | ys.Perm xs} := by
  have maps : Set.MapsTo (reordered xs) Set.univ {ys | ys.Perm xs} :=
    fun v _ => shuffle_perm xs (ofDraws v)
  have injective : Set.InjOn (reordered xs) Set.univ := by
    intro v _ w _ same
    rw [← answers_ofDraws v, ← answers_ofDraws w]
    exact answers_eq_of_shuffle_eq nodup same
  refine ⟨maps, injective, ?_⟩
  rw [orders_eq] at maps ⊢
  rw [← Finset.coe_univ] at maps injective ⊢
  refine Finset.surjOn_of_injOn_of_card_le _ maps injective ?_
  rw [card_orders nodup, Finset.card_univ, card_draws]

/-- How likely a draw is if it is as likely as every other one up to its bound. -/
def chance {n : Nat} (_ : Fin (n + 1)) : ℚ :=
  1 / (n + 1)

theorem prod_chance (v : Draws n) : ∏ k, chance (v k) = 1 / n.factorial := by
  rw [← prod_places, Nat.cast_prod, one_div, ← Finset.prod_inv_distrib]
  exact Finset.prod_congr rfl fun k _ => by simp [chance]

theorem sum_chance [DecidableEq α] {xs ys : List α} (nodup : xs.Nodup) (perm : ys.Perm xs) :
    ∑ v with reordered xs v = ys, ∏ k, chance (v k) = 1 / xs.length.factorial := by
  obtain ⟨v, -, rfl⟩ := (bijOn_reordered nodup).surjOn perm
  have only : Finset.univ.filter (fun w => reordered xs w = reordered xs v) = {v} := by
    ext w
    rw [Finset.mem_filter_univ, Finset.mem_singleton]
    exact (bijOn_reordered nodup).injOn.eq_iff (Set.mem_univ w) (Set.mem_univ v)
  rw [only, Finset.sum_singleton, prod_chance]

end Dice

namespace Ranking

/-- The order of a catalog that some draws give. -/
def order (catalog : List Song) (v : Dice.Draws catalog.length) : List Song :=
  (shuffled catalog (.ofDraws v)).1.songs

/-- Of songs that differ every order comes from draws of its own, so that all are as likely if the
draws are. The order that any source gives is that of its answers to the bounds from the last place
down to the second, and a browser without a query shows the songs in it. -/
theorem shuffled_uniform {catalog : List Song} (nodup : catalog.Nodup) :
    Set.BijOn (order catalog) Set.univ {songs | songs.Perm catalog} ∧
    {songs : List Song | songs.Perm catalog}.ncard = catalog.length.factorial ∧
    (∀ songs, songs.Perm catalog →
      ∑ v with order catalog v = songs, ∏ k, Dice.chance (v k) = 1 / catalog.length.factorial) ∧
    (∀ d : Dice, (shuffled catalog d).1.songs = order catalog (d.answers catalog.length) ∧
      (shuffled catalog d).2.asked = List.range' 1 (catalog.length - 1) ++ d.asked ∧
      (shuffled catalog d).2.used = d.used + (catalog.length - 1)) ∧
    ∀ b : Browser, Browser.modeOf b.query = .idle → b.catalog = catalog →
      b.refresh.1.ranking = (shuffled catalog b.dice).1 := by
  refine ⟨Dice.bijOn_reordered nodup, ?_, fun songs => Dice.sum_chance nodup,
    fun d => ⟨(Dice.reordered_answers catalog d).symm, Dice.asked_shuffle catalog d,
      Dice.used_shuffle catalog d⟩, ?_⟩
  · rw [Dice.orders_eq, Set.ncard_coe_finset, Dice.card_orders nodup]
  · rintro b idle rfl
    obtain ⟨dice, placeholder, suggested⟩ := Browser.suggest_eq b.drawn
    rw [Browser.refresh_of_idle idle, suggested]
    rfl

/-- Two songs change places as often as they do not. -/
theorem shuffled_uniform_pair :
    let first : Song := { title := "Innuendo", artist := "Queen", hash := "a" }
    let second : Song := { title := "Wonderwall", artist := "Oasis", hash := "b" }
    [first, second].Nodup ∧
      ∑ v with order [first, second] v = [second, first], ∏ k, Dice.chance (v k) = 1 / 2 := by
  intro first second
  have nodup : [first, second].Nodup := by decide
  obtain ⟨-, -, likely, -⟩ := shuffled_uniform nodup
  exact ⟨nodup, likely [second, first] (.swap first second [])⟩

end Ranking

end Karaoke
