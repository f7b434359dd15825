import Karaoke.Proofs.Ranking.Visible
import Mathlib.Data.Prod.Lex
import Mathlib.Data.String.Basic

/-!
# The order of a ranking

A ranking keeps every song that is not hidden, as often as the catalog has it. Higher scores come
first, equal scores are in the order of title, artist and hash, and songs that agree in all of
these stay in the order of the catalog.
-/

set_option autoImplicit false

namespace Karaoke

/-- The code points of a text. -/
def Text.codePoints (text : String) : List Nat :=
  text.toList.map Char.toNat

/-- Texts are ordered by their code points. -/
theorem Text.codePoints_strictMono : StrictMono codePoints := by
  intro a b h
  exact List.map_lt (fun _ _ h => h) (String.lt_iff_toList_lt.mp h)

namespace Song

open Text (codePoints codePoints_strictMono)

/-- What songs of the same score are ordered by: title, then artist, then hash, each by its code
points. -/
def key (s : Song) : List Nat ×ₗ List Nat ×ₗ List Nat :=
  toLex (codePoints s.title, toLex (codePoints s.artist, codePoints s.hash))

theorem isLE_compare_iff {a b : Song} : (a.compare b).isLE = true ↔ a.key ≤ b.key := by
  have last : (Ord.compare a.hash b.hash).isLE = true ↔ a.hash ≤ b.hash :=
    Ordering.ne_gt_iff_isLE.symm.trans compare_le_iff_le
  simp only [compare, key, Ordering.isLE_then_iff_or, Prod.Lex.toLex_le_toLex, compare_lt_iff_lt,
    compare_eq_iff_eq, codePoints_strictMono.lt_iff_lt, codePoints_strictMono.injective.eq_iff,
    codePoints_strictMono.le_iff_le, last]

end Song

namespace Ranking

/-! ## Stable sorts -/

section Sorting

variable {α : Type} {le : α → α → Bool}
  (trans : ∀ a b c, le a b = true → le b c = true → le a c = true)
  (total : ∀ a b, (le a b || le b a) = true)

include trans total

/-- One element more comes before whatever it may come before, and behind the rest. -/
theorem mergeSort_cons_parted (a : α) (l : List α) :
    ∃ before after, (a :: l).mergeSort le = before ++ a :: after ∧
      l.mergeSort le = before ++ after ∧
      before = (l.mergeSort le).filter (!le a ·) ∧ after = (l.mergeSort le).filter (le a ·) := by
  obtain ⟨before, after, whole, rest, apart⟩ := List.mergeSort_cons trans total a l
  have sorted := List.pairwise_mergeSort trans total (a :: l)
  rw [whole, List.pairwise_append, List.pairwise_cons] at sorted
  have follow : ∀ b ∈ after, le a b = true := sorted.2.1.1
  refine ⟨before, after, whole, rest, ?_, ?_⟩
  · rw [rest, List.filter_append, List.filter_eq_self.mpr apart, List.filter_eq_nil_iff.mpr,
      List.append_nil]
    simpa using follow
  · rw [rest, List.filter_append, List.filter_eq_self.mpr follow, List.filter_eq_nil_iff.mpr,
      List.nil_append]
    simpa using apart

/-- The sort by one insertion after the other, which also runs inside of a proof. -/
theorem mergeSort_eq_foldr (l : List α) :
    l.mergeSort le =
      l.foldr (fun a sorted => sorted.filter (!le a ·) ++ a :: sorted.filter (le a ·)) [] := by
  induction l with
  | nil => rw [List.mergeSort_nil, List.foldr_nil]
  | cons a l ih =>
    obtain ⟨before, after, whole, -, eb, ea⟩ := mergeSort_cons_parted trans total a l
    rw [whole, List.foldr_cons, ← ih, eb, ea]

/-- What is selected from a sorted list is in the order that it has if it is sorted by itself. -/
theorem filter_mergeSort (p : α → Bool) (l : List α) :
    (l.mergeSort le).filter p = (l.filter p).mergeSort le := by
  induction l with
  | nil => simp
  | cons a l ih =>
    obtain ⟨before, after, whole, rest, eb, ea⟩ := mergeSort_cons_parted trans total a l
    by_cases kept : p a
    · obtain ⟨before', after', whole', -, eb', ea'⟩ :=
        mergeSort_cons_parted trans total a (l.filter p)
      have same : before.filter p = before' := by
        rw [eb, eb', ← ih, List.filter_filter, List.filter_filter]
        simp only [Bool.and_comm]
      have same' : after.filter p = after' := by
        rw [ea, ea', ← ih, List.filter_filter, List.filter_filter]
        simp only [Bool.and_comm]
      rw [List.filter_cons_of_pos kept, whole, whole', List.filter_append,
        List.filter_cons_of_pos kept, same, same']
    · rw [List.filter_cons_of_neg kept, ← ih, whole, rest, List.filter_append, List.filter_append,
        List.filter_cons_of_neg kept]

theorem filter_mergeSort_of_tied {l : List α} {p : α → Bool}
    (tied : ∀ a ∈ l, ∀ b ∈ l, p a = true → p b = true → le a b = true) :
    (l.mergeSort le).filter p = l.filter p := by
  rw [filter_mergeSort trans total]
  apply List.mergeSort_of_pairwise
  apply List.pairwise_of_forall_mem_list
  intro a ha b hb
  obtain ⟨ha, pa⟩ := List.mem_filter.mp ha
  obtain ⟨hb, pb⟩ := List.mem_filter.mp hb
  exact tied a ha b hb pa pb

end Sorting

/-! ## The order of scores and keys -/

variable (lists : Playlists) (t : Threshold) (q : Query)

/-- Whether a song may stand before another: both are visible, and it has the higher score or the
same score and no later key. -/
def Before (a b : Song) : Prop :=
  ∃ m n, a.score? lists t q = some m ∧ b.score? lists t q = some n ∧
    (n < m ∨ m = n ∧ a.key ≤ b.key)

/-- Whether a song has a certain score and key. -/
def isTied (n : Nat) (k : List Nat ×ₗ List Nat ×ₗ List Nat) (s : Song) : Bool :=
  s.score? lists t q = some n ∧ s.key = k

theorem precedes_iff {a b : Scored} :
    precedes a b = true ↔ b.1 < a.1 ∨ b.1 = a.1 ∧ a.2.key ≤ b.2.key := by
  simp only [precedes, Ordering.isLE_then_iff_or, compare_lt_iff_lt, compare_eq_iff_eq,
    Song.isLE_compare_iff]

theorem precedes_trans (a b c : Scored) (hab : precedes a b = true) (hbc : precedes b c = true) :
    precedes a c = true := by
  rw [precedes_iff] at *
  rcases hab with hab | ⟨eab, kab⟩
  · rcases hbc with hbc | ⟨ebc, -⟩
    · exact .inl (hbc.trans hab)
    · exact .inl (ebc ▸ hab)
  · rcases hbc with hbc | ⟨ebc, kbc⟩
    · exact .inl (eab ▸ hbc)
    · exact .inr ⟨ebc.trans eab, kab.trans kbc⟩

theorem precedes_total (a b : Scored) : (precedes a b || precedes b a) = true := by
  rw [Bool.or_eq_true, precedes_iff, precedes_iff]
  rcases lt_trichotomy a.1 b.1 with h | h | h
  · exact .inr (.inl h)
  · exact (le_total a.2.key b.2.key).imp (fun k => .inr ⟨h.symm, k⟩) (fun k => .inr ⟨h, k⟩)
  · exact .inl (.inl h)

theorem songs_ofQuery (catalog : List Song) :
    (ofQuery lists t q catalog).songs =
      ((scored lists t q catalog).foldr
        (fun a sorted => sorted.filter (!precedes a ·) ++ a :: sorted.filter (precedes a ·))
        []).map (·.2) := by
  rw [ofQuery, mergeSort_eq_foldr precedes_trans precedes_total]

variable {lists t q}

theorem score?_of_mem_scored {catalog : List Song} {e : Scored}
    (h : e ∈ scored lists t q catalog) : e.2.score? lists t q = some e.1 := by
  obtain ⟨s, -, hs⟩ := List.mem_filterMap.mp h
  obtain ⟨n, hn, rfl⟩ := Option.map_eq_some_iff.mp hs
  exact hn

variable (lists t q) (catalog : List Song)

theorem pairwise_before_ofQuery :
    (ofQuery lists t q catalog).songs.Pairwise (Before lists t q) := by
  refine List.pairwise_map.mpr ?_
  refine (List.pairwise_mergeSort precedes_trans precedes_total _).imp_of_mem ?_
  intro a b ha hb hab
  have sa := score?_of_mem_scored (List.mem_mergeSort.mp ha)
  have sb := score?_of_mem_scored (List.mem_mergeSort.mp hb)
  refine ⟨a.1, b.1, sa, sb, ?_⟩
  exact (precedes_iff.mp hab).imp_right fun h => ⟨h.1.symm, h.2⟩

theorem filter_isTied_ofQuery (n : Nat) (k : List Nat ×ₗ List Nat ×ₗ List Nat) :
    (ofQuery lists t q catalog).songs.filter (isTied lists t q n k) =
      catalog.filter (isTied lists t q n k) := by
  have tied : ∀ a ∈ scored lists t q catalog, ∀ b ∈ scored lists t q catalog,
      (isTied lists t q n k ∘ (·.2)) a = true → (isTied lists t q n k ∘ (·.2)) b = true →
        precedes a b = true := by
    intro a ha b hb ta tb
    simp only [isTied, Function.comp_apply, decide_eq_true_eq, score?_of_mem_scored ha,
      score?_of_mem_scored hb, Option.some.injEq] at ta tb
    exact precedes_iff.mpr (.inr ⟨tb.1.trans ta.1.symm, (ta.2.trans tb.2.symm).le⟩)
  have seen (s : Song) : (isTied lists t q n k s && (s.score? lists t q).isSome) =
      isTied lists t q n k s := by
    cases h : s.score? lists t q <;> simp [isTied, h]
  calc (ofQuery lists t q catalog).songs.filter (isTied lists t q n k)
      = (((scored lists t q catalog).mergeSort precedes).filter
          (isTied lists t q n k ∘ (·.2))).map (·.2) := List.filter_map
    _ = ((scored lists t q catalog).filter (isTied lists t q n k ∘ (·.2))).map (·.2) := by
        rw [filter_mergeSort_of_tied precedes_trans precedes_total tied]
    _ = (visible lists t q catalog).filter (isTied lists t q n k) := by
        rw [← List.filter_map, map_snd_scored]
    _ = catalog.filter (isTied lists t q n k) := by
        simp only [visible, List.filter_filter, seen]

/-- A ranking loses and repeats no visible song, counts the others, puts better scores first and
equal ones in order of their keys, and leaves songs that tie in both as the catalog has them. -/
theorem ofQuery_ordered :
    (ofQuery lists t q catalog).songs.Perm (visible lists t q catalog) ∧
      (ofQuery lists t q catalog).hidden + (ofQuery lists t q catalog).songs.length =
        catalog.length ∧
      (ofQuery lists t q catalog).songs.Pairwise (Before lists t q) ∧
      ∀ n k, (ofQuery lists t q catalog).songs.filter (isTied lists t q n k) =
        catalog.filter (isTied lists t q n k) :=
  ⟨(covers_ofQuery lists t q catalog).songs,
    (covers_ofQuery lists t q catalog).hidden_add_length, pairwise_before_ofQuery lists t q catalog,
    filter_isTied_ofQuery lists t q catalog⟩

end Ranking

end Karaoke
