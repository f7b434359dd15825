import Karaoke.Proofs.Catalog.Fetches
import Karaoke.Proofs.Session.Internal
import Mathlib.Data.List.Perm.Basic
import Mathlib.Data.Prod.Lex
import Mathlib.Order.WellFounded

/-!
# Sessions settle

A fetch of the songs can lead to a fetch of a list, and that to another ranking, which starts a
timer and shows the songs from their top again. None of this leads back: ranks order what a session
has before it, and each step takes more from its own rank than it adds there and leaves the higher
ranks alone. On the lowest rank, where timers start timers, every start is paid for by songs revealed
or letters typed.
-/

set_option autoImplicit false

namespace Karaoke

/-- How far a message can reach: whether it may have a list fetched, whether it may have the songs
ranked again, or neither. -/
def Message.rank : Message → Nat
  | .songsLoaded _ | .listChanged _ | .search _ | .toggleVideo | .toggleDuets | .selectCategory _
  | .shuffle => 2
  | .listLoaded _ _ => 1
  | _ => 0

def Pending.rank : Pending → Nat
  | .fetch .songs _ => 2
  | .fetch (.list _) _ => 1
  | _ => 0

def Command.rank : Command → Nat
  | .fetchSongs => 2
  | .fetchList _ => 1
  | _ => 0

theorem Message.rank_le (m : Message) : m.rank ≤ 2 := by
  unfold rank
  split <;> decide

theorem Pending.rank_le (p : Pending) : p.rank ≤ 2 := by
  unfold rank
  split <;> decide

theorem Pending.EndsIn.rank_le {p : Pending} {m : Message} (h : p.EndsIn m)
    (other : p.isEdit = false) : m.rank ≤ p.rank := by
  cases h with
  | fetch answers => cases answers <;> simp [Message.rank, Pending.rank]
  | tick | scrollCheck => exact Nat.le_refl 0
  | edit => cases other

namespace Browser

/-- How many steps of the reveal and of the placeholder are still to come. -/
def remaining (b : Browser) : Nat :=
  (b.ranking.songs.length - b.shown).toNat +
    (b.placeholder.target.length - b.placeholder.revealed)

theorem length_scroll_add_remaining (b : Browser) (remaining : Int) :
    (b.scroll remaining).2.length + (b.scroll remaining).1.remaining ≤ b.remaining := by
  unfold scroll
  split
  · next near =>
    have unrevealed := near.2
    simp only [Browser.remaining, List.length_singleton]
    omega
  · simp

theorem length_tick_add_remaining (b : Browser) (generation : Int) :
    (b.tick generation).2.length + (b.tick generation).1.remaining ≤ b.remaining := by
  unfold tick Placeholder.tick
  by_cases advances : b.placeholder.Advances generation
  · have untyped : b.placeholder.revealed < b.placeholder.target.length := by
      simpa [Placeholder.isDone] using advances.2
    simp only [if_pos advances, Browser.remaining]
    split
    · simp only [List.length_singleton]
      omega
    · simp only [List.length_nil]
      omega
  · simp [if_neg advances]

/-- A message of the lowest rank starts no more than it reveals and types. -/
theorem length_update_add_remaining (b : Browser) {m : Message} (h : m.rank = 0) :
    (b.update m).2.length + (b.update m).1.remaining ≤ b.remaining := by
  cases m
  case scroll remaining => exact length_scroll_add_remaining b remaining
  case tick generation => exact length_tick_add_remaining b generation
  case indexLoaded | listFailed | songsFailed | toggleCategories | unknown =>
    exact Nat.le_of_eq (Nat.zero_add _)
  all_goals cases h

theorem rank_of_fetched {b : Browser} {m : Message} {name : String}
    (h : name ∈ fetched (b.update m).2) : m.rank = 2 := by
  cases m
  case songsLoaded | listChanged | search | toggleVideo | toggleDuets | selectCategory | shuffle =>
    rfl
  case listLoaded other members =>
    rw [fetched_update_listLoaded] at h
    cases h
  all_goals cases (mem_fetched_update_iff.mp h).1

theorem rank_of_mem_update {b : Browser} {m : Message} {c : Command} (h : c ∈ (b.update m).2) :
    c.rank ≤ m.rank - 1 := by
  cases c
  case fetchList name =>
    have fetched : name ∈ fetched (b.update m).2 := List.mem_filterMap.mpr ⟨_, h, rfl⟩
    rw [rank_of_fetched fetched]
    exact Nat.le_refl 1
  case fetchSongs =>
    rcases cases_of_mem_update h with ⟨top, -⟩ | ⟨name, list⟩ | timer
    · cases top
    · cases list
    · cases timer
  all_goals exact Nat.zero_le _

theorem countP_update_eq_zero (b : Browser) {m : Message} {k : Nat} (le : m.rank ≤ k)
    (positive : k ≠ 0) : (b.update m).2.countP (·.rank = k) = 0 := by
  refine List.countP_eq_zero.mpr fun c mem => ?_
  have lower := rank_of_mem_update mem
  simp only [decide_eq_true_eq]
  omega

end Browser

namespace Session

variable {s s' : Session}

theorem countP_started_le (client : Catalog.Client) (probe : Option Probe) (c : Command) (k : Nat) :
    (started client probe c).countP (·.rank = k) ≤ if c.rank = k then 1 else 0 := by
  have single {p : Pending} (rank : p.rank = c.rank) :
      [p].countP (·.rank = k) ≤ if c.rank = k then 1 else 0 := by
    rw [List.countP_singleton, rank]
    simp only [decide_eq_true_eq, Nat.le_refl]
  have fetched (r : Catalog.Resource) (rank : ∀ sent, (Pending.fetch r sent).rank = c.rank) :
      (fetching client r).countP (·.rank = k) ≤ if c.rank = k then 1 else 0 := by
    unfold fetching
    split
    · exact single (rank _)
    · exact Nat.zero_le _
  cases c
  case fetchSongs => exact fetched .songs fun _ => rfl
  case fetchIndex => exact fetched .index fun _ => rfl
  case fetchList name => exact fetched (.list name) fun _ => rfl
  case scheduleTick => exact single rfl
  case scheduleScroll =>
    simp only [started]
    split
    · exact single rfl
    · exact Nat.zero_le _
  case scrollToTop => exact Nat.zero_le _

theorem countP_flatMap_started_le (client : Catalog.Client) (probe : Option Probe)
    (cs : List Command) (k : Nat) :
    (cs.flatMap (started client probe)).countP (·.rank = k) ≤ cs.countP (·.rank = k) := by
  induction cs with
  | nil => exact Nat.le_refl 0
  | cons c cs ih =>
    have first := countP_started_le client probe c k
    rw [List.flatMap_cons, List.countP_append, List.countP_cons]
    simp only [decide_eq_true_eq]
    omega

/-- The work of a rank that a session has before it. Something pending counts twice: it has to end,
and the message that it ends in has to be processed. The lowest rank pays for what is still to be
revealed and typed, too. -/
def load (s : Session) (k : Nat) : Nat :=
  s.queue.countP (·.rank = k) + 2 * s.pending.countP (·.rank = k) +
    if k = 0 then 3 * s.browser.remaining else 0

theorem load_consume_lt {m : Message} {ms : List Message} (queue : s.queue = m :: ms) :
    (({ s with queue := ms }.consume m).1).load m.rank < s.load m.rank := by
  have started := countP_flatMap_started_le s.client s.probe (s.browser.update m).2 m.rank
  rw [consume_eq]
  simp only [load, queue, List.countP_append, List.countP_cons, decide_true, if_true]
  by_cases lowest : m.rank = 0
  · have fewer := s.browser.length_update_add_remaining lowest
    have all : (s.browser.update m).2.countP (·.rank = m.rank) ≤ (s.browser.update m).2.length :=
      List.countP_le_length
    rw [if_pos lowest, if_pos lowest]
    omega
  · have none := s.browser.countP_update_eq_zero (Nat.le_refl m.rank) lowest
    rw [if_neg lowest, if_neg lowest]
    omega

theorem load_consume_of_lt {m : Message} {ms : List Message} (queue : s.queue = m :: ms) {k : Nat}
    (higher : m.rank < k) : (({ s with queue := ms }.consume m).1).load k = s.load k := by
  have other : k ≠ 0 := Nat.ne_of_gt (Nat.zero_lt_of_lt higher)
  have started := countP_flatMap_started_le s.client s.probe (s.browser.update m).2 k
  have none := s.browser.countP_update_eq_zero (Nat.le_of_lt higher) other
  rw [consume_eq]
  simp only [load, queue, List.countP_append, List.countP_cons, decide_eq_true_eq,
    if_neg (Nat.ne_of_lt higher), if_neg other]
  omega

theorem countP_eraseIdx {place : Nat} {p : Pending} (pending : s.pending[place]? = some p)
    (k : Nat) : s.pending.countP (·.rank = k) =
      (s.pending.eraseIdx place).countP (·.rank = k) + if p.rank = k then 1 else 0 := by
  obtain ⟨inside, here⟩ := List.getElem?_eq_some_iff.mp pending
  have perm := List.getElem_cons_eraseIdx_perm inside
  rw [here] at perm
  rw [← perm.countP_eq, List.countP_cons]
  simp only [decide_eq_true_eq]

theorem load_finish_lt [Text.Charsets] {place : Nat} {p : Pending}
    (pending : s.pending[place]? = some p) (o : Http.Outcome) :
    ({ s with pending := s.pending.eraseIdx place }.finish p o).1.load p.rank < s.load p.rank := by
  obtain ⟨client, probe, m, e, ends⟩ := finish_eq { s with pending := s.pending.eraseIdx place } p o
  have ended := countP_eraseIdx pending p.rank
  have one : m.toList.countP (·.rank = p.rank) ≤ m.toList.length := List.countP_le_length
  have le_one : m.toList.length ≤ 1 := m.length_toList_le
  rw [e]
  simp only [load, List.countP_append]
  rw [if_pos rfl] at ended
  omega

theorem load_finish_of_lt [Text.Charsets] {place : Nat} {p : Pending}
    (pending : s.pending[place]? = some p) (other : p.isEdit = false) (o : Http.Outcome) {k : Nat} (higher : p.rank < k) :
    ({ s with pending := s.pending.eraseIdx place }.finish p o).1.load k = s.load k := by
  obtain ⟨client, probe, m, e, ends⟩ := finish_eq { s with pending := s.pending.eraseIdx place } p o
  have ended := countP_eraseIdx pending k
  have none : m.toList.countP (·.rank = k) = 0 := by
    refine List.countP_eq_zero.mpr fun n mem => ?_
    have lower := (ends n (Option.mem_toList.mp mem)).rank_le other
    simp only [decide_eq_true_eq]
    omega
  rw [e]
  simp only [load, List.countP_append]
  rw [if_neg (Nat.ne_of_lt higher)] at ended
  omega

/-- An internal step eases the load of some rank and none above it changes. -/
theorem Internal.eases [Text.Charsets] (h : Internal s s') :
    ∃ k ≤ 2, s'.load k < s.load k ∧ ∀ j > k, s'.load j = s.load j := by
  cases h with
  | @consume m ms running queue =>
    exact ⟨m.rank, m.rank_le, load_consume_lt queue, fun j => load_consume_of_lt queue⟩
  | @finish place p o pending other =>
    exact ⟨p.rank, p.rank_le, load_finish_lt pending o,
      fun j => load_finish_of_lt pending other o⟩

/-- The loads of all ranks, the highest first. -/
def effort (s : Session) : Nat ×ₗ Nat ×ₗ Nat :=
  toLex (s.load 2, toLex (s.load 1, s.load 0))

theorem Internal.effort_lt [Text.Charsets] (h : Internal s s') : s'.effort < s.effort := by
  obtain ⟨k, le, less, same⟩ := h.eases
  simp only [effort, Prod.Lex.toLex_lt_toLex]
  match k with
  | 2 => exact .inl less
  | 1 => exact .inr ⟨same 2 (by decide), .inl less⟩
  | 0 => exact .inr ⟨same 2 (by decide), .inr ⟨same 1 (by decide), less⟩⟩

theorem internal_wellFounded [Text.Charsets] : WellFounded fun s' s => Internal s s' :=
  Subrelation.wf Internal.effort_lt (InvImage.wf effort wellFounded_lt)

/-- A session that runs settles: it cannot take steps by itself forever, whatever its fetches end in
and its probe tells, and where it can take no more of them no message waits and no fetch or timer
is pending. -/
theorem settles [Text.Charsets] (s : Session) :
    (∀ run : Nat → Session, run 0 = s → ∃ n, ¬ Internal (run n) (run (n + 1))) ∧
    (s.running = true →
      (∃ s', Relation.ReflTransGen Internal s s' ∧ s'.isSettled = true) ∧
      ∀ s', Relation.ReflTransGen Internal s s' →
        ((∀ s'', ¬ Internal s' s'') ↔ s'.isSettled = true)) := by
  have runs {s' : Session} (run : Relation.ReflTransGen Internal s s') : s'.running = s.running := by
    induction run with
    | refl => rfl
    | tail _ step same => exact step.running.trans same
  constructor
  · intro run _
    have : IsWellFounded Session fun s' s => Internal s s' := ⟨internal_wellFounded⟩
    exact WellFounded.not_rel_apply_succ (r := fun s' s => Internal s s') run
  · intro running
    have stuck {s' : Session} (run : Relation.ReflTransGen Internal s s') :
        (∀ s'', ¬ Internal s' s'') ↔ s'.isSettled = true :=
      (isSettled_iff_of_running ((runs run).trans running)).symm
    refine ⟨?_, fun s' => stuck⟩
    obtain ⟨s', run, last⟩ := internal_wellFounded.has_min
      { s' | Relation.ReflTransGen Internal s s' } ⟨s, .refl⟩
    exact ⟨s', run, (stuck run).mp fun s'' step => last s'' (run.tail step) step⟩

/-- A probe that always reports the end of the list to be near does not keep a session running. -/
theorem settles_near_end :
    let _ : Text.Charsets := .builtin
    let s : Session :=
      { browser := .new { roll := fun _ _ => 0 } (some 1)
        client := .ofDefaults
        settings := {}
        probe := some { remaining := fun _ => 0 }
        queue := [.songsLoaded [{ title := "A", artist := "B", hash := "h1" }], .search "list:Fans"]
        pending := [.tick 500 0, .scrollCheck 32]
        running := true }
    s.running = true ∧ s.isSettled = false ∧
      ∃ s', Relation.ReflTransGen Internal s s' ∧ s'.isSettled = true := by
  intro _ s
  have running : s.running = true := rfl
  exact ⟨running, rfl, ((settles s).2 running).1⟩

end Session

end Karaoke
