import Karaoke.Proofs.Session.Step
import Mathlib.Logic.Relation

/-!
# Internal steps

What a session does while nothing comes from outside: one message of the queue at a time, one end of
a fetch or a timer at a time, in any order. Processing the whole queue and ending something pending
are runs of such steps.
-/

set_option autoImplicit false

namespace Karaoke.Session

variable [Text.Charsets]

/-- Steps that a session takes by itself: it processes the first message of its queue, or a fetch or
a timer that is pending ends, a fetch in any outcome. -/
inductive Internal : Session → Session → Prop
  | consume {s : Session} {m : Message} {ms : List Message} :
    s.running = true → s.queue = m :: ms → Internal s ({ s with queue := ms }.consume m).1
  | finish {s : Session} {place : Nat} {p : Pending} (o : Http.Outcome) :
    s.pending[place]? = some p → p.isEdit = false →
      Internal s ({ s with pending := s.pending.eraseIdx place }.finish p o).1

variable {s s' : Session}

theorem Internal.running (h : Internal s s') : s'.running = s.running := by
  cases h with
  | consume => rw [consume_eq]
  | @finish place p o =>
    obtain ⟨client, probe, m, e, -⟩ := finish_eq { s with pending := s.pending.eraseIdx place } p o
    rw [e]

/-- A session that runs can take a step by itself unless it is settled. -/
theorem isSettled_iff_of_running (running : s.running = true) :
    s.isSettled = true ↔ ∀ s', ¬ Internal s s' := by
  simp only [isSettled, Bool.and_eq_true, List.isEmpty_iff, List.all_eq_true]
  constructor
  · rintro ⟨empty, edits⟩ s' step
    cases step with
    | consume _ queue => simp [empty] at queue
    | finish o pending other =>
      have edit := edits _ (List.mem_of_getElem? pending)
      simp [other] at edit
  · intro stuck
    constructor
    · cases queue : s.queue with
      | nil => rfl
      | cons m ms => exact absurd (.consume running queue) (stuck _)
    · intro p mem
      obtain ⟨place, pending⟩ := List.getElem?_of_mem mem
      cases other : p.isEdit with
      | true => rfl
      | false => exact absurd (.finish (.response {}) pending other) (stuck _)

/-! ## What a session does by itself -/

theorem internal_foldl_consume (t : Session) (running : t.running = true) (ms : List Message) :
    Relation.ReflTransGen Internal { t with queue := ms }
      (ms.foldl (fun s m => (s.consume m).1) { t with queue := [] }) := by
  induction ms generalizing t with
  | nil => exact .refl
  | cons m ms ih =>
    -- The messages that wait have no part in how the first one is processed.
    have apart : ({ t with queue := ms }.consume m).1 =
        { ({ t with queue := [] }.consume m).1 with queue := ms } := by
      rw [consume_eq, consume_eq]
    have empty : ({ t with queue := [] }.consume m).1 =
        { ({ t with queue := [] }.consume m).1 with queue := [] } := by
      rw [consume_eq]
    have first : Internal { t with queue := m :: ms } ({ t with queue := ms }.consume m).1 :=
      .consume running rfl
    rw [apart] at first
    rw [List.foldl_cons, empty]
    refine .head first (ih _ ?_)
    rw [consume_eq]
    exact running

/-- Processing the queue is a run of internal steps. -/
theorem internal_drain (s : Session) : Relation.ReflTransGen Internal s s.drain.1 := by
  unfold drain
  split
  · next running =>
    have states (r : Session × List Event) :
        s.queue.foldl (fun s m => (s.consume m).1) r.1 =
          (s.queue.foldl (fun r m => ((r.1.consume m).1, r.2 ++ (r.1.consume m).2)) r).1 :=
      List.foldl_hom Prod.fst fun _ _ => rfl
    have consumed := internal_foldl_consume s running s.queue
    rw [states ({ s with queue := [] }, [])] at consumed
    exact consumed
  · exact .refl

/-- So is what follows when a fetch or a timer ends. -/
theorem internal_resolve? {place : Nat} {p : Pending} {o : Http.Outcome}
    {r : Session × List Event} (pending : s.pending[place]? = some p) (other : p.isEdit = false)
    (resolved : s.resolve? place o = some r) : Relation.ReflTransGen Internal s r.1 := by
  simp only [resolve?, pending, Option.some.injEq] at resolved
  rw [← resolved]
  exact .head (.finish o pending other) (internal_drain _)

end Karaoke.Session
