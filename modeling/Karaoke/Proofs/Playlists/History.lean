import Karaoke.Proofs.Playlists
import Mathlib.Data.List.Induction

/-!
# What operations leave of a list

Playlists after any sequence of operations. An operation changes the entry of a list by a rule that
reads nothing but that entry, and leaves it alone if it does not mention the list. So the entry
follows from the operations that mention the list, and its members from the last of them that
brings or drops any.
-/

set_option autoImplicit false

namespace Karaoke.Playlists

inductive Operation where
  | register (names : List String)
  | request (name : String)
  | resolve (name : String) (hashes : List String)
  | fail (name : String)
  | invalidate (name : String)
  /-- Looks a list up: whether it is known, its load, its members. -/
  | look (name : String)
  /-- Looks up which lists are known. -/
  | lookAll
  deriving DecidableEq, Repr

namespace Operation

def mentions (name : String) : Operation → Bool
  | register names => name ∈ names
  | request other | resolve other _ | fail other | invalidate other | look other => name = other
  | lookAll => false

/-- Whether an operation brings the members of a list or drops them. -/
def settles (name : String) : Operation → Bool
  | resolve other _ | fail other | invalidate other => name = other
  | register _ | request _ | look _ | lookAll => false

/-- The members that an operation brings. -/
def brought? : Operation → Option NameSet
  | resolve _ hashes => some (.ofList hashes)
  | _ => none

/-- The entry of a list after an operation, from the one before it. -/
def entry (name : String) (e : Option Load) : Operation → Option Load
  | register names => e.or (if name ∈ names then some .notLoaded else none)
  | request other => if name = other ∧ e.getD .notLoaded = .notLoaded then some .inProgress else e
  | resolve other hashes => if name = other then some (.loaded (.ofList hashes)) else e
  | fail other => if name = other then some .notLoaded else e
  | invalidate other => if name = other then e.map fun _ => .notLoaded else e
  | look _ | lookAll => e

end Operation

def step (p : Playlists) : Operation → Playlists
  | .register names => p.register names
  | .request name => (p.request name).2
  | .resolve name hashes => p.resolve name (.ofList hashes)
  | .fail name => p.fail name
  | .invalidate name => p.invalidate name
  | .look _ | .lookAll => p

/-- New playlists after some operations. -/
def run (ops : List Operation) : Playlists :=
  ops.foldl step {}

/-- What a request for a list says of it, if an operation is one. -/
def answer? (p : Playlists) (name : String) : Operation → Option Bool
  | .request other => if name = other then some (p.request other).1 else none
  | _ => none

/-- What the requests for a list say, in order. -/
def answers (name : String) (p : Playlists) : List Operation → List Bool
  | [] => []
  | op :: ops => (p.answer? name op).toList ++ answers name (p.step op) ops

/-- The operations that mention a list. -/
def about (name : String) (ops : List Operation) : List Operation :=
  ops.filter (·.mentions name)

variable {p p' : Playlists} {name : String} {op : Operation} {ops : List Operation}

/-! ## One operation -/

theorem knows_eq_isSome (p : Playlists) (name : String) :
    p.knows name = (p.loads.get? name).isSome :=
  rfl

theorem get?_invalidate (p : Playlists) (name other : String) :
    (p.invalidate name).loads.get? other =
      if other = name then (p.loads.get? other).map fun _ => .notLoaded
      else p.loads.get? other := by
  unfold invalidate
  split
  case isTrue known =>
    rw [get?_setLoad]
    split
    · next same =>
      subst same
      obtain ⟨l, found⟩ := Option.isSome_iff_exists.mp known
      rw [found, Option.map_some]
    · rfl
  case isFalse unknown =>
    split
    · next same =>
      subst same
      have missing : p.loads.get? other = none := by
        simpa [knows, NameMap.contains] using unknown
      rw [missing, Option.map_none]
    · rfl

theorem get?_step (p : Playlists) (op : Operation) (name : String) :
    (p.step op).loads.get? name = op.entry name (p.loads.get? name) := by
  cases op with
  | register names => exact get?_register p name names
  | request other =>
    have wanted : p.load other = (p.loads.get? other).getD .notLoaded := rfl
    simp only [step, request_eq, Operation.entry]
    by_cases same : name = other
    · subst same
      rw [← wanted]
      by_cases missing : p.load name = .notLoaded
      · simp [missing, get?_setLoad]
      · simp [missing]
    · split <;> simp [same, get?_setLoad]
  | resolve other hashes => exact get?_setLoad p other name _
  | fail other => exact get?_setLoad p other name _
  | invalidate other => exact get?_invalidate p other name
  | look _ | lookAll => rfl

theorem get?_step_of_not_mentions (silent : op.mentions name = false) :
    (p.step op).loads.get? name = p.loads.get? name := by
  rw [get?_step]
  cases op <;> simp_all [Operation.mentions, Operation.entry]

theorem get?_step_congr (same : p.loads.get? name = p'.loads.get? name) (op : Operation) :
    (p.step op).loads.get? name = (p'.step op).loads.get? name := by
  rw [get?_step, get?_step, same]

theorem load_eq_getD (p : Playlists) (name : String) :
    p.load name = (p.loads.get? name).getD .notLoaded :=
  rfl

theorem load_congr (same : p.loads.get? name = p'.loads.get? name) :
    p.load name = p'.load name := by
  rw [load_eq_getD, load_eq_getD, same]

theorem answer?_congr (same : p.loads.get? name = p'.loads.get? name) (op : Operation) :
    p.answer? name op = p'.answer? name op := by
  cases op with
  | request other =>
    by_cases this : name = other
    · subst this
      simp only [answer?, request_fst, load_congr same]
    · simp only [answer?, if_neg this]
  | _ => rfl

theorem answer?_of_not_mentions (silent : op.mentions name = false) :
    p.answer? name op = none := by
  cases op <;> simp_all [Operation.mentions, answer?]

/-! ## The operations that mention a list -/

theorem get?_foldl_about (same : p.loads.get? name = p'.loads.get? name) (ops : List Operation) :
    (ops.foldl step p).loads.get? name = ((about name ops).foldl step p').loads.get? name := by
  induction ops generalizing p p' with
  | nil => exact same
  | cons op ops ih =>
    cases mentioned : op.mentions name with
    | true =>
      rw [about, List.filter_cons_of_pos mentioned]
      exact ih (get?_step_congr same op)
    | false =>
      rw [about, List.filter_cons_of_neg (by simp [mentioned])]
      exact ih ((get?_step_of_not_mentions mentioned).trans same)

theorem answers_about (same : p.loads.get? name = p'.loads.get? name) (ops : List Operation) :
    answers name p ops = answers name p' (about name ops) := by
  induction ops generalizing p p' with
  | nil => rfl
  | cons op ops ih =>
    cases mentioned : op.mentions name with
    | true =>
      rw [about, List.filter_cons_of_pos mentioned, answers, answers, answer?_congr same op,
        ih (get?_step_congr same op), about]
    | false =>
      rw [about, List.filter_cons_of_neg (by simp [mentioned]), answers,
        answer?_of_not_mentions mentioned, ih ((get?_step_of_not_mentions mentioned).trans same)]
      rfl

theorem get?_run_about (name : String) (ops : List Operation) :
    (run ops).loads.get? name = (run (about name ops)).loads.get? name :=
  get?_foldl_about rfl ops

/-! ## Members -/

theorem run_append (ops more : List Operation) : run (ops ++ more) = more.foldl step (run ops) :=
  List.foldl_append

theorem run_concat (ops : List Operation) (op : Operation) :
    run (ops ++ [op]) = (run ops).step op :=
  run_append ops [op]

theorem members?_step (p : Playlists) (op : Operation) (name : String) :
    (p.step op).members? name = if op.settles name then op.brought? else p.members? name := by
  ext members
  rw [members?_eq_some_iff, load_eq_getD, get?_step]
  have before : p.members? name = some members ↔
      (p.loads.get? name).getD .notLoaded = .loaded members :=
    members?_eq_some_iff
  cases op with
  | register names =>
    rw [Operation.settles, if_neg Bool.false_ne_true, before, Operation.entry]
    cases p.loads.get? name with
    | none => by_cases mem : name ∈ names <;> simp [mem]
    | some l => rfl
  | request other =>
    rw [Operation.settles, if_neg Bool.false_ne_true, before, Operation.entry]
    split
    · next wanted =>
      rw [wanted.2]
      simp
    · rfl
  | resolve other hashes | fail other =>
    by_cases same : name = other <;>
      simp [Operation.entry, Operation.settles, Operation.brought?, same, ← before]
  | invalidate other =>
    by_cases same : name = other
    · cases p.loads.get? name <;>
        simp [Operation.entry, Operation.settles, Operation.brought?, same]
    · simp [Operation.entry, Operation.settles, same, ← before]
  | look _ | lookAll => exact before.symm

/-- The members of a list are what the last operation that settles them brings. -/
theorem members?_run (name : String) (ops : List Operation) :
    (run ops).members? name =
      (ops.reverse.find? (·.settles name)).bind Operation.brought? := by
  induction ops using List.reverseRecOn with
  | nil => rfl
  | append_singleton ops op ih =>
    rw [run_concat, members?_step, List.reverse_concat, List.find?_cons]
    cases op.settles name with
    | true => rfl
    | false => exact ih

theorem settles_iff : op.settles name = true ↔
    (∃ hashes, op = .resolve name hashes) ∨ op = .fail name ∨ op = .invalidate name := by
  cases op <;> simp [Operation.settles, eq_comm]

theorem members?_run_eq_some_iff {members : NameSet} :
    (run ops).members? name = some members ↔
      ∃ before hashes after, ops = before ++ .resolve name hashes :: after ∧
        (∀ op ∈ after, op.settles name = false) ∧ members = .ofList hashes := by
  rw [members?_run, Option.bind_eq_some_iff]
  constructor
  · rintro ⟨op, last, brought⟩
    obtain ⟨settles, after, before, reversed, later⟩ := List.find?_eq_some_iff_append.mp last
    rcases settles_iff.mp settles with ⟨hashes, rfl⟩ | rfl | rfl
    · refine ⟨before.reverse, hashes, after.reverse, ?_, ?_, (Option.some.inj brought).symm⟩
      · simpa using congrArg List.reverse reversed
      · intro op mem
        simpa using later op (List.mem_reverse.mp mem)
    · cases brought
    · cases brought
  · rintro ⟨before, hashes, after, rfl, later, rfl⟩
    refine ⟨.resolve name hashes, List.find?_eq_some_iff_append.mpr ⟨?_, ?_⟩, rfl⟩
    · exact settles_iff.mpr (.inl ⟨hashes, rfl⟩)
    · refine ⟨after.reverse, before.reverse, by simp, ?_⟩
      intro op mem
      simp [later op (List.mem_reverse.mp mem)]

theorem forall_not_settles_iff : (∀ op ∈ ops, op.settles name = false) ↔
    (∀ hashes, .resolve name hashes ∉ ops) ∧ .fail name ∉ ops ∧ .invalidate name ∉ ops := by
  constructor
  · intro unsettled
    refine ⟨fun hashes mem => ?_, fun mem => ?_, fun mem => ?_⟩
    · exact absurd (settles_iff.mpr (.inl ⟨hashes, rfl⟩)) (Bool.eq_false_iff.mp (unsettled _ mem))
    · exact absurd (settles_iff.mpr (.inr (.inl rfl))) (Bool.eq_false_iff.mp (unsettled _ mem))
    · exact absurd (settles_iff.mpr (.inr (.inr rfl))) (Bool.eq_false_iff.mp (unsettled _ mem))
  · rintro ⟨resolves, fails, invalidates⟩ op mem
    refine Bool.eq_false_iff.mpr fun settles => ?_
    rcases settles_iff.mp settles with ⟨hashes, rfl⟩ | rfl | rfl
    · exact resolves hashes mem
    · exact fails mem
    · exact invalidates mem

/-! ## Requests -/

theorem load_step_ne_notLoaded (wanted : p.load name ≠ .notLoaded) (kept : op ≠ .fail name)
    (unchanged : op ≠ .invalidate name) : (p.step op).load name ≠ .notLoaded := by
  obtain ⟨l, known⟩ : ∃ l, p.loads.get? name = some l := by
    cases entry : p.loads.get? name with
    | none => simp [load_eq_getD, entry] at wanted
    | some l => exact ⟨l, rfl⟩
  rw [load_eq_getD, known, Option.getD_some] at wanted
  rw [load_eq_getD, get?_step, known]
  cases op with
  | register names => exact wanted
  | request other => simp [Operation.entry, wanted]
  | resolve other hashes => by_cases same : name = other <;> simp [Operation.entry, same, wanted]
  | fail other =>
    have same : name ≠ other := fun same => kept (same ▸ rfl)
    simpa [Operation.entry, same] using wanted
  | invalidate other =>
    have same : name ≠ other := fun same => unchanged (same ▸ rfl)
    simpa [Operation.entry, same] using wanted
  | look _ | lookAll => exact wanted

theorem load_foldl_ne_notLoaded (wanted : p.load name ≠ .notLoaded) (kept : .fail name ∉ ops)
    (unchanged : .invalidate name ∉ ops) : (ops.foldl step p).load name ≠ .notLoaded := by
  induction ops generalizing p with
  | nil => exact wanted
  | cons op ops ih =>
    rw [List.mem_cons, not_or] at kept unchanged
    exact ih (load_step_ne_notLoaded wanted (Ne.symm kept.1) (Ne.symm unchanged.1)) kept.2
      unchanged.2

/-- After a request a list is not without a load, whatever the request said. -/
theorem load_step_request_ne_notLoaded (p : Playlists) (name : String) :
    (p.step (.request name)).load name ≠ .notLoaded := by
  have after : (p.step (.request name)).load name =
      if name = name ∧ p.load name = .notLoaded then .inProgress else p.load name :=
    load_request p name name
  rw [after]
  split
  · exact Load.noConfusion
  · next present => exact fun missing => present ⟨rfl, missing⟩

theorem fail_or_invalidate_mem {before between : List Operation}
    (again : ((run (before ++ .request name :: between)).request name).1 = true) :
    .fail name ∈ between ∨ .invalidate name ∈ between := by
  rw [request_fst, decide_eq_true_iff, run_append, List.foldl_cons] at again
  by_contra neither
  rw [not_or] at neither
  exact load_foldl_ne_notLoaded (load_step_request_ne_notLoaded _ name) neither.1 neither.2 again

/-! ## Known names -/

theorem knows_step (known : p.knows name = true) (op : Operation) :
    (p.step op).knows name = true := by
  obtain ⟨l, entry⟩ := Option.isSome_iff_exists.mp known
  rw [knows_eq_isSome, get?_step, entry]
  cases op <;> simp only [Operation.entry] <;> (try split) <;> rfl

theorem knows_foldl (known : p.knows name = true) (ops : List Operation) :
    (ops.foldl step p).knows name = true := by
  induction ops generalizing p with
  | nil => exact known
  | cons op ops ih => exact ih (knows_step known op)

/-! ## Histories -/

/-- What is known of a list depends only on the operations that mention it. It has members exactly
if the last resolution comes after every failure and invalidation, and then those that it brought;
a request after another is granted only if the list fails or is invalidated in between; and a list
stays known from the first time on. -/
theorem known_by_history (name : String) (ops : List Operation) :
    ((run ops).load name = (run (about name ops)).load name ∧
      (run ops).members? name = (run (about name ops)).members? name ∧
      (run ops).knows name = (run (about name ops)).knows name ∧
      answers name {} ops = answers name {} (about name ops)) ∧
    (∀ members, (run ops).members? name = some members ↔
      ∃ before hashes after, about name ops = before ++ .resolve name hashes :: after ∧
        ((∀ later, .resolve name later ∉ after) ∧ .fail name ∉ after ∧
          .invalidate name ∉ after) ∧
        ∀ hash, hash ∈ members ↔ hash ∈ hashes) ∧
    (∀ before between after,
      about name ops = before ++ .request name :: (between ++ .request name :: after) →
      ((run (before ++ .request name :: between)).request name).1 = true →
      .fail name ∈ between ∨ .invalidate name ∈ between) ∧
    ∀ before after, ops = before ++ after →
      (run before).knows name = true → (run ops).knows name = true := by
  have entry := get?_run_about name ops
  have load := load_congr entry
  have members : (run ops).members? name = (run (about name ops)).members? name :=
    members?_congr fun _ => by rw [load]
  have knows : (run ops).knows name = (run (about name ops)).knows name :=
    congrArg Option.isSome entry
  refine ⟨⟨load, members, knows, answers_about rfl ops⟩, ?_, ?_, ?_⟩
  · intro found
    rw [members, members?_run_eq_some_iff]
    simp only [forall_not_settles_iff, NameSet.eq_ofList_iff]
  · intro before between after _ again
    exact fail_or_invalidate_mem again
  · rintro before after rfl known
    rw [run_append]
    exact knows_foldl known after

end Karaoke.Playlists
