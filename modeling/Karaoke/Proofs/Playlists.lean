import Karaoke.Playlists

/-!
# The load of a list after each operation

Every operation concerns the load of a single list and leaves those of the others alone.
-/

set_option autoImplicit false

namespace Karaoke.Playlists

variable (p : Playlists) (name other : String)

theorem load_of_not_knows {p : Playlists} {name : String} (h : p.knows name = false) :
    p.load name = .notLoaded := by
  simp only [knows, NameMap.contains, Option.isSome_eq_false_iff, Option.isNone_iff_eq_none] at h
  simp [load, h]

@[simp] theorem load_resolve (members : NameSet) :
    (p.resolve name members).load other =
      if other = name then .loaded members else p.load other :=
  load_setLoad p name other (.loaded members)

@[simp] theorem load_fail :
    (p.fail name).load other = if other = name then .notLoaded else p.load other :=
  load_setLoad p name other .notLoaded

/-- A list that is not known counts as not loaded before it changes and after. -/
@[simp] theorem load_invalidate :
    (p.invalidate name).load other = if other = name then .notLoaded else p.load other := by
  unfold invalidate
  split
  case isTrue => exact load_setLoad p name other .notLoaded
  case isFalse h =>
    split
    · next e => rw [e, load_of_not_knows (Bool.eq_false_iff.mpr h)]
    · rfl

theorem request_eq : p.request name =
    if p.load name = .notLoaded then (true, p.setLoad name .inProgress) else (false, p) := by
  unfold request
  cases p.load name <;> rfl

theorem request_fst : (p.request name).1 = decide (p.load name = .notLoaded) := by
  rw [request_eq]
  split
  · next missing => exact (decide_eq_true missing).symm
  · next present => exact (decide_eq_false present).symm

theorem load_request :
    (p.request name).2.load other =
      if other = name ∧ p.load name = .notLoaded then .inProgress else p.load other := by
  rw [request_eq]
  split <;> simp_all

theorem members?_eq_some_iff {p : Playlists} {name : String} {members : NameSet} :
    p.members? name = some members ↔ p.load name = .loaded members := by
  unfold members?
  cases p.load name <;> simp

/-- The members of a list depend on its load only as far as it is loaded. -/
theorem members?_congr {p p' : Playlists} {name : String}
    (h : ∀ members, p.load name = .loaded members ↔ p'.load name = .loaded members) :
    p.members? name = p'.members? name := by
  ext members
  exact members?_eq_some_iff.trans ((h members).trans members?_eq_some_iff.symm)

/-! ## Operations in any order -/

theorem ext_get? {p p' : Playlists} (h : ∀ a, p.loads.get? a = p'.loads.get? a) : p = p' := by
  cases p
  cases p'
  exact congrArg mk (NameMap.ext_get? h)

theorem get?_setLoad (l : Load) :
    (p.setLoad name l).loads.get? other = if other = name then some l else p.loads.get? other :=
  NameMap.get?_set p.loads name other l

theorem get?_register (names : List String) :
    (p.register names).loads.get? other =
      (p.loads.get? other).or (if other ∈ names then some .notLoaded else none) := by
  induction names generalizing p with
  | nil => simp [register]
  | cons a names ih =>
    have known : (p.registerName a).loads.get? other =
        (p.loads.get? other).or (if other = a then some .notLoaded else none) := by
      unfold registerName
      by_cases same : other = a
      · subst same
        cases value : p.loads.get? other <;>
          simp [knows, NameMap.contains, get?_setLoad, value]
      · split <;> simp [get?_setLoad, same]
    have first : p.register (a :: names) = (p.registerName a).register names := rfl
    rw [first, ih, known]
    by_cases same : other = a <;> cases p.loads.get? other <;> simp [same]

variable {name other} in
theorem setLoad_comm (apart : name ≠ other) (l l' : Load) :
    (p.setLoad name l).setLoad other l' = (p.setLoad other l').setLoad name l := by
  apply ext_get?
  intro a
  simp only [get?_setLoad]
  by_cases hn : a = name
  · subst hn
    simp [apart]
  · simp [hn]

theorem register_setLoad (names : List String) (l : Load) :
    (p.setLoad name l).register names = (p.register names).setLoad name l := by
  apply ext_get?
  intro a
  simp only [get?_setLoad, get?_register]
  split <;> rfl

theorem register_comm (names names' : List String) :
    (p.register names).register names' = (p.register names').register names := by
  apply ext_get?
  intro a
  simp only [get?_register, Option.or_assoc]
  congr 1
  split <;> split <;> rfl

end Karaoke.Playlists
