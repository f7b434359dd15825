import Karaoke.Names.Set
import Karaoke.Names.Map

/-!
# Playlists

Named sets of song hashes that are fetched when they are first wanted. A name may be known without
its members. A fetch is only asked for when a list is not loaded, and from then on the list is in
progress, so that asking again while the fetch is under way starts no other.
-/

set_option autoImplicit false

namespace Karaoke

/-- How far the members of a list have been fetched. -/
inductive Load where
  | notLoaded
  | inProgress
  | loaded (members : NameSet)
  deriving DecidableEq, Repr, Inhabited

/-- The load of every known list. -/
structure Playlists where
  loads : NameMap Load := default
  deriving Inhabited

namespace Playlists

/-- The load of a list; one that is not known is not loaded. -/
def load (p : Playlists) (name : String) : Load :=
  (p.loads.get? name).getD .notLoaded

def knows (p : Playlists) (name : String) : Bool :=
  p.loads.contains name

/-- The members of a loaded list. -/
def members? (p : Playlists) (name : String) : Option NameSet :=
  match p.load name with
  | .loaded members => some members
  | _ => none

def setLoad (p : Playlists) (name : String) (l : Load) : Playlists :=
  ⟨p.loads.set name l⟩

@[simp] theorem load_setLoad (p : Playlists) (name other : String) (l : Load) :
    (p.setLoad name l).load other = if other = name then l else p.load other := by
  simp only [load, setLoad, NameMap.get?_set]
  split <;> rfl

/-- Makes a name known; a list that is known keeps its load. -/
def registerName (p : Playlists) (name : String) : Playlists :=
  if p.knows name then p else p.setLoad name .notLoaded

def register (p : Playlists) (names : List String) : Playlists :=
  names.foldl registerName p

@[simp] theorem load_registerName (p : Playlists) (name other : String) :
    (p.registerName name).load other = p.load other := by
  unfold registerName
  split
  · rfl
  · next h =>
    rw [load_setLoad]
    split
    · next e =>
      subst e
      simp only [knows, NameMap.contains, Bool.not_eq_true, Option.isSome_eq_false_iff,
        Option.isNone_iff_eq_none] at h
      simp [load, h]
    · rfl

@[simp] theorem load_register (p : Playlists) (names : List String) (other : String) :
    (p.register names).load other = p.load other := by
  induction names generalizing p with
  | nil => rfl
  | cons a l ih => exact (ih (p.registerName a)).trans (load_registerName p a other)

/-- Asks for the members of a list: whether a fetch has to be started, and the lists after it. -/
def request (p : Playlists) (name : String) : Bool × Playlists :=
  match p.load name with
  | .notLoaded => (true, p.setLoad name .inProgress)
  | _ => (false, p)

/-- The members of a list have arrived. -/
def resolve (p : Playlists) (name : String) (members : NameSet) : Playlists :=
  p.setLoad name (.loaded members)

/-- A fetch has failed: the next request starts another. -/
def fail (p : Playlists) (name : String) : Playlists :=
  p.setLoad name .notLoaded

/-- A list has changed on the server: what is known of its members is dropped. -/
def invalidate (p : Playlists) (name : String) : Playlists :=
  if p.knows name then p.setLoad name .notLoaded else p

end Playlists

end Karaoke
