import Karaoke.Catalog.Client
import Karaoke.Proofs.Http.Percent
import Mathlib.Data.List.Forall2

/-!
# Paths of lists and entries

A name is one segment of a path, whatever it holds: its slashes are escaped with all else that is
not unreserved, so that a path falls apart into the segments that it was made of, and each of them
is read back as its name. A path therefore belongs to one list or to one entry.
-/

set_option autoImplicit false

namespace Karaoke.Catalog

open Http (Percent.decode? Percent.encode Percent.Escaped Percent.isUnreserved)

/-- The segments below which all lists are. -/
def listRoot : List (List Char) :=
  [[], "api".toList, "custom".toList, "list".toList]

/-- Whether a path identifies some names: below the lists it has one segment for each of them, which
is read back as the name, and it has no character but slashes, unreserved ones and escapes. -/
structure Identifies (path : String) (names : List String) : Prop where
  segments : ∃ xs, path.toList.splitOn '/' = listRoot ++ xs ∧
    List.Forall₂ (fun x name => Percent.decode? x = some (.ofString name)) xs names
  escaped : Percent.Escaped (fun c => Percent.isUnreserved c || c == '/') path.toList

theorem decode?_rightUnique :
    Relator.RightUnique fun (x : List Char) name => Percent.decode? x = some (.ofString name) := by
  intro x name name' first second
  rw [first, Option.some.injEq, Text.Wide.ofString_inj] at second
  exact second

theorem Identifies.unique {path : String} {names names' : List String}
    (first : Identifies path names) (second : Identifies path names') : names = names' := by
  obtain ⟨xs, split, read⟩ := first.segments
  obtain ⟨ys, split', read'⟩ := second.segments
  obtain rfl : xs = ys := List.append_cancel_left (split.symm.trans split')
  exact decode?_rightUnique.forall₂ read read'

/-- The segments for some names below the lists. -/
def segmentsFor (names : List String) : List (List Char) :=
  listRoot ++ names.map fun name => Percent.encode name.toList

theorem slash_notMem_encode (cs : List Char) : '/' ∉ Percent.encode cs := by
  intro mem
  rcases Http.Percent.all_encode cs _ mem with kept | percent
  · exact absurd kept (by decide)
  · exact absurd percent (by decide)

theorem slash_notMem_segmentsFor {names : List String} :
    ∀ segment ∈ segmentsFor names, '/' ∉ segment := by
  have root : ∀ segment ∈ listRoot, '/' ∉ segment := by decide
  rw [segmentsFor, List.forall_mem_append, List.forall_mem_map]
  exact ⟨root, fun name _ => slash_notMem_encode name.toList⟩

theorem splitOn_path {path : String} {names : List String}
    (made : path.toList = ['/'].intercalate (segmentsFor names)) :
    path.toList.splitOn '/' = segmentsFor names := by
  rw [made]
  exact List.splitOn_intercalate '/' slash_notMem_segmentsFor (by simp [segmentsFor, listRoot])

theorem toList_listPath (name : String) :
    (listPath name).toList = ['/'].intercalate (segmentsFor [name]) := by
  simp [listPath, listTemplate, Template.fill, String.join, segment, segmentsFor, listRoot]

theorem toList_entryPath (name hash : String) :
    (entryPath name hash).toList = ['/'].intercalate (segmentsFor [name, hash]) := by
  simp [entryPath, entryTemplate, Template.fill, String.join, segment, segmentsFor, listRoot]

theorem identifies {path : String} {names : List String}
    (made : path.toList = ['/'].intercalate (segmentsFor names)) : Identifies path names where
  segments := by
    refine ⟨_, splitOn_path made, ?_⟩
    rw [List.forall₂_map_left_iff, List.forall₂_same]
    exact fun name _ => Http.Percent.decode?_encode name.toList
  escaped := by
    have root : ∀ segment ∈ listRoot,
        segment.all (fun c => Percent.isUnreserved c || c == '/') = true := by
      decide
    rw [made]
    refine .intercalate rfl ?_
    rw [segmentsFor, List.forall_mem_append, List.forall_mem_map]
    constructor
    · exact fun segment mem => .of_all (List.all_eq_true.mp (root segment mem))
    · intro name _
      exact (Http.Percent.escaped_encode name.toList).mono fun c kept => by simp [kept]

/-- Every path of a list or of an entry identifies the names that it was made for, and paths of
lists or of entries are the same for the same names only. -/
theorem paths_unambiguous :
    (∀ e : Edit, Identifies e.path [e.name, e.hash]) ∧
    (∀ name, Identifies (Resource.list name).path [name]) ∧
    (∀ e f : Edit, e.path = f.path ↔ e.name = f.name ∧ e.hash = f.hash) ∧
    ∀ name name', (Resource.list name).path = (Resource.list name').path ↔ name = name' := by
  have entries (e : Edit) : Identifies e.path [e.name, e.hash] :=
    identifies (toList_entryPath e.name e.hash)
  have lists (name : String) : Identifies (Resource.list name).path [name] :=
    identifies (toList_listPath name)
  refine ⟨entries, lists, fun e f => ⟨fun same => ?_, ?_⟩, fun name name' => ⟨fun same => ?_, ?_⟩⟩
  · have names : [e.name, e.hash] = [f.name, f.hash] := (entries e).unique (same ▸ entries f)
    simpa using names
  · rintro ⟨name, hash⟩
    rw [Edit.path, Edit.path, name, hash]
  · have names : [name] = [name'] := (lists name).unique (same ▸ lists name')
    simpa using names
  · rintro rfl
    rfl

example : entryPath "AC/DC" "50%" = "/api/custom/list/AC%2FDC/50%25" := by decide +kernel

end Karaoke.Catalog
