/-!
# Cutting a text

The parts of a text before and after a separator.
-/

set_option autoImplicit false

namespace Karaoke.Text

/-- The parts of a text before and after its first separator. -/
def cut? (sep : Char) : List Char → Option (List Char × List Char)
  | [] => none
  | c :: cs => if c = sep then some ([], cs) else (cut? sep cs).map (fun p => (c :: p.1, p.2))

theorem cut?_eq_none_iff {sep : Char} {cs : List Char} : cut? sep cs = none ↔ sep ∉ cs := by
  induction cs with
  | nil => simp [cut?]
  | cons c cs ih =>
    by_cases h : c = sep
    · simp [cut?, h]
    · simp [cut?, h, ih, Ne.symm h]

theorem cut?_append {sep : Char} {k v : List Char} (h : sep ∉ k) :
    cut? sep (k ++ sep :: v) = some (k, v) := by
  induction k with
  | nil => simp [cut?]
  | cons c cs ih =>
    simp only [List.mem_cons, not_or] at h
    simp [cut?, Ne.symm h.1, ih h.2]

theorem eq_of_cut? {sep : Char} {cs k v : List Char} (h : cut? sep cs = some (k, v)) :
    cs = k ++ sep :: v ∧ sep ∉ k := by
  induction cs generalizing k with
  | nil => simp [cut?] at h
  | cons c cs ih =>
    by_cases hc : c = sep
    · simp only [cut?, hc, if_true, Option.some.injEq, Prod.mk.injEq] at h
      obtain ⟨rfl, rfl⟩ := h
      simp [hc]
    · simp only [cut?, hc, if_false, Option.map_eq_some_iff, Prod.mk.injEq] at h
      obtain ⟨⟨k', v'⟩, h', rfl, rfl⟩ := h
      obtain ⟨e, hk⟩ := ih h'
      exact ⟨by simp [e], by simp [hk, Ne.symm hc]⟩

/-- The parts of a text before and after its first separator; all of it comes before one that is
not there. -/
def cut (sep : Char) (cs : List Char) : List Char × Option (List Char) :=
  match cut? sep cs with
  | some (before, after) => (before, some after)
  | none => (cs, none)

/-- The parts of a text before and after its last separator. -/
def cutLast? (sep : Char) (cs : List Char) : Option (List Char × List Char) :=
  (cut? sep cs.reverse).map (fun p => (p.2.reverse, p.1.reverse))

end Karaoke.Text
