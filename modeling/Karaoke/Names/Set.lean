/-!
# Sets of names

A set is kept as the strictly ascending list of its members, so two sets with the same members
are equal.
-/

set_option autoImplicit false

namespace Karaoke

structure NameSet where
  toList : List String
  ascending : toList.Pairwise (· < ·) := by exact List.Pairwise.nil
  deriving DecidableEq, Repr

namespace NameSet

instance : Inhabited NameSet := ⟨{ toList := [] }⟩

instance : Membership String NameSet := ⟨fun s a => a ∈ s.toList⟩

instance (a : String) (s : NameSet) : Decidable (a ∈ s) :=
  inferInstanceAs (Decidable (a ∈ s.toList))

/-- A name in its place in an ascending list. -/
def place (a : String) : List String → List String
  | [] => [a]
  | b :: l => if a < b then a :: b :: l else if a = b then b :: l else b :: place a l

@[simp] theorem mem_place {a c : String} {l : List String} : c ∈ place a l ↔ c = a ∨ c ∈ l := by
  induction l with
  | nil => simp [place]
  | cons b l ih =>
    unfold place
    split
    · simp
    · split
      · next h => subst h; simp
      · simp only [List.mem_cons, ih]
        exact or_left_comm

theorem ascending_place (a : String) {l : List String} (h : l.Pairwise (· < ·)) :
    (place a l).Pairwise (· < ·) := by
  induction l with
  | nil => simp [place]
  | cons b l ih =>
    have hb := (List.pairwise_cons.mp h).1
    have hl := (List.pairwise_cons.mp h).2
    unfold place
    split
    case isTrue hab =>
      refine List.pairwise_cons.mpr ⟨fun c hc => ?_, h⟩
      rcases List.mem_cons.mp hc with rfl | hc
      · exact hab
      · exact String.lt_trans hab (hb c hc)
    case isFalse hab =>
      split
      case isTrue => exact h
      case isFalse hne =>
        refine List.pairwise_cons.mpr ⟨fun c hc => ?_, ih hl⟩
        rcases mem_place.mp hc with rfl | hc
        · exact Std.lt_of_le_of_ne (Std.not_lt.mp hab) (Ne.symm hne)
        · exact hb c hc

def insert (a : String) (s : NameSet) : NameSet :=
  ⟨place a s.toList, ascending_place a s.ascending⟩

@[simp] theorem mem_insert {a c : String} {s : NameSet} : c ∈ s.insert a ↔ c = a ∨ c ∈ s :=
  mem_place

/-- Two sets with the same members are equal. -/
theorem ext_mem {s t : NameSet} (h : ∀ a, a ∈ s ↔ a ∈ t) : s = t := by
  have distinct {l : List String} (hl : l.Pairwise (· < ·)) : l.Nodup :=
    hl.imp (@fun _ _ h => by rintro rfl; exact String.lt_irrefl _ h)
  have perm : s.toList.Perm t.toList :=
    (List.perm_ext_iff_of_nodup (distinct s.ascending) (distinct t.ascending)).mpr h
  have same : s.toList = t.toList :=
    List.Perm.eq_of_pairwise
      (fun _ _ _ _ hab hba => absurd (String.lt_trans hab hba) (String.lt_irrefl _))
      s.ascending t.ascending perm
  cases s; cases t; cases same; rfl

def ofList (l : List String) : NameSet :=
  l.foldr insert default

@[simp] theorem mem_ofList {a : String} {l : List String} : a ∈ ofList l ↔ a ∈ l := by
  induction l with
  | nil => exact iff_of_false List.not_mem_nil List.not_mem_nil
  | cons b l ih => simp only [ofList, List.foldr_cons] at ih ⊢; simp [ih]

theorem eq_ofList_iff {s : NameSet} {l : List String} : s = ofList l ↔ ∀ a, a ∈ s ↔ a ∈ l := by
  constructor
  · rintro rfl a
    exact mem_ofList
  · intro same
    exact ext_mem fun a => (same a).trans mem_ofList.symm

end NameSet

end Karaoke
