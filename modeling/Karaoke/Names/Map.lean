/-!
# Maps from names

A map is kept as the list of its entries with strictly ascending names, so two maps that agree on
every name are equal.
-/

set_option autoImplicit false

namespace Karaoke

structure NameMap (α : Type) where
  entries : List (String × α)
  ascending : entries.Pairwise (·.1 < ·.1) := by exact List.Pairwise.nil
  deriving Repr

namespace NameMap

variable {α : Type}

instance : Inhabited (NameMap α) := ⟨{ entries := [] }⟩

/-- The value at a name, if the name is known. -/
def get? (m : NameMap α) (a : String) : Option α :=
  m.entries.lookup a

def contains (m : NameMap α) (a : String) : Bool :=
  (m.get? a).isSome

/-- The known names, in order. -/
def names (m : NameMap α) : List String :=
  m.entries.map (·.1)

/-- An entry in its place among ascending ones; it replaces one of the same name. -/
def place (a : String) (x : α) : List (String × α) → List (String × α)
  | [] => [(a, x)]
  | (b, y) :: l =>
    if a < b then (a, x) :: (b, y) :: l
    else if a = b then (a, x) :: l
    else (b, y) :: place a x l

theorem fst_of_mem_place {a : String} {x : α} {e : String × α} {l : List (String × α)}
    (h : e ∈ place a x l) : e.1 = a ∨ e ∈ l := by
  induction l with
  | nil => simp_all [place]
  | cons d l ih =>
    obtain ⟨b, y⟩ := d
    unfold place at h
    split at h
    · exact (List.mem_cons.mp h).imp (fun e => by rw [e]) id
    · split at h
      · exact (List.mem_cons.mp h).imp (fun e => by rw [e]) (List.mem_cons_of_mem _)
      · rcases List.mem_cons.mp h with h | h
        · exact Or.inr (h ▸ List.mem_cons_self)
        · exact (ih h).imp_right (List.mem_cons_of_mem _)

theorem ascending_place (a : String) (x : α) {l : List (String × α)}
    (h : l.Pairwise (·.1 < ·.1)) : (place a x l).Pairwise (·.1 < ·.1) := by
  induction l with
  | nil => simp [place]
  | cons d l ih =>
    obtain ⟨b, y⟩ := d
    obtain ⟨hb, hl⟩ := List.pairwise_cons.mp h
    unfold place
    split
    case isTrue hab =>
      refine List.pairwise_cons.mpr ⟨fun e he => ?_, h⟩
      rcases List.mem_cons.mp he with rfl | he
      · exact hab
      · exact String.lt_trans hab (hb e he)
    case isFalse hab =>
      split
      case isTrue e => subst e; exact List.pairwise_cons.mpr ⟨hb, hl⟩
      case isFalse hne =>
        refine List.pairwise_cons.mpr ⟨fun e he => ?_, ih hl⟩
        rcases fst_of_mem_place he with rfl | he
        · exact Std.lt_of_le_of_ne (Std.not_lt.mp hab) (Ne.symm hne)
        · exact hb e he

@[simp] theorem lookup_place_self (a : String) (x : α) (l : List (String × α)) :
    (place a x l).lookup a = some x := by
  induction l with
  | nil => simp [place]
  | cons d l ih =>
    obtain ⟨b, y⟩ := d
    unfold place
    split
    · simp
    · split
      · simp
      · next h => simp [List.lookup_cons, beq_eq_false_iff_ne.mpr h, ih]

theorem lookup_place_of_ne {a c : String} (h : c ≠ a) (x : α) (l : List (String × α)) :
    (place a x l).lookup c = l.lookup c := by
  have hc : (c == a) = false := by simpa using h
  induction l with
  | nil => simp [place, List.lookup_cons, hc]
  | cons d l ih =>
    obtain ⟨b, y⟩ := d
    unfold place
    split
    · simp [List.lookup_cons, hc]
    · split
      · next e => subst e; simp [List.lookup_cons, hc]
      · simp [List.lookup_cons, ih]

theorem mem_of_lookup {a : String} {x : α} {l : List (String × α)}
    (h : l.lookup a = some x) : (a, x) ∈ l := by
  induction l with
  | nil => simp at h
  | cons d l ih =>
    obtain ⟨b, y⟩ := d
    rw [List.lookup_cons] at h
    split at h
    · next e => simp_all
    · exact List.mem_cons_of_mem _ (ih h)

theorem lookup_of_mem {a : String} {x : α} {l : List (String × α)}
    (hl : l.Pairwise (·.1 < ·.1)) (h : (a, x) ∈ l) : l.lookup a = some x := by
  induction l with
  | nil => simp at h
  | cons d l ih =>
    obtain ⟨b, y⟩ := d
    obtain ⟨hb, hl⟩ := List.pairwise_cons.mp hl
    rcases List.mem_cons.mp h with e | h
    · cases e; simp
    · have hba : b < a := hb _ h
      have hne : (a == b) = false :=
        beq_eq_false_iff_ne.mpr (fun e => String.lt_irrefl b (e ▸ hba))
      rw [List.lookup_cons, hne, ih hl h]

theorem mem_entries {m : NameMap α} {a : String} {x : α} :
    (a, x) ∈ m.entries ↔ m.get? a = some x :=
  ⟨lookup_of_mem m.ascending, mem_of_lookup⟩

/-- Two maps that agree on every name are equal. -/
theorem ext_get? {m n : NameMap α} (h : ∀ a, m.get? a = n.get? a) : m = n := by
  have distinct {l : List (String × α)} (hl : l.Pairwise (·.1 < ·.1)) : l.Nodup :=
    hl.imp (@fun _ _ h => by rintro rfl; exact String.lt_irrefl _ h)
  have perm : m.entries.Perm n.entries :=
    (List.perm_ext_iff_of_nodup (distinct m.ascending) (distinct n.ascending)).mpr
      (fun e => by rw [mem_entries, mem_entries, h])
  have same : m.entries = n.entries :=
    List.Perm.eq_of_pairwise
      (fun _ _ _ _ hab hba => absurd (String.lt_trans hab hba) (String.lt_irrefl _))
      m.ascending n.ascending perm
  cases m; cases n; cases same; rfl

/-- The map with a value at a name. -/
def set (m : NameMap α) (a : String) (x : α) : NameMap α :=
  ⟨place a x m.entries, ascending_place a x m.ascending⟩

@[simp] theorem get?_default (a : String) : (default : NameMap α).get? a = none := rfl

@[simp] theorem get?_set_self (m : NameMap α) (a : String) (x : α) : (m.set a x).get? a = some x :=
  lookup_place_self a x m.entries

theorem get?_set_of_ne {a c : String} (h : c ≠ a) (m : NameMap α) (x : α) :
    (m.set a x).get? c = m.get? c :=
  lookup_place_of_ne h x m.entries

theorem get?_set (m : NameMap α) (a c : String) (x : α) :
    (m.set a x).get? c = if c = a then some x else m.get? c := by
  split
  · next h => subst h; exact get?_set_self m c x
  · next h => exact get?_set_of_ne h m x

end NameMap

end Karaoke
