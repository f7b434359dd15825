import Karaoke.Proofs.Text.Fold
import Mathlib.Data.List.Forall2

/-!
# Texts in another case

Two texts that differ only in the case of ASCII letters have their spaces at the same places and
fold to the same characters. Of ASCII texts, only two such fold to the same.
-/

set_option autoImplicit false

namespace Karaoke.Text

/-- Whether a character is an ASCII capital and another one the same letter in lower case. -/
def IsCapitalOf (c d : Char) : Prop :=
  0x41 ≤ c.toNat ∧ c.toNat ≤ 0x5a ∧ d.toNat = c.toNat + 0x20

/-- Whether two characters are equal or the two cases of an ASCII letter. -/
inductive SameLetter (c d : Char) : Prop where
  | equal (same : c = d)
  | lowered (capital : IsCapitalOf c d)
  | raised (capital : IsCapitalOf d c)

/-- Whether two texts differ only in the case of ASCII letters. -/
def Recased (cs ds : List Char) : Prop :=
  List.Forall₂ SameLetter cs ds

/-- Whether two values are both unset, or are texts that differ only in the case of ASCII
letters. -/
def RecasedValue : Option String → Option String → Prop :=
  Option.Rel (fun v w => Recased v.toList w.toList)

/-- Whether a text has only ASCII characters. -/
def IsAscii (cs : List Char) : Prop :=
  ∀ c ∈ cs, c.toNat < 0x80

/-! ## Characters -/

variable {c d : Char}

theorem toNat_toLower (c : Char) :
    c.toLower.toNat =
      if 0x41 ≤ c.toNat ∧ c.toNat ≤ 0x5a then c.toNat + 0x20 else c.toNat := by
  by_cases ascii : c.toNat < 0x80
  · revert c
    apply forall_ascii
    decide +kernel
  · rw [toLower_of_not_ascii ascii, if_neg]
    omega

theorem IsCapitalOf.toLower_eq (capital : IsCapitalOf c d) : c.toLower = d.toLower := by
  obtain ⟨first, last, code⟩ := capital
  rw [← Char.toNat_inj, toNat_toLower, toNat_toLower, if_pos ⟨first, last⟩, if_neg, code]
  omega

theorem sameLetter_iff : SameLetter c d ↔ c.toLower = d.toLower := by
  constructor
  · rintro (rfl | capital | capital)
    · rfl
    · exact capital.toLower_eq
    · exact capital.toLower_eq.symm
  · intro same
    rw [← Char.toNat_inj, toNat_toLower, toNat_toLower] at same
    split at same <;> split at same
    · exact .equal (Char.toNat_inj.mp (Nat.add_right_cancel same))
    · next capital _ => exact .lowered ⟨capital.1, capital.2, same.symm⟩
    · next _ capital => exact .raised ⟨capital.1, capital.2, same⟩
    · exact .equal (Char.toNat_inj.mp same)

instance : DecidableRel SameLetter :=
  fun _ _ => decidable_of_iff _ sameLetter_iff.symm

theorem SameLetter.isSpace_eq (same : SameLetter c d) : isSpace c = isSpace d := by
  rw [← isSpace_toLower c, sameLetter_iff.mp same, isSpace_toLower]

theorem IsCapitalOf.fold_eq (capital : IsCapitalOf c d) : fold c = fold d := by
  have lower := capital.toLower_eq
  obtain ⟨first, last, code⟩ := capital
  rw [fold_of_ascii (by omega), fold_of_ascii (by omega), lower]

theorem SameLetter.fold_eq (same : SameLetter c d) : fold c = fold d := by
  cases same with
  | equal same => rw [same]
  | lowered capital => exact capital.fold_eq
  | raised capital => exact capital.fold_eq.symm

theorem fold_eq_iff_of_ascii (ascii : c.toNat < 0x80) (ascii' : d.toNat < 0x80) :
    fold c = fold d ↔ SameLetter c d := by
  rw [fold_of_ascii ascii, fold_of_ascii ascii', List.singleton_inj, sameLetter_iff]

/-! ## Texts -/

variable {cs ds : List Char}

instance (cs ds : List Char) : Decidable (Recased cs ds) :=
  inferInstanceAs (Decidable (List.Forall₂ SameLetter cs ds))

instance : DecidablePred IsAscii :=
  List.decidableBAll fun c : Char => c.toNat < 0x80

theorem recasedValue_some_iff {v w : String} :
    RecasedValue (some v) (some w) ↔ Recased v.toList w.toList := by
  constructor
  · rintro ⟨recased⟩
    exact recased
  · exact fun recased => Option.Rel.some recased

instance : DecidableRel RecasedValue
  | none, none => isTrue .none
  | some _, some _ => decidable_of_iff _ recasedValue_some_iff.symm
  | none, some _ => isFalse nofun
  | some _, none => isFalse nofun

theorem Recased.refl (cs : List Char) : Recased cs cs :=
  List.forall₂_same.mpr fun _ _ => .equal rfl

theorem Recased.squeeze (recased : Recased cs ds) : Recased (squeeze cs) (squeeze ds) := by
  apply List.rel_filter _ recased
  intro c d same
  simp only [same.isSpace_eq]

theorem folded_eq_iff_forall₂ :
    folded cs = folded ds ↔ List.Forall₂ (fun c d => fold c = fold d) cs ds := by
  rw [← List.forall₂_eq_eq_eq, folded, folded, List.forall₂_map_left_iff,
    List.forall₂_map_right_iff]

theorem Recased.folded_eq (recased : Recased cs ds) : folded cs = folded ds :=
  folded_eq_iff_forall₂.mpr (recased.imp fun _ _ same => same.fold_eq)

/-- Beyond ASCII there are more texts that fold to the same, such as those that differ in an
accent. -/
theorem folded_eq_iff_of_ascii (ascii : IsAscii cs) (ascii' : IsAscii ds) :
    folded cs = folded ds ↔ Recased cs ds := by
  constructor
  · intro same
    obtain ⟨length, folds⟩ := List.forall₂_iff_zip.mp (folded_eq_iff_forall₂.mp same)
    apply List.forall₂_iff_zip.mpr
    refine ⟨length, ?_⟩
    intro c d mem
    obtain ⟨mem_c, mem_d⟩ := List.of_mem_zip mem
    exact (fold_eq_iff_of_ascii (ascii c mem_c) (ascii' d mem_d)).mp (folds mem)
  · exact Recased.folded_eq

end Karaoke.Text
