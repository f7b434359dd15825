import Karaoke.Text.Blank
import Karaoke.Text.Fold

/-!
# Folding and spaces

Folding neither makes a space nor removes one. A text without its spaces therefore folds to what
is left of the folded text once the folded spaces are taken out.
-/

set_option autoImplicit false

namespace Karaoke.Text

/-! ## Spans without spaces -/

/-- Whether there is no space from one code point to another. -/
def spaceless (first last : Nat) : Bool :=
  spaceSpans.all (fun s => Nat.blt last s.1 || Nat.blt s.2 first)

variable {first last : Nat}

theorem isSpace_of_spaceless {c : Char} (spaceless : spaceless first last = true)
    (lower : first ≤ c.toNat) (upper : c.toNat ≤ last) : isSpace c = false := by
  rw [isSpace, List.any_eq_false]
  intro s mem
  have apart := List.all_eq_true.mp spaceless s mem
  simp only [Bool.or_eq_true, Nat.blt_eq] at apart
  simp only [Bool.and_eq_true, decide_eq_true_eq]
  omega

/-- A number that is no code point gives the character zero, which is no space either. -/
theorem isSpace_ofNat_of_spaceless {n : Nat} (spaceless : spaceless first last = true)
    (lower : first ≤ n) (upper : n ≤ last) : isSpace (Char.ofNat n) = false := by
  by_cases valid : n.isValidChar
  · have code : (Char.ofNat n).toNat = n := by
      rw [Char.ofNat, dif_pos valid]
      rfl
    apply isSpace_of_spaceless spaceless
    · rwa [code]
    · rwa [code]
  · rw [Char.ofNat, dif_neg valid]
    decide

/-! ## The tables -/

theorem spaceless_letterSpans :
    letterSpans.all (fun e => !isSpace e.1 && e.2.all (fun s => spaceless s.1 s.2)) = true := by
  decide +kernel

theorem spaceless_caseSpans :
    (caseSpansLow ++ caseSpansHigh).all (fun e => spaceless e.1.first e.1.last &&
      spaceless (e.1.first + e.2).toNat (e.1.last + e.2).toNat) = true := by
  decide +kernel

theorem spaceless_caseSequences :
    caseSequences.all (fun e => spaceless e.1 e.1 && e.2.all (fun n => spaceless n n)) = true := by
  decide +kernel

/-- Whether each letter of a table is listed with a span around its code point. -/
def Listed (table : Std.HashMap Nat Char) : Prop :=
  ∀ (n : Nat) (l : Char), table[n]? = some l →
    ∃ entry ∈ letterSpans, entry.1 = l ∧ ∃ s ∈ entry.2, s.1 ≤ n ∧ n ≤ s.2

theorem listed_letterTable : Listed letterTable := by
  -- Three nested folds fill the table: over the letters, their spans, and the code points of each.
  apply List.foldlRecOn (motive := Listed) letterSpans
  · intro n l empty
    simp at empty
  intro table listed entry entry_mem
  apply List.foldlRecOn (motive := Listed) entry.2
  · exact listed
  intro table listed s s_mem
  apply List.foldlRecOn (motive := Listed) (List.range' s.1 (s.2 + 1 - s.1))
  · exact listed
  intro table listed m m_mem n l found
  rw [Std.HashMap.getElem?_insert] at found
  split at found
  · next same =>
    obtain rfl : m = n := by simpa using same
    obtain rfl : entry.1 = l := by simpa using found
    have bounds := List.mem_range'_1.mp m_mem
    exact ⟨entry, entry_mem, rfl, s, s_mem, bounds.1, by omega⟩
  · exact listed n l found

/-! ## Folding -/

theorem isSpace_of_letter? {c l : Char} (found : letter? c = some l) :
    isSpace l = false ∧ isSpace c = false := by
  obtain ⟨e, e_mem, rfl, s, s_mem, lower, upper⟩ := listed_letterTable c.toNat l found
  have apart := List.all_eq_true.mp spaceless_letterSpans e e_mem
  rw [Bool.and_eq_true, Bool.not_eq_true', List.all_eq_true] at apart
  exact ⟨apart.1, isSpace_of_spaceless (apart.2 s s_mem) lower upper⟩

theorem any_isSpace_caseFold (c : Char) : (caseFold c).any isSpace = isSpace c := by
  unfold caseFold
  split
  · next offset found =>
    obtain ⟨e, covering, rfl⟩ := Option.map_eq_some_iff.mp found
    obtain ⟨lower, upper, -⟩ : e.1.Covers c.toNat := by simpa using List.find?_some covering
    have apart := List.all_eq_true.mp spaceless_caseSpans e (List.mem_of_find?_eq_some covering)
    obtain ⟨here, there⟩ := (Bool.and_eq_true _ _).mp apart
    rw [List.any_cons, List.any_nil, Bool.or_false, isSpace_of_spaceless here lower upper]
    apply isSpace_ofNat_of_spaceless there
    · omega
    · omega
  · split
    · next ns found =>
      obtain ⟨before, after, parted, -⟩ := List.lookup_eq_some_iff.mp found
      have mem : (c.toNat, ns) ∈ caseSequences := by simp [parted]
      have apart := List.all_eq_true.mp spaceless_caseSequences _ mem
      rw [Bool.and_eq_true, List.all_eq_true] at apart
      rw [isSpace_of_spaceless apart.1 (Nat.le_refl _) (Nat.le_refl _), List.any_eq_false]
      intro d d_mem
      obtain ⟨n, n_mem, rfl⟩ := List.mem_map.mp d_mem
      rw [isSpace_ofNat_of_spaceless (apart.2 n n_mem) (Nat.le_refl _) (Nat.le_refl _)]
      exact Bool.false_ne_true
    · rw [List.any_cons, List.any_nil, Bool.or_false]

/-- A property of all ASCII characters can be tried on each of them. -/
theorem forall_ascii {p : Char → Prop} (all : ∀ n < 0x80, p (Char.ofNat n)) :
    ∀ c : Char, c.toNat < 0x80 → p c := by
  intro c ascii
  have here := all c.toNat ascii
  rwa [Char.ofNat_toNat] at here

theorem toLower_of_not_ascii {c : Char} (beyond : ¬ c.toNat < 0x80) : c.toLower = c := by
  have capital : ¬ (c.val ≥ 'A'.val ∧ c.val ≤ 'Z'.val) := by
    rintro ⟨-, le⟩
    exact beyond (Nat.lt_of_le_of_lt (UInt32.le_iff_toNat_le.mp le) (by decide))
  exact dif_neg capital

theorem isSpace_toLower (c : Char) : isSpace c.toLower = isSpace c := by
  by_cases ascii : c.toNat < 0x80
  · revert c
    apply forall_ascii
    decide +kernel
  · rw [toLower_of_not_ascii ascii]

/-- Folding keeps a space a space and makes none of anything else. -/
theorem any_isSpace_fold (c : Char) : (fold c).any isSpace = isSpace c := by
  unfold fold
  split
  · simpa using isSpace_toLower c
  · split
    · next l found =>
      obtain ⟨letter, original⟩ := isSpace_of_letter? found
      simp [letter, original]
    · exact any_isSpace_caseFold c

theorem folded_squeeze (cs : List Char) :
    folded (squeeze cs) = (folded cs).filter (fun f => !f.any isSpace) := by
  rw [folded, folded, squeeze, List.filter_map]
  congr 1
  apply List.filter_congr
  intro c _
  rw [Function.comp_apply, any_isSpace_fold]

end Karaoke.Text
