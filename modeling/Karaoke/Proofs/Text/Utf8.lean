import Karaoke.Text.Utf8
import Mathlib.Algebra.Group.Nat.Defs

/-!
# UTF-8 round trip

What is written in UTF-8 is read back unchanged, by the reader that replaces malformed bytes and by
the one that refuses them. A character is one byte that is a piece of its own, or a first byte and
as many more as it announces. Only the bytes of a surrogate are read in another way, and no
character is written with those.
-/

set_option autoImplicit false

namespace Karaoke.Text.Utf8

/-! ## Bytes -/

/-- Bytes that complete a character that has begun. -/
inductive Completes : Partial → List UInt8 → Char → Prop where
  | last {p b c} : p.step? b = some ([some c], none) → Completes p [b] c
  | next {p q b bs c} : p.step? b = some ([], some q) → Completes q bs c → Completes p (b :: bs) c

/-- The bytes of a character as a reader takes them. -/
inductive Spells (c : Char) : List UInt8 → Prop where
  | one {b} : b ≠ 0xed → start b = ([some c], none) → Spells c [b]
  | more {b b' bs p} : (b = 0xed → b'.toNat < 0xa0) → start b = ([], some p) →
      Completes p (b' :: bs) c → Spells c (b :: b' :: bs)

theorem start_two : ∀ k < 0x20, 2 ≤ k →
    start (.ofNat (0xc0 + k)) = ([], some ⟨k, 1, 0x80, 0xbf⟩) := by
  decide

theorem start_three : ∀ k < 0x10, start (.ofNat (0xe0 + k)) =
    ([], some ⟨k, 2, if k = 0 then 0xa0 else 0x80, if k = 0xd then 0x9f else 0xbf⟩) := by
  decide

theorem start_four : ∀ k < 5, start (.ofNat (0xf0 + k)) =
    ([], some ⟨k, 3, if k = 0 then 0x90 else 0x80, if k = 4 then 0x8f else 0xbf⟩) := by
  decide

/-- Six bits of a code point in a byte that goes on with a character. -/
def tail (k : Nat) : UInt8 :=
  .ofNat (0x80 + k % 0x40)

theorem toNat_tail (k : Nat) : (tail k).toNat = 0x80 + k % 0x40 := by
  have small : 0x80 + k % 0x40 < 256 := by omega
  exact Nat.mod_eq_of_lt small

/-- The bytes of a code point after the first. -/
def tails (n : Nat) : Nat → List UInt8
  | 0 => []
  | k + 1 => tail (n / 0x40 ^ k) :: tails n k

theorem step?_tail (bits owed : Nat) {low high k : Nat} (above : low ≤ 0x80 + k % 0x40)
    (below : 0x80 + k % 0x40 ≤ high) :
    Partial.step? ⟨bits, owed, low, high⟩ (tail k) =
      if owed ≤ 1 then some ([some (Char.ofNat (bits * 0x40 + k % 0x40))], none)
      else some ([], some ⟨bits * 0x40 + k % 0x40, owed - 1, 0x80, 0xbf⟩) := by
  have six : (0x80 + k % 0x40) % 0x40 = k % 0x40 := by omega
  simp only [Partial.step?, toNat_tail, six]
  exact if_pos ⟨above, below⟩

/-- Six bits more of a number. -/
theorem div_pow_add_mod (n k : Nat) :
    n / 0x40 ^ (k + 1) * 0x40 + n / 0x40 ^ k % 0x40 = n / 0x40 ^ k := by
  rw [Nat.pow_succ, ← Nat.div_div_eq_div_mul]
  exact Nat.div_add_mod' _ _

theorem completes_tails {c : Char} (owed : Nat) {low high : Nat}
    (above : low ≤ 0x80 + c.toNat / 0x40 ^ owed % 0x40)
    (below : 0x80 + c.toNat / 0x40 ^ owed % 0x40 ≤ high) :
    Completes ⟨c.toNat / 0x40 ^ (owed + 1), owed + 1, low, high⟩ (tails c.toNat (owed + 1)) c := by
  induction owed generalizing low high with
  | zero =>
    have step := step?_tail (c.toNat / 0x40 ^ 1) 1 above below
    have code : Char.ofNat (c.toNat / 0x40 ^ 0) = c := by
      rw [Nat.pow_zero, Nat.div_one, Char.ofNat_toNat]
    rw [if_pos (Nat.le_refl 1), div_pow_add_mod, code] at step
    exact .last step
  | succ owed ih =>
    have step := step?_tail (c.toNat / 0x40 ^ (owed + 2)) (owed + 2) above below
    rw [if_neg (by omega), div_pow_add_mod] at step
    apply Completes.next step
    apply ih <;> omega

/-! ## Characters -/

theorem encodeChar_eq (c : Char) :
    encodeChar c =
      if c.toNat < 0x80 then [.ofNat c.toNat]
      else if c.toNat < 0x800 then .ofNat (0xc0 + c.toNat / 0x40) :: tails c.toNat 1
      else if c.toNat < 0x10000 then .ofNat (0xe0 + c.toNat / 0x40 ^ 2) :: tails c.toNat 2
      else .ofNat (0xf0 + c.toNat / 0x40 ^ 3) :: tails c.toNat 3 :=
  rfl

theorem spells_encodeChar (c : Char) : Spells c (encodeChar c) := by
  have valid : c.toNat < 0xd800 ∨ 0xdfff < c.toNat ∧ c.toNat < 0x110000 := c.valid
  rw [encodeChar_eq]
  by_cases one : c.toNat < 0x80
  · rw [if_pos one]
    have low : (UInt8.ofNat c.toNat).toNat = c.toNat := Nat.mod_eq_of_lt (by omega)
    refine .one ?_ (by simp [start, low, one])
    intro surrogate
    have high : c.toNat = 0xed := low.symm.trans (congrArg UInt8.toNat surrogate)
    omega
  rw [if_neg one]
  by_cases two : c.toNat < 0x800
  · rw [if_pos two]
    have begun := start_two (c.toNat / 0x40) (by omega) (by omega)
    refine .more ?_ begun (completes_tails 0 ?_ ?_)
    · intro surrogate
      have high : (0xc0 + c.toNat / 0x40) % 256 = 0xed := congrArg UInt8.toNat surrogate
      omega
    · omega
    · omega
  rw [if_neg two]
  by_cases three : c.toNat < 0x10000
  · rw [if_pos three]
    have begun := start_three (c.toNat / 0x40 ^ 2) (by omega)
    refine .more ?_ begun (completes_tails 1 ?_ ?_)
    · intro surrogate
      have high : (0xe0 + c.toNat / 0x40 ^ 2) % 256 = 0xed := congrArg UInt8.toNat surrogate
      rw [toNat_tail, Nat.pow_one]
      omega
    · split <;> omega
    · split <;> omega
  · rw [if_neg three]
    have begun := start_four (c.toNat / 0x40 ^ 3) (by omega)
    refine .more ?_ begun (completes_tails 2 ?_ ?_)
    · intro surrogate
      have high : (0xf0 + c.toNat / 0x40 ^ 3) % 256 = 0xed := congrArg UInt8.toNat surrogate
      omega
    · split <;> omega
    · split <;> omega

/-! ## Texts -/

theorem pieces_completes {p : Partial} {bs rest : List UInt8} {c : Char} (done : Completes p bs c) :
    pieces (some p) (bs ++ rest) = some c :: pieces none rest := by
  induction done with
  | last step => simp [pieces, step]
  | next step _ ih => simpa [pieces, step] using ih

theorem pieces_spells {c : Char} {bs rest : List UInt8} (spells : Spells c bs) :
    pieces none (bs ++ rest) = some c :: pieces none rest := by
  cases spells with
  | one _ begun => simp [pieces, begun]
  | more _ begun done =>
    rw [List.cons_append, pieces, begun]
    exact pieces_completes done

theorem pieces_encode (cs : List Char) : pieces none (encode cs) = cs.map some := by
  induction cs with
  | nil => rfl
  | cons c cs ih => rw [encode_cons, pieces_spells (spells_encodeChar c), ih, List.map_cons]

@[simp] theorem decodeLossy_encode (cs : List Char) : decodeLossy (encode cs) = cs := by
  simp [decodeLossy, pieces_encode, Function.comp_def]

theorem symbols?_completes {p : Partial} {bs rest : List UInt8} {c : Char}
    (done : Completes p bs c) :
    symbols? (some p) (bs ++ rest) = (symbols? none rest).map (.char c :: ·) := by
  induction done with
  | last step => simp [symbols?, step]
  | next step _ ih => simpa [symbols?, step] using ih

/-- Off the surrogates a first byte starts what it starts. -/
theorem symbols?_cons {b : UInt8} {bs : List UInt8}
    (ordinary : b = 0xed → ∀ b' bs', bs = b' :: bs' → b'.toNat < 0xa0) :
    symbols? none (b :: bs) =
      ((start b).1.mapM id).bind fun cs => (symbols? (start b).2 bs).map (cs.map .char ++ ·) := by
  by_cases surrogate : b = 0xed
  · subst surrogate
    have begun : start 0xed = ([], some ⟨0xd, 2, 0x80, 0x9f⟩) := by decide
    match bs with
    | [] => simp [symbols?, begun]
    | [b'] => simp [symbols?, begun]
    | b' :: c' :: bs' =>
      have low := ordinary rfl b' _ rfl
      have none : half? b' c' = none := if_neg fun high => absurd high.1 (by omega)
      simp [symbols?, begun, none]
  · rw [symbols?]
    intro _ _ _ same
    exact absurd same surrogate

theorem symbols?_spells {c : Char} {bs rest : List UInt8} (spells : Spells c bs) :
    symbols? none (bs ++ rest) = (symbols? none rest).map (.char c :: ·) := by
  cases spells with
  | one other begun =>
    rw [List.cons_append, symbols?_cons fun surrogate => absurd surrogate other, begun]
    simp
  | more ordinary begun done =>
    rw [List.cons_append, symbols?_cons, begun]
    · simpa using symbols?_completes done
    · rintro surrogate _ _ ⟨⟩
      exact ordinary surrogate

theorem symbols?_encode (cs : List Char) : symbols? none (encode cs) = some (cs.map .char) := by
  induction cs with
  | nil => rfl
  | cons c cs ih =>
    rw [encode_cons, symbols?_spells (spells_encodeChar c), ih, Option.map_some, List.map_cons]

@[simp] theorem decode?_encode (cs : List Char) : decode? (encode cs) = some (cs.map .char) :=
  symbols?_encode cs

end Karaoke.Text.Utf8
