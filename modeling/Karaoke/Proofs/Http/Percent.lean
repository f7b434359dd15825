import Karaoke.Http.Ip
import Karaoke.Http.MediaType
import Karaoke.Http.Percent
import Karaoke.Proofs.Text.Utf8

/-!
# Percent-encoded names

What is written in percent encoding is made of unreserved characters and of escapes, and it is read
back as the text that it was written from. So different texts are written differently, and a
character that is not unreserved never stands in what is written, the percent sign apart.
-/

set_option autoImplicit false

namespace Karaoke.Http.Percent

open Text

/-! ## Reading -/

/-- The bytes that a text stands for: an escape stands for one, and any other character but a
percent sign for its own. None if a percent sign begins no escape. -/
def bytes? : List Char → Option (List UInt8)
  | [] => some []
  | '%' :: high :: low :: cs =>
    match MediaType.hexDigit? high, MediaType.hexDigit? low with
    | some h, some l => (bytes? cs).map (UInt8.ofNat (h * 16 + l) :: ·)
    | _, _ => none
  | c :: cs => if c = '%' then none else (bytes? cs).map (Utf8.encodeChar c ++ ·)

/-- The text that a percent-encoded text stands for, if its bytes are UTF-8. -/
def decode? (cs : List Char) : Option Wide :=
  ((bytes? cs).bind Utf8.decode?).map Wide.mk

theorem hexDigit?_hexDigit : ∀ n < 16, MediaType.hexDigit? (hexDigit n) = some n := by
  decide

theorem bytes?_encodeByte (b : UInt8) (cs : List Char) :
    bytes? (encodeByte b ++ cs) = (bytes? cs).map (b :: ·) := by
  have high := hexDigit?_hexDigit (b.toNat / 16) (by have := b.toNat_lt; omega)
  have low := hexDigit?_hexDigit (b.toNat % 16) (Nat.mod_lt _ (by decide))
  have byte : UInt8.ofNat (b.toNat / 16 * 16 + b.toNat % 16) = b := by
    rw [Nat.div_add_mod', UInt8.ofNat_toNat]
  simp only [encodeByte, List.cons_append, List.nil_append, bytes?, high, low, byte]

theorem bytes?_flatMap_encodeByte (bs : List UInt8) (cs : List Char) :
    bytes? (bs.flatMap encodeByte ++ cs) = (bytes? cs).map (bs ++ ·) := by
  induction bs with
  | nil => simp
  | cons b bs ih =>
    rw [List.flatMap_cons, List.append_assoc, bytes?_encodeByte, ih, Option.map_map]
    rfl

theorem bytes?_cons {c : Char} (other : c ≠ '%') (cs : List Char) :
    bytes? (c :: cs) = (bytes? cs).map (Utf8.encodeChar c ++ ·) := by
  rw [bytes?, if_neg other]
  rintro high low rest ⟨rfl, -⟩
  exact absurd rfl other

theorem bytes?_keeping {isKept : Char → Bool} (percent : isKept '%' = false) (cs : List Char) :
    bytes? (keeping isKept cs) = some (Utf8.encode cs) := by
  induction cs with
  | nil => rfl
  | cons c cs ih =>
    have front : keeping isKept (c :: cs) = keeping isKept [c] ++ keeping isKept cs :=
      keeping_append isKept [c] cs
    rw [front, Utf8.encode_cons]
    cases kept : isKept c with
    | true =>
      have other : c ≠ '%' := by
        rintro rfl
        simp [percent] at kept
      simp [keeping_of_all, kept, bytes?_cons other, ih]
    | false =>
      have escaped : keeping isKept [c] = (Utf8.encodeChar c).flatMap encodeByte := by
        simp [keeping, kept]
      rw [escaped, bytes?_flatMap_encodeByte, ih, Option.map_some]

/-- Reading gives back what was written. -/
theorem decode?_encode (cs : List Char) : decode? (encode cs) = some (.ofList cs) := by
  have written : bytes? (encode cs) = some (Utf8.encode cs) := bytes?_keeping (by decide) cs
  rw [decode?, written, Option.bind_some, Utf8.decode?_encode]
  rfl

theorem encode_injective : Function.Injective encode := by
  intro cs ds same
  have read := congrArg decode? same
  rw [decode?_encode, decode?_encode, Option.some.injEq] at read
  exact Wide.ofList_inj.mp read

/-! ## What is written -/

/-- Text of characters of a class and of escapes. -/
inductive Escaped (isKept : Char → Bool) : List Char → Prop
  | nil : Escaped isKept []
  | kept {c : Char} {cs : List Char} : isKept c = true → Escaped isKept cs →
      Escaped isKept (c :: cs)
  | escape {high low : Char} {cs : List Char} : Ip.isHexDigit high = true →
      Ip.isHexDigit low = true → Escaped isKept cs → Escaped isKept ('%' :: high :: low :: cs)

variable {isKept isKept' : Char → Bool} {cs ds : List Char}

theorem Escaped.append (first : Escaped isKept cs) (second : Escaped isKept ds) :
    Escaped isKept (cs ++ ds) := by
  induction first with
  | nil => exact second
  | kept here _ ih => exact .kept here ih
  | escape high low _ ih => exact .escape high low ih

theorem Escaped.mono (more : ∀ c, isKept c = true → isKept' c = true)
    (escaped : Escaped isKept cs) : Escaped isKept' cs := by
  induction escaped with
  | nil => exact .nil
  | kept here _ ih => exact .kept (more _ here) ih
  | escape high low _ ih => exact .escape high low ih

theorem Escaped.of_all (all : ∀ c ∈ cs, isKept c = true) : Escaped isKept cs := by
  induction cs with
  | nil => exact .nil
  | cons c cs ih =>
    rw [List.forall_mem_cons] at all
    exact .kept all.1 (ih all.2)

theorem Escaped.intercalate {sep : Char} (kept : isKept sep = true) {xs : List (List Char)}
    (each : ∀ x ∈ xs, Escaped isKept x) : Escaped isKept ([sep].intercalate xs) := by
  induction xs with
  | nil => exact .nil
  | cons x xs ih =>
    rw [List.forall_mem_cons] at each
    cases xs with
    | nil =>
      rw [List.intercalate_singleton]
      exact each.1
    | cons y xs =>
      rw [List.intercalate_cons_cons]
      exact (each.1.append (.kept kept .nil)).append (ih each.2)

theorem isHexDigit_hexDigit : ∀ n < 16, Ip.isHexDigit (hexDigit n) = true := by
  decide

theorem escaped_encodeByte (b : UInt8) : Escaped isKept (encodeByte b) := by
  refine .escape (isHexDigit_hexDigit _ ?_) (isHexDigit_hexDigit _ ?_) .nil
  · have := b.toNat_lt
    omega
  · exact Nat.mod_lt _ (by decide)

theorem escaped_flatMap_encodeByte (bs : List UInt8) :
    Escaped isKept (bs.flatMap encodeByte) := by
  induction bs with
  | nil => exact .nil
  | cons b bs ih => exact (escaped_encodeByte b).append ih

theorem escaped_keeping (isKept : Char → Bool) (cs : List Char) :
    Escaped isKept (keeping isKept cs) := by
  induction cs with
  | nil => exact .nil
  | cons c cs ih =>
    rw [keeping, List.flatMap_cons]
    refine .append ?_ ih
    split
    · next here => exact .kept here .nil
    · exact escaped_flatMap_encodeByte _

theorem escaped_encode (cs : List Char) : Escaped isUnreserved (encode cs) :=
  escaped_keeping isUnreserved cs

theorem isAlphanum_iff {c : Char} : c.isAlphanum = true ↔
    ('A'.toNat ≤ c.toNat ∧ c.toNat ≤ 'Z'.toNat ∨ 'a'.toNat ≤ c.toNat ∧ c.toNat ≤ 'z'.toNat) ∨
      '0'.toNat ≤ c.toNat ∧ c.toNat ≤ '9'.toNat := by
  delta Char.isAlphanum Char.isAlpha Char.isUpper Char.isLower
  rw [Bool.or_eq_true, Bool.or_eq_true, Char.isDigit_iff_toNat]
  simp only [Bool.and_eq_true, decide_eq_true_eq, ge_iff_le, UInt32.le_iff_toNat_le]
  rfl

theorem isUnreserved_of_isHexDigit {c : Char} (hex : Ip.isHexDigit c = true) :
    isUnreserved c = true := by
  have alphanumeric : c.isAlphanum = true := by
    rw [isAlphanum_iff]
    simp only [Ip.isHexDigit, Bool.or_eq_true, Bool.and_eq_true, decide_eq_true_eq,
      Char.isDigit_iff_toNat, Char.le_def, UInt32.le_iff_toNat_le, Char.toNat_val] at hex
    have upper : 'F'.toNat ≤ 'Z'.toNat := by decide
    have lower : 'f'.toNat ≤ 'z'.toNat := by decide
    omega
  simp [isUnreserved, alphanumeric]

theorem Escaped.all (escaped : Escaped isKept cs) :
    ∀ c ∈ cs, isKept c = true ∨ isUnreserved c = true ∨ c = '%' := by
  have digit {c : Char} (hex : Ip.isHexDigit c = true) :
      isKept c = true ∨ isUnreserved c = true ∨ c = '%' :=
    .inr (.inl (isUnreserved_of_isHexDigit hex))
  induction escaped with
  | nil => exact fun c mem => absurd mem List.not_mem_nil
  | kept here _ ih => exact List.forall_mem_cons.mpr ⟨.inl here, ih⟩
  | escape high low _ ih =>
    exact List.forall_mem_cons.mpr ⟨.inr (.inr rfl), List.forall_mem_cons.mpr
      ⟨digit high, List.forall_mem_cons.mpr ⟨digit low, ih⟩⟩⟩

theorem mem_of_mem_keeping {c : Char} (mem : c ∈ keeping isKept cs) :
    isKept c = true ∧ c ∈ cs ∨ isUnreserved c = true ∨ c = '%' := by
  obtain ⟨d, here, mem⟩ := List.mem_flatMap.mp mem
  split at mem
  · next kept =>
    obtain rfl := List.mem_singleton.mp mem
    exact .inl ⟨kept, here⟩
  · have escaped : Escaped (fun _ => false) ((Utf8.encodeChar d).flatMap encodeByte) :=
      escaped_flatMap_encodeByte _
    rcases escaped.all c mem with none | other
    · cases none
    · exact .inr other

theorem percent_mem_keeping {c : Char} (mem : c ∈ cs) (other : isKept c = false) :
    '%' ∈ keeping isKept cs := by
  refine List.mem_flatMap.mpr ⟨c, mem, ?_⟩
  rw [other, if_neg Bool.false_ne_true]
  have spells := Utf8.spells_encodeChar c
  generalize Utf8.encodeChar c = bs at spells ⊢
  cases spells <;> simp [encodeByte]

/-- A text without percent signs is written for no other text. -/
theorem eq_of_keeping_eq (none : '%' ∉ ds) (same : keeping isKept cs = ds) : cs = ds := by
  have all : ∀ c ∈ cs, isKept c = true := by
    intro c mem
    cases kept : isKept c with
    | true => rfl
    | false => exact absurd (same ▸ percent_mem_keeping mem kept) none
  rw [← same, keeping_of_all all]

theorem keeping_intercalate {sep : Char} (kept : isKept sep = true) (xs : List (List Char)) :
    keeping isKept ([sep].intercalate xs) = [sep].intercalate (xs.map (keeping isKept)) := by
  have alone : keeping isKept [sep] = [sep] := keeping_of_all (by simpa using kept)
  induction xs with
  | nil => rfl
  | cons x xs ih =>
    cases xs with
    | nil => simp
    | cons y xs =>
      rw [List.map_cons] at ih
      simp only [List.intercalate_cons_cons, List.map_cons, keeping_append, alone, ih]

/-- Unreserved characters are ASCII, where a property can be tried on each of them. -/
theorem forall_unreserved {p : Char → Bool}
    (all : ∀ n < 0x80, isUnreserved (Char.ofNat n) = true → p (Char.ofNat n) = true) {c : Char}
    (unreserved : isUnreserved c = true) : p c = true := by
  have ascii : c.toNat < 0x80 := by
    simp only [isUnreserved, Bool.or_eq_true, beq_iff_eq] at unreserved
    rcases unreserved with (((alphanumeric | rfl) | rfl) | rfl) | rfl
    · rw [isAlphanum_iff] at alphanumeric
      have upper : 'Z'.toNat < 0x80 := by decide
      have lower : 'z'.toNat < 0x80 := by decide
      have digit : '9'.toNat < 0x80 := by decide
      omega
    all_goals decide
  have here := all c.toNat ascii
  rw [Char.ofNat_toNat] at here
  exact here unreserved

/-- Every character that is written is unreserved or a percent sign. -/
theorem all_encode (cs : List Char) : ∀ c ∈ encode cs, isUnreserved c = true ∨ c = '%' := by
  intro c mem
  rcases (escaped_encode cs).all c mem with kept | kept | percent
  · exact .inl kept
  · exact .inl kept
  · exact .inr percent

end Karaoke.Http.Percent
