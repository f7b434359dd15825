import Karaoke.Json.Source
import Karaoke.Proofs.Json.Strings
import Karaoke.Proofs.Text.Utf8

/-!
# Written documents

Documents of arrays, objects, strings and nulls, with blanks wherever they are allowed, and that a
reader gets from each the value that was written. How the parts of an array or an object are
written is a parameter: if a reader takes every part for its value, whatever follows and with fuel
for its length, then it takes the whole for its value in the same sense, one level up.
-/

set_option autoImplicit false

namespace Karaoke.Json

open Text (Symbol Wide)

def Blank (t : List Char) : Prop :=
  ∀ c ∈ t, isSeparator c = true

/-- The characters with which the values begin that are written here. -/
def opening : List Char :=
  ['"', '[', '\x7b', 'n']

def Begins (t : List Char) : Prop :=
  ∃ c ∈ opening, ∃ u, t = c :: u

/-- Parts with commas between them and blanks around each. -/
inductive Listed {α : Type} (R : α → List Char → Prop) : List α → List Char → Prop where
  | last {a w t w'} : Blank w → R a t → Blank w' → Listed R [a] (w ++ (t ++ w'))
  | more {a w t w' as u} : Blank w → R a t → Blank w' → Listed R as u →
      Listed R (a :: as) (w ++ (t ++ (w' ++ ',' :: u)))

inductive ScalarText : Value → List Char → Prop where
  | null : ScalarText .null ['n', 'u', 'l', 'l']
  | string {cs t} : StringText cs t → ScalarText (.string (.ofList cs)) t

inductive MemberText (R : Value → List Char → Prop) : Wide × Value → List Char → Prop where
  | mk {cs k w w' v t} : StringText cs k → Blank w → Blank w' → R v t →
      MemberText R (.ofList cs, v) (k ++ (w ++ ':' :: (w' ++ t)))

inductive ArrayText (R : Value → List Char → Prop) : Value → List Char → Prop where
  | empty {w} : Blank w → ArrayText R (.array []) ('[' :: (w ++ [']']))
  | filled {vs t} : Listed R vs t → ArrayText R (.array vs) ('[' :: (t ++ [']']))

/-- A key that is written again takes its last value. -/
inductive ObjectText (R : Value → List Char → Prop) : Value → List Char → Prop where
  | empty {w} : Blank w → ObjectText R (.object []) ('\x7b' :: (w ++ ['\x7d']))
  | filled {ms t} : Listed (MemberText R) ms t →
      ObjectText R (.object (Members.ofList ms)) ('\x7b' :: (t ++ ['\x7d']))

/-- A text that is taken for a value, whatever follows. -/
structure Reads (depth : Nat) (v : Value) (t : List Char) : Prop where
  begins : Begins t
  value_eq : ∀ fuel rest, t.length ≤ fuel →
    value fuel depth (t.map .char ++ rest) = .ok (v, rest)

variable {v : Value} {t w w' : List Char} {depth : Nat} {R : Value → List Char → Prop}

/-! ## Blanks -/

theorem skip_blank (blank : Blank w) (cs : List Symbol) : skip (w.map .char ++ cs) = skip cs := by
  induction w with
  | nil => rfl
  | cons c w ih =>
    obtain ⟨here, later⟩ := List.forall_mem_cons.mp blank
    rw [← ih later]
    simp [skip, isChar, here]

theorem skip_cons {c : Char} (visible : isSeparator c = false) (cs : List Symbol) :
    skip (.char c :: cs) = .char c :: cs := by
  simp [skip, isChar, visible]

theorem cases_of_mem_opening {c : Char} (mem : c ∈ opening) :
    c = '"' ∨ c = '[' ∨ c = '\x7b' ∨ c = 'n' := by
  simpa [opening] using mem

theorem skip_opening {c : Char} (mem : c ∈ opening) (cs : List Symbol) :
    skip (.char c :: cs) = .char c :: cs := by
  apply skip_cons
  rcases cases_of_mem_opening mem with rfl | rfl | rfl | rfl <;> rfl

theorem ne_of_mem_opening {c : Char} (mem : c ∈ opening) : c ≠ ']' ∧ c ≠ '\x7d' := by
  rcases cases_of_mem_opening mem with rfl | rfl | rfl | rfl <;> decide

theorem Reads.skip_eq (reads : Reads depth v t) (cs : List Symbol) :
    skip (t.map .char ++ cs) = t.map .char ++ cs := by
  obtain ⟨c, mem, u, rfl⟩ := reads.begins
  exact skip_opening mem _

/-! ## Scalars -/

theorem reads_scalarText (text : ScalarText v t) : Reads depth v t := by
  cases text with
  | null =>
    refine ⟨⟨'n', by decide, _, rfl⟩, fun fuel rest enough => ?_⟩
    match fuel with
    | fuel + 1 => rfl
  | string text =>
    obtain ⟨u, rfl, read⟩ := string?_stringText text
    refine ⟨⟨'"', by decide, u, rfl⟩, fun fuel rest enough => ?_⟩
    match fuel with
    | fuel + 1 =>
      rw [List.map_cons, List.cons_append, value, read]
      rfl

/-! ## Parts -/

/-- A reader that takes parts one by one, up to a closing character behind the last. -/
structure ReadsParts {α : Type} (S : α → List Char → Prop) (close : Char)
    (read : Nat → List Symbol → Reading (List α)) : Prop where
  begins : ∀ {a t}, S a t → Begins t
  visible : isSeparator close = false
  last : ∀ {a t fuel rest rest'}, S a t → t.length ≤ fuel → skip rest = .char close :: rest' →
    read (fuel + 1) (t.map .char ++ rest) = .ok ([a], rest')
  more : ∀ {a t fuel rest rest'}, S a t → t.length ≤ fuel → skip rest = .char ',' :: rest' →
    read (fuel + 1) (t.map .char ++ rest) = (read fuel (skip rest')).map (a :: ·)

section Parts

variable {α : Type} {S : α → List Char → Prop} {close : Char}
  {read : Nat → List Symbol → Reading (List α)} {as : List α}

theorem skip_part (begins : Begins t) (blank : Blank w) (u : List Char) (cs : List Symbol) :
    skip ((w ++ (t ++ u)).map .char ++ cs) = t.map .char ++ (u.map .char ++ cs) := by
  obtain ⟨c, mem, v, rfl⟩ := begins
  rw [List.map_append, List.append_assoc, skip_blank blank, List.map_append, List.append_assoc]
  exact skip_opening mem _

/-- Blanks and then a visible character are that character. -/
theorem skip_blank_cons {c : Char} (blank : Blank w) (visible : isSeparator c = false)
    (cs : List Symbol) : skip (w.map .char ++ .char c :: cs) = .char c :: cs := by
  rw [skip_blank blank, skip_cons visible]

theorem skip_closed {c : Char} (blank : Blank w) (visible : isSeparator c = false)
    (rest : List Symbol) : skip ((w ++ [c]).map .char ++ rest) = .char c :: rest := by
  rw [List.map_append, List.append_assoc]
  exact skip_blank_cons blank visible rest

theorem Listed.skip_eq (listed : Listed S as t) (parts : ReadsParts S close read)
    (cs : List Symbol) : ∃ c ∈ opening, ∃ ds, skip (t.map .char ++ cs) = .char c :: ds := by
  have first : ∀ a w t u, Blank w → S a t →
      ∃ c ∈ opening, ∃ ds, skip ((w ++ (t ++ u)).map .char ++ cs) = .char c :: ds := by
    intro a w t u blank text
    have begins := parts.begins text
    rw [skip_part begins blank]
    obtain ⟨c, mem, v, rfl⟩ := begins
    exact ⟨c, mem, _, rfl⟩
  cases listed with
  | last blank text _ => exact first _ _ _ _ blank text
  | more blank text _ _ => exact first _ _ _ _ blank text

theorem ReadsParts.read_listed (parts : ReadsParts S close read) (listed : Listed S as t)
    {fuel : Nat} (enough : t.length < fuel) (rest : List Symbol) :
    read fuel (skip (t.map .char ++ .char close :: rest)) = .ok (as, rest) := by
  -- A part takes one unit of fuel and, with the comma behind it, at least one character.
  induction listed generalizing fuel with
  | last blank text blank' =>
    rw [skip_part (parts.begins text) blank]
    simp only [List.length_append] at enough
    match fuel with
    | fuel + 1 => exact parts.last text (by omega) (skip_blank_cons blank' parts.visible rest)
  | @more a w t w' as u blank text blank' _ ih =>
    rw [skip_part (parts.begins text) blank]
    simp only [List.length_append, List.length_cons] at enough
    match fuel with
    | fuel + 1 =>
      have comma : skip ((w' ++ ',' :: u).map .char ++ .char close :: rest) =
          .char ',' :: (u.map .char ++ .char close :: rest) := by
        rw [List.map_append, List.append_assoc]
        exact skip_blank_cons blank' (by decide) _
      rw [parts.more text (by omega) comma, ih (by omega)]
      rfl

theorem ReadsParts.read_closed (parts : ReadsParts S close read) (listed : Listed S as t)
    {fuel : Nat} (enough : t.length < fuel) (rest : List Symbol) :
    ∃ c ∈ opening, ∃ ds, skip ((t ++ [close]).map .char ++ rest) = .char c :: ds ∧
      read fuel (.char c :: ds) = .ok (as, rest) := by
  obtain ⟨c, mem, ds, skipped⟩ := listed.skip_eq parts (.char close :: rest)
  have all := parts.read_listed listed enough rest
  rw [skipped] at all
  refine ⟨c, mem, ds, ?_, all⟩
  rw [List.map_append, List.append_assoc]
  exact skipped

end Parts

/-- Parts with nothing but commas between them. -/
def joined (ts : List (List Char)) : List Char :=
  [','].intercalate ts

theorem listed_joined {α : Type} {S : α → List Char → Prop} {as : List α} {ts : List (List Char)}
    (texts : List.Forall₂ S as ts) (filled : as ≠ []) : Listed S as (joined ts) := by
  have none : Blank [] := fun _ mem => nomatch mem
  induction texts with
  | nil => exact absurd rfl filled
  | @cons a t as ts text texts ih =>
    cases texts with
    | nil =>
      have single := Listed.last none text none
      simpa [joined] using single
    | cons next texts =>
      exact .more none text none (ih (List.cons_ne_nil _ _))

/-! ## Arrays -/

theorem readsParts_items (inner : ∀ {v t}, R v t → Reads depth v t) :
    ReadsParts R ']' (items · depth) where
  begins text := (inner text).begins
  visible := by decide
  last text enough closed := by
    simp only [items, (inner text).value_eq _ _ enough, closed]
  more text enough comma := by
    simp only [items, (inner text).value_eq _ _ enough, comma]

theorem ArrayText.reads (text : ArrayText R v t) (inner : ∀ {v t}, R v t → Reads depth v t) :
    Reads (depth + 1) v t := by
  cases text with
  | empty blank =>
    refine ⟨⟨'[', by decide, _, rfl⟩, fun fuel rest enough => ?_⟩
    match fuel with
    | fuel + 1 =>
      rw [List.map_cons, List.cons_append, value, skip_closed blank (by decide)]
      rfl
  | filled listed =>
    refine ⟨⟨'[', by decide, _, rfl⟩, fun fuel rest enough => ?_⟩
    simp only [List.length_cons, List.length_append] at enough
    match fuel with
    | fuel + 1 =>
      have fits := Nat.lt_of_succ_le (Nat.le_of_succ_le_succ enough)
      obtain ⟨c, mem, ds, skipped, read⟩ := (readsParts_items inner).read_closed listed fits rest
      rw [List.map_cons, List.cons_append, value, skipped]
      simp [(ne_of_mem_opening mem).1, read, Reading.map, Except.map]

/-! ## Objects -/

theorem MemberText.begins {m : Wide × Value} (text : MemberText R m t) : Begins t := by
  obtain ⟨key⟩ := text
  obtain ⟨u, rfl, -⟩ := string?_stringText key
  exact ⟨'"', by decide, _, rfl⟩

/-- A member is read, and what comes behind it decides what comes of the rest. -/
theorem members_memberText {m : Wide × Value} (text : MemberText R m t)
    (inner : ∀ {v t}, R v t → Reads depth v t) {fuel : Nat} (enough : t.length ≤ fuel)
    (rest : List Symbol) :
    members (fuel + 1) depth (t.map .char ++ rest) =
      match skip rest with
      | .char '\x7d' :: rest => .ok ([m], rest)
      | .char ',' :: rest => (members fuel depth (skip rest)).map (m :: ·)
      | _ => .error .malformed := by
  obtain @⟨cs, k, w, w', v, t, key, blank, blank', text⟩ := text
  have reads := inner text
  obtain ⟨u, rfl, read⟩ := string?_stringText key
  simp only [List.length_append, List.length_cons] at enough
  have colon : skip (w.map .char ++ .char ':' :: (w'.map .char ++ (t.map .char ++ rest))) =
      .char ':' :: (w'.map .char ++ (t.map .char ++ rest)) :=
    skip_blank_cons blank (by decide) _
  have value : value fuel depth (skip (w'.map .char ++ (t.map .char ++ rest))) = .ok (v, rest) := by
    rw [skip_blank blank', reads.skip_eq]
    exact reads.value_eq _ _ (by omega)
  simp only [List.map_append, List.map_cons, List.cons_append, List.append_assoc, members, read,
    colon, value]
  rfl

theorem readsParts_members (inner : ∀ {v t}, R v t → Reads depth v t) :
    ReadsParts (MemberText R) '\x7d' (members · depth) where
  begins := MemberText.begins
  visible := by decide
  last text enough closed := by
    simp only [members_memberText text inner enough, closed]
  more text enough comma := by
    simp only [members_memberText text inner enough, comma]

theorem Members.insert_of_notMem {k : Wide} {v : Value} {ms : Members}
    (new : k ∉ ms.map Prod.fst) : Members.insert k v ms = ms ++ [(k, v)] := by
  induction ms with
  | nil => rfl
  | cons m ms ih =>
    obtain ⟨other, later⟩ := not_or.mp (List.mem_cons.not.mp new)
    rw [Members.insert, if_neg (Ne.symm other), ih later]
    rfl

/-- Members with different keys stay as they were written. -/
theorem Members.ofList_of_nodup {ms : Members} (distinct : (ms.map Prod.fst).Nodup) :
    Members.ofList ms = ms := by
  have onto : ∀ (l ms : Members), ((ms ++ l).map Prod.fst).Nodup →
      l.foldl (fun ms m => Members.insert m.1 m.2 ms) ms = ms ++ l := by
    intro l
    induction l with
    | nil => simp
    | cons m l ih =>
      intro ms distinct
      have new : m.1 ∉ ms.map Prod.fst := by
        rw [List.map_append, List.map_cons] at distinct
        exact fun mem => (List.nodup_append.mp distinct).2.2 _ mem _ List.mem_cons_self rfl
      rw [List.foldl_cons, Members.insert_of_notMem new, ih, List.append_assoc]
      · rfl
      · simpa using distinct
  exact onto ms [] distinct

theorem ObjectText.reads (text : ObjectText R v t) (inner : ∀ {v t}, R v t → Reads depth v t) :
    Reads (depth + 1) v t := by
  cases text with
  | empty blank =>
    refine ⟨⟨'\x7b', by decide, _, rfl⟩, fun fuel rest enough => ?_⟩
    match fuel with
    | fuel + 1 =>
      rw [List.map_cons, List.cons_append, value, skip_closed blank (by decide)]
      rfl
  | filled listed =>
    refine ⟨⟨'\x7b', by decide, _, rfl⟩, fun fuel rest enough => ?_⟩
    simp only [List.length_cons, List.length_append] at enough
    match fuel with
    | fuel + 1 =>
      have fits := Nat.lt_of_succ_le (Nat.le_of_succ_le_succ enough)
      obtain ⟨c, mem, ds, skipped, read⟩ :=
        (readsParts_members inner).read_closed listed fits rest
      rw [List.map_cons, List.cons_append, value, skipped]
      simp [(ne_of_mem_opening mem).2, read, Reading.map, Except.map]

/-! ## Documents -/

/-- A character of one byte that is not zero. -/
def Plain (c : Char) : Prop :=
  0 < c.toNat ∧ c.toNat < 0x80

theorem plain_of_isSeparator {c : Char} (separator : isSeparator c = true) : Plain c := by
  have which : ((c = ' ' ∨ c = '\t') ∨ c = '\n') ∨ c = '\r' := by
    simpa [isSeparator] using separator
  rcases which with ((rfl | rfl) | rfl) | rfl <;> exact ⟨by decide, by decide⟩

theorem plain_of_mem_opening {c : Char} (mem : c ∈ opening) : Plain c := by
  rcases cases_of_mem_opening mem with rfl | rfl | rfl | rfl <;> exact ⟨by decide, by decide⟩

theorem encodeChar_of_plain {c : Char} (plain : Plain c) :
    ∃ b : UInt8, Text.Utf8.encodeChar c = [b] ∧ b.toNat = c.toNat := by
  refine ⟨.ofNat c.toNat, if_pos plain.2, ?_⟩
  exact Nat.mod_eq_of_lt (Nat.lt_trans plain.2 (by decide))

/-- Two bytes at the front, none of them zero and the first below all marks, mean UTF-8. -/
theorem text?_eq_decode? {a b : UInt8} {bs : List UInt8} (low : a.toNat < 0x80)
    (first : 0 < a.toNat) (second : 0 < b.toNat) :
    text? (a :: b :: bs) = Text.Utf8.decode? (a :: b :: bs) := by
  have zero : a ≠ 0 := by
    rintro rfl
    exact absurd first (by decide)
  have zero' : b ≠ 0 := by
    rintro rfl
    exact absurd second (by decide)
  have bare : bareText? (a :: b :: bs) = Text.Utf8.decode? (a :: b :: bs) := by
    match bs with
    | [] => simp [bareText?, zero, zero']
    | [_] => rfl
    | _ :: _ :: _ => simp [bareText?, zero, zero']
  rw [← bare]
  unfold text?
  split
  next same =>
    cases same
    exact absurd rfl zero
  iterate 4
    next mark =>
      cases mark
      exact absurd low (by decide)
  next => rfl

theorem text?_encode {c d : Char} {cs : List Char} (first : Plain c) (second : Plain d) :
    text? (Text.Utf8.encode (c :: d :: cs)) = some ((c :: d :: cs).map .char) := by
  obtain ⟨a, one, codeA⟩ := encodeChar_of_plain first
  obtain ⟨b, one', codeB⟩ := encodeChar_of_plain second
  have bytes : Text.Utf8.encode (c :: d :: cs) = a :: b :: Text.Utf8.encode cs := by
    rw [Text.Utf8.encode_cons, Text.Utf8.encode_cons, one, one']
    rfl
  have utf8 : text? (a :: b :: Text.Utf8.encode cs) = _ :=
    text?_eq_decode? (codeA ▸ first.2) (codeA ▸ first.1) (codeB ▸ second.1)
  rw [bytes, utf8, ← bytes, Text.Utf8.decode?_encode]

/-! ## Whole documents -/

def Front (t : List Char) : Prop :=
  ∃ c u, t = c :: u ∧ Plain c

theorem Blank.front (blank : Blank w) (front : Front t) : Front (w ++ t) := by
  cases w with
  | nil => exact front
  | cons c w => exact ⟨c, w ++ t, rfl, plain_of_isSeparator (blank c List.mem_cons_self)⟩

theorem Front.append (front : Front t) (u : List Char) : Front (t ++ u) := by
  obtain ⟨c, v, rfl, plain⟩ := front
  exact ⟨c, v ++ u, rfl, plain⟩

theorem Begins.front (begins : Begins t) : Front t := by
  obtain ⟨c, mem, u, rfl⟩ := begins
  exact ⟨c, u, rfl, plain_of_mem_opening mem⟩

theorem Listed.front {α : Type} {S : α → List Char → Prop} {as : List α} (listed : Listed S as t)
    (begins : ∀ {a t}, S a t → Begins t) : Front t := by
  cases listed with
  | last blank text _ => exact blank.front ((begins text).front.append _)
  | more blank text _ _ => exact blank.front ((begins text).front.append _)

/-- Both characters at the front of an array are plain. -/
theorem ArrayText.front (text : ArrayText R v t)
    (begins : ∀ {v t}, R v t → Begins t) :
    ∃ u, t = '[' :: u ∧ Front u := by
  cases text with
  | empty blank => exact ⟨_, rfl, blank.front ⟨']', [], rfl, by decide, by decide⟩⟩
  | filled listed => exact ⟨_, rfl, (listed.front begins).append _⟩

theorem ArrayText.text?_eq (text : ArrayText R v t)
    (begins : ∀ {v t}, R v t → Begins t) (blank : Blank w) (w' : List Char) :
    text? (Text.Utf8.encode (w ++ (t ++ w'))) = some ((w ++ (t ++ w')).map .char) := by
  obtain ⟨u, rfl, front⟩ := text.front begins
  have bracket : Plain '[' := ⟨by decide, by decide⟩
  cases w with
  | nil =>
    obtain ⟨d, v, rest, plain⟩ := front.append w'
    rw [List.nil_append, List.cons_append, rest]
    exact text?_encode bracket plain
  | cons c w =>
    obtain ⟨here, later⟩ := List.forall_mem_cons.mp blank
    obtain ⟨d, v, rest, plain⟩ := Blank.front later ⟨'[', u ++ w', rfl, bracket⟩
    rw [List.cons_append, List.cons_append, rest]
    exact text?_encode (plain_of_isSeparator here) plain

theorem parse_of_reads (reads : Reads maxDepth v t) (blank : Blank w) (blank' : Blank w') :
    parse ((w ++ (t ++ w')).map .char) = .ok v := by
  have begun := skip_part reads.begins blank w' []
  have enough : t.length ≤ 2 * ((w ++ (t ++ w')).map Symbol.char).length + 2 := by
    simp only [List.length_map, List.length_append]
    omega
  have ended := skip_blank blank' []
  rw [List.append_nil] at begun ended
  rw [parse, begun, List.append_nil, reads.value_eq _ _ enough]
  exact if_pos ended

/-- An array is what its document holds, whatever blanks stand around it. -/
theorem ofBytes_encode (text : ArrayText R v t) (inner : ∀ {v t}, R v t → Reads (maxDepth - 1) v t)
    (blank : Blank w) (blank' : Blank w') :
    ofBytes (Text.Utf8.encode (w ++ (t ++ w'))) = .ok v := by
  rw [ofBytes, text.text?_eq (fun text => (inner text).begins) blank]
  exact parse_of_reads (text.reads inner) blank blank'

end Karaoke.Json
