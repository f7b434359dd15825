import Karaoke.Http.Exchange
import Karaoke.Proofs.Text.Fold
import Mathlib.Data.List.DropRight
import Mathlib.Data.List.TakeWhile

/-!
# Content types by name

The name of a media type does not depend on the case of its letters, on the spaces around it or on
the parameters behind it. What bears a given name is described without looking for it: some text of
that name in letters of either case, spaces on both sides, and parameters from a semicolon on.
-/

set_option autoImplicit false

namespace Karaoke

namespace Text

variable {p : Char → Bool} {cs before after : List Char}

theorem strip_eq_rdropWhile (p : Char → Bool) (cs : List Char) :
    strip p cs = (cs.dropWhile p).rdropWhile p :=
  rfl

/-- A text is what is left of it between what is taken away from its two ends. -/
theorem exists_eq_append_strip (p : Char → Bool) (cs : List Char) :
    ∃ before after, cs = before ++ (strip p cs ++ after) ∧ (∀ c ∈ before, p c = true) ∧
      ∀ c ∈ after, p c = true := by
  refine ⟨cs.takeWhile p, (cs.dropWhile p).rtakeWhile p, ?_, fun c => List.mem_takeWhile_imp,
    fun c => List.mem_rtakeWhile_imp⟩
  rw [strip_eq_rdropWhile, List.rdropWhile_append_rtakeWhile, List.takeWhile_append_dropWhile]

theorem dropWhile_eq_self_of_none (none : ∀ c ∈ cs, p c = false) : cs.dropWhile p = cs := by
  cases cs with
  | nil => rfl
  | cons c cs => exact List.dropWhile_cons_of_neg (by simp [none c List.mem_cons_self])

theorem strip_append (none : ∀ c ∈ cs, p c = false) (some : cs ≠ [])
    (left : ∀ c ∈ before, p c = true) (right : ∀ c ∈ after, p c = true) :
    strip p (before ++ (cs ++ after)) = cs := by
  have front : (cs ++ after).dropWhile p = cs ++ after := by
    obtain ⟨c, rest, rfl⟩ := List.exists_cons_of_ne_nil some
    exact List.dropWhile_cons_of_neg (by simp [none c List.mem_cons_self])
  have back : ∀ c ∈ after.reverse, p c = true := fun c mem => right c (List.mem_reverse.mp mem)
  have kept : ∀ c ∈ cs.reverse, p c = false := fun c mem => none c (List.mem_reverse.mp mem)
  rw [strip, List.dropWhile_append_of_pos left, front, List.reverse_append,
    List.dropWhile_append_of_pos back, dropWhile_eq_self_of_none kept, List.reverse_reverse]

end Text

namespace Http

namespace MediaType

open Text (isSpace)

/-- Whether a content type bears a name: in letters of either case, with spaces around it and
parameters behind it. -/
def Bears (kind raw : List Char) : Prop :=
  ∃ before name after parameters, raw = before ++ (name ++ after) ++ parameters ∧
    name.map Char.toLower = kind ∧ (∀ c ∈ before, isSpace c = true) ∧
    (∀ c ∈ after, isSpace c = true) ∧ (parameters = [] ∨ parameters.head? = some ';')

/-- Whether a name has neither spaces nor semicolons, which could not be told from those around
it. -/
def Solid (kind : List Char) : Prop :=
  kind ≠ [] ∧ ∀ c ∈ kind, isSpace c = false ∧ c ≠ ';'

instance (kind : List Char) : Decidable (Solid kind) :=
  have : Decidable (∀ c ∈ kind, isSpace c = false ∧ c ≠ ';') := List.decidableBAll _ kind
  inferInstanceAs (Decidable (_ ∧ _))

theorem Solid.of_lower {kind name : List Char} (solid : Solid kind)
    (lower : name.map Char.toLower = kind) : Solid name := by
  obtain ⟨some, plain⟩ := solid
  subst lower
  rw [List.forall_mem_map] at plain
  refine ⟨fun empty => some (congrArg _ empty), fun c mem => ⟨?_, ?_⟩⟩
  · rw [← Text.isSpace_toLower]
    exact (plain c mem).1
  · rintro rfl
    exact (plain ';' mem).2 rfl

theorem name_eq_iff {kind raw : List Char} (solid : Solid kind) :
    name raw = kind ↔ Bears kind raw := by
  constructor
  · intro named
    obtain ⟨before, after, parted, left, right⟩ :=
      Text.exists_eq_append_strip isSpace (raw.takeWhile (· != ';'))
    refine ⟨before, _, after, raw.dropWhile (· != ';'), ?_, named, left, right, ?_⟩
    · rw [Text.trim, ← parted, List.takeWhile_append_dropWhile]
    · cases rest : raw.dropWhile (· != ';') with
      | nil => exact .inl rfl
      | cons c rest' =>
        right
        have stopped := List.head?_dropWhile_not (· != ';') raw
        simpa [rest] using stopped
  · rintro ⟨before, written, after, parameters, rfl, lower, left, right, semicolon⟩
    obtain ⟨some, plain⟩ := solid.of_lower lower
    have spaces : ∀ c, isSpace c = true → (c != ';') = true := by
      rintro c space
      rw [bne_iff_ne]
      rintro rfl
      revert space
      decide
    have inside : ∀ c ∈ before ++ (written ++ after), (c != ';') = true := by
      intro c mem
      rw [List.mem_append, List.mem_append] at mem
      rcases mem with mem | mem | mem
      · exact spaces c (left c mem)
      · exact bne_iff_ne.mpr (plain c mem).2
      · exact spaces c (right c mem)
    have outside : parameters.takeWhile (· != ';') = [] := by
      cases parameters with
      | nil => rfl
      | cons c rest =>
        obtain rfl : c = ';' := by simpa using semicolon
        rfl
    rw [name, List.takeWhile_append_of_pos inside, outside, List.append_nil, Text.trim,
      Text.strip_append (fun c mem => (plain c mem).1) some left right, lower]

theorem charset_of_plain [Text.Charsets] {raw name : List Char}
    (named : parameter? "charset".toList raw = .ok (some (.plain name)))
    (ascii : name.all (·.toNat < 0x80) = true) :
    charset raw = Text.Charset.ofName (name.map Char.toLower) := by
  rw [charset, named]
  exact if_pos ascii

end MediaType

/-- Whether a response says that its body is of a kind. -/
def Response.HasType (r : Response) (kind : String) : Prop :=
  ∃ raw, r.rawContentType? = some raw ∧ MediaType.Bears kind.toList raw.toList

theorem Response.mediaType?_eq_some_iff {r : Response} {kind : String}
    (solid : MediaType.Solid kind.toList) : r.mediaType? = some kind ↔ r.HasType kind := by
  rw [mediaType?, Option.map_eq_some_iff]
  refine exists_congr fun raw => and_congr_right fun _ => ?_
  rw [← MediaType.name_eq_iff solid]
  constructor
  · rintro rfl
    exact String.toList_ofList.symm
  · intro same
    rw [same, String.ofList_toList]

end Http

end Karaoke
