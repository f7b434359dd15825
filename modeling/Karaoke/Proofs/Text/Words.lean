import Karaoke.Query

/-!
# Words

A text is cut into words at its blanks and nowhere else. No blank reaches a word, every other
character does, and words that are written with single spaces are read back as they were.
-/

set_option autoImplicit false

namespace Karaoke.Text

/-- A text that is read as a single word. -/
def IsWord (w : List Char) : Prop :=
  w ≠ [] ∧ ∀ c ∈ w, isBlank c = false

theorem false_of_mem_splitOnP {α : Type} {p : α → Bool} {cs w : List α}
    (h : w ∈ cs.splitOnP p) : ∀ c ∈ w, p c = false := by
  induction cs generalizing w with
  | nil => simp_all
  | cons x cs ih =>
    rw [List.splitOnP_cons_eq_if_modifyHead] at h
    split at h
    case isTrue =>
      rcases List.mem_cons.mp h with rfl | h
      · simp
      · exact ih h
    case isFalse hx =>
      obtain ⟨first, others, e⟩ := List.exists_cons_of_ne_nil (List.splitOnP_ne_nil p cs)
      rw [e] at h ih
      rcases List.mem_cons.mp h with rfl | h
      · exact List.forall_mem_cons.mpr ⟨by simpa using hx, ih List.mem_cons_self⟩
      · exact ih (List.mem_cons_of_mem _ h)

theorem flatten_splitOnP {α : Type} (p : α → Bool) (cs : List α) :
    (cs.splitOnP p).flatten = cs.filter (!p ·) := by
  induction cs with
  | nil => rfl
  | cons x cs ih =>
    rw [List.splitOnP_cons_eq_if_modifyHead]
    split
    case isTrue hx => simp [hx, ih]
    case isFalse hx =>
      obtain ⟨first, others, e⟩ := List.exists_cons_of_ne_nil (List.splitOnP_ne_nil p cs)
      rw [e] at ih ⊢
      simp [hx, ← ih]

theorem isWord_of_mem_words {cs w : List Char} (h : w ∈ words cs) : IsWord w := by
  obtain ⟨hw, hne⟩ := List.mem_filter.mp h
  exact ⟨by simpa using hne, false_of_mem_splitOnP hw⟩

/-- The words hold every character that is no blank, in order. -/
theorem flatten_words (cs : List Char) : (words cs).flatten = cs.filter (!isBlank ·) := by
  rw [words, List.flatten_filter_not_isEmpty, flatten_splitOnP]

theorem words_eq_nil_iff {cs : List Char} : words cs = [] ↔ ∀ c ∈ cs, isBlank c = true := by
  have nonempty : words cs = [] ↔ (words cs).flatten = [] := by
    refine ⟨fun h => by rw [h]; rfl, fun h => List.eq_nil_iff_forall_not_mem.mpr fun w hw => ?_⟩
    exact (isWord_of_mem_words hw).1 (List.flatten_eq_nil_iff.mp h w hw)
  rw [nonempty, flatten_words]
  simp

theorem hasWord_iff {cs : List Char} : hasWord cs = true ↔ words cs ≠ [] := by
  simp [hasWord, words_eq_nil_iff]

/-- A blank parts the words before it from those after it. -/
theorem words_append_blank {c : Char} (hc : isBlank c = true) (cs ds : List Char) :
    words (cs ++ c :: ds) = words cs ++ words ds := by
  rw [words, List.splitOnP_append_cons cs ds hc, List.filter_append, ← words, ← words]

theorem words_of_isWord {w : List Char} (h : IsWord w) : words w = [w] := by
  rw [words, List.splitOnP_eq_singleton h.2]
  simpa using h.1

end Karaoke.Text

namespace Karaoke.Query

open Text

@[simp] theorem join_nil : join [] = [] := rfl

@[simp] theorem join_singleton (w : List Char) : join [w] = w :=
  List.intercalate_singleton

theorem join_cons_cons (v w : List Char) (ws : List (List Char)) :
    join (v :: w :: ws) = v ++ ' ' :: join (w :: ws) := by
  simp [join, List.intercalate_cons_cons]

/-- The words of texts with spaces between them are the words of each. -/
theorem words_join (ts : List (List Char)) : words (join ts) = ts.flatMap words := by
  induction ts with
  | nil => rfl
  | cons t ts ih =>
    cases ts with
    | nil => simp
    | cons u ts =>
      have space : isBlank ' ' = true := by decide
      rw [join_cons_cons, words_append_blank space, ih]
      rfl

theorem words_join_of_isWord {ws : List (List Char)} (h : ∀ w ∈ ws, IsWord w) :
    words (join ws) = ws := by
  rw [words_join]
  induction ws with
  | nil => rfl
  | cons w ws ih =>
    obtain ⟨hw, hws⟩ := List.forall_mem_cons.mp h
    rw [List.flatMap_cons, words_of_isWord hw, ih hws, List.singleton_append]

end Karaoke.Query
