import Karaoke.Proofs.Browser.Step
import Karaoke.Proofs.Playlists

/-!
# Lists and fetches of a message

A message brings news of at most one list and asks for at most one. What it asks for is fetched
exactly if it is not loaded by then.
-/

set_option autoImplicit false

namespace Karaoke

/-- What a message says of the load of a list, if it is about that list. -/
def Message.load? (m : Message) (name : String) : Option Load :=
  match m with
  | .listLoaded other members => if name = other then some (.loaded members) else none
  | .listFailed other _ | .listChanged other => if name = other then some .notLoaded else none
  | _ => none

theorem Message.load?_eq_loaded_iff {m : Message} {name : String} {members : NameSet} :
    m.load? name = some (.loaded members) ↔ m = .listLoaded name members := by
  cases m <;> simp [load?, eq_comm]

theorem Message.load?_eq_notLoaded_iff {m : Message} {name : String} :
    m.load? name = some .notLoaded ↔
      m = .listChanged name ∨ ∃ error, m = .listFailed name error := by
  cases m <;> simp [load?, eq_comm]

namespace Browser

/-- The lists that are fetched by some commands. -/
def fetched (commands : List Command) : List String :=
  commands.filterMap fun
    | .fetchList name => some name
    | _ => none

@[simp] theorem fetched_append (cs ds : List Command) :
    fetched (cs ++ ds) = fetched cs ++ fetched ds :=
  List.filterMap_append

theorem requestList_some (lists : Playlists) (name : String) :
    requestList lists (some name) =
      if lists.load name = .notLoaded then (lists.setLoad name .inProgress, [.fetchList name])
      else (lists, []) := by
  simp only [requestList, Playlists.request_eq]
  split <;> rfl

theorem load_requestList (lists : Playlists) (wanted : Option String) (name : String) :
    (requestList lists wanted).1.load name =
      if wanted = some name ∧ lists.load name = .notLoaded then .inProgress
      else lists.load name := by
  cases wanted with
  | none => simp [requestList]
  | some other =>
    simp only [requestList, Playlists.load_request, Option.some.injEq]
    grind

/-- Asking for a list makes no members known and forgets none. -/
theorem loaded_requestList_iff {lists : Playlists} {wanted : Option String} {name : String}
    {members : NameSet} :
    (requestList lists wanted).1.load name = .loaded members ↔
      lists.load name = .loaded members := by
  rw [load_requestList]
  split <;> simp_all

theorem fetched_requestList (lists : Playlists) (wanted : Option String) :
    fetched (requestList lists wanted).2 =
      (wanted.filter (fun name => lists.load name = .notLoaded)).toList := by
  cases wanted with
  | none => rfl
  | some name =>
    simp only [requestList, Playlists.request_fst, Option.filter_some]
    split <;> simp_all [fetched]

@[simp] theorem fetched_withoutTicks (commands : List Command) :
    fetched (withoutTicks commands) = fetched commands := by
  rw [fetched, withoutTicks, List.filterMap_filter]
  congr 1
  funext c
  cases c <;> rfl

theorem fetched_rechecks (b : Browser) (m : Message) : fetched (b.rechecks m) = [] := by
  rcases rechecks_cases b m with e | ⟨-, -, e⟩ <;> rw [e] <;> rfl

theorem update_lists (b : Browser) (m : Message) :
    (b.update m).1.lists = (requestList (b.received m).lists (b.asked m)).1 := by
  obtain ⟨ranking, dice, placeholder, e⟩ := update_state b m
  rw [e]

/-- Only news of a list changes its load, until it is asked for. -/
theorem load_received (b : Browser) (m : Message) (name : String) :
    (b.received m).lists.load name = (m.load? name).getD (b.lists.load name) := by
  cases m
  case indexLoaded names => exact Playlists.load_register b.lists names name
  case listLoaded | listFailed | listChanged =>
    simp only [received, Message.load?, Playlists.load_resolve, Playlists.load_fail,
      Playlists.load_invalidate]
    split <;> rfl
  all_goals simp only [received, Message.load?, Option.getD_none]

/-- Members come to be known by their arrival alone. -/
theorem loaded_update {b : Browser} {m : Message} {name : String} {members : NameSet}
    (h : (b.update m).1.lists.load name = .loaded members) :
    m = .listLoaded name members ∨ b.lists.load name = .loaded members := by
  rw [update_lists, loaded_requestList_iff, load_received] at h
  cases news : m.load? name with
  | none => exact .inr (by rwa [news] at h)
  | some load =>
    rw [news] at h
    cases h
    exact .inl (Message.load?_eq_loaded_iff.mp news)

theorem load_update_listLoaded (b : Browser) (name : String) (members : NameSet) :
    (b.update (.listLoaded name members)).1.lists.load name = .loaded members := by
  rw [update_lists, loaded_requestList_iff, load_received]
  simp [Message.load?]

theorem load_update_listChanged_ne (b : Browser) (name : String) (members : NameSet) :
    (b.update (.listChanged name)).1.lists.load name ≠ .loaded members := by
  rw [update_lists, Ne, loaded_requestList_iff, load_received]
  simp [Message.load?]

theorem fetched_update (b : Browser) (m : Message) :
    fetched (b.update m).2 =
      ((b.asked m).filter (fun name => (b.received m).lists.load name = .notLoaded)).toList := by
  have top : fetched (if b.recomputes m then [.scrollToTop] else []) = [] := by
    split <;> rfl
  rw [← fetched_withoutTicks, withoutTicks_update, fetched_append, fetched_append, top,
    fetched_requestList, fetched_rechecks, List.nil_append, List.append_nil]

theorem mem_fetched_update_iff {b : Browser} {m : Message} {name : String} :
    name ∈ fetched (b.update m).2 ↔
      b.asked m = some name ∧ (m.load? name).getD (b.lists.load name) = .notLoaded := by
  rw [fetched_update, Option.mem_toList, Option.filter_eq_some_iff, load_received,
    decide_eq_true_iff]

/-- A message starts at most one fetch. -/
theorem count_fetched_update (b : Browser) (m : Message) (name : String) :
    (fetched (b.update m).2).count name = if name ∈ fetched (b.update m).2 then 1 else 0 := by
  rw [fetched_update]
  cases (b.asked m).filter _ with
  | none => rfl
  | some other =>
    by_cases h : other = name
    · simp [h]
    · simp [h, Ne.symm h]

/-- A list is in progress once a fetch of it is started. Otherwise only news of it changes its
load. -/
theorem load_update (b : Browser) (m : Message) (name : String) :
    (b.update m).1.lists.load name =
      if name ∈ fetched (b.update m).2 then .inProgress
      else (m.load? name).getD (b.lists.load name) := by
  simp only [update_lists, load_requestList, load_received, mem_fetched_update_iff]

theorem load_update_listFailed (b : Browser) (name error : String) :
    (b.update (.listFailed name error)).1.lists.load name = .notLoaded := by
  rw [load_update, if_neg]
  · simp [Message.load?]
  · rw [mem_fetched_update_iff]
    simp [asked, recomputes]

/-- A list that is not loaded after a message was not asked for, and it was not loaded before or
the message told so. -/
theorem not_asked_of_notLoaded {b : Browser} {m : Message} {name : String}
    (h : (b.update m).1.lists.load name = .notLoaded) :
    b.asked m ≠ some name ∧ (m.load? name).getD (b.lists.load name) = .notLoaded := by
  rw [load_update] at h
  split at h
  · cases h
  · next unfetched => exact ⟨fun asked => unfetched (mem_fetched_update_iff.mpr ⟨asked, h⟩), h⟩

theorem asked_listChanged {b : Browser} {name : String} (wanted : b.parsed.list = some name) :
    b.asked (.listChanged name) = some name := by
  simp [asked, recomputes, wanted]

/-- What is asked for is what the query wants. -/
theorem wanted_of_asked {b : Browser} {m : Message} {name : String} (h : b.asked m = some name) :
    (b.update m).1.parsed.list = some name := by
  rw [parsed_update]
  cases recomputed : b.recomputes m with
  | true => rwa [asked_of_recomputes recomputed] at h
  | false =>
    rw [parsed_received_of_not_recomputes recomputed]
    cases m
    case listChanged other =>
      simp only [asked, recomputed, Bool.false_eq_true, if_false] at h
      split at h
      · next wanted => exact wanted.trans h
      · cases h
    all_goals simp [asked, recomputed] at h

/-- Members that arrive have nothing fetched: the only list that they could have asked for is the
one that they belong to. -/
theorem fetched_update_listLoaded (b : Browser) (name : String) (members : NameSet) :
    fetched (b.update (.listLoaded name members)).2 = [] := by
  apply List.eq_nil_iff_forall_not_mem.mpr
  intro other mem
  obtain ⟨asked, missing⟩ := mem_fetched_update_iff.mp mem
  cases recomputed : b.recomputes (.listLoaded name members) with
  | false => simp [Browser.asked, recomputed] at asked
  | true =>
    have wanted : b.parsed.list = some name := by simpa [recomputes] using recomputed
    rw [asked_of_recomputes recomputed] at asked
    have same : name = other := Option.some.inj (wanted.symm.trans asked)
    simp [Message.load?, same] at missing

end Browser

end Karaoke
