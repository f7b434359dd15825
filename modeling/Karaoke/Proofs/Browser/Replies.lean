import Karaoke.Proofs.Browser.Lists
import Karaoke.Proofs.Ranking.Visible

/-!
# Replies in any order

The answers to fetches that are under way together may come in any order. Two of them commute:
if one has nothing recomputed, it changes lists that the recomputing of the other does not look
at, and if both have the ranking recomputed, the second does it from what both have brought.
-/

set_option autoImplicit false

namespace Karaoke

/-- Whether two messages answer different fetches. The index of the lists may come many times. -/
def Message.Apart : Message → Message → Prop
  | .songsLoaded _, .songsLoaded _ => False
  | .listLoaded name _, .listLoaded other _ => name ≠ other
  | _, _ => True

theorem Message.Apart.symm {m m' : Message} (apart : m.Apart m') : m'.Apart m := by
  cases m <;> cases m'
  case listLoaded.listLoaded => exact Ne.symm apart
  all_goals exact apart

/-- What the answer to a fetch does to the lists. -/
def Message.relist : Message → Playlists → Playlists
  | .indexLoaded names, p => p.register names
  | .listLoaded name members, p => p.resolve name members
  | _, p => p

theorem Message.Apart.relist_comm {m m' : Message} (apart : m.Apart m') (p : Playlists) :
    m.relist (m'.relist p) = m'.relist (m.relist p) := by
  cases m <;> cases m'
  case listLoaded.listLoaded => exact p.setLoad_comm (Ne.symm apart) _ _
  case indexLoaded.indexLoaded => exact p.register_comm _ _
  case indexLoaded.listLoaded => exact p.register_setLoad _ _ _
  case listLoaded.indexLoaded => exact (p.register_setLoad _ _ _).symm
  all_goals rfl

/-- Whether a change of lists leaves one of them alone. -/
structure Playlists.Spares (f : Playlists → Playlists) (name : String) : Prop where
  load : ∀ p, (f p).load name = p.load name
  setLoad : ∀ p l, f (p.setLoad name l) = (f p).setLoad name l

theorem Message.spares_relist {m : Message} {name : String}
    (other : ∀ members, m ≠ .listLoaded name members) : Playlists.Spares m.relist name := by
  cases m
  case indexLoaded names =>
    exact ⟨fun p => p.load_register names name, fun p l => p.register_setLoad name names l⟩
  case listLoaded other' members =>
    have apart : name ≠ other' := by
      rintro rfl
      exact other members rfl
    constructor
    · intro p
      exact (p.load_resolve other' name members).trans (if_neg apart)
    · intro p l
      exact p.setLoad_comm apart l _
  all_goals exact ⟨fun _ => rfl, fun _ _ => rfl⟩

namespace Browser

/-- Whether a message may answer a fetch that is under way. -/
def Awaits (b : Browser) : Message → Prop
  | .songsLoaded _ | .indexLoaded _ => True
  | .listLoaded name _ => b.lists.load name = .inProgress
  | _ => False

def mapLists (f : Playlists → Playlists) (b : Browser) : Browser :=
  { b with lists := f b.lists }

variable {b c : Browser} {m m' : Message}

/-! ## One reply -/

theorem Awaits.parsed_update (awaits : b.Awaits m) : (b.update m).1.parsed = b.parsed := by
  rw [Browser.parsed_update]
  cases m
  case songsLoaded | indexLoaded | listLoaded => rfl
  all_goals exact awaits.elim

theorem Awaits.update (awaits : b.Awaits m) (awaits' : b.Awaits m') (apart : m.Apart m') :
    (b.update m).1.Awaits m' := by
  cases m'
  case songsLoaded | indexLoaded => trivial
  case listLoaded name members =>
    change (b.update m).1.lists.load name = .inProgress
    have silent : m.load? name = none := by
      cases m
      case listLoaded other members' => exact if_neg (Ne.symm apart)
      all_goals first | rfl | exact awaits.elim
    rw [load_update, silent]
    split
    · rfl
    · exact awaits'
  all_goals exact awaits'.elim

theorem Awaits.update_of_not_recomputes (awaits : b.Awaits m) (kept : b.recomputes m = false) :
    b.update m = (b.mapLists m.relist, []) := by
  cases m
  case songsLoaded => simp [recomputes] at kept
  case indexLoaded => rfl
  case listLoaded name members =>
    have unwanted : b.parsed.list ≠ some name := by simpa [recomputes] using kept
    simp only [Browser.update, listLoaded]
    exact if_neg unwanted
  all_goals exact awaits.elim

theorem spares_of_not_recomputes (kept : b.recomputes m = false) :
    ∀ name ∈ b.parsed.list, Playlists.Spares m.relist name := by
  intro name wanted
  apply Message.spares_relist
  rintro members rfl
  simp only [recomputes, decide_eq_false_iff_not] at kept
  exact kept wanted

theorem Awaits.received_mapLists (awaits : b.Awaits m) {f : Playlists → Playlists}
    (comm : ∀ p, m.relist (f p) = f (m.relist p)) :
    (b.mapLists f).received m = (b.received m).mapLists f := by
  cases m
  case songsLoaded => rfl
  case indexLoaded | listLoaded => exact congrArg (fun p => { b with lists := p }) (comm b.lists)
  all_goals exact awaits.elim

/-! ## Recomputing among other lists -/

theorem suggest_mapLists (f : Playlists → Playlists) (b : Browser) :
    (b.mapLists f).suggest = (b.suggest.1.mapLists f, b.suggest.2) := by
  have songs : (b.mapLists f).ranking.songs = b.ranking.songs := rfl
  unfold suggest
  rw [songs]
  split <;> rfl

theorem requestList_map {f : Playlists → Playlists} {wanted : Option String}
    (spares : ∀ name ∈ wanted, Playlists.Spares f name) (p : Playlists) :
    requestList (f p) wanted = (f (requestList p wanted).1, (requestList p wanted).2) := by
  cases wanted with
  | none => rfl
  | some name =>
    have spared := spares name rfl
    rw [requestList_some, requestList_some, spared.load]
    split
    · rw [spared.setLoad]
    · rfl

theorem found_mapLists {f : Playlists → Playlists}
    (spares : ∀ name ∈ b.parsed.list, Playlists.Spares f name) :
    (b.mapLists f).found = b.found.mapLists f := by
  have asked : requestList (f b.lists) b.parsed.list =
      (f (requestList b.lists b.parsed.list).1, (requestList b.lists b.parsed.list).2) :=
    requestList_map spares b.lists
  have same : ∀ name, b.parsed.list = some name →
      (f (requestList b.lists b.parsed.list).1).members? name =
        (requestList b.lists b.parsed.list).1.members? name := by
    intro name wanted
    apply Playlists.members?_congr
    intro members
    rw [(spares name wanted).load]
  have ranking : Ranking.ofQuery (f (requestList b.lists b.parsed.list).1) b.threshold b.parsed
      b.catalog = b.found.ranking := Ranking.ofQuery_congr same
  change { b with
    mode := .filtered
    shown := b.window
    lists := (requestList (f b.lists) b.parsed.list).1
    ranking := .ofQuery (requestList (f b.lists) b.parsed.list).1 b.threshold b.parsed b.catalog } =
      b.found.mapLists f
  rw [asked, ranking]
  rfl

theorem refresh_mapLists {f : Playlists → Playlists}
    (spares : ∀ name ∈ b.parsed.list, Playlists.Spares f name) :
    (b.mapLists f).refresh = (b.refresh.1.mapLists f, b.refresh.2) := by
  have query : (b.mapLists f).query = b.query := rfl
  cases h : modeOf b.query with
  | idle =>
    have drawn : (b.mapLists f).drawn = b.drawn.mapLists f := rfl
    rw [refresh_of_idle h, refresh_of_idle (query ▸ h), drawn, suggest_mapLists]
  | filtered =>
    have commands := congrArg Prod.snd (requestList_map spares b.lists)
    rw [refresh_of_filtered h, refresh_of_filtered (query ▸ h), found_mapLists spares]
    exact congrArg (fun cs => (b.found.mapLists f, .scrollToTop :: cs)) commands

theorem modeOf_of_wanted {name : String} (wanted : b.parsed.list = some name) :
    modeOf b.query = .filtered := by
  cases h : modeOf b.query with
  | idle =>
    rw [parsed_of_idle h] at wanted
    cases wanted
  | filtered => rfl

theorem refresh_of_asked {name : String} (wanted : b.parsed.list = some name)
    (asked : b.lists.load name ≠ .notLoaded) :
    b.refresh =
      ({ b with
          mode := .filtered
          shown := b.window
          ranking := .ofQuery b.lists b.threshold b.parsed b.catalog }, [.scrollToTop]) := by
  have unasked : requestList b.lists b.parsed.list = (b.lists, []) := by
    rw [wanted, requestList_some, if_neg asked]
  rw [refresh_of_filtered (modeOf_of_wanted wanted), found, unasked]

/-! ## Two replies -/

theorem Awaits.update_comm_of_not_recomputes (awaits : b.Awaits m) (awaits' : b.Awaits m')
    (apart : m.Apart m') (kept : b.recomputes m' = false) :
    (b.update m).1.update m' = (((b.update m').1.update m).1, []) ∧
      (b.update m').2 = [] ∧ ((b.update m').1.update m).2 = (b.update m).2 := by
  have first := awaits'.update_of_not_recomputes kept
  have kept' : (b.update m).1.recomputes m' = false := by
    rw [recomputes_congr awaits.parsed_update, kept]
  have second := (awaits.update awaits' apart).update_of_not_recomputes kept'
  have still : (b.mapLists m'.relist).Awaits m := by
    have after := awaits'.update awaits apart.symm
    rwa [first] at after
  rw [first, second]
  suffices swapped : (b.mapLists m'.relist).update m =
      ((b.update m).1.mapLists m'.relist, (b.update m).2) by
    rw [swapped]
    exact ⟨rfl, rfl, rfl⟩
  cases h : b.recomputes m with
  | false =>
    rw [awaits.update_of_not_recomputes h, still.update_of_not_recomputes h]
    have lists := apart.relist_comm b.lists
    exact congrArg (fun p => ({ b with lists := p }, [])) lists
  | true =>
    have unshuffled : m ≠ .shuffle := by
      rintro rfl
      exact awaits.elim
    have spares := spares_of_not_recomputes kept
    have same : (b.received m).parsed = b.parsed := by
      rw [← Browser.parsed_update, awaits.parsed_update]
    rw [← same] at spares
    rw [update_eq_refresh h unshuffled, update_eq_refresh (b := b.mapLists m'.relist) h unshuffled,
      awaits.received_mapLists apart.relist_comm, refresh_mapLists spares]

/-- The songs and the members of the wanted list both have the ranking recomputed, and nothing is
fetched for either. -/
theorem update_songsLoaded_listLoaded {songs : List Song} {name : String} {members : NameSet}
    (wanted : b.parsed.list = some name) (asked : b.lists.load name = .inProgress) :
    ((b.update (.songsLoaded songs)).1.update (.listLoaded name members) =
      ((b.update (.listLoaded name members)).1.update (.songsLoaded songs))) ∧
      (b.update (.songsLoaded songs)).2 = [.scrollToTop] ∧
      (b.update (.listLoaded name members)).2 = [.scrollToTop] := by
  have progress : b.lists.load name ≠ .notLoaded := by simp [asked]
  have here : (b.lists.resolve name members).load name ≠ .notLoaded := by simp
  have songsFirst : b.update (.songsLoaded songs) = _ :=
    refresh_of_asked (b := { b with catalog := songs }) wanted progress
  have listFirst : b.update (.listLoaded name members) = _ :=
    (if_pos wanted).trans
      (refresh_of_asked (b := { b with lists := b.lists.resolve name members }) wanted here)
  rw [songsFirst, listFirst]
  refine ⟨?_, rfl, rfl⟩
  have songsLast := refresh_of_asked (b := { b with
    catalog := songs
    lists := b.lists.resolve name members
    mode := .filtered
    shown := b.window
    ranking := .ofQuery (b.lists.resolve name members) b.threshold b.parsed b.catalog }) wanted here
  have listLast := refresh_of_asked (b := { b with
    catalog := songs
    lists := b.lists.resolve name members
    mode := .filtered
    shown := b.window
    ranking := .ofQuery b.lists b.threshold b.parsed songs }) wanted here
  exact ((if_pos wanted).trans listLast).trans songsLast.symm

theorem Awaits.cases_of_recomputes (awaits : b.Awaits m) (h : b.recomputes m = true) :
    (∃ songs, m = .songsLoaded songs) ∨
      ∃ name members, m = .listLoaded name members ∧ b.parsed.list = some name := by
  cases m
  case songsLoaded songs => exact .inl ⟨songs, rfl⟩
  case indexLoaded => simp [recomputes] at h
  case listLoaded name members => exact .inr ⟨name, members, rfl, by simpa [recomputes] using h⟩
  all_goals exact awaits.elim

/-- Two replies lead to the same state in either order, and to the same commands. -/
theorem Awaits.update_comm (awaits : b.Awaits m) (awaits' : b.Awaits m') (apart : m.Apart m') :
    ((b.update m).1.update m').1 = ((b.update m').1.update m).1 ∧
      ((b.update m).2 ++ ((b.update m).1.update m').2).Perm
        ((b.update m').2 ++ ((b.update m').1.update m).2) := by
  cases h' : b.recomputes m' with
  | false =>
    obtain ⟨state, commands, more⟩ := awaits.update_comm_of_not_recomputes awaits' apart h'
    rw [state, commands, more, List.append_nil]
    exact ⟨rfl, .refl _⟩
  | true =>
    cases h : b.recomputes m with
    | false =>
      obtain ⟨state, commands, more⟩ :=
        awaits'.update_comm_of_not_recomputes awaits apart.symm h
      rw [state, commands, more, List.append_nil]
      exact ⟨rfl, .refl _⟩
    | true =>
      rcases awaits.cases_of_recomputes h with ⟨songs, rfl⟩ | ⟨name, members, rfl, wanted⟩
      · rcases awaits'.cases_of_recomputes h' with ⟨songs', rfl⟩ | ⟨name, members, rfl, wanted⟩
        · exact apart.elim
        · obtain ⟨same, first, second⟩ := update_songsLoaded_listLoaded wanted awaits'
          rw [same, first, second]
          exact ⟨rfl, .refl _⟩
      · rcases awaits'.cases_of_recomputes h' with ⟨songs, rfl⟩ | ⟨other, members', rfl, wanted'⟩
        · obtain ⟨same, first, second⟩ := update_songsLoaded_listLoaded wanted awaits
          rw [same, first, second]
          exact ⟨rfl, .refl _⟩
        · exact absurd (Option.some.inj (wanted.symm.trans wanted')) apart

/-! ## All replies -/

/-- Replies to different fetches that are under way together, any number of them, lead to the same
state in every order, and to the same commands up to their order. -/
theorem run_eq_of_perm (b : Browser) {ms ms' : List Message} (perm : ms.Perm ms')
    (awaits : ∀ m ∈ ms, b.Awaits m) (apart : ms.Pairwise Message.Apart) :
    b.run ms = b.run ms' ∧ (b.outputs ms).Perm (b.outputs ms') := by
  induction perm generalizing b with
  | nil => exact ⟨rfl, .refl _⟩
  | @cons m ms ms' perm ih =>
    obtain ⟨here, later⟩ := List.pairwise_cons.mp apart
    have still : ∀ m' ∈ ms, (b.update m).1.Awaits m' := by
      intro m' mem
      exact (awaits m List.mem_cons_self).update (awaits m' (List.mem_cons_of_mem m mem))
        (here m' mem)
    obtain ⟨state, commands⟩ := ih (b.update m).1 still later
    exact ⟨state, commands.append_left _⟩
  | swap m m' ms =>
    obtain ⟨here, -⟩ := List.pairwise_cons.mp apart
    have awaits' : b.Awaits m' := awaits m' List.mem_cons_self
    have awaits : b.Awaits m := awaits m (List.mem_cons_of_mem m' List.mem_cons_self)
    obtain ⟨state, commands⟩ := awaits'.update_comm awaits (here m List.mem_cons_self)
    rw [run_cons, run_cons, run_cons, run_cons, outputs, outputs, outputs, outputs, state,
      ← List.append_assoc, ← List.append_assoc]
    exact ⟨rfl, commands.append_right _⟩
  | @trans ms ms' ms'' perm _ ih ih' =>
    have awaits' : ∀ m ∈ ms', b.Awaits m := fun m mem => awaits m (perm.mem_iff.mpr mem)
    have apart' : ms'.Pairwise Message.Apart := (perm.pairwise_iff Message.Apart.symm).mp apart
    obtain ⟨state, commands⟩ := ih b awaits apart
    obtain ⟨state', commands'⟩ := ih' b awaits' apart'
    exact ⟨state.trans state', commands.trans commands'⟩

/-- The members of the wanted list, the songs and the index of the lists, and the same backwards. -/
theorem run_eq_of_reverse :
    let b := (new { roll := fun _ _ => 0 }).run [.search "list:Fans"]
    let song : Song := { title := "Wonderwall", artist := "Oasis", hash := "a" }
    let ms := [.listLoaded "Fans" (.ofList ["a"]), .songsLoaded [song], .indexLoaded ["Party"]]
    (∀ m ∈ ms, b.Awaits m) ∧ ms.Pairwise Message.Apart ∧ (b.run ms).ranking.songs = [song] ∧
      b.run ms = b.run ms.reverse ∧ (b.outputs ms).Perm (b.outputs ms.reverse) := by
  intro b song ms
  have awaits : ∀ m ∈ ms, b.Awaits m := by
    intro m mem
    simp only [ms, List.mem_cons, List.not_mem_nil, or_false] at mem
    rcases mem with rfl | rfl | rfl
    · exact (by decide +kernel : b.lists.load "Fans" = .inProgress)
    · trivial
    · trivial
  have apart : ms.Pairwise Message.Apart := by simp [ms, Message.Apart]
  exact ⟨awaits, apart, by decide +kernel,
    run_eq_of_perm b ms.reverse_perm.symm awaits apart⟩

end Browser

end Karaoke
