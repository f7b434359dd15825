import Karaoke.Catalog.Client
import Karaoke.Proofs.Http.MediaType
import Karaoke.Proofs.Http.Redirect
import Karaoke.Text.Charset.Codec
import Mathlib.Data.List.Forall2

/-!
# What fetches tell

A fetch tells what came of its request if it gives a value or an error of a category of its own. It
tells of all responses and of all faults of the exchange. A fault of another kind is passed on, and
so is a body that cannot be read: a table in a character set that fails on it, or a document that
nests too deeply.

A value is told of a success that holds rows, and holds all of them: reading stops at the first row
that cannot be read.
-/

set_option autoImplicit false

namespace Karaoke.Catalog

open Json (Value)

/-- The client that the settings give if nothing is set. -/
def Client.ofDefaults : Client where
  agent :=
    { base := ⟨"http".toList, [], "127.0.0.1".toList, some 8080, [], none, none⟩
      accept := accepted }
  cookie := none

theorem Client.new_defaults : Client.new {} = .ok .ofDefaults := rfl

variable {α β ε : Type} {path : String} {o : Http.Outcome} {r : Http.Response} {vs : List Value}

/-! ## Failures that are passed on -/

/-- Whether a result is a failure that is passed on instead of an error of the catalog. -/
def isPassedOn {α : Type} : Except Failure α → Bool
  | .error (.fault _) | .error (.unreadable _) | .error (.tooDeep _) => true
  | .error (.fetch _) | .ok _ => false

theorem isPassedOn_map {α β : Type} (f : α → β) (x : Except Failure α) :
    isPassedOn (x.map f) = isPassedOn x := by
  cases x with
  | ok a => rfl
  | error e => cases e <;> rfl

theorem isPassedOn_jsonRows_iff {r : Http.Response} :
    isPassedOn (jsonRows r) = true ↔ ∃ k, Json.ofBytes r.body = .error (.tooDeep k) := by
  unfold jsonRows
  split <;> simp_all [isPassedOn]

/-! ## Categories -/

/-- Whether a result is a value or an error of a category of its own. -/
def IsTold : Except Failure α → Prop
  | .ok _ => True
  | .error (.fetch e) => e.category ≠ .unknown
  | .error (.fault _) | .error (.unreadable _) | .error (.tooDeep _) => False

/-- Whether an error of the catalog, if a result is one, has a category of its own. -/
def Founded (x : Except Failure α) : Prop :=
  ∀ e, x = .error (.fetch e) → e.category ≠ .unknown

theorem isTold_iff {x : Except Failure α} (founded : Founded x) :
    IsTold x ↔ isPassedOn x = false := by
  cases x with
  | ok a => simp [IsTold, isPassedOn]
  | error f =>
    cases f with
    | fetch e => simpa [IsTold, isPassedOn] using founded e rfl
    | fault f => simp [IsTold, isPassedOn]
    | unreadable f => simp [IsTold, isPassedOn]
    | tooDeep k => simp [IsTold, isPassedOn]

theorem isTold_map (f : α → β) (x : Except Failure α) : IsTold (x.map f) ↔ IsTold x := by
  cases x with
  | ok a => rfl
  | error e => cases e <;> rfl

theorem category_status (code : Int) (reason : String) :
    (FetchError.status code reason).category ≠ .unknown := by
  rw [FetchError.category]
  split
  · decide
  · split <;> decide

theorem founded_success : Founded (success path o) := by
  intro e failed
  unfold success at failed
  split at failed
  · split at failed <;> cases failed
    simp [FetchError.category]
  · split at failed <;> cases failed
    exact category_status _ _

theorem founded_jsonRows : Founded (jsonRows r) := by
  intro e failed
  unfold jsonRows at failed
  split at failed <;> cases failed <;> simp [FetchError.category]

/-! ## Rows that are read one by one -/

theorem mapM_eq_ok_iff {f : α → Except ε β} {as : List α} {bs : List β} :
    as.mapM f = .ok bs ↔ List.Forall₂ (fun a b => f a = .ok b) as bs := by
  induction as generalizing bs with
  | nil => simp [pure, Except.pure, eq_comm]
  | cons a as ih =>
    rw [List.mapM_cons, List.forall₂_cons_left_iff]
    cases here : f a with
    | error e => simp [bind, Except.bind]
    | ok b =>
      cases rest : as.mapM f with
      | error e => simp [bind, Except.bind, ← ih, rest]
      | ok bs' => simp [bind, Except.bind, pure, Except.pure, ← ih, rest, eq_comm]

theorem exists_of_mem {R : α → β → Prop} {as : List α} {bs : List β} {a : α}
    (each : List.Forall₂ R as bs) (mem : a ∈ as) : ∃ b ∈ bs, R a b := by
  induction each with
  | nil => cases mem
  | @cons a' b as bs here _ ih =>
    rcases List.mem_cons.mp mem with rfl | mem
    · exact ⟨b, List.mem_cons_self, here⟩
    · obtain ⟨b', mem, there⟩ := ih mem
      exact ⟨b', List.mem_cons_of_mem b mem, there⟩

theorem exists_of_mapM_eq_error {f : α → Except ε β} {as : List α} {e : ε}
    (failed : as.mapM f = .error e) : ∃ a ∈ as, f a = .error e := by
  induction as with
  | nil => cases failed
  | cons a as ih =>
    rw [List.mapM_cons] at failed
    cases here : f a with
    | error e' =>
      rw [here] at failed
      cases failed
      exact ⟨a, List.mem_cons_self, here⟩
    | ok b =>
      cases rest : as.mapM f with
      | error e' =>
        simp only [here, rest, bind, Except.bind, Except.error.injEq] at failed
        obtain ⟨a', mem, failed'⟩ := ih (failed ▸ rest)
        exact ⟨a', List.mem_cons_of_mem a mem, failed'⟩
      | ok bs => simp [here, rest, bind, Except.bind, pure, Except.pure] at failed

theorem category_of_songs {vs : List Value} {e : FetchError} (failed : songs vs = .error e) :
    e.category ≠ .unknown := by
  unfold songs at failed
  split at failed <;> cases failed
  simp [FetchError.category]

theorem category_of_name {v : Value} {e : FetchError} (failed : name v = .error e) :
    e.category ≠ .unknown := by
  unfold name at failed
  split at failed <;> cases failed <;> simp [FetchError.category]

theorem category_of_names {vs : List Value} {e : FetchError} (failed : names vs = .error e) :
    e.category ≠ .unknown := by
  obtain ⟨v, -, failed⟩ := exists_of_mapM_eq_error failed
  exact category_of_name failed

theorem songs_eq_ok_iff {ss : List Song} :
    songs vs = .ok ss ↔ List.Forall₂ (fun v s => Song.ofValue v = .ok s) vs ss := by
  rw [← mapM_eq_ok_iff, ← Song.ofValues, songs]
  split <;> simp_all

theorem jsonRows_eq_ok_iff : jsonRows r = .ok vs ↔ Json.ofBytes r.body = .ok (.array vs) := by
  unfold jsonRows
  split <;> simp_all

theorem solid_csv : Http.MediaType.Solid "text/csv".toList := by
  decide +kernel

theorem solid_json : Http.MediaType.Solid "application/json".toList := by
  decide +kernel

section Readings

variable [Text.Charsets]

/-! ## Outcomes that are passed on -/

/-- An outcome that the catalog has no error for. -/
inductive Unreported : Http.Outcome → Prop
  | fault {f : Http.Fault} : f.isOfExchange = false → Unreported (.fault f)
  | unreadable {r : Http.Response} {f : Text.Charset.Fault} : Http.isSuccess r.status = true →
      r.mediaType? = some "text/csv" → r.text = .error f → Unreported (.response r)
  | tooDeep {r : Http.Response} {k : Json.Kind} : Http.isSuccess r.status = true →
      r.mediaType? = some "application/json" → Json.ofBytes r.body = .error (.tooDeep k) →
      Unreported (.response r)

theorem isPassedOn_csvRows_iff {r : Http.Response} :
    isPassedOn (csvRows r) = true ↔ ∃ f, r.text = .error f := by
  unfold csvRows
  split
  · next f unread => simp [unread, isPassedOn]
  · next text read => split <;> simp [read, isPassedOn]

theorem isPassedOn_rows_iff {r : Http.Response} :
    isPassedOn (rows r) = true ↔
      (r.mediaType? = some "text/csv" ∧ ∃ f, r.text = .error f) ∨
        (r.mediaType? = some "application/json" ∧
          ∃ k, Json.ofBytes r.body = .error (.tooDeep k)) := by
  rw [← isPassedOn_csvRows_iff, ← isPassedOn_jsonRows_iff]
  unfold rows
  split
  · next csv => simp [csv]
  · next other =>
    split
    · next json => simp [json]
    · next neither => simp [other, neither, isPassedOn]

theorem success_bind_rows (succeeded : Http.isSuccess r.status = true) :
    (success path (.response r) >>= rows) = rows r := by
  simp [success, succeeded, bind, Except.bind]

theorem isPassedOn_fetched_iff {α : Type} {path : String}
    {read : List Json.Value → Except FetchError α} {o : Http.Outcome} :
    isPassedOn (fetched path read o) = true ↔ Unreported o := by
  -- What the rows hold is of no matter: reading them gives errors of the catalog only.
  have unread : isPassedOn (fetched path read o) = isPassedOn (success path o >>= rows) := by
    unfold fetched
    split
    · next f failed =>
      rw [failed]
      cases f <;> rfl
    · next found =>
      rw [found]
      cases read _ <;> rfl
  rw [unread]
  cases o with
  | fault f =>
    unfold success
    constructor
    · intro passed
      cases ofExchange : f.isOfExchange with
      | false => exact .fault ofExchange
      | true => simp [ofExchange, bind, Except.bind, isPassedOn] at passed
    · rintro ⟨other⟩
      simp [other, bind, Except.bind, isPassedOn]
  | response r =>
    cases succeeded : Http.isSuccess r.status with
    | false =>
      constructor
      · intro passed
        simp [success, succeeded, bind, Except.bind, isPassedOn] at passed
      · rintro (_ | ⟨success, -, -⟩ | ⟨success, -, -⟩) <;>
          exact absurd (succeeded.symm.trans success) Bool.false_ne_true
    | true =>
      rw [success_bind_rows succeeded, isPassedOn_rows_iff]
      constructor
      · rintro (⟨csv, f, unread⟩ | ⟨json, k, deep⟩)
        · exact .unreadable succeeded csv unread
        · exact .tooDeep succeeded json deep
      · rintro (_ | ⟨-, csv, unread⟩ | ⟨-, json, deep⟩)
        · exact .inl ⟨csv, _, unread⟩
        · exact .inr ⟨json, _, deep⟩

theorem founded_csvRows : Founded (csvRows r) := by
  intro e failed
  unfold csvRows at failed
  split at failed
  · cases failed
  · split at failed <;> cases failed
    decide

theorem founded_rows : Founded (rows r) := by
  unfold rows
  split
  · exact founded_csvRows
  · split
    · exact founded_jsonRows
    · intro e failed
      cases failed
      simp [FetchError.category]

theorem founded_fetched {read : List Value → Except FetchError α}
    (payload : ∀ vs e, read vs = .error e → e.category ≠ .unknown) :
    Founded (fetched path read o) := by
  intro e failed
  unfold fetched at failed
  split at failed
  · next f early =>
    cases failed
    cases found : success path o with
    | error g =>
      rw [found] at early
      cases early
      exact founded_success e found
    | ok r =>
      rw [found] at early
      exact founded_rows e early
  · next vs _ =>
    cases result : read vs with
    | ok a =>
      rw [result] at failed
      cases failed
    | error g =>
      rw [result] at failed
      cases failed
      exact payload vs e result

theorem isTold_fetched_iff {read : List Value → Except FetchError α}
    (payload : ∀ vs e, read vs = .error e → e.category ≠ .unknown) :
    IsTold (fetched path read o) ↔ ¬ Unreported o := by
  rw [isTold_iff (founded_fetched payload), ← Bool.not_eq_true, isPassedOn_fetched_iff]

theorem isTold_fetchSongs_iff : IsTold (fetchSongs o) ↔ ¬ Unreported o :=
  isTold_fetched_iff fun _ _ => category_of_songs

theorem isTold_fetchIndex_iff : IsTold (fetchIndex o) ↔ ¬ Unreported o :=
  isTold_fetched_iff fun _ _ => category_of_names

theorem isTold_fetchList_iff {list : String} : IsTold (fetchList list o) ↔ ¬ Unreported o := by
  rw [fetchList, isTold_map, isTold_fetched_iff fun _ _ => category_of_names]

/-- Whether the body of a response can be read as its type says: a table has a text, and an array
does not nest too deeply. -/
structure Readable (r : Http.Response) : Prop where
  table : r.HasType "text/csv" → ∃ text, r.text = .ok text
  array : r.HasType "application/json" → ∀ k, Json.ofBytes r.body ≠ .error (.tooDeep k)

theorem unreported_iff_of_readable
    (readable : ∀ r, o = .response r → Http.isSuccess r.status = true → Readable r) :
    Unreported o ↔ o.isOfExchange = false := by
  constructor
  · rintro (⟨other⟩ | ⟨succeeded, csv, unread⟩ | ⟨succeeded, json, deep⟩)
    · exact other
    · have type := (Http.Response.mediaType?_eq_some_iff solid_csv).mp csv
      obtain ⟨text, read⟩ := (readable _ rfl succeeded).table type
      cases unread.symm.trans read
    · have type := (Http.Response.mediaType?_eq_some_iff solid_json).mp json
      exact absurd deep ((readable _ rfl succeeded).array type _)
  · cases o with
    | fault f => exact .fault
    | response r => exact fun response => nomatch response

/-! ## Rows -/

/-- A success whose body is a table or an array of some rows. -/
inductive Holds : Http.Outcome → List Value → Prop
  | table {r : Http.Response} {text : List Char} {vs : List Value} : 200 ≤ r.status →
      r.status ≤ 299 → r.HasType "text/csv" → r.text = .ok text → Csv.rows? text = some vs →
      Holds (.response r) vs
  | array {r : Http.Response} {vs : List Value} : 200 ≤ r.status → r.status ≤ 299 →
      r.HasType "application/json" → Json.ofBytes r.body = .ok (.array vs) → Holds (.response r) vs

theorem csvRows_eq_ok_iff :
    csvRows r = .ok vs ↔ ∃ text, r.text = .ok text ∧ Csv.rows? text = some vs := by
  unfold csvRows
  split
  · next f unread => simp [unread]
  · next text read => split <;> simp_all

theorem rows_eq_ok_iff : rows r = .ok vs ↔
    (r.HasType "text/csv" ∧ ∃ text, r.text = .ok text ∧ Csv.rows? text = some vs) ∨
      (r.HasType "application/json" ∧ Json.ofBytes r.body = .ok (.array vs)) := by
  rw [← Http.Response.mediaType?_eq_some_iff solid_csv,
    ← Http.Response.mediaType?_eq_some_iff solid_json,
    ← csvRows_eq_ok_iff, ← jsonRows_eq_ok_iff, rows]
  split
  · next csv => simp [csv]
  · next other =>
    split
    · next json => simp [json]
    · next neither => simp [other, neither]

theorem success_bind_rows_eq_ok_iff : (success path o >>= rows) = .ok vs ↔ Holds o vs := by
  cases o with
  | fault f =>
    constructor
    · intro held
      cases ofExchange : f.isOfExchange <;> simp [success, ofExchange, bind, Except.bind] at held
    · rintro ⟨⟩
  | response r =>
    have succeeded : Http.isSuccess r.status = true ↔ 200 ≤ r.status ∧ r.status ≤ 299 := by
      simp [Http.isSuccess]
    by_cases ok : Http.isSuccess r.status = true
    · obtain ⟨low, high⟩ := succeeded.mp ok
      rw [success_bind_rows ok, rows_eq_ok_iff]
      constructor
      · rintro (⟨type, text, read, body⟩ | ⟨type, body⟩)
        · exact .table low high type read body
        · exact .array low high type body
      · rintro (⟨-, -, type, read, body⟩ | ⟨-, -, type, body⟩)
        · exact .inl ⟨type, _, read, body⟩
        · exact .inr ⟨type, body⟩
    · constructor
      · intro held
        simp [success, ok, bind, Except.bind] at held
      · rintro (⟨low, high, -, -, -⟩ | ⟨low, high, -, -⟩) <;>
          exact absurd (succeeded.mpr ⟨low, high⟩) ok

theorem fetched_of_holds {read : List Value → Except FetchError α} (held : Holds o vs) :
    fetched path read o = (read vs).mapError .fetch := by
  rw [fetched, success_bind_rows_eq_ok_iff.mpr held]

theorem fetched_eq_ok_iff {read : List Value → Except FetchError α} {a : α} :
    fetched path read o = .ok a ↔ ∃ vs, Holds o vs ∧ read vs = .ok a := by
  constructor
  · intro gave
    cases found : success path o >>= rows with
    | error f => simp [fetched, found] at gave
    | ok vs =>
      have held := success_bind_rows_eq_ok_iff.mp found
      refine ⟨vs, held, ?_⟩
      rw [fetched_of_holds held] at gave
      cases result : read vs <;> rw [result] at gave <;> cases gave
      rfl
  · rintro ⟨vs, held, result⟩
    rw [fetched_of_holds held, result]
    rfl

theorem fetchSongs_of_invalid {v : Value} (held : Holds o vs) (mem : v ∈ vs)
    (invalid : ∀ song, Song.ofValue v ≠ .ok song) :
    ∃ w ∈ vs, ∃ faults, Song.ofValue w = .error faults ∧
      fetchSongs o = .error (.fetch (.payload (.record faults))) := by
  cases read : Song.ofValues vs with
  | ok ss =>
    obtain ⟨song, -, valid⟩ := exists_of_mem (mapM_eq_ok_iff.mp read) mem
    exact absurd valid (invalid song)
  | error faults =>
    obtain ⟨w, mem, failed⟩ := exists_of_mapM_eq_error read
    refine ⟨w, mem, faults, failed, ?_⟩
    rw [fetchSongs, fetched_of_holds held, songs, read]
    rfl

/-! ## Fetches -/

/-- A fetch that tells of all outcomes but those that are passed on, and whose values are those that
the rows of a success are read as. -/
structure Tells (got : Http.Outcome) (x : Except Failure α) (Reads : List Value → α → Prop) :
    Prop where
  told : IsTold x ↔ got.isOfExchange = true
  value : ∀ a, x = .ok a ↔ ∃ vs, Holds got vs ∧ Reads vs a

theorem Tells.of_fetched {read : List Value → Except FetchError α} {Reads : List Value → α → Prop}
    (payload : ∀ vs e, read vs = .error e → e.category ≠ .unknown)
    (reads : ∀ vs a, read vs = .ok a ↔ Reads vs a)
    (readable : ∀ r, o = .response r → Http.isSuccess r.status = true → Readable r) :
    Tells o (fetched path read o) Reads where
  told := by
    rw [isTold_fetched_iff payload, unreported_iff_of_readable readable, Bool.not_eq_false]
  value a := by
    simp only [fetched_eq_ok_iff, reads]

theorem Tells.map {x : Except Failure α} {Reads : List Value → α → Prop} (tells : Tells o x Reads)
    (f : α → β) : Tells o (x.map f) fun vs b => ∃ a, Reads vs a ∧ b = f a where
  told := (isTold_map f x).trans tells.told
  value b := by
    have mapped : x.map f = .ok b ↔ ∃ a, x = .ok a ∧ b = f a := by
      cases x <;> simp [Except.map, eq_comm]
    rw [mapped]
    simp only [tells.value]
    constructor
    · rintro ⟨a, ⟨vs, held, read⟩, same⟩
      exact ⟨vs, held, a, read, same⟩
    · rintro ⟨vs, held, a, read, same⟩
      exact ⟨a, ⟨vs, held, read⟩, same⟩

end Readings

def sentForSongs : Http.Sent where
  method := .get
  url := { Client.ofDefaults.agent.base with path := "/api/songs".toList }
  accept := accepted
  cookie := none

def rowOfInnuendo : Http.Response where
  headers := [("Content-Type", "TEXT/CSV ; header=present")]
  body := Text.Utf8.encode "song_hash,artist,title\nh1,Queen,Innuendo\n".toList

/-- A reference that leads on below the address of the request is told of. -/
example :
    let moved : Http.Response := { status := 302, headers := [("location", "../songs?page=2")] }
    (Client.ofDefaults.receive sentForSongs (.response moved)).1 = .response moved := by
  decide +kernel

end Karaoke.Catalog
