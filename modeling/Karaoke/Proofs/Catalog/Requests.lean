import Karaoke.Proofs.Catalog.Fetches
import Karaoke.Proofs.Catalog.Paths
import Karaoke.Proofs.Http.Path

/-!
# Requests that reach what they name

A path is put behind the base of a client and loses its dot segments before it is sent. A name that
is escaped can be such a segment only if it is one as it stands, since dots are unreserved. All
other names are asked for where they belong.
-/

set_option autoImplicit false

namespace Karaoke

namespace Http.Agent

theorem below_of_prepare {a : Agent} {r : Request} {s : Sent} (prepared : a.prepare r = .ok s) :
    a.base.below r.path.toList = .ok s.url := by
  unfold prepare at prepared
  cases url : a.base.below r.path.toList with
  | error f => simp [url, Except.mapError, bind, Except.bind] at prepared
  | ok u =>
    simp only [url, Except.mapError, bind, Except.bind] at prepared
    repeat (split at prepared; cases prepared)
    cases prepared
    rfl

end Http.Agent

namespace Catalog

variable {r : Http.Request} {names : List String}

/-- Requests about a list or one of its entries, with the names that they are about. -/
inductive Asks : Http.Request → List String → Prop
  | fetch (name : String) : Asks (Resource.list name).request [name]
  | edit {e : Edit} {c : Client} {settings : Settings} {r : Http.Request} :
      e.request c settings = .ok r → Asks r [e.name, e.hash]

theorem Edit.path_of_request {e : Edit} {c : Client} {settings : Settings}
    (asked : e.request c settings = .ok r) : r.path = e.path := by
  unfold request at asked
  dsimp only at asked
  split at asked
  · cases asked
    rfl
  · split at asked
    · cases asked
    · cases asked
      rfl

theorem Asks.toList_path (asks : Asks r names) :
    r.path.toList = ['/'].intercalate (segmentsFor names) := by
  cases asks with
  | fetch name => exact toList_listPath name
  | edit asked =>
    rw [Edit.path_of_request asked]
    exact toList_entryPath _ _

theorem isDots_encode_iff {name : String} :
    Http.IsDots (Http.Percent.encode name.toList) ↔ name = "." ∨ name = ".." := by
  have one : Http.Percent.encode ".".toList = ['.'] := by decide
  have two : Http.Percent.encode "..".toList = ['.', '.'] := by decide
  rw [Http.IsDots, ← two, ← one, Http.Percent.encode_injective.eq_iff,
    Http.Percent.encode_injective.eq_iff, String.toList_inj, String.toList_inj]

theorem removeDots_path_iff (made : r.path.toList = ['/'].intercalate (segmentsFor names)) :
    Http.removeDots r.path.toList = r.path.toList ↔ ∀ name ∈ names, name ≠ "." ∧ name ≠ ".." := by
  have root : ∀ segment ∈ listRoot, ¬ Http.IsDots segment := by decide
  rw [Http.removeDots_eq_self_iff, splitOn_path made, segmentsFor, List.forall_mem_append,
    List.forall_mem_map, and_iff_right root]
  simp only [isDots_encode_iff, not_or]

/-- The path of a request about lists goes on behind its first slash without a mark of another
part. -/
theorem Asks.exists_path (asks : Asks r names) : ∃ rest, r.path.toList = '/' :: rest ∧
    Http.Url.IsSimple rest ∧ rest.head? ≠ some '/' := by
  obtain ⟨rest, path, head⟩ : ∃ rest, r.path.toList = '/' :: rest ∧ rest.head? = some 'a' := by
    rw [asks.toList_path]
    simp [segmentsFor, listRoot]
  have simple : Http.Url.IsSimple r.path.toList := by
    intro c mem
    rcases (identifies asks.toList_path).escaped.all c mem with kept | unreserved | percent
    · rw [Bool.or_eq_true, beq_iff_eq] at kept
      exact kept.imp id .inr
    · exact .inl unreserved
    · exact .inr (.inl percent)
  rw [path] at simple
  refine ⟨rest, path, fun c mem => simple c (List.mem_cons_of_mem _ mem), ?_⟩
  rw [head]
  decide

theorem Client.isBase_of_new {settings : Settings} {baseUrl cookie : Option String} {c : Client}
    (made : Client.new settings baseUrl cookie = .ok c) : c.agent.base.IsBase := by
  unfold Client.new at made
  cases read : Http.Url.parse ((firstSet baseUrl none).getD settings.baseUrl).toList with
  | error f => simp [read, bind, Except.bind] at made
  | ok url =>
    cases base : url.asBase with
    | error f => simp [read, base, bind, Except.bind] at made
    | ok base' =>
      simp only [read, base, bind, Except.bind] at made
      cases made
      exact (Http.Url.Normal.of_parse read).isBase_of_asBase base

/-- Whether a request that was sent asks for its own path below the base of the client. -/
def Reaches (c : Client) (r : Http.Request) (sent : Http.Sent) : Prop :=
  sent.url.target = c.agent.base.target ++ r.path.toList.tail

/-- The path of a list or of an entry is left as it is exactly if no name in it is a dot segment. A
request that is sent, whatever cookies the client has gathered, then asks for that path, and below a
scheme and without a query it does so only then. -/
theorem requests_reach_iff (asks : Asks r names) {settings : Settings}
    {baseUrl cookie : Option String} {c : Client}
    (made : Client.new settings baseUrl cookie = .ok c) :
    (Http.removeDots r.path.toList = r.path.toList ↔ ∀ name ∈ names, name ≠ "." ∧ name ≠ "..") ∧
    ∀ (jar : Http.Jar) (sent : Http.Sent),
      ({ c.agent with jar } : Http.Agent).prepare r = .ok sent →
      ((∀ name ∈ names, name ≠ "." ∧ name ≠ "..") → Reaches c r sent) ∧
      (c.agent.base.scheme ≠ [] → c.agent.base.query = none → Reaches c r sent →
        ∀ name ∈ names, name ≠ "." ∧ name ≠ "..") := by
  have settled := removeDots_path_iff asks.toList_path
  refine ⟨settled, fun jar sent prepared => ?_⟩
  have isBase := Client.isBase_of_new made
  have below : c.agent.base.below r.path.toList = .ok sent.url :=
    Http.Agent.below_of_prepare (a := { c.agent with jar }) prepared
  obtain ⟨rest, path, simple, head⟩ := asks.exists_path
  rw [← settled, Reaches, path, List.tail_cons]
  rw [path] at below
  exact ⟨isBase.target_below simple head below, fun scheme asked =>
    isBase.removeDots_of_target_below simple head scheme asked below⟩

/-- The client for an address with a session cookie, and requests as it sends them. -/
def Client.withCookie (base : Http.Url) : Client where
  agent := { base, accept := accepted, jar := Http.Jar.put {} (Client.sessionCookie "c") }
  cookie := some "c"

def Client.sends (c : Client) (method : Http.Method) (path : String) : Http.Sent where
  method := method
  url := { c.agent.base with path := path.toList }
  accept := accepted
  cookie := some "id=c"

/-- A slash in a name and three dots for a song do no harm below a base with a path of its own. -/
theorem requests_reach_dotted :
    let c := Client.withCookie ⟨"http".toList, [], "h".toList, none, "/x/".toList, none, none⟩
    let r : Http.Request := ⟨.delete, "/api/custom/list/AC%2FDC/..."⟩
    let sent := c.sends .delete "/x/api/custom/list/AC%2FDC/..."
    Asks r ["AC/DC", "..."] ∧ Client.new {} (some "http://h/x") (some "c") = .ok c ∧
      c.agent.prepare r = .ok sent ∧ Reaches c r sent := by
  intro c r sent
  have asked : Edit.request ⟨.remove, "AC/DC", "..."⟩ c {} = .ok r := by decide +kernel
  have asks : Asks r ["AC/DC", "..."] := .edit asked
  have made : Client.new {} (some "http://h/x") (some "c") = .ok c := by decide +kernel
  have prepared : c.agent.prepare r = .ok sent := by decide +kernel
  exact ⟨asks, made, prepared,
    ((requests_reach_iff asks made).2 c.agent.jar sent prepared).1 (by decide)⟩

/-- A list of two dots is not asked for where lists are, and to remove the song of one dot is to ask
for the removal of the list itself. -/
theorem misled_of_dots :
    let c := Client.withCookie Client.ofDefaults.agent.base
    let fetch := (Resource.list "..").request
    let removal : Edit := ⟨.remove, "Fans", "."⟩
    Client.new {} none (some "c") = .ok c ∧
      (c.agent.prepare fetch = .ok (c.sends .get "/api/custom") ∧
        Http.removeDots fetch.path.toList ≠ fetch.path.toList ∧
        ¬ Reaches c fetch (c.sends .get "/api/custom")) ∧
      ∃ r, removal.request c {} = .ok r ∧
        c.agent.prepare r = .ok (c.sends .delete (Resource.list "Fans").path) ∧
        Http.removeDots r.path.toList ≠ r.path.toList := by
  intro c fetch removal
  refine ⟨by decide +kernel, ⟨by decide +kernel, by decide +kernel, ?_⟩, ?_⟩
  · unfold Reaches
    decide +kernel
  · exact ⟨⟨.delete, removal.path⟩, by decide +kernel, by decide +kernel, by decide +kernel⟩

end Catalog

end Karaoke
