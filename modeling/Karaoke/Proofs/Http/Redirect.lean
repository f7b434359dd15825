import Karaoke.Http.Agent
import Karaoke.Proofs.Text.Fold

/-!
# Responses that an agent can use

A response comes through unless its body is not in the coding that its headers name, or it refers to
an address that cannot be worked out. The first is a fault of the exchange, and so is a reference
that is no address at all. An address is worked out if it has a host wherever it has a scheme, its
host does not stand for another one, and what it takes over from the request makes up an address
with it.
-/

set_option autoImplicit false

namespace Karaoke.Http

def Outcome.isOfExchange : Outcome → Bool
  | .response _ => true
  | .fault f => f.isOfExchange

/-! ## Schemes -/

/-- Whether a text is a scheme, and not the empty one that leaves it open. -/
structure SchemeLike (scheme : List Char) : Prop where
  some : scheme ≠ []
  isScheme : Url.isScheme scheme = true

variable {scheme cs : List Char} {u l t : Url}

/-- The characters of a scheme. -/
def isSchemeChar (c : Char) : Bool :=
  c.isAlphanum || c == '+' || c == '.' || c == '-'

theorem isSchemeChar_toLower {c : Char} (char : isSchemeChar c = true) :
    isSchemeChar c.toLower = true ∧ (c.isAlpha = true → c.toLower.isAlpha = true) := by
  by_cases ascii : c.toNat < 0x80
  · revert char
    revert c
    apply Text.forall_ascii
    decide +kernel
  · rw [Text.toLower_of_not_ascii ascii]
    exact ⟨char, id⟩

theorem SchemeLike.chars (like : SchemeLike scheme) : ∀ c ∈ scheme, isSchemeChar c = true := by
  obtain ⟨some, isScheme⟩ := like
  cases scheme with
  | nil => exact absurd rfl some
  | cons c rest =>
    rw [Url.isScheme, Bool.and_eq_true, List.all_eq_true] at isScheme
    rw [List.forall_mem_cons]
    exact ⟨by simp [isSchemeChar, Char.isAlphanum, isScheme.1], isScheme.2⟩

theorem SchemeLike.notMem_colon (like : SchemeLike scheme) : ':' ∉ scheme :=
  fun mem => absurd (like.chars ':' mem) (by decide)

theorem SchemeLike.notMem_slash (like : SchemeLike scheme) : '/' ∉ scheme :=
  fun mem => absurd (like.chars '/' mem) (by decide)

theorem SchemeLike.lower (like : SchemeLike scheme) : SchemeLike (scheme.map Char.toLower) := by
  have chars := like.chars
  obtain ⟨some, isScheme⟩ := like
  cases scheme with
  | nil => exact absurd rfl some
  | cons c rest =>
    rw [Url.isScheme, Bool.and_eq_true] at isScheme
    refine ⟨by simp, ?_⟩
    rw [List.map_cons, Url.isScheme, Bool.and_eq_true, List.all_map, List.all_eq_true]
    rw [List.forall_mem_cons] at chars
    exact ⟨(isSchemeChar_toLower chars.1).2 isScheme.1,
      fun d mem => (isSchemeChar_toLower (chars.2 d mem)).1⟩

theorem SchemeLike.cutScheme (like : SchemeLike scheme) (rest : List Char) :
    Url.cutScheme (scheme ++ ':' :: rest) = (scheme, rest) := by
  simp [Url.cutScheme, Text.cut?_append like.notMem_colon, like.isScheme]

theorem isScheme_cutScheme (cs : List Char) : Url.isScheme (Url.cutScheme cs).1 = true := by
  unfold Url.cutScheme
  split
  · split
    · assumption
    · rfl
  · rfl

theorem exists_text_eq (some : u.scheme ≠ []) : ∃ rest, u.text = u.scheme ++ ':' :: rest := by
  rw [Url.text, if_neg some]
  simp only [List.append_assoc, List.singleton_append]
  exact ⟨_, rfl⟩

theorem SchemeLike.schemeOf? (like : SchemeLike u.scheme) :
    Site.schemeOf? (Site.textOf u) = Option.some u.scheme := by
  obtain ⟨rest, text⟩ := exists_text_eq like.some
  -- The mark of an empty fragment is taken away at the other end, behind the colon.
  obtain ⟨rest', shortened⟩ : ∃ rest', Site.textOf u = u.scheme ++ ':' :: rest' := by
    rw [Site.textOf]
    split
    · next mark =>
      cases rest with
      | nil => simp [text] at mark
      | cons c cs =>
        refine ⟨(c :: cs).dropLast, ?_⟩
        rw [text, List.dropLast_append_of_ne_nil (List.cons_ne_nil _ _),
          List.dropLast_cons_of_ne_nil (List.cons_ne_nil _ _)]
    · exact ⟨rest, text⟩
  rw [Site.schemeOf?, shortened, Text.cut?_append like.notMem_colon]
  simp [like.some, like.notMem_slash]

theorem scheme_ofParts {p : Url.Parts} {a : Url.Authority} (read : Url.ofParts p a = .ok u) :
    u.scheme = p.scheme.map Char.toLower := by
  unfold Url.ofParts at read
  dsimp only at read
  cases host : Url.readHost a.host with
  | error f => simp [host, bind, Except.bind] at read
  | ok host' =>
    cases socket : Url.readSocket (p.scheme.map Char.toLower) a.socket with
    | error f => simp [host, socket, bind, Except.bind] at read
    | ok socket' =>
      simp only [host, socket, bind, Except.bind] at read
      split at read
      · cases read
      · cases read
        rfl

theorem scheme_parse (read : Url.parse cs = .ok u) :
    u.scheme = (Url.cutScheme cs).1.map Char.toLower := by
  unfold Url.parse at read
  split at read
  · cases read
  · split at read
    · cases read
    · exact scheme_ofParts read

theorem scheme_reread {p : Url.Parts} {host : Option (List Char)}
    (read : Url.reread p host = .ok u) : u.scheme = p.scheme.map Char.toLower := by
  unfold Url.reread at read
  split at read
  · cases read
  · exact scheme_ofParts read

theorem schemeLike_parse (read : Url.parse cs = .ok u) (some : (Url.cutScheme cs).1 ≠ []) :
    SchemeLike u.scheme := by
  rw [scheme_parse read]
  exact SchemeLike.lower ⟨some, isScheme_cutScheme cs⟩

/-! ## Addresses below another -/

theorem schemeLike_of_joining
    (web : Redirect.joining.contains (String.ofList scheme) = true) : SchemeLike scheme := by
  have all : ∀ s ∈ Redirect.joining, s.toList ≠ [] ∧ Url.isScheme s.toList = true := by
    decide +kernel
  obtain ⟨some, isScheme⟩ := all _ (List.contains_iff_mem.mp web)
  rw [String.toList_ofList] at some isScheme
  exact ⟨some, isScheme⟩

/-- What a reference makes up with an address has a scheme: its own, or that of the address. -/
theorem cutScheme_joined_ne_nil (web : Redirect.joining.contains (String.ofList u.scheme) = true)
    (reference : List Char) : (Url.cutScheme (Redirect.joined u reference)).1 ≠ [] := by
  have like := schemeLike_of_joining web
  have own : ∀ rest, (Url.cutScheme (u.scheme ++ ':' :: rest)).1 ≠ [] := by
    intro rest
    rw [like.cutScheme]
    exact like.some
  unfold Redirect.joined
  dsimp only
  split
  · obtain ⟨rest, text⟩ := exists_text_eq like.some
    rw [text]
    exact own rest
  · split
    · next alone =>
      rcases alone with ⟨some, -⟩ | apart
      · exact some
      · rw [web] at apart
        cases apart
    · split
      · exact own _
      · split <;> exact own _

theorem schemeLike_completed (web : Redirect.joining.contains (String.ofList u.scheme) = true)
    (read : Url.parse cs = .ok l) (whole : Redirect.completed u l = .ok t) :
    SchemeLike t.scheme := by
  unfold Redirect.completed at whole
  split at whole
  · exact schemeLike_parse whole (cutScheme_joined_ne_nil web _)
  · next absolute =>
    cases whole
    have some : l.scheme ≠ [] := fun open_ => absolute (by simp [Url.isRelative, open_])
    refine schemeLike_parse read fun empty => some ?_
    rw [scheme_parse read, empty, List.map_nil]

theorem SchemeLike.withFragment (like : SchemeLike l.scheme)
    (marked : Redirect.withFragment u l = .ok t) : SchemeLike t.scheme := by
  unfold Redirect.withFragment at marked
  split at marked
  · rw [scheme_reread marked]
    exact like.lower
  · cases marked
    exact like

/-! ## References -/

theorem Url.displayHost_eq (shown : Domain.mark.isPrefixOf u.host = false) :
    u.displayHost = .ok u.host := by
  rw [Url.displayHost, shown]
  rfl

theorem mapError_ok {α ε ε' : Type} (f : ε → ε') (a : α) :
    (Except.ok a : Except ε α).mapError f = .ok a :=
  rfl

/-- Whether a reference leads on from an address, or is no address: where it has a scheme it has a
host, and where it takes something over from the address it makes up an address with it. Hosts are
written as they are shown. -/
def Leads (u : Url) (reference : List Char) : Prop :=
  ∀ l, Url.parse reference = .ok l →
    (l.scheme ≠ [] → l.host ≠ [] ∧ Domain.mark.isPrefixOf l.host = false) ∧
    (l.scheme = [] ∨ u.fragment.getD [] ≠ [] →
      ∃ t, (Redirect.completed u l >>= Redirect.withFragment u) = .ok t ∧
        Domain.mark.isPrefixOf t.host = false)

theorem hosted_eq (placed : l.scheme ≠ [] → l.host ≠ [] ∧ Domain.mark.isPrefixOf l.host = false) :
    Redirect.hosted u l = .ok l := by
  unfold Redirect.hosted
  split
  · rfl
  · next some =>
    obtain ⟨host, shown⟩ := placed some
    simp [Url.displayHost_eq shown, host, mapError_ok, bind, Except.bind]

theorem completed_of_absolute (some : l.scheme ≠ []) (host : l.host ≠ [])
    (bare : u.fragment.getD [] = []) :
    (Redirect.completed u l >>= Redirect.withFragment u) = .ok l := by
  have absolute : ¬ l.isRelative = true := by simp [Url.isRelative, some, host]
  rw [Redirect.completed, if_neg absolute]
  exact if_neg fun taken => taken.1 bare

/-- A reference that leads on is worked out. -/
theorem Leads.exists_resolve {reference : List Char} (leads : Leads u reference)
    (web : Redirect.joining.contains (String.ofList u.scheme) = true) :
    (∃ f, Redirect.resolve u reference = .error (.reference f)) ∨
      ∃ t, Redirect.resolve u reference = .ok t ∧ SchemeLike t.scheme := by
  cases read : Url.parse reference with
  | error f =>
    refine .inl ⟨f, ?_⟩
    rw [Redirect.resolve, read]
    rfl
  | ok l =>
    obtain ⟨placed, joined⟩ := leads l read
    obtain ⟨t, whole, shown⟩ : ∃ t, (Redirect.completed u l >>= Redirect.withFragment u) = .ok t ∧
        Domain.mark.isPrefixOf t.host = false := by
      by_cases takes : l.scheme = [] ∨ u.fragment.getD [] ≠ []
      · exact joined takes
      · obtain ⟨some, bare⟩ := not_or.mp takes
        obtain ⟨host, shown⟩ := placed some
        exact ⟨l, completed_of_absolute some host (Decidable.not_not.mp bare), shown⟩
    refine .inr ⟨t, ?_, ?_⟩
    · rw [Redirect.resolve, read, mapError_ok]
      change (Redirect.hosted u l >>= _) = _
      rw [hosted_eq placed]
      change ((Redirect.completed u l >>= Redirect.withFragment u).mapError Fault.address >>= _) = _
      rw [whole, mapError_ok]
      change (t.displayHost.mapError Fault.domain >>= _) = _
      rw [Url.displayHost_eq shown]
      rfl
    · cases completed : Redirect.completed u l with
      | error f => simp [completed, bind, Except.bind] at whole
      | ok below =>
        rw [completed] at whole
        exact (schemeLike_completed web read completed).withFragment whole

/-! ## Cookies -/

theorem isAscii_append {ds : List Char} :
    Domain.isAscii (cs ++ ds) = (Domain.isAscii cs && Domain.isAscii ds) := by
  simp [Domain.isAscii]

theorem isAscii_intercalate {sep : List Char} {parts : List (List Char)}
    (separator : Domain.isAscii sep = true) (each : ∀ p ∈ parts, Domain.isAscii p = true) :
    Domain.isAscii (sep.intercalate parts) = true := by
  induction parts with
  | nil => rfl
  | cons p parts ih =>
    cases parts with
    | nil => simpa using each p List.mem_cons_self
    | cons q parts =>
      rw [List.intercalate_cons_cons, isAscii_append, isAscii_append, separator,
        each p List.mem_cons_self, ih fun p mem => each p (List.mem_cons_of_mem _ mem)]
      rfl

/-- A jar of ASCII cookies sends ASCII. -/
theorem Jar.isAscii_header {j : Jar} {s : Site} {header : List Char}
    (ascii : ∀ c ∈ j.cookies, Domain.isAscii c.text = true) (sent : j.header? s = some header) :
    Domain.isAscii header = true := by
  unfold Jar.header? at sent
  split at sent
  · cases sent
  · cases sent
    refine isAscii_intercalate (by decide) fun text mem => ?_
    obtain ⟨c, goes, rfl⟩ := List.mem_map.mp mem
    rw [Jar.cookiesFor, List.mem_mergeSort, List.mem_filter] at goes
    exact ascii c goes.1

/-! ## Responses -/

theorem siteOf_of_schemeLike (like : SchemeLike u.scheme) : ∃ site, Agent.siteOf u = .ok site := by
  rw [Agent.siteOf, Site.ofUrl?, like.schemeOf?]
  exact ⟨_, rfl⟩

/-- The cookies of an agent go along to every address with a scheme if they are ASCII. -/
theorem exists_cookieFor {a : Agent} (ascii : ∀ c ∈ a.jar.cookies, Domain.isAscii c.text = true)
    (like : SchemeLike u.scheme) : ∃ cookie, a.cookieFor u = .ok cookie := by
  obtain ⟨site, known⟩ := siteOf_of_schemeLike like
  unfold Agent.cookieFor
  split
  · exact ⟨none, rfl⟩
  · rw [known]
    cases sent : a.jar.header? site with
    | none => exact ⟨none, by simp [sent, bind, Except.bind]⟩
    | some header =>
      have fit := Jar.isAscii_header ascii sent
      exact ⟨some (String.ofList header), by
        simp [sent, Agent.ascii, fit, Except.map, bind, Except.bind]⟩

theorem take_of_stays {a : Agent} {s : Sent} {r opened : Response} {site : Site}
    (decoded : Agent.decoded r = .ok opened) (known : Agent.siteOf s.url = .ok site)
    (stays : Redirect.reference? opened = none) :
    a.take s r = (.ok opened, a.keep site opened) := by
  simp only [Agent.take, decoded, known, stays]

theorem take_of_moved {a : Agent} {s : Sent} {r opened : Response} {site : Site}
    {reference : List Char} (decoded : Agent.decoded r = .ok opened)
    (known : Agent.siteOf s.url = .ok site)
    (moved : Redirect.reference? opened = some reference) :
    a.take s r =
      ((Redirect.resolve s.url reference >>= (a.keep site opened).cookieFor).map fun _ => opened,
        a.keep site opened) := by
  simp only [Agent.take, decoded, known, moved]

theorem decoded_of_take {a : Agent} {s : Sent} {r r' : Response} (taken : (a.take s r).1 = .ok r') :
    Agent.decoded r = .ok r' := by
  cases decoded : Agent.decoded r with
  | error f => simp [Agent.take, decoded] at taken
  | ok opened =>
    cases known : Agent.siteOf s.url with
    | error f => simp [Agent.take, decoded, known] at taken
    | ok site =>
      cases moved : Redirect.reference? opened with
      | none => rwa [take_of_stays decoded known moved] at taken
      | some reference =>
        rw [take_of_moved decoded known moved] at taken
        cases worked : Redirect.resolve s.url reference >>= (a.keep site opened).cookieFor with
        | error f => simp [worked, Except.map] at taken
        | ok _ => simpa [worked, Except.map] using taken

theorem taken_of_receive {a : Agent} {s : Sent} {r r' : Response}
    (received : (a.receive s (.response r)).1 = .response r') : (a.take s r).1 = .ok r' := by
  cases taken : a.take s r with
  | mk result after =>
    cases result with
    | error f => simp [Agent.receive, taken] at received
    | ok opened => simpa [Agent.receive, taken] using received

/-- An agent hands a response over as it is but for the codings of its body. -/
theorem exists_of_receive_eq_response {a : Agent} {s : Sent} {o : Outcome} {r : Response}
    (received : (a.receive s o).1 = .response r) :
    ∃ coded, o = .response coded ∧ coded.status = r.status ∧ coded.headers = r.headers ∧
      Coding.decodeAll (Coding.ofValues (coded.headerValues "content-encoding")) coded.body =
        .ok r.body := by
  cases o with
  | fault f => cases received
  | response coded =>
    have decoded := decoded_of_take (taken_of_receive received)
    unfold Agent.decoded at decoded
    split at decoded
    · next opened =>
      cases decoded
      exact ⟨coded, rfl, rfl, rfl, opened⟩
    · cases decoded

namespace Agent

/-- Whether a response to a request can be used if it leads nowhere else: it is in the coding that
it names, and its cookies belong to a site. -/
structure Opens (s : Sent) (r : Response) : Prop where
  coded : ∃ body, Coding.decodeAll (Coding.ofValues (r.headerValues "content-encoding")) r.body =
    .ok body
  placed : ∃ site, siteOf s.url = .ok site

theorem exists_receive_iff_opens {a : Agent} {s : Sent} {r : Response}
    (stays : Redirect.reference? r = none) :
    (∃ opened, (a.receive s (.response r)).1 = .response opened) ↔ Opens s r := by
  constructor
  · rintro ⟨opened, received⟩
    have decoded := decoded_of_take (taken_of_receive received)
    obtain ⟨_, ⟨⟩, -, -, coded⟩ := exists_of_receive_eq_response received
    refine ⟨⟨_, coded⟩, ?_⟩
    cases known : siteOf s.url with
    | ok site => exact ⟨site, rfl⟩
    | error f => simp [receive, take, decoded, known] at received
  · rintro ⟨⟨body, coded⟩, ⟨site, placed⟩⟩
    have same : Redirect.reference? { r with body } = none := stays
    have decoded : Agent.decoded r = .ok { r with body } := by rw [Agent.decoded, coded]
    refine ⟨{ r with body }, ?_⟩
    rw [receive, take_of_stays decoded placed same]

/-- Of an agent a response changes the cookies only. -/
theorem exists_jar_of_receive (a : Agent) (s : Sent) (o : Outcome) :
    ∃ jar, (a.receive s o).2 = { a with jar } := by
  cases o with
  | fault f => exact ⟨a.jar, rfl⟩
  | response r =>
    have taken : (a.receive s (.response r)).2 = (a.take s r).2 := by
      unfold receive
      dsimp only
      split <;> simp_all
    rw [taken, take]
    split
    · exact ⟨a.jar, rfl⟩
    · split
      · exact ⟨a.jar, rfl⟩
      · dsimp only
        split <;> exact ⟨_, rfl⟩

end Agent

/-- Outcomes of a request that an agent can make something of: a fault of the exchange, or a
response that leads nowhere else or where the agent can follow, with cookies that are ASCII. -/
inductive Plain (a : Agent) (s : Sent) : Outcome → Prop
  | fault {f : Fault} : f.isOfExchange = true → Plain a s (.fault f)
  | response {r : Response} :
      (∀ reference, Redirect.reference? r = some reference → Leads s.url reference ∧
        ∀ site, Agent.siteOf s.url = .ok site →
          ∀ c ∈ (a.keep site r).jar.cookies, Domain.isAscii c.text = true) →
      Plain a s (.response r)

theorem Plain.isOfExchange_receive {a : Agent} {s : Sent} {o : Outcome} (plain : Plain a s o)
    (web : Redirect.joining.contains (String.ofList s.url.scheme) = true) :
    (a.receive s o).1.isOfExchange = true := by
  rcases plain with ofExchange | @⟨r, follows⟩
  · exact ofExchange
  cases coded : Coding.decodeAll (Coding.ofValues (r.headerValues "content-encoding")) r.body with
  | error f => simp [Agent.receive, Agent.take, Agent.decoded, coded, Outcome.isOfExchange,
      Fault.isOfExchange]
  | ok body =>
    obtain ⟨site, known⟩ := siteOf_of_schemeLike (schemeLike_of_joining web)
    have decoded : Agent.decoded r = .ok { r with body } := by rw [Agent.decoded, coded]
    have same : Redirect.reference? { r with body } = Redirect.reference? r := rfl
    cases moved : Redirect.reference? r with
    | none =>
      rw [Agent.receive, take_of_stays decoded known (same.trans moved)]
      rfl
    | some reference =>
      obtain ⟨leads, ascii⟩ := follows reference moved
      rw [Agent.receive, take_of_moved decoded known (same.trans moved)]
      rcases leads.exists_resolve web with ⟨f, worked⟩ | ⟨t, worked, like⟩
      · rw [worked]
        rfl
      · obtain ⟨cookie, sent⟩ := exists_cookieFor (ascii site known) like
        have kept : a.keep site { r with body } = a.keep site r := rfl
        have made : (Redirect.resolve s.url reference >>= (a.keep site r).cookieFor) =
            .ok cookie := by
          rw [worked]
          exact sent
        rw [kept, made]
        rfl

end Karaoke.Http
