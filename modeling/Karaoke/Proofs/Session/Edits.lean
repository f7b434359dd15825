import Karaoke.Proofs.Catalog.Requests
import Karaoke.Session.Step

/-!
# Changes that are announced

A change is refused without a credential, and fails at once if its request cannot be sent. Else it
ends with what the client makes of the answer, and is announced if that is a success. An answer that
the client cannot open is a fault to it, whatever the server has done.
-/

set_option autoImplicit false

namespace Karaoke

namespace Catalog

variable {e : Edit} {o : Http.Outcome} {r : Http.Response}

namespace Edit

theorem conclude_response (e : Edit) (r : Http.Response) : e.conclude (.response r) =
    if Http.isSuccess r.status then .ok true
    else if e.kind = .remove ∧ r.status = 404 then .ok false
    else .error (.fetch (.status r.status (Http.reason r.status))) := by
  cases succeeded : Http.isSuccess r.status <;> simp [conclude, success, succeeded]

theorem conclude_fault (e : Edit) (f : Http.Fault) : e.conclude (.fault f) =
    .error (if f.isOfExchange then .fetch (.network e.path f.message) else .fault f) := by
  cases ofExchange : f.isOfExchange <;> simp [conclude, success, ofExchange]

/-! ## What a change ends in -/

/-- Whether a response says that the list is now as it was asked to be. -/
def Settles (e : Edit) (r : Http.Response) : Prop :=
  200 ≤ r.status ∧ r.status ≤ 299 ∨ e.kind = .remove ∧ r.status = 404

/-- What an outcome ends a change in: its result, and the messages that are queued. -/
inductive Ends (e : Edit) : Http.Outcome → Except Failure Bool → List Message → Prop
  | changed {r : Http.Response} : 200 ≤ r.status → r.status ≤ 299 →
      Ends e (.response r) (.ok true) [.listChanged e.name]
  | absent {r : Http.Response} : e.kind = .remove → r.status = 404 →
      Ends e (.response r) (.ok false) []
  | refused {r : Http.Response} {f : Failure} : ¬ e.Settles r → Ends e (.response r) (.error f) []
  | lost {g : Http.Fault} {f : Failure} : Ends e (.fault g) (.error f) []

/-- The failure that an outcome is raised as. -/
inductive Raises (e : Edit) : Http.Outcome → Failure → Prop
  | status {r : Http.Response} : ¬ e.Settles r →
      Raises e (.response r) (.fetch (.status r.status (Http.reason r.status)))
  | exchange {f : Http.Fault} : f.isOfExchange = true →
      Raises e (.fault f) (.fetch (.network e.path f.message))
  | other {f : Http.Fault} : f.isOfExchange = false → Raises e (.fault f) (.fault f)

variable {x : Except Failure Bool} {ms : List Message}

theorem Ends.of_status {r' : Http.Response} (ends : e.Ends (.response r) x ms)
    (same : r'.status = r.status) : e.Ends (.response r') x ms := by
  cases ends with
  | changed low high => exact .changed (same ▸ low) (same ▸ high)
  | absent remove missing => exact .absent remove (same ▸ missing)
  | refused unsettled =>
    refine .refused ?_
    rwa [Settles, same]

theorem Ends.not_settles {f : Failure} (ends : e.Ends (.response r) (.error f) ms) :
    ¬ e.Settles r := by
  cases ends
  assumption

/-- What the client hands over ends a change as it should. -/
theorem ends_conclude (e : Edit) (o : Http.Outcome) :
    e.Ends o (e.conclude o) (Session.concludeEdit e o) ∧
      ∀ f, e.conclude o = .error f → e.Raises o f := by
  unfold Session.concludeEdit
  cases o with
  | fault g =>
    rw [conclude_fault]
    refine ⟨.lost, ?_⟩
    rintro f ⟨⟩
    cases ofExchange : g.isOfExchange with
    | true => exact .exchange ofExchange
    | false => exact .other ofExchange
  | response r =>
    rw [conclude_response]
    have success : Http.isSuccess r.status = true ↔ 200 ≤ r.status ∧ r.status ≤ 299 := by
      simp [Http.isSuccess]
    by_cases succeeded : Http.isSuccess r.status = true
    · obtain ⟨low, high⟩ := success.mp succeeded
      rw [if_pos succeeded]
      refine ⟨.changed low high, ?_⟩
      rintro f ⟨⟩
    rw [if_neg succeeded]
    by_cases missing : e.kind = .remove ∧ r.status = 404
    · rw [if_pos missing]
      refine ⟨.absent missing.1 missing.2, ?_⟩
      rintro f ⟨⟩
    · have unsettled : ¬ e.Settles r := not_or.mpr ⟨mt success.mpr succeeded, missing⟩
      rw [if_neg missing]
      refine ⟨.refused unsettled, ?_⟩
      rintro f ⟨⟩
      exact .status unsettled

theorem Settles.stays (settles : e.Settles r) : Http.Redirect.reference? r = none := by
  have elsewhere : ∀ status ∈ Http.Redirect.statuses, ¬ (200 ≤ status ∧ status ≤ 299) ∧
      status ≠ 404 := by
    decide
  rw [Http.Redirect.reference?, if_neg]
  intro moved
  obtain ⟨success, missing⟩ := elsewhere _ (List.contains_iff_mem.mp moved)
  exact settles.elim success (fun removed => missing removed.2)

/-- What the client makes of an outcome ends a change as the outcome itself should, exactly if the
client can open the response that settles it. -/
theorem ends_received_iff (e : Edit) (a : Http.Agent) (sent : Http.Sent) (o : Http.Outcome) :
    e.Ends o (e.conclude (a.receive sent o).1) (Session.concludeEdit e (a.receive sent o).1) ↔
      ∀ r, o = .response r → e.Settles r → Http.Agent.Opens sent r := by
  cases o with
  | fault f => exact iff_of_true (ends_conclude e (.fault f)).1 nofun
  | response r =>
    have ends := (ends_conclude e (a.receive sent (.response r)).1).1
    cases received : (a.receive sent (.response r)).1 with
    | response opened =>
      obtain ⟨_, ⟨⟩, same, -, -⟩ := Http.exists_of_receive_eq_response received
      rw [received] at ends
      refine iff_of_true (ends.of_status same) ?_
      rintro _ ⟨⟩ settles
      exact (Http.Agent.exists_receive_iff_opens settles.stays).mp ⟨opened, received⟩
    | fault f =>
      rw [conclude_fault, Session.concludeEdit, conclude_fault]
      constructor
      · rintro ends _ ⟨⟩ settles
        exact absurd settles ends.not_settles
      · intro opens
        refine .refused fun settles => ?_
        obtain ⟨opened, response⟩ :=
          (Http.Agent.exists_receive_iff_opens settles.stays).mpr (opens r rfl settles)
        rw [received] at response
        cases response

/-! ## Requests -/

/-- What the server is asked. -/
def asked (e : Edit) : Http.Request :=
  ⟨match e.kind with | .add => .put | .remove => .delete, e.path⟩

end Edit

end Catalog

namespace Session

open Catalog (Edit)

/-- Whether a session has a credential: its client was given one, or one is set. -/
def Authorized (s : Session) : Prop :=
  s.client.cookie ≠ none ∨ ∃ value, s.settings.sessionCookie = some value ∧ value ≠ ""

theorem isSet_ofString_iff (text : String) :
    Settings.isSet (Json.Value.ofString text) = true ↔ text ≠ "" := by
  simp [Settings.isSet, Json.Value.ofString, Text.Wide.ofString, Text.Wide.ofList]

theorem require_sessionCookie {settings : Settings} (service : String) :
    settings.require Settings.Field.sessionCookie.name service =
      match settings.sessionCookie with
      | some value => if value = "" then .error (.unset .sessionCookie service)
          else .ok (.ofString value)
      | none => .error (.unset .sessionCookie service) := by
  have field : Settings.Field.ofName? Settings.Field.sessionCookie.name = some .sessionCookie := by
    decide
  rw [Settings.require, field]
  cases cookie : settings.sessionCookie with
  | none => simp [Settings.value, cookie, Settings.isSet]
  | some value =>
    by_cases empty : value = "" <;>
      simp [Settings.value, cookie, isSet_ofString_iff, empty]

theorem request_of_authorized {s : Session} (authorized : s.Authorized) (e : Edit) :
    e.request s.client s.settings = .ok e.asked := by
  unfold Edit.request
  dsimp only
  cases given : s.client.cookie with
  | some value => rfl
  | none =>
    obtain ⟨value, set, some⟩ := authorized.resolve_left (not_not.mpr given)
    simp only [require_sessionCookie, set, if_neg some]
    rfl

theorem request_of_not_authorized {s : Session} (unauthorized : ¬ s.Authorized) (e : Edit) :
    e.request s.client s.settings = .error (.unset .sessionCookie "Catalog session") := by
  obtain ⟨given, unset⟩ := not_or.mp unauthorized
  unfold Edit.request
  dsimp only
  rw [not_not.mp given, require_sessionCookie]
  cases cookie : s.settings.sessionCookie with
  | none => rfl
  | some value =>
    have empty : value = "" := of_not_not fun some => unset ⟨value, cookie, some⟩
    simp [empty]

/-! ## Changes -/

theorem edit_of_not_authorized {s : Session} (unauthorized : ¬ s.Authorized) (e : Edit) :
    s.edit e = (s, [.refused e (.unset .sessionCookie "Catalog session")]) := by
  rw [edit, request_of_not_authorized unauthorized]

theorem edit_of_authorized {s : Session} (authorized : s.Authorized) (e : Edit) :
    (∃ f g, s.client.agent.prepare e.asked = .error f ∧ e.Raises (.fault f) g ∧
      s.edit e = (s, [.concluded e (.error g)])) ∨
    ∃ sent, s.client.agent.prepare e.asked = .ok sent ∧
      s.edit e = (s.start (.edit e sent), []) := by
  rw [edit, request_of_authorized authorized]
  cases prepared : s.client.agent.prepare e.asked with
  | ok sent => exact .inr ⟨sent, rfl, by simp only [prepared]⟩
  | error f =>
    have raises := (Catalog.Edit.ends_conclude e (.fault f)).2
    simp only [prepared]
    rw [Catalog.Edit.conclude_fault] at raises ⊢
    exact .inl ⟨f, _, rfl, raises _ rfl, rfl⟩

/-- A change is refused without a credential, and fails if its request cannot be sent; the session
stays as it is. Else it is started, and what ends it changes the queue and the cookies alone. It
ends with what the client hands over, and so in what the answer itself calls for unless the client
cannot open an answer that settles it. -/
theorem edits_announced [Text.Charsets] (s t : Session) (e : Edit) (o : Http.Outcome) :
    (¬ s.Authorized → s.edit e = (s, [.refused e (.unset .sessionCookie "Catalog session")])) ∧
    (s.Authorized →
      (∃ f g, s.client.agent.prepare e.asked = .error f ∧ e.Raises (.fault f) g ∧
        s.edit e = (s, [.concluded e (.error g)])) ∨
      ∃ sent, s.client.agent.prepare e.asked = .ok sent ∧
        s.edit e = (s.start (.edit e sent), [])) ∧
    ∀ sent, ∃ result messages jar,
      t.finish (.edit e sent) o =
        ({ t with
            client := { t.client with agent := { t.client.agent with jar } }
            queue := t.queue ++ messages }, [.concluded e result]) ∧
      (e.Ends o result messages ↔
        ∀ r, o = .response r → e.Settles r → Http.Agent.Opens sent r) ∧
      e.Ends (t.client.receive sent o).1 result messages ∧
      ∀ f, result = .error f → e.Raises (t.client.receive sent o).1 f := by
  refine ⟨fun unauthorized => edit_of_not_authorized unauthorized e,
    fun authorized => edit_of_authorized authorized e, fun sent => ?_⟩
  obtain ⟨jar, kept⟩ := Http.Agent.exists_jar_of_receive t.client.agent sent o
  obtain ⟨ends, raises⟩ := Catalog.Edit.ends_conclude e (t.client.receive sent o).1
  refine ⟨_, _, jar, ?_, Catalog.Edit.ends_received_iff e t.client.agent sent o, ends, raises⟩
  have client : (t.client.receive sent o).2 =
      { t.client with agent := { t.client.agent with jar } } := by
    rw [← kept]
    rfl
  rw [← client]
  rfl

/-- A session whose client was given a cookie. -/
def withCookie : Session where
  browser := .new (.ofScript #[])
  client := .withCookie Catalog.Client.ofDefaults.agent.base
  settings := {}

/-- The request to add a song to the list Fans as that session sends it. -/
def sentForAddition : Http.Sent :=
  withCookie.client.sends .put "/api/custom/list/Fans/h"

theorem edits_announced_stored :
    let _ : Text.Charsets := .builtin
    let s := withCookie
    let e : Edit := ⟨.add, "Fans", "h"⟩
    s.Authorized ∧ s.edit e = (s.start (.edit e sentForAddition), []) ∧
      (s.finish (.edit e sentForAddition) (.response {})).1.queue = [.listChanged "Fans"] := by
  intro _ s e
  have authorized : s.Authorized := .inl (by decide)
  have prepared : s.client.agent.prepare e.asked = .ok sentForAddition := by decide +kernel
  obtain ⟨-, asked, answered⟩ := edits_announced s s e (.response {})
  refine ⟨authorized, ?_, ?_⟩
  · rcases asked authorized with ⟨f, g, failed, -, -⟩ | ⟨sent, same, started⟩
    · cases prepared.symm.trans failed
    · cases prepared.symm.trans same
      exact started
  · obtain ⟨result, messages, jar, finished, ends, -, -⟩ := answered sentForAddition
    have opens : Http.Agent.Opens sentForAddition {} :=
      ⟨⟨[], rfl⟩, ⟨_, rfl⟩⟩
    rw [finished]
    cases ends.mpr (by rintro r ⟨⟩ -; exact opens) with
    | changed low high => rfl
    | absent remove missing => cases remove
    | refused unsettled => exact absurd (.inl ⟨by decide, by decide⟩) unsettled

/-- A song that was added is not announced if the answer names a coding that its body is not in. -/
theorem unannounced_of_undecodable :
    let _ : Text.Charsets := .builtin
    let s := withCookie
    let e : Edit := ⟨.add, "Fans", "h"⟩
    let stored : Http.Response :=
      { headers := [("content-encoding", "gzip")], body := Text.Utf8.encode "stored".toList }
    let raised : Catalog.Failure := .fetch (.network "/api/custom/list/Fans/h"
      "Error -3 while decompressing data: incorrect header check")
    let ended := s.finish (.edit e sentForAddition) (.response stored)
    s.edit e = (s.start (.edit e sentForAddition), []) ∧
      ended.1.queue = [] ∧ ended.2 = [.concluded e (.error raised)] ∧
      ¬ ∃ result messages, e.Ends (.response stored) result messages ∧
        ended.1.queue = s.queue ++ messages ∧ ended.2 = [.concluded e result] := by
  intro _ s e stored raised ended
  have prepared : s.client.agent.prepare e.asked = .ok sentForAddition := by decide +kernel
  have concluded :
      e.conclude (s.client.receive sentForAddition (.response stored)).1 = .error raised := by
    decide +kernel
  have queue : ended.1.queue = [] := by
    show concludeEdit e (s.client.receive sentForAddition (.response stored)).1 = []
    rw [concludeEdit, concluded]
  have events : ended.2 = [.concluded e (.error raised)] := by rw [← concluded]; rfl
  have started : s.edit e = (s.start (.edit e sentForAddition), []) := by
    rw [edit, request_of_authorized (.inl (by decide))]
    simp only [prepared]
  refine ⟨started, queue, events, ?_⟩
  rintro ⟨result, messages, ends, -, same⟩
  rw [events] at same
  cases same
  exact ends.not_settles (.inl ⟨by decide, by decide⟩)

end Session

end Karaoke
