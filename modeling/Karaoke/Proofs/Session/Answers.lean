import Karaoke.Proofs.Catalog.Fetches
import Karaoke.Proofs.Session.Step

/-!
# Fetches that are answered

A fetch that ends is answered by one message if the catalog has rows or an error for what came of
it. A fault that is not one of the exchange is passed on, and so is a body that cannot be read: a
table in a character set that fails on it, or a document that nests too deeply. What is passed on
ends the fetch without a message.
-/

set_option autoImplicit false

namespace Karaoke

open Catalog (Resource)

/-- The command that has a resource fetched. -/
def Command.fetching : Resource → Command
  | .songs => .fetchSongs
  | .index => .fetchIndex
  | .list name => .fetchList name

namespace Session

variable {r : Resource} {o : Http.Outcome}

theorem conclude_eq_none_iff [Text.Charsets] (h : r ≠ .index) :
    (conclude r o).1 = none ↔ Catalog.Unreported o := by
  cases r with
  | index => exact absurd rfl h
  | songs =>
    have passed : Catalog.isPassedOn (Catalog.fetchSongs o) = true ↔ Catalog.Unreported o :=
      Catalog.isPassedOn_fetched_iff
    rw [← passed]
    dsimp only [conclude]
    cases Catalog.fetchSongs o with
    | ok songs => simp [Catalog.isPassedOn]
    | error f => cases f <;> simp [Catalog.isPassedOn]
  | list name =>
    have passed : Catalog.isPassedOn (Catalog.fetchList name o) = true ↔ Catalog.Unreported o := by
      rw [Catalog.fetchList, Catalog.isPassedOn_map]
      exact Catalog.isPassedOn_fetched_iff
    rw [← passed]
    dsimp only [conclude]
    cases Catalog.fetchList name o with
    | ok members => simp [Catalog.isPassedOn]
    | error f => cases f <;> simp [Catalog.isPassedOn]

theorem perform_fetching (s : Session) (r : Resource) : s.perform (.fetching r) = s.fetch r := by
  cases r <;> rfl

/-- A fetch is started by its command exactly if its request can be sent. -/
theorem fetch_eq_start_iff {s : Session} {sent : Http.Sent} :
    s.fetch r = s.start (.fetch r sent) ↔ s.client.agent.prepare r.request = .ok sent := by
  unfold fetch
  constructor
  · intro started
    cases prepared : s.client.agent.prepare r.request with
    | ok other =>
      simpa [prepared, start] using started
    | error f =>
      have same := congrArg (fun s => s.pending.length) started
      simp [prepared, start] at same
  · intro prepared
    rw [prepared]

theorem finish_fetch_queue [Text.Charsets] (t : Session) (sent : Http.Sent) :
    (t.finish (.fetch r sent) o).1.queue =
      t.queue ++ (conclude r (t.client.receive sent o).1).1.toList :=
  rfl

/-- A table in a coding that is no character set is not answered. -/
example :
    let _ : Text.Charsets := .builtin
    let table : Http.Response :=
      { headers := [("content-type", "text/csv; charset=hex")], body := [0x61] }
    (conclude .songs (.response table)).1 = none := by
  decide +kernel

/-- The request for the list Fans as it is sent if nothing is set. -/
def sentForFans : Http.Sent where
  method := .get
  url :=
    { Catalog.Client.ofDefaults.agent.base with path := "/api/custom/list/Fans".toList }
  accept := Catalog.accepted
  cookie := none

end Session

end Karaoke
