import Karaoke.Browser.Update
import Karaoke.Catalog.Client
import Karaoke.Session.Notice

/-!
# Sessions

A session carries out the commands of a browser. Fetches, timers and list changes are pending
until they end; what they end in is queued as a message, and messages are processed one at a time
in the order of the queue.
-/

set_option autoImplicit false

namespace Karaoke

/-- What has been started and has not ended. -/
inductive Pending where
  | fetch (r : Catalog.Resource) (sent : Http.Sent)
  | tick (delay : Nat) (generation : Nat)
  | scrollCheck (delay : Nat)
  | edit (e : Catalog.Edit) (sent : Http.Sent)
  deriving DecidableEq, Repr

/-- Whether something pending is a change that the user asked for; only such a change outlives the
end of the session. -/
def Pending.isEdit : Pending → Bool
  | edit _ _ => true
  | _ => false

/-- Tells how many pixels of the list remain below, each time it is asked. -/
structure Probe where
  remaining : Nat → Int
  asked : Nat := 0

/-- A probe that goes through a list of answers and stays at the last. -/
def Probe.ofScript (script : Array Int) : Probe where
  remaining n := script[min n (script.size - 1)]?.getD 0

/-- Where a session shows its views. -/
structure Display where
  /-- Whether the view with a number, counted from zero, can be shown. -/
  accepts : Nat → Bool
  renders : Nat := 0
  scrolls : Nat := 0

structure Session where
  browser : Browser
  client : Catalog.Client
  settings : Settings
  probe : Option Probe := none
  display : Option Display := none
  queue : List Message := []
  pending : List Pending := []
  running : Bool := false

/-- What a step of a session lets be seen. -/
inductive Event where
  | noticed (n : Notice)
  | rendered (v : Browser.View)
  | concluded (e : Catalog.Edit) (changed : Except Catalog.Failure Bool)
  /-- A change was refused because no credential is set. -/
  | refused (e : Catalog.Edit) (lack : Settings.Lack)

end Karaoke
