import LogWarden.Error
import LogWarden.Event.Basic

/-! # Consumers of events

A consumer is given every event that it takes an interest in: a reactor by the kind of payload, a
handler by the event kind. -/

namespace LogWarden

/-- Which events a consumer is given. -/
inductive Interest
  | payloads (s : Subscription)
  | kind (kind : String)
  deriving DecidableEq, Repr

/-- A consumer. -/
structure Consumer where
  interest : Interest
  /-- What notices call the consumer. -/
  label : String
  deriving DecidableEq, Repr

namespace Consumer

/-- A reactor, by its subscription. -/
def reactor (name : String) (s : Subscription) : Consumer := ⟨.payloads s, name⟩

/-- A handler of an event kind. -/
def handler (kind : String) : Consumer := ⟨.kind kind, "on:" ++ kind⟩

/-- Whether a consumer is given an event. -/
def accepts (c : Consumer) (e : Event) : Bool :=
  match c.interest with
  | .payloads s => s.accepts e.payload.kind
  | .kind kind => e.kind == kind

end Consumer

/-- How a consumer's work on an event ends. -/
inductive Verdict
  | ok
  | failed (e : HandlerError)
  | panicked
  deriving DecidableEq, Repr

namespace Verdict

/-- The verdict of a result. -/
def ofResult : Except HandlerError Unit → Verdict
  | .ok _ => .ok
  | .error e => .failed e

/-- The verdict of an action's result. -/
def ofAction (r : Except ActionError Unit) : Verdict :=
  ofResult (r.mapError .action)

/-- Why the program is asked to stop, if it is. -/
def terminates? : Verdict → Option String
  | .failed (.terminate reason) => some reason
  | _ => none

end Verdict

end LogWarden
