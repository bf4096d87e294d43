import LogWarden.Dispatch.Dispatcher
import LogWarden.Dispatch.Script
import LogWarden.Service.Channel
import LogWarden.Service.IdleGuard
import LogWarden.Trigger.Reaction

/-! # Activities

Everything that goes on in a warden is an activity that takes turns with the others. -/

namespace LogWarden

/-- How a consumer treats an event. -/
inductive Conduct
  | script (deeds : Event → List Deed)
  | trackChannel
  | guardIdling
  | fireTriggers

/-- Something that goes on. -/
inductive Activity
  /-- The worker of the queue. -/
  | worker
  /-- The pump at a position. -/
  | pump (i : Nat)
  /-- The dispatcher, with the hook that it is running. -/
  | dispatch (hook : Option Script)
  /-- A consumer that has not begun with an event. -/
  | consume (c : Conduct) (e : Event)
  | script (s : Script)
  | evasion (e : Evasion)
  | reaction (r : Reaction)
  | ticket (w : TicketWait)
  | chain (r : ChainRun)
  | question (q : ChannelQuestion)
  | echo (w : EchoWait)
  | shutdown (s : Shutdown)
  | drain (d : Drain)

/-- What an activity ends with. -/
inductive Ended
  | verdict (v : Verdict)
  | answer (text : String)
  /-- The queue is down. -/
  | down
  /-- The dispatcher has been seen in a state. -/
  | seen (l : Lifecycle)
  deriving DecidableEq, Repr

/-- Whom an activity serves. -/
inductive Role
  /-- Nobody asks what it ends with. -/
  | background
  /-- Somebody asks for its end by a name. -/
  | named (name : String)
  | delivery (d : Delivery)
  deriving DecidableEq, Repr

/-- An activity that has not ended. -/
structure Task where
  id : Nat
  role : Role
  activity : Activity
  /-- Whether it has had a turn. -/
  begun : Bool

/-- An entry of the journal of deliveries. -/
inductive JournalEntry
  | begun
  | ended (v : Verdict)
  | cancelled
  deriving DecidableEq, Repr

/-- What an entry says of a delivery. -/
def JournalEntry.text : JournalEntry → String
  | .begun => "begin"
  | .ended .ok => "ok"
  | .ended (.failed _) => "error"
  | .ended .panicked => "panicked"
  | .cancelled => "cancelled"

/-- A startup or shutdown hook that has been run. -/
structure HookRun where
  isStartup : Bool
  hook : Nat
  /-- The state of the dispatcher when the hook began. -/
  lifecycle : Lifecycle
  deriving DecidableEq, Repr

/-- What is said of a hook that has been run. -/
def HookRun.text (h : HookRun) : String :=
  (if h.isStartup then "startup " else "shutdown ") ++ natText h.hook ++ " while "
    ++ h.lifecycle.name

end LogWarden
