import LogWarden.Dispatch.Consumer
import LogWarden.Dispatch.Pump

/-! # Dispatching events

The dispatcher runs from its start until it is drained. It runs the startup hooks, then takes events
from the pumps, in order, and delivers each to all consumers that take an interest in it. It leaves
its loop when a drain is requested, when a consumer asks to terminate, or when all sources have ended
and no delivery is in progress. Then it stops the pumps and waits for them, cancels the deliveries in
progress and waits for them, and runs the shutdown hooks. -/

namespace LogWarden

/-- The states of a dispatcher, in their order. -/
inductive Lifecycle
  | idle | running | draining | stopped
  deriving DecidableEq, Repr

namespace Lifecycle

/-- The name of a state. -/
def name : Lifecycle → String
  | .idle => "idle"
  | .running => "running"
  | .draining => "draining"
  | .stopped => "stopped"

/-- The name of a state in summaries. -/
def title : Lifecycle → String
  | .idle => "Idle"
  | .running => "Running"
  | .draining => "Draining"
  | .stopped => "Stopped"

end Lifecycle

/-- What a dispatcher is at. -/
inductive Phase
  | waiting
  /-- It runs the startup hook of a number, or goes on if there is none. -/
  | startup (hook : Nat)
  | looping
  /-- It has told the pumps to stop and waits for them. -/
  | stoppingPumps
  /-- It has cancelled the deliveries in progress and waits for them. -/
  | stoppingDeliveries
  /-- It runs the shutdown hook of a number, or stops if there is none. -/
  | shutdown (hook : Nat)
  | over
  deriving DecidableEq, Repr

/-- An event that has been given to a consumer. -/
structure Delivery where
  /-- The number of the delivery. -/
  id : Nat
  /-- The position of the consumer. -/
  consumer : Nat
  /-- What notices call the consumer. -/
  label : String
  event : Event
  deriving DecidableEq, Repr

/-- What is put down for a delivery in progress, so that its end can be reported. -/
structure ConsumerTag where
  consumer : String
  kind : String
  deriving DecidableEq, Repr, Inhabited

/-- What is put down for a delivery. -/
def Delivery.tag (x : Delivery) : ConsumerTag := ⟨x.label, x.event.kind⟩

/-- A dispatcher with its pumps and deliveries. -/
structure Dispatcher where
  consumers : List Consumer
  /-- How many events may wait to be delivered. -/
  capacity : Nat
  startupHooks : Nat
  shutdownHooks : Nat
  sources : List Source
  lifecycle : Lifecycle
  phase : Phase
  drainRequested : Bool
  pumps : List Pump
  /-- Events that wait to be delivered. -/
  buffer : List Event
  /-- Whether more events may come. -/
  ingesting : Bool
  /-- How many deliveries have been made. -/
  delivered : Nat
  /-- Deliveries in progress. -/
  inProgress : List Delivery
  /-- Deliveries that have ended and have not been looked at, the oldest first; there is no verdict
  of those that were cancelled. -/
  ended : List (Delivery × Option Verdict)
  /-- What was put down for deliveries, by their numbers. -/
  inFlight : List (Nat × ConsumerTag)
  deriving DecidableEq, Repr

namespace Dispatcher

/-- A dispatcher that has not been started. -/
def start (consumers : List Consumer) (buffer startupHooks shutdownHooks : Nat)
    (sources : List Source) : Dispatcher :=
  { consumers, capacity := max buffer 1, startupHooks, shutdownHooks, sources
    lifecycle := .idle, phase := .waiting, drainRequested := false, pumps := [], buffer := []
    ingesting := true, delivered := 0, inProgress := [], ended := [], inFlight := [] }

/-- The number of reactors. -/
def reactorCount (d : Dispatcher) : Nat :=
  d.consumers.countP fun c => match c.interest with
    | .payloads _ => true
    | .kind _ => false

/-- The event kinds for which there are handlers. -/
def handledKinds (d : Dispatcher) : List String :=
  (d.consumers.filterMap fun c => match c.interest with
    | .payloads _ => none
    | .kind kind => some kind).eraseDups

/-- A summary of a dispatcher. -/
def summary (d : Dispatcher) : String :=
  "Scheduler \x7b sources: " ++ natText d.sources.length ++ ", reactors: " ++ natText d.reactorCount
    ++ ", handlers: " ++ natText d.handledKinds.length ++ ", state: " ++ d.lifecycle.title
    ++ ", .. \x7d"

/-- Requests a drain. -/
def requestDrain (d : Dispatcher) : Dispatcher := { d with drainRequested := true }

/-- Starts a dispatcher. One without sources is not started. -/
def run (d : Dispatcher) : Except ConfigError Dispatcher :=
  if d.sources.isEmpty then .error .noIngestionSource
  else .ok { d with lifecycle := .running, phase := .startup 0 }

/-- A startup or shutdown hook has ended. Its failure is noted and changes nothing. -/
def hookEnded (d : Dispatcher) (r : Except HandlerError Unit) : Dispatcher × List Notice :=
  match d.phase with
  | .startup hook =>
    ({ d with phase := .startup (hook + 1) }, match r with
      | .ok _ => []
      | .error e => [.startupHookFailed hook e])
  | .shutdown hook =>
    ({ d with phase := .shutdown (hook + 1) }, match r with
      | .ok _ => []
      | .error e => [.shutdownHookFailed hook e])
  | _ => (d, [])

/-- All startup hooks have run: the pumps start. -/
def openPumps (d : Dispatcher) : Dispatcher :=
  { d with phase := .looping, pumps := d.sources.map Pump.start }

/-- Changes the source at a position, whether its pump has started or not. -/
def modifySource (d : Dispatcher) (i : Nat) (f : Source → Source) : Dispatcher :=
  { d with
    sources := d.sources.modify i f
    pumps := d.pumps.modify i fun p => { p with source := f p.source } }

/-- Whether there is room for another event. -/
def hasRoom (d : Dispatcher) : Bool := d.buffer.length < d.capacity

/-- Whether the pump at a position has more to do. -/
def isPumping (d : Dispatcher) (i : Nat) : Bool := d.pumps[i]?.any Pump.isLive

/-- A turn of the pump at a position; `none` if it has to wait. A pump that was told to stop does
nothing but that. -/
def pumpNext (d : Dispatcher) (c : Classifier) (around : Surroundings) (now : Nanos) (i : Nat) :
    Option (Dispatcher × List Notice) := do
  let p ← d.pumps[i]?
  if d.phase = .stoppingPumps then
    if p.isLive then some ({ d with pumps := d.pumps.set i p.stop }, []) else none
  else
    let (p, event, notices) ← p.next c around now d.hasRoom
    return ({ d with pumps := d.pumps.set i p, buffer := d.buffer ++ event.toList }, notices)

/-- The deliveries of an event: one to each consumer that accepts it, numbered from `id`. -/
def deliveries (e : Event) : Nat → Nat → List Consumer → List Delivery
  | _, _, [] => []
  | id, i, c :: rest =>
    if c.accepts e then ⟨id, i, c.label, e⟩ :: deliveries e (id + 1) (i + 1) rest
    else deliveries e id (i + 1) rest

/-- The deliveries that an event is due. -/
def deliveriesOf (d : Dispatcher) (e : Event) : List Delivery :=
  deliveries e d.delivered 0 d.consumers

/-- Delivers the first event of the buffer, behind which others wait. -/
def fanOut (d : Dispatcher) (e : Event) (rest : List Event) : Dispatcher :=
  let ds := d.deliveriesOf e
  { d with
    buffer := rest, delivered := d.delivered + ds.length, inProgress := d.inProgress ++ ds
    inFlight := d.inFlight ++ ds.map fun x => (x.id, x.tag) }

/-- A delivery in progress has ended, with a verdict unless it was cancelled. -/
def deliveryEnded (d : Dispatcher) (x : Delivery) (v : Option Verdict) : Dispatcher :=
  { d with inProgress := d.inProgress.filter (·.id ≠ x.id), ended := d.ended ++ [(x, v)] }

/-- The notices of an ended delivery, by what was put down for it. -/
def verdictNotices (tag : ConsumerTag) : Option Verdict → List Notice
  | none | some .ok => []
  | some (.failed (.terminate _)) => []
  | some (.failed e) => [.consumerFailed tag.consumer tag.kind e]
  | some .panicked => [.consumerPanicked tag.consumer tag.kind]

/-- The notices when a delivery that has ended is looked at. -/
def endNotices (d : Dispatcher) (x : Delivery) (v : Option Verdict) : List Notice :=
  verdictNotices ((d.inFlight.lookup x.id).getD default) v

/-- Looks at the first delivery that has ended, behind which others wait. What was put down for it
is forgotten. -/
def observe (d : Dispatcher) (x : Delivery) (rest : List (Delivery × Option Verdict)) :
    Dispatcher :=
  { d with ended := rest, inFlight := d.inFlight.filter (·.1 ≠ x.id) }

/-- Leaves the loop: the pumps are told to stop, and events that wait are dropped. -/
def leave (d : Dispatcher) : Dispatcher :=
  { d with
    lifecycle := .draining, phase := .stoppingPumps, drainRequested := true, buffer := [] }

/-- All shutdown hooks have run. -/
def stop (d : Dispatcher) : Dispatcher :=
  { d with lifecycle := .stopped, phase := .over }

/-- What a turn of a dispatcher came to. -/
inductive DispatcherTurn
  /-- It is not started. -/
  | refused (e : ConfigError)
  /-- It begins with a startup or a shutdown hook. -/
  | begins (isStartup : Bool) (hook : Nat)
  /-- The pumps start. -/
  | opens (d : Dispatcher)
  | delivers (d : Dispatcher) (e : Event) (made : List Delivery)
  /-- It goes on and enters another state. -/
  | enters (d : Dispatcher) (notices : List Notice)
  | goes (d : Dispatcher) (notices : List Notice)
  | waits
  | over
  deriving DecidableEq, Repr

/-- A turn of the loop: a drain request comes first, then deliveries that have ended, then the next
event. -/
def loopNext (d : Dispatcher) : DispatcherTurn :=
  if !d.ingesting && d.inProgress.isEmpty && d.ended.isEmpty then .enters d.leave []
  else if d.drainRequested then .enters d.leave []
  else
    match d.ended with
    | (x, v) :: rest =>
      match v.bind Verdict.terminates? with
      | some reason => .enters (d.observe x rest).leave (d.endNotices x v ++ [.terminating reason])
      | none => .goes (d.observe x rest) (d.endNotices x v)
    | [] =>
      if d.ingesting then
        match d.buffer with
        | e :: rest => .delivers (d.fanOut e rest) e (d.deliveriesOf e)
        | [] => if d.pumps.any Pump.isLive then .waits else .goes { d with ingesting := false } []
      else .waits

/-- A turn of waiting for the pumps. -/
def joinPump (d : Dispatcher) : DispatcherTurn :=
  match d.pumps.findIdx? Pump.isOver with
  | some i =>
    .goes { d with pumps := d.pumps.modify i Pump.join } (d.pumps[i]?.elim [] Pump.joinNotices)
  | none =>
    if d.pumps.any Pump.isLive then .waits
    else .goes { d with phase := .stoppingDeliveries, pumps := [] } []

/-- A turn of waiting for the deliveries. -/
def joinDelivery (d : Dispatcher) : DispatcherTurn :=
  match d.ended with
  | (x, v) :: rest => .goes (d.observe x rest) (d.endNotices x v)
  | [] => if d.inProgress.isEmpty then .goes { d with phase := .shutdown 0 } [] else .waits

/-- A turn of a dispatcher that is not in a hook. -/
def next (d : Dispatcher) : DispatcherTurn :=
  match d.phase with
  | .waiting =>
    match d.run with
    | .ok d => .enters d []
    | .error e => .refused e
  | .startup hook => if hook < d.startupHooks then .begins true hook else .opens d.openPumps
  | .looping => d.loopNext
  | .stoppingPumps => d.joinPump
  | .stoppingDeliveries => d.joinDelivery
  | .shutdown hook => if hook < d.shutdownHooks then .begins false hook else .enters d.stop []
  | .over => .over

end Dispatcher

/-- Where a request to drain stands. -/
inductive Drain
  | fresh
  | waiting
  deriving DecidableEq, Repr

namespace Drain

/-- A turn of draining. A dispatcher that has not been started is only marked. -/
def next (d : Dispatcher) : Drain → Dispatcher × Turn Drain Unit
  | .fresh =>
    if d.lifecycle = .idle then (d.requestDrain, .ends ()) else (d.requestDrain, .goes .waiting)
  | .waiting => if d.lifecycle = .stopped then (d, .ends ()) else (d, .waits)

end Drain

end LogWarden
