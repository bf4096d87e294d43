import LogWarden.Dispatch.Dispatcher

/-!
# What can happen to a dispatcher

A move is anything that the dispatcher itself, a pump, a consumer, a hook, a source or somebody who
drains can do next. Whose move comes next, what sources give and how consumers and hooks end is left
open, so a run is any list of moves that are possible one after another; what it shows is its
history. `Change` says for each move what becomes of the dispatcher, and all invariants are derived
from it.

## Implementation notes

A move is what one task does between two points at which it may be suspended. The dispatcher is
suspended between any two turns of its loop only if it has to wait, so a run in which others move
between these turns is more than what is needed. A hook runs inside the dispatcher, so one that
panics takes the dispatcher with it: the dispatcher stays in that hook for good. A call to drain
keeps its place in the list of calls after it has returned, so that it can be told from the others.
The origins of the events that wait are kept beside the buffer: they are put in and taken out
together with the events, and no turn depends on them.
-/

namespace LogWarden

/-- What a run of a dispatcher shows. -/
inductive DispatchEvent
  | drainRequested
  /-- A call to drain took its first or another turn while the dispatcher was in a state, and
  returned or went on. A drain is requested in its first turn. -/
  | drained (call : Nat) (isFirst : Bool) (l : Lifecycle) (returns : Bool)
  | moved (l : Lifecycle)
  /-- A startup or a shutdown hook began while the dispatcher was in a state. -/
  | hookBegan (isStartup : Bool) (hook : Nat) (l : Lifecycle)
  | hookEnded (isStartup : Bool) (hook : Nat) (r : Except HandlerError Unit)
  /-- A hook panicked, and the dispatcher with it. -/
  | hookPanicked (isStartup : Bool) (hook : Nat)
  /-- A pump asked its source, which gave a reading unless the pump has to wait or to ask again. -/
  | asked (pump : Nat) (r : Option Reading)
  /-- A pump handed on an event. -/
  | sent (pump : Nat) (e : Event)
  /-- A pump was stopped. -/
  | pumpStopped (pump : Nat)
  /-- An event that a pump had handed on was delivered. -/
  | delivered (pump : Nat) (e : Event) (made : List Delivery)
  /-- A delivery ended with a verdict, or was cancelled. -/
  | ended (x : Delivery) (v : Option Verdict)
  /-- The dispatcher returned. -/
  | returned (r : Except ConfigError Unit)
  deriving Repr

/-- What happens next. -/
inductive Move
  | requestDrain
  /-- Somebody is about to drain. -/
  | call
  /-- A turn of a call to drain. -/
  | callTurn (call : Nat)
  | abandonCall (call : Nat)
  | feed (source : Nat) (fed : Feeding)
  | finish (source : Nat)
  /-- A turn of a pump, at a time and with what there is around its source. -/
  | pump (pump : Nat) (around : Surroundings) (now : Nanos)
  /-- A turn of the dispatcher. -/
  | own
  | endHook (r : Except HandlerError Unit)
  | panicHook
  /-- A consumer is done with the delivery of a number. -/
  | endDelivery (id : Nat) (v : Verdict)
  /-- A delivery that has been cancelled ends. -/
  | cancelDelivery (id : Nat)

/-- A dispatcher with all that its moves depend on. -/
structure Dispatching where
  dispatcher : Dispatcher
  /-- Whether the dispatcher is in a hook. -/
  inHook : Bool
  /-- Calls to drain; nothing is left of those that have returned or were abandoned. -/
  calls : List (Option Drain)
  /-- The pumps that have handed on the events in the buffer. -/
  origins : List Nat
  /-- What the dispatcher has returned. -/
  result : Option (Except ConfigError Unit)
  /-- Whether the hook that the dispatcher is in has panicked. -/
  broken : Bool

/-- Whether a source gives nothing after a reading. -/
def Reading.isLast : Reading → Bool
  | .line _ => false
  | .ended | .failed _ | .broken => true

/-- What a turn of the pump at a position shows, given the room for events. -/
def Pump.shows (around : Surroundings) (now : Nanos) (room : Bool) (i : Nat) (p : Pump) :
    Option DispatchEvent :=
  match p.state with
  | .asking =>
    match p.source.next around now with
    | .ends (_, reading) => some (.asked i (some reading))
    | _ => some (.asked i none)
  | .sending (e :: _) => if room then some (.sent i e) else none
  | _ => none

/-- The hook that a dispatcher is in or comes to next, if it is at its hooks. -/
@[simp] def Phase.hook? : Phase → Option (Bool × Nat)
  | .startup hook => some (true, hook)
  | .shutdown hook => some (false, hook)
  | _ => none

/-- What a view of a history shows after one more move. -/
theorem filterMap_append_toList {α β : Type} (f : α → Option β) (xs : List α) (x : Option α) :
    (xs ++ x.toList).filterMap f = xs.filterMap f ++ (x.bind f).toList := by
  cases x with
  | none => simp
  | some x => cases h : f x <;> simp [h]

theorem Dispatcher.run_eq_ok_iff {d d' : Dispatcher} :
    d.run = .ok d' ↔
      d.sources ≠ [] ∧ d' = { d with lifecycle := .running, phase := .startup 0 } := by
  cases h : d.sources <;> simp [run, h, eq_comm]

theorem Dispatcher.run_eq_error_iff {d : Dispatcher} {e : ConfigError} :
    d.run = .error e ↔ d.sources = [] ∧ e = .noIngestionSource := by
  cases h : d.sources <;> simp [run, h, eq_comm]

namespace Dispatching

/-- A dispatcher with some consumers, hooks and sources that nobody has started. -/
def start (consumers : List Consumer) (buffer startupHooks shutdownHooks : Nat)
    (sources : List Source) : Dispatching :=
  ⟨.start consumers buffer startupHooks shutdownHooks sources, false, [], [], none, false⟩

/-- A turn of a call to drain. -/
def callTurn (s : Dispatching) (i : Nat) : Option (Dispatching × Option DispatchEvent) :=
  match s.calls[i]? with
  | some (some call) =>
    let isFirst : Bool := call = .fresh
    let l := s.dispatcher.lifecycle
    match call.next s.dispatcher with
    | (d, .goes call) =>
      some ({ s with dispatcher := d, calls := s.calls.set i (some call) },
        some (.drained i isFirst l false))
    | (d, .waits) => some ({ s with dispatcher := d }, some (.drained i isFirst l false))
    | (d, .ends _) =>
      some ({ s with dispatcher := d, calls := s.calls.set i none },
        some (.drained i isFirst l true))
  | _ => none

/-- A turn of a pump. -/
def pumpTurn (c : Classifier) (s : Dispatching) (i : Nat) (around : Surroundings) (now : Nanos) :
    Option (Dispatching × Option DispatchEvent) :=
  s.dispatcher.pumps[i]?.map fun p =>
    let shown :=
      if s.dispatcher.phase = .stoppingPumps then
        if p.isLive then some (.pumpStopped i) else none
      else p.shows around now s.dispatcher.hasRoom i
    let origins := match shown with
      | some (.sent ..) => s.origins ++ [i]
      | _ => s.origins
    match s.dispatcher.pumpNext c around now i with
    | some (d, _) => ({ s with dispatcher := d, origins }, shown)
    | none => (s, shown)

/-- What becomes of a dispatcher that has taken a turn; `none` if it has to wait. -/
def afterTurn (s : Dispatching) :
    Dispatcher.DispatcherTurn → Option (Dispatching × Option DispatchEvent)
  | .refused e => some ({ s with result := some (.error e) }, some (.returned (.error e)))
  | .begins isStartup hook =>
    some ({ s with inHook := true }, some (.hookBegan isStartup hook s.dispatcher.lifecycle))
  | .opens d => some ({ s with dispatcher := d }, none)
  | .delivers d e made =>
    some ({ s with dispatcher := d, origins := s.origins.tail },
      some (.delivered (s.origins.headD 0) e made))
  | .enters d _ => some ({ s with dispatcher := d }, some (.moved d.lifecycle))
  | .goes d _ => some ({ s with dispatcher := d }, none)
  | .waits => none
  | .over => some ({ s with result := some (.ok ()) }, some (.returned (.ok ())))

/-- A turn of the dispatcher, unless it is in a hook or has returned. -/
def ownTurn (s : Dispatching) : Option (Dispatching × Option DispatchEvent) :=
  if s.inHook || s.result.isSome then none else s.afterTurn s.dispatcher.next

/-- The hook that the dispatcher is in, unless it has panicked. -/
def hookUnderWay? (s : Dispatching) : Option (Bool × Nat) :=
  if s.inHook && !s.broken then s.dispatcher.phase.hook? else none

/-- The end of the hook that the dispatcher is in. -/
def endHook (s : Dispatching) (r : Except HandlerError Unit) :
    Option (Dispatching × Option DispatchEvent) :=
  s.hookUnderWay?.map fun (isStartup, hook) =>
    ({ s with dispatcher := (s.dispatcher.hookEnded r).1, inHook := false },
      some (.hookEnded isStartup hook r))

/-- A panic of the hook that the dispatcher is in. -/
def panicHook (s : Dispatching) : Option (Dispatching × Option DispatchEvent) :=
  s.hookUnderWay?.map fun (isStartup, hook) =>
    ({ s with broken := true }, some (.hookPanicked isStartup hook))

/-- The end of the delivery of a number, if that is in progress. -/
def endDelivery (s : Dispatching) (id : Nat) (v : Option Verdict) :
    Option (Dispatching × Option DispatchEvent) :=
  (s.dispatcher.inProgress.find? (·.id == id)).map fun x =>
    ({ s with dispatcher := s.dispatcher.deliveryEnded x v }, some (.ended x v))

/-- What becomes of a dispatcher in a move, and what the move shows; `none` if the move is not
possible. Deliveries are cancelled only while the dispatcher waits for them to end. -/
def move (c : Classifier) (s : Dispatching) : Move → Option (Dispatching × Option DispatchEvent)
  | .requestDrain =>
    some ({ s with dispatcher := s.dispatcher.requestDrain }, some .drainRequested)
  | .call => some ({ s with calls := s.calls ++ [some .fresh] }, none)
  | .callTurn i => s.callTurn i
  | .abandonCall i => some ({ s with calls := s.calls.set i none }, none)
  | .feed i fed => some ({ s with dispatcher := s.dispatcher.modifySource i (.give fed) }, none)
  | .finish i => some ({ s with dispatcher := s.dispatcher.modifySource i .finish }, none)
  | .pump i around now => s.pumpTurn c i around now
  | .own => s.ownTurn
  | .endHook r => s.endHook r
  | .panicHook => s.panicHook
  | .endDelivery id v => s.endDelivery id (some v)
  | .cancelDelivery id =>
    if s.dispatcher.phase = .stoppingDeliveries then s.endDelivery id none else none

/-- Moves one after another, and what they show. -/
inductive Run (c : Classifier) (s : Dispatching) :
    List Move → List DispatchEvent → Dispatching → Prop
  | refl : Run c s [] [] s
  | tail {ms m tr e s₁ s₂} (run : Run c s ms tr s₁) (h : s₁.move c m = some (s₂, e)) :
      Run c s (ms ++ [m]) (tr ++ e.toList) s₂

/-- A run of some moves, if they are possible one after another. -/
def play (c : Classifier) (s : Dispatching) :
    List Move → Option (Dispatching × List DispatchEvent)
  | [] => some (s, [])
  | m :: ms => do
    let (s, e) ← s.move c m
    let (s, tr) ← s.play c ms
    return (s, e.toList ++ tr)

/-- What becomes of a pump in a turn, other than that it hands on an event, and what the turn
shows. -/
inductive PumpChange (c : Classifier) (i : Nat) (p : Pump) : Option DispatchEvent → Pump → Prop
  | ask (hs : p.state = .asking) (source : Source) :
      PumpChange c i p (some (.asked i none)) { p with source, state := .asking }
  | read (hs : p.state = .asking) (source : Source) (line : String) :
      PumpChange c i p (some (.asked i (some (.line line))))
        { p with source, state := .sending (c.classify line) }
  | lose (hs : p.state = .asking) (source : Source) {r : Reading} (hr : r.isLast = true)
      {state : PumpState} (hstate : state = .ended ∨ state = .broken) :
      PumpChange c i p (some (.asked i (some r))) { p with source, state }
  | turn (hs : p.state = .sending []) : PumpChange c i p none { p with state := .asking }

/-- What becomes of a dispatcher in its own turn, what the dispatcher was like, and what the turn
shows. -/
inductive OwnChange (s : Dispatching) : Option DispatchEvent → Dispatching → Prop
  | refuse (hp : s.dispatcher.phase = .waiting) (h : s.dispatcher.sources = []) :
      OwnChange s (some (.returned (.error .noIngestionSource)))
        { s with result := some (.error .noIngestionSource) }
  | start (hp : s.dispatcher.phase = .waiting) (h : s.dispatcher.sources ≠ []) :
      OwnChange s (some (.moved .running))
        { s with
          dispatcher := { s.dispatcher with lifecycle := .running, phase := .startup 0 } }
  | beginStartup {k : Nat} (hp : s.dispatcher.phase = .startup k)
      (h : k < s.dispatcher.startupHooks) :
      OwnChange s (some (.hookBegan true k s.dispatcher.lifecycle)) { s with inHook := true }
  | openPumps {k : Nat} (hp : s.dispatcher.phase = .startup k)
      (h : s.dispatcher.startupHooks ≤ k) :
      OwnChange s none { s with dispatcher := s.dispatcher.openPumps }
  | finish (hp : s.dispatcher.phase = .looping) (hi : s.dispatcher.ingesting = false)
      (hx : s.dispatcher.inProgress = []) (he : s.dispatcher.ended = []) :
      OwnChange s (some (.moved .draining)) { s with dispatcher := s.dispatcher.leave }
  | drain (hp : s.dispatcher.phase = .looping) (hd : s.dispatcher.drainRequested = true) :
      OwnChange s (some (.moved .draining)) { s with dispatcher := s.dispatcher.leave }
  | terminate (hp : s.dispatcher.phase = .looping) {x v rest reason}
      (he : s.dispatcher.ended = (x, v) :: rest)
      (hv : v.bind Verdict.terminates? = some reason) :
      OwnChange s (some (.moved .draining))
        { s with dispatcher := (s.dispatcher.observe x rest).leave }
  | observe (hp : s.dispatcher.phase = .looping) {x v rest}
      (he : s.dispatcher.ended = (x, v) :: rest) (hv : v.bind Verdict.terminates? = none) :
      OwnChange s none
        { s with dispatcher := s.dispatcher.observe x rest }
  | deliver (hp : s.dispatcher.phase = .looping) (hd : s.dispatcher.drainRequested = false)
      (he : s.dispatcher.ended = []) {e rest} (hb : s.dispatcher.buffer = e :: rest) :
      OwnChange s
        (some (.delivered (s.origins.headD 0) e (s.dispatcher.deliveriesOf e)))
        { s with dispatcher := s.dispatcher.fanOut e rest, origins := s.origins.tail }
  | exhaust (hp : s.dispatcher.phase = .looping) (hb : s.dispatcher.buffer = [])
      (hl : s.dispatcher.pumps.any Pump.isLive = false) :
      OwnChange s none { s with dispatcher := { s.dispatcher with ingesting := false } }
  | joinPump (hp : s.dispatcher.phase = .stoppingPumps) {i : Nat}
      (h : s.dispatcher.pumps.findIdx? Pump.isOver = some i) :
      OwnChange s none
        { s with
          dispatcher :=
            { s.dispatcher with pumps := s.dispatcher.pumps.modify i Pump.join } }
  | cancelDeliveries (hp : s.dispatcher.phase = .stoppingPumps)
      (hl : s.dispatcher.pumps.any Pump.isLive = false) :
      OwnChange s none
        { s with
          dispatcher := { s.dispatcher with phase := .stoppingDeliveries, pumps := [] } }
  | joinDelivery (hp : s.dispatcher.phase = .stoppingDeliveries) {x v rest}
      (he : s.dispatcher.ended = (x, v) :: rest) :
      OwnChange s none
        { s with dispatcher := s.dispatcher.observe x rest }
  | clear (hp : s.dispatcher.phase = .stoppingDeliveries) (hx : s.dispatcher.inProgress = [])
      (he : s.dispatcher.ended = []) :
      OwnChange s none { s with dispatcher := { s.dispatcher with phase := .shutdown 0 } }
  | beginShutdown {k : Nat} (hp : s.dispatcher.phase = .shutdown k)
      (h : k < s.dispatcher.shutdownHooks) :
      OwnChange s (some (.hookBegan false k s.dispatcher.lifecycle)) { s with inHook := true }
  | stop {k : Nat} (hp : s.dispatcher.phase = .shutdown k)
      (h : s.dispatcher.shutdownHooks ≤ k) :
      OwnChange s (some (.moved .stopped)) { s with dispatcher := s.dispatcher.stop }
  | return (hp : s.dispatcher.phase = .over) :
      OwnChange s (some (.returned (.ok ()))) { s with result := some (.ok ()) }

/-- What becomes of a dispatcher in one move, what it was like, and what the move shows. -/
inductive Change (c : Classifier) (s : Dispatching) :
    Move → Option DispatchEvent → Dispatching → Prop
  | requestDrain :
      Change c s .requestDrain (some .drainRequested)
        { s with dispatcher := s.dispatcher.requestDrain }
  | call : Change c s .call none { s with calls := s.calls ++ [some .fresh] }
  | beginCall {i : Nat} (h : s.calls[i]? = some (some .fresh)) (call : Option Drain) :
      Change c s (.callTurn i)
        (some (.drained i true s.dispatcher.lifecycle (s.dispatcher.lifecycle = .idle)))
        { s with dispatcher := s.dispatcher.requestDrain, calls := s.calls.set i call }
  | pollCall {i : Nat} (h : s.calls[i]? = some (some .waiting)) (calls : List (Option Drain)) :
      Change c s (.callTurn i)
        (some (.drained i false s.dispatcher.lifecycle (s.dispatcher.lifecycle = .stopped)))
        { s with calls }
  | abandonCall (i : Nat) :
      Change c s (.abandonCall i) none { s with calls := s.calls.set i none }
  | feed (i : Nat) (fed : Feeding) :
      Change c s (.feed i fed) none
        { s with dispatcher := s.dispatcher.modifySource i (.give fed) }
  | finish (i : Nat) :
      Change c s (.finish i) none { s with dispatcher := s.dispatcher.modifySource i .finish }
  | pumpWait {i : Nat} {around now p e} (hi : s.dispatcher.pumps[i]? = some p)
      (he : e = none ∨ e = some (.asked i none) ∧ s.dispatcher.phase ≠ .stoppingPumps) :
      Change c s (.pump i around now) e s
  | pump {i : Nat} {around now p e p'} (hi : s.dispatcher.pumps[i]? = some p)
      (hp : s.dispatcher.phase ≠ .stoppingPumps) (h : PumpChange c i p e p') :
      Change c s (.pump i around now) e
        { s with dispatcher := { s.dispatcher with pumps := s.dispatcher.pumps.set i p' } }
  | send {i : Nat} {around now p e rest} (hi : s.dispatcher.pumps[i]? = some p)
      (hp : s.dispatcher.phase ≠ .stoppingPumps) (hs : p.state = .sending (e :: rest))
      (hroom : s.dispatcher.buffer.length < s.dispatcher.capacity) :
      Change c s (.pump i around now) (some (.sent i e))
        { s with
          dispatcher := { s.dispatcher with
            pumps := s.dispatcher.pumps.set i { p with state := .sending rest }
            buffer := s.dispatcher.buffer ++ [e] }
          origins := s.origins ++ [i] }
  | stopPump {i : Nat} {around now p} (hi : s.dispatcher.pumps[i]? = some p)
      (hp : s.dispatcher.phase = .stoppingPumps) (hl : p.isLive = true) :
      Change c s (.pump i around now) (some (.pumpStopped i))
        { s with dispatcher := { s.dispatcher with pumps := s.dispatcher.pumps.set i p.stop } }
  | own {e s'} (hh : s.inHook = false) (hr : s.result = none) (h : OwnChange s e s') :
      Change c s .own e s'
  | endStartup {k : Nat} (r : Except HandlerError Unit) (hh : s.inHook = true)
      (hb : s.broken = false) (hp : s.dispatcher.phase = .startup k) :
      Change c s (.endHook r) (some (.hookEnded true k r))
        { s with
          dispatcher := { s.dispatcher with phase := .startup (k + 1) }, inHook := false }
  | endShutdown {k : Nat} (r : Except HandlerError Unit) (hh : s.inHook = true)
      (hb : s.broken = false) (hp : s.dispatcher.phase = .shutdown k) :
      Change c s (.endHook r) (some (.hookEnded false k r))
        { s with
          dispatcher := { s.dispatcher with phase := .shutdown (k + 1) }, inHook := false }
  | panicHook {isStartup : Bool} {k : Nat} (hh : s.inHook = true) (hb : s.broken = false)
      (hp : s.dispatcher.phase.hook? = some (isStartup, k)) :
      Change c s .panicHook (some (.hookPanicked isStartup k)) { s with broken := true }
  | endDelivery {x : Delivery} (v : Verdict)
      (hx : s.dispatcher.inProgress.find? (·.id == x.id) = some x) :
      Change c s (.endDelivery x.id v) (some (.ended x (some v)))
        { s with dispatcher := s.dispatcher.deliveryEnded x (some v) }
  | cancelDelivery {x : Delivery} (hp : s.dispatcher.phase = .stoppingDeliveries)
      (hx : s.dispatcher.inProgress.find? (·.id == x.id) = some x) :
      Change c s (.cancelDelivery x.id) (some (.ended x none))
        { s with dispatcher := s.dispatcher.deliveryEnded x none }

section Inversion

variable {c : Classifier} {s s' : Dispatching} {e : Option DispatchEvent}

theorem change_of_callTurn {i : Nat} (h : s.callTurn i = some (s', e)) :
    Change c s (.callTurn i) e s' := by
  unfold callTurn at h
  cases hi : s.calls[i]? with
  | none => simp [hi] at h
  | some call? =>
      cases call? with
      | none => simp [hi] at h
      | some call =>
          cases call with
          | fresh =>
              by_cases hl : s.dispatcher.lifecycle = .idle <;>
                simp only [hi, Drain.next, hl, if_true, if_false, Option.some.injEq,
                  Prod.mk.injEq] at h <;>
                obtain ⟨rfl, rfl⟩ := h
              · simpa [hl] using Change.beginCall hi none
              · simpa [hl] using Change.beginCall hi (some .waiting)
          | waiting =>
              by_cases hl : s.dispatcher.lifecycle = .stopped <;>
                simp only [hi, Drain.next, hl, if_true, if_false, Option.some.injEq,
                  Prod.mk.injEq] at h <;>
                obtain ⟨rfl, rfl⟩ := h
              · simpa [hl] using Change.pollCall hi (s.calls.set i none)
              · simpa [hl] using Change.pollCall hi s.calls

/-- A turn of a pump that has not been told to stop. -/
theorem change_of_pumpNext {i : Nat} {around : Surroundings} {now : Nanos} {p : Pump}
    (hi : s.dispatcher.pumps[i]? = some p) (hp : s.dispatcher.phase ≠ .stoppingPumps)
    (h : s.pumpTurn c i around now = some (s', e)) : Change c s (.pump i around now) e s' := by
  cases hs : p.state with
  | asking =>
      cases hn : p.source.next around now with
      | goes source =>
          simp [pumpTurn, Dispatcher.pumpNext, Pump.shows, Pump.next, hi, hp, hs, hn] at h
          obtain ⟨rfl, rfl⟩ := h
          exact .pump hi hp (.ask hs source)
      | waits =>
          simp [pumpTurn, Dispatcher.pumpNext, Pump.shows, Pump.next, hi, hp, hs, hn] at h
          obtain ⟨rfl, rfl⟩ := h
          exact .pumpWait hi (.inr ⟨rfl, hp⟩)
      | ends result =>
          obtain ⟨source, reading⟩ := result
          simp [pumpTurn, Dispatcher.pumpNext, Pump.shows, Pump.next, hi, hp, hs, hn] at h
          obtain ⟨rfl, rfl⟩ := h
          refine .pump hi hp ?_
          cases reading with
          | line text => exact .read hs source text
          | ended => exact .lose hs source rfl (.inl rfl)
          | failed err => exact .lose hs source rfl (.inl rfl)
          | broken => exact .lose hs source rfl (.inr rfl)
  | sending events =>
      cases events with
      | nil =>
          simp [pumpTurn, Dispatcher.pumpNext, Pump.shows, Pump.next, hi, hp, hs] at h
          obtain ⟨rfl, rfl⟩ := h
          exact .pump hi hp (.turn hs)
      | cons event rest =>
          by_cases hroom : s.dispatcher.buffer.length < s.dispatcher.capacity
          · simp [pumpTurn, Dispatcher.pumpNext, Pump.shows, Pump.next, Dispatcher.hasRoom, hi, hp,
              hs, hroom] at h
            obtain ⟨rfl, rfl⟩ := h
            exact .send hi hp hs hroom
          · simp [pumpTurn, Dispatcher.pumpNext, Pump.shows, Pump.next, Dispatcher.hasRoom, hi, hp,
              hs, hroom] at h
            obtain ⟨rfl, rfl⟩ := h
            exact .pumpWait hi (.inl rfl)
  | ended | broken | joined =>
      simp [pumpTurn, Dispatcher.pumpNext, Pump.shows, Pump.next, hi, hp, hs] at h
      obtain ⟨rfl, rfl⟩ := h
      exact .pumpWait hi (.inl rfl)

theorem change_of_pumpTurn {i : Nat} {around : Surroundings} {now : Nanos}
    (h : s.pumpTurn c i around now = some (s', e)) : Change c s (.pump i around now) e s' := by
  cases hi : s.dispatcher.pumps[i]? with
  | none => simp [pumpTurn, hi] at h
  | some p =>
      by_cases hp : s.dispatcher.phase = .stoppingPumps
      · cases hl : p.isLive with
        | true =>
            simp [pumpTurn, Dispatcher.pumpNext, hi, if_pos hp, hl] at h
            obtain ⟨rfl, rfl⟩ := h
            exact .stopPump hi hp hl
        | false =>
            simp [pumpTurn, Dispatcher.pumpNext, hi, if_pos hp, hl] at h
            obtain ⟨rfl, rfl⟩ := h
            exact .pumpWait hi (.inl rfl)
      · exact change_of_pumpNext hi hp h

theorem ownChange_of_loopNext (hp : s.dispatcher.phase = .looping)
    (h : s.afterTurn s.dispatcher.loopNext = some (s', e)) : OwnChange s e s' := by
  revert h
  fun_cases Dispatcher.loopNext s.dispatcher with
  | case1 hdone =>
      rintro ⟨⟩
      simp only [Bool.and_eq_true, Bool.not_eq_true', List.isEmpty_iff] at hdone
      exact .finish hp hdone.1.1 hdone.1.2 hdone.2
  | case2 _ hd =>
      rintro ⟨⟩
      exact .drain hp hd
  | case3 _ _ x v rest he reason hv =>
      rintro ⟨⟩
      exact .terminate hp he hv
  | case4 _ _ x v rest he hv =>
      rintro ⟨⟩
      exact .observe hp he hv
  | case5 _ hd he _ e rest hb =>
      rintro ⟨⟩
      exact .deliver hp (Bool.eq_false_iff.mpr hd) he hb
  | case7 _ _ he _ hb hl =>
      rintro ⟨⟩
      exact .exhaust hp hb (Bool.eq_false_iff.mpr hl)
  | case6 | case8 => rintro ⟨⟩

theorem ownChange_of_joinPump (hp : s.dispatcher.phase = .stoppingPumps)
    (h : s.afterTurn s.dispatcher.joinPump = some (s', e)) : OwnChange s e s' := by
  revert h
  fun_cases Dispatcher.joinPump s.dispatcher with
  | case1 i hi =>
      rintro ⟨⟩
      exact .joinPump hp hi
  | case2 => rintro ⟨⟩
  | case3 _ hl =>
      rintro ⟨⟩
      exact .cancelDeliveries hp (Bool.eq_false_iff.mpr hl)

theorem ownChange_of_joinDelivery (hp : s.dispatcher.phase = .stoppingDeliveries)
    (h : s.afterTurn s.dispatcher.joinDelivery = some (s', e)) : OwnChange s e s' := by
  revert h
  fun_cases Dispatcher.joinDelivery s.dispatcher with
  | case1 x v rest he =>
      rintro ⟨⟩
      exact .joinDelivery hp he
  | case2 he hx =>
      rintro ⟨⟩
      exact .clear hp (List.isEmpty_iff.mp hx) he
  | case3 => rintro ⟨⟩

theorem ownChange_of_afterTurn (h : s.afterTurn s.dispatcher.next = some (s', e)) :
    OwnChange s e s' := by
  revert h
  fun_cases Dispatcher.next s.dispatcher with
  | case1 hp d hd =>
      rintro ⟨⟩
      obtain ⟨hne, rfl⟩ := Dispatcher.run_eq_ok_iff.mp hd
      exact .start hp hne
  | case2 hp err herr =>
      rintro ⟨⟩
      obtain ⟨hnil, rfl⟩ := Dispatcher.run_eq_error_iff.mp herr
      exact .refuse hp hnil
  | case3 k hp hk =>
      rintro ⟨⟩
      exact .beginStartup hp hk
  | case4 k hp hk =>
      rintro ⟨⟩
      exact .openPumps hp (Nat.le_of_not_lt hk)
  | case5 hp => exact ownChange_of_loopNext hp
  | case6 hp => exact ownChange_of_joinPump hp
  | case7 hp => exact ownChange_of_joinDelivery hp
  | case8 k hp hk =>
      rintro ⟨⟩
      exact .beginShutdown hp hk
  | case9 k hp hk =>
      rintro ⟨⟩
      exact .stop hp (Nat.le_of_not_lt hk)
  | case10 hp =>
      rintro ⟨⟩
      exact .return hp

theorem change_of_ownTurn (h : s.ownTurn = some (s', e)) : Change c s .own e s' := by
  simp only [ownTurn, Option.ite_none_left_eq_some, Bool.or_eq_true, not_or,
    Bool.not_eq_true, Option.isSome_eq_false_iff, Option.isNone_iff_eq_none] at h
  exact .own h.1.1 h.1.2 (ownChange_of_afterTurn h.2)

theorem hookUnderWay?_eq_some_iff {x : Bool × Nat} :
    s.hookUnderWay? = some x ↔
      (s.inHook = true ∧ s.broken = false) ∧ s.dispatcher.phase.hook? = some x := by
  simp [hookUnderWay?]

theorem change_of_endHook {r : Except HandlerError Unit} (h : s.endHook r = some (s', e)) :
    Change c s (.endHook r) e s' := by
  obtain ⟨⟨isStartup, k⟩, hx, heq⟩ := Option.map_eq_some_iff.mp h
  obtain ⟨⟨hh, hb⟩, hp⟩ := hookUnderWay?_eq_some_iff.mp hx
  obtain ⟨rfl, rfl⟩ := Prod.mk.inj heq
  cases hphase : s.dispatcher.phase with
  | startup j =>
      obtain ⟨rfl, rfl⟩ : true = isStartup ∧ j = k := by simpa [hphase] using hp
      simpa only [Dispatcher.hookEnded, hphase] using Change.endStartup r hh hb hphase
  | shutdown j =>
      obtain ⟨rfl, rfl⟩ : false = isStartup ∧ j = k := by simpa [hphase] using hp
      simpa only [Dispatcher.hookEnded, hphase] using Change.endShutdown r hh hb hphase
  | waiting | looping | stoppingPumps | stoppingDeliveries | «over» => simp [hphase] at hp

theorem change_of_panicHook (h : s.panicHook = some (s', e)) : Change c s .panicHook e s' := by
  obtain ⟨⟨isStartup, k⟩, hx, heq⟩ := Option.map_eq_some_iff.mp h
  obtain ⟨⟨hh, hb⟩, hp⟩ := hookUnderWay?_eq_some_iff.mp hx
  obtain ⟨rfl, rfl⟩ := Prod.mk.inj heq
  exact .panicHook hh hb hp

theorem endDelivery_eq_some_iff {id : Nat} {v : Option Verdict} :
    s.endDelivery id v = some (s', e) ↔
      ∃ x, s.dispatcher.inProgress.find? (·.id == id) = some x ∧
        s' = { s with dispatcher := s.dispatcher.deliveryEnded x v } ∧
        e = some (.ended x v) := by
  simp only [endDelivery, Option.map_eq_some_iff, Prod.mk.injEq, @eq_comm _ s', @eq_comm _ e]

theorem id_eq_of_find? {xs : List Delivery} {id : Nat} {x : Delivery}
    (h : xs.find? (·.id == id) = some x) : x.id = id := by
  simpa using List.find?_some h

/-- What can be told of any move. -/
theorem change_of_move {m : Move} (h : s.move c m = some (s', e)) : Change c s m e s' := by
  cases m with
  | requestDrain =>
      cases h
      exact .requestDrain
  | call =>
      cases h
      exact .call
  | callTurn i => exact change_of_callTurn h
  | abandonCall i =>
      cases h
      exact .abandonCall i
  | feed i fed =>
      cases h
      exact .feed i fed
  | finish i =>
      cases h
      exact .finish i
  | pump i around now => exact change_of_pumpTurn h
  | own => exact change_of_ownTurn h
  | endHook r => exact change_of_endHook h
  | panicHook => exact change_of_panicHook h
  | endDelivery id v =>
      obtain ⟨x, hx, rfl, rfl⟩ := endDelivery_eq_some_iff.mp h
      obtain rfl := id_eq_of_find? hx
      exact .endDelivery v hx
  | cancelDelivery id =>
      simp only [move, Option.ite_none_right_eq_some] at h
      obtain ⟨x, hx, rfl, rfl⟩ := endDelivery_eq_some_iff.mp h.2
      obtain rfl := id_eq_of_find? hx
      exact .cancelDelivery h.1 hx

end Inversion

namespace Run

variable {c : Classifier} {s s₁ s₂ s' : Dispatching} {ms ms' : List Move}
variable {tr tr' tr₁ tr₂ : List DispatchEvent} {x : DispatchEvent}

theorem single {m : Move} {e : Option DispatchEvent} (h : s.move c m = some (s', e)) :
    Run c s [m] e.toList s' :=
  Run.refl.tail h

theorem trans (first : Run c s ms tr s₁) (second : Run c s₁ ms' tr' s') :
    Run c s (ms ++ ms') (tr ++ tr') s' := by
  induction second with
  | refl => simpa using first
  | tail _ h ih => simpa only [List.append_assoc] using ih.tail h

theorem of_play (h : s.play c ms = some (s', tr)) : Run c s ms tr s' := by
  induction ms generalizing s tr with
  | nil =>
      cases h
      exact .refl
  | cons m ms ih =>
      simp only [play, Option.bind_eq_bind, Option.bind_eq_some_iff, Option.pure_def,
        Option.some.injEq, Prod.mk.injEq] at h
      obtain ⟨⟨s₁, e⟩, hmove, ⟨s₂, tr₂⟩, hplay, rfl, rfl⟩ := h
      exact (single hmove).trans (ih hplay)

theorem play_append (s : Dispatching) (ms ms' : List Move) :
    s.play c (ms ++ ms') = (s.play c ms).bind fun x =>
      (x.1.play c ms').map fun y => (y.1, x.2 ++ y.2) := by
  induction ms generalizing s with
  | nil => cases h : s.play c ms' <;> simp [play, h]
  | cons m ms ih =>
      cases h : s.move c m with
      | none => simp [play, h]
      | some x =>
          simp only [List.cons_append, play, h, ih, Option.bind_eq_bind, Option.bind_some]
          cases x.1.play c ms with
          | none => rfl
          | some y => cases h' : y.1.play c ms' <;> simp [h', List.append_assoc]

/-- The moves determine what becomes of a dispatcher and what is shown. -/
theorem play_eq (run : Run c s ms tr s') : s.play c ms = some (s', tr) := by
  induction run with
  | refl => rfl
  | tail run h ih => simp [play_append, ih, play, h]

theorem unique (run : Run c s ms tr s₁) (run' : Run c s ms tr' s₂) : tr = tr' ∧ s₁ = s₂ := by
  have h := run.play_eq.symm.trans run'.play_eq
  simp only [Option.some.injEq, Prod.mk.injEq] at h
  exact ⟨h.2, h.1⟩

/-- Where a history shows something, a move was made that shows it. -/
theorem move_at (run : Run c s ms (tr₁ ++ x :: tr₂) s') :
    ∃ ms₁ s₁ m s₂ ms₂, Run c s ms₁ tr₁ s₁ ∧ s₁.move c m = some (s₂, some x) ∧
      Run c s₂ ms₂ tr₂ s' := by
  generalize htr : tr₁ ++ x :: tr₂ = tr at run
  induction run generalizing tr₂ with
  | refl => exact absurd htr (by simp)
  | @tail ms m tr e s₃ s₄ run h ih =>
      -- a move shows at most one thing, so the border lies before it or it is the last
      cases e with
      | none =>
          obtain ⟨ms₁, s₁, m', s₂, ms₂, first, move, second⟩ := @ih tr₂ (by simpa using htr)
          exact ⟨ms₁, s₁, m', s₂, _, first, move, by simpa using second.tail h⟩
      | some y =>
          rcases List.eq_nil_or_concat tr₂ with rfl | ⟨tr₃, z, rfl⟩
          · obtain ⟨rfl, hy⟩ := List.append_inj' htr rfl
            obtain rfl : x = y := by simpa using hy
            exact ⟨ms, s₃, m, s₄, [], run, h, .refl⟩
          · rw [List.concat_eq_append, ← List.cons_append, ← List.append_assoc,
              Option.toList_some] at htr
            obtain ⟨hrest, hz⟩ := List.append_inj' htr rfl
            obtain rfl : z = y := by simpa using hz
            obtain ⟨ms₁, s₁, m', s₂, ms₂, first, move, second⟩ := ih hrest
            exact ⟨ms₁, s₁, m', s₂, _, first, move, by simpa using second.tail h⟩

theorem change_of_mem (run : Run c s ms tr s') (h : x ∈ tr) :
    ∃ ms₁ tr₁ s₁ m s₂, Run c s ms₁ tr₁ s₁ ∧ Change c s₁ m (some x) s₂ := by
  obtain ⟨tr₁, tr₂, rfl⟩ := List.append_of_mem h
  obtain ⟨ms₁, s₁, m, s₂, _, first, move, _⟩ := run.move_at
  exact ⟨ms₁, tr₁, s₁, m, s₂, first, change_of_move move⟩

end Run

/-! ### A small dispatcher -/

/-- A classifier that takes every line for a kick. -/
def kicks : Classifier :=
  ⟨⟨[⟨"kick", [⟨⟨"", .empty, []⟩, []⟩]⟩]⟩,
    ⟨[("kick", ⟨.kick, Builtin.bare .kick⟩)], [(.kick, "kick")]⟩⟩

/-- The event that every line is taken for. -/
def kick : Event := ⟨"kick", .kick⟩

/-- Two consumers that are both given every kick. -/
def kickConsumers : List Consumer := [.reactor "watch" .all, .handler "kick"]

/-- A dispatcher of kicks, with one hook of each kind and a source of some lines. -/
def kickStart (buffer : Nat) (lines : List String) : Dispatching :=
  start kickConsumers buffer 1 1 [.replay ⟨lines⟩]

/-- A turn of the only pump. -/
def kickPump : Move := .pump 0 ⟨.absent, .refusing⟩ 0

/-- The dispatcher is started, and the first line is read and delivered. -/
def openingMoves : List Move :=
  [.own, .own, .endHook (.error (.other "")), .own, kickPump, kickPump, .own]

/-- The two deliveries are looked at, the source ends, and the dispatcher returns. -/
def closingMoves : List Move :=
  [.own, .own, kickPump, kickPump, .own, .own, .own, .own, .own, .own, .endHook (.ok ()), .own,
    .own]

/-- A whole run in which the handler ends with a verdict. -/
def kickMoves (v : Verdict) : List Move :=
  openingMoves ++ [.endDelivery 0 .ok, .endDelivery 1 v] ++ closingMoves

/-- The deliveries of the first kick. -/
def kickDeliveries : List Delivery := [⟨0, 0, "watch", kick⟩, ⟨1, 1, "on:kick", kick⟩]

/-- What is shown until the first line has been delivered. -/
def kickOpening : List DispatchEvent :=
  [.moved .running, .hookBegan true 0 .running, .hookEnded true 0 (.error (.other "")),
    .asked 0 (some (.line "a")), .sent 0 kick, .delivered 0 kick kickDeliveries]

/-- What a whole run shows before the loop is left. -/
def kickLoop (v : Verdict) : List DispatchEvent :=
  kickOpening ++ [.ended ⟨0, 0, "watch", kick⟩ (some .ok), .ended ⟨1, 1, "on:kick", kick⟩ (some v),
    .asked 0 (some .ended)]

/-- What a whole run shows. -/
def kickHistory (v : Verdict) : List DispatchEvent :=
  kickLoop v ++ [.moved .draining, .hookBegan false 0 .draining, .hookEnded false 0 (.ok ()),
    .moved .stopped, .returned (.ok ())]

end Dispatching

end LogWarden
