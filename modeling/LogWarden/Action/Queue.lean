import LogWarden.Action.Actuator
import LogWarden.Notice
import LogWarden.Turn

/-! # The queue of actions

All actions go through one queue, whose worker carries them out one at a time, in the order in which
they were submitted. Each action goes on in a task of its own, and the worker waits for its end; a
failing action touches nobody else's. A closed queue accepts nothing; the action in progress ends as
usual, and those that have not begun are given up. -/

namespace LogWarden

/-- An accepted action, by the number of its ticket. -/
structure Request where
  ticket : Nat
  action : Action
  deriving DecidableEq, Repr

/-- An action in progress. -/
structure Act where
  request : Request
  /-- What is left of the performance. -/
  beats : List Beat
  ending : Ending
  /-- The performance pauses until this time. -/
  pausedUntil : Nanos
  deriving DecidableEq, Repr

namespace Act

/-- The action of a request, about to begin. -/
def start (a : Actuator) (now : Nanos) (r : Request) : Act :=
  let p := a.perform r.ticket r.action
  ⟨r, p.beats, p.ending, now⟩

/-- An action behind a moment of its performance, and what is seen at that moment. -/
def play (act : Act) (now : Nanos) (rest : List Beat) : Beat → Act × Option Mark
  | .mark m => ({ act with beats := rest }, some m)
  | .pause d => ({ act with beats := rest, pausedUntil := now + d }, none)
  | .presses press times interval =>
    if press < times then
      ({ act with beats := .pause interval :: .presses (press + 1) times interval :: rest },
        some (.pressed press times))
    else if press = times then ({ act with beats := rest }, some (.pressed press times))
    else ({ act with beats := rest }, none)

@[simp] theorem play_request (act : Act) (now : Nanos) (rest : List Beat) (b : Beat) :
    (act.play now rest b).1.request = act.request := by
  fun_cases play act now rest b <;> rfl

@[simp] theorem play_ending (act : Act) (now : Nanos) (rest : List Beat) (b : Beat) :
    (act.play now rest b).1.ending = act.ending := by
  fun_cases play act now rest b <;> rfl

end Act

/-- What the worker is at. -/
inductive Worker
  | resting
  /-- It waits for the action of a request to end. -/
  | awaiting (r : Request)
  /-- It has counted an action and is about to tell the submitter how it ended. -/
  | replying (r : Request) (e : Ending)
  /-- It takes no more requests and gives up those that have not begun. -/
  | leaving
  | stopped
  deriving DecidableEq, Repr

/-- Whether the worker takes no more requests. -/
def Worker.hasLeft : Worker → Bool
  | .leaving | .stopped => true
  | .resting | .awaiting _ | .replying .. => false

/-- What is to be told of a turn of the worker or of an action. -/
inductive QueueWork
  /-- The worker took a request, and its action began. -/
  | began (r : Request)
  | ended (r : Request) (e : Ending)
  /-- The worker saw how an action ended, and counted it. -/
  | collected (r : Request) (e : Ending)
  /-- The submitter was told how the action ended. -/
  | told (r : Request) (e : Ending)
  /-- A request that had not begun was given up. -/
  | gaveUp (r : Request)
  | stopped
  deriving DecidableEq, Repr

/-- The notices given of the work. -/
def QueueWork.notices : QueueWork → List Notice
  | .collected r e =>
    match e.result r.action with
    | .ok _ => []
    | .error e => [.actionFailed r.action.name e]
  | _ => []

/-- A queue with its worker. -/
structure Queue where
  /-- How many hold the queue; when nobody does, nothing more can be submitted. -/
  holders : Nat
  /-- Whether the queue has been closed. -/
  cancelled : Bool
  /-- How many requests have been accepted. -/
  accepted : Nat
  /-- Accepted requests that have not begun. -/
  waiting : List Request
  worker : Worker
  /-- Actions in progress, each in a task of its own. -/
  acts : List Act
  /-- How actions ended, by their tickets, until the worker sees it. -/
  ended : List (Nat × Ending)
  /-- Whether somebody has been given the end of the worker to wait for. -/
  awaited : Bool
  /-- How many ended actions the worker has seen. -/
  executed : Nat
  /-- The results of tickets. -/
  settled : List (Nat × Except ActionError Unit)
  /-- What has been seen of actions and when, the latest first. -/
  marks : List (Nanos × Mark)

namespace Queue

/-- A fresh queue with one holder. -/
def start : Queue :=
  { holders := 1, cancelled := false, accepted := 0, waiting := [], worker := .resting, acts := []
    ended := [], awaited := false, executed := 0, settled := [], marks := [] }

/-- Whether nothing can be submitted any more. -/
def isClosed (q : Queue) : Bool :=
  q.cancelled || q.worker.hasLeft

/-- A summary of a queue. -/
def summary (q : Queue) : String :=
  "ActionQueue \x7b closed: " ++ (if q.isClosed then "true" else "false") ++ ", executed: "
    ++ natText q.executed ++ ", .. \x7d"

/-- Submits an action: its ticket, unless the queue is closed. -/
def submit (q : Queue) (a : Action) : Option (Nat × Queue) :=
  if q.isClosed then none
  else
    some (q.accepted,
      { q with accepted := q.accepted + 1, waiting := q.waiting ++ [⟨q.accepted, a⟩] })

/-- Closes the queue. -/
def close (q : Queue) : Queue := { q with cancelled := true }

/-- One holder more. -/
def hold (q : Queue) : Queue := { q with holders := q.holders + 1 }

/-- One holder less. -/
def release (q : Queue) : Queue := { q with holders := q.holders - 1 }

/-- Gives away the end of the worker. -/
def join (q : Queue) : Queue := { q with awaited := true }

/-- The result of a ticket, once there is one. -/
def result? (q : Queue) (ticket : Nat) : Option (Except ActionError Unit) :=
  (q.settled.find? (·.1 == ticket)).map (·.2)

/-- How the action of a ticket ended, as long as the worker has not seen it. -/
def ending? (q : Queue) (ticket : Nat) : Option Ending :=
  (q.ended.find? (·.1 == ticket)).map (·.2)

/-- The worker takes a request and begins its action. -/
def begin (q : Queue) (a : Actuator) (now : Nanos) (r : Request) (rest : List Request) : Queue :=
  { q with waiting := rest, worker := .awaiting r, acts := q.acts ++ [.start a now r] }

/-- The worker has seen how an action ended. -/
def collect (q : Queue) (r : Request) (e : Ending) : Queue :=
  { q with
    worker := .replying r e
    ended := q.ended.filter (·.1 != r.ticket)
    executed := q.executed + 1 }

/-- The worker tells a submitter how the action ended. Where the submitter has given up its ticket,
nobody hears of it, and the worker does not mind. -/
def tell (q : Queue) (r : Request) (e : Ending) : Queue :=
  { q with worker := .resting, settled := (r.ticket, e.result r.action) :: q.settled }

/-- The worker leaves: no more requests are taken. -/
def leave (q : Queue) : Queue := { q with worker := .leaving }

/-- A request that has not begun is given up. -/
def giveUp (q : Queue) (r : Request) (rest : List Request) : Queue :=
  { q with waiting := rest, settled := (r.ticket, .error .queueClosed) :: q.settled }

/-- The worker stops. -/
def stop (q : Queue) : Queue := { q with worker := .stopped }

/-- A turn of the worker, unless it has to wait. A worker at rest looks first whether the queue has
been closed, then for a request, then whether anybody holds the queue. -/
def workerNext (a : Actuator) (now : Nanos) (q : Queue) : Option (Queue × Option QueueWork) :=
  match q.worker with
  | .resting =>
    if q.cancelled then some (q.leave, none)
    else
      match q.waiting with
      | r :: rest => some (q.begin a now r rest, some (.began r))
      | [] => if q.holders = 0 then some (q.leave, none) else none
  | .awaiting r => (q.ending? r.ticket).map fun e => (q.collect r e, some (.collected r e))
  | .replying r e => some (q.tell r e, some (.told r e))
  | .leaving =>
    match q.waiting with
    | r :: rest => some (q.giveUp r rest, some (.gaveUp r))
    | [] => some (q.stop, some .stopped)
  | .stopped => none

/-- The action at a position goes on with what is left of its performance. -/
def play (q : Queue) (i : Nat) (act : Act) (now : Nanos) (b : Beat) (rest : List Beat) : Queue :=
  let (act, mark) := act.play now rest b
  { q with acts := q.acts.set i act, marks := mark.toList.map (now, ·) ++ q.marks }

/-- The action at a position has ended. -/
def finish (q : Queue) (i : Nat) (act : Act) : Queue :=
  { q with
    acts := q.acts.eraseIdx i
    ended := q.ended ++ [(act.request.ticket, act.ending)] }

/-- A turn of the action at a position, unless it pauses. -/
def actNext (now : Nanos) (i : Nat) (q : Queue) : Option (Queue × Option QueueWork) :=
  match q.acts[i]? with
  | none => none
  | some act =>
    if now < act.pausedUntil then none
    else
      match act.beats with
      | b :: rest => some (q.play i act now b rest, none)
      | [] => some (q.finish i act, some (.ended act.request act.ending))

theorem actNext_of_beats_eq_nil {q : Queue} {now : Nanos} {i : Nat} {act : Act}
    (h : q.acts[i]? = some act) (hbeats : act.beats = []) (hle : act.pausedUntil ≤ now) :
    q.actNext now i = some (q.finish i act, some (.ended act.request act.ending)) := by
  simp [actNext, h, hbeats, Nat.not_lt.mpr hle]

/-- A turn of the worker or, where it has to wait, of an action in progress. -/
def work (a : Actuator) (now : Nanos) (q : Queue) : Option (Queue × Option QueueWork) :=
  (q.workerNext a now).or (q.actNext now 0)

/-- When the queue goes on by itself if it has to wait. -/
def alarm? (q : Queue) : Option Nanos :=
  q.acts.head?.map (·.pausedUntil)

end Queue

/-- Where a call to shut the queue down stands. -/
inductive Shutdown
  | fresh
  /-- The call waits for the worker to stop. -/
  | waiting
  deriving DecidableEq, Repr

namespace Shutdown

/-- A turn of shutting the queue down. Only the first call waits for the worker. -/
def next (q : Queue) : Shutdown → Queue × Turn Shutdown Unit
  | .fresh =>
    if q.awaited then (q.close, .ends ())
    else (q.close.join, .goes .waiting)
  | .waiting => if q.worker == .stopped then (q, .ends ()) else (q, .waits)

end Shutdown

end LogWarden
