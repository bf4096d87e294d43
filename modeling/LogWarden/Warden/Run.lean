import LogWarden.Warden.Basic

/-! # Taking turns

The activity that was noticed first to be able to go on takes turns until it has to wait or ends;
then it is noticed which others can go on by now. When none can, time passes to the next moment at
which one may. -/

namespace LogWarden.Warden

/-- The delivery that an activity is, if it has been cancelled. -/
def cancelled? (w : Warden) (t : Task) : Option Delivery :=
  match t.role with
  | .delivery d => if w.dispatcher.phase = .stoppingDeliveries then some d else none
  | _ => none

/-- Whether an activity can go on. One that has been cancelled can end. -/
def canGo (w : Warden) (t : Task) : Bool :=
  match w.step t.activity with
  | .waits => (w.cancelled? t).isSome
  | _ => true

/-- Notices which waiting activities can go on by now. -/
def wake (w : Warden) : Warden :=
  let woken := w.tasks.filter fun t => !w.ready.contains t.id && w.canGo t
  { w with ready := w.ready ++ woken.map (·.id) }

/-- The entry of the journal about the first turn of an activity. -/
def begin (w : Warden) (t : Task) : Warden :=
  match t.role with
  | .delivery d => if t.begun then w else { w with journal := (d, .begun) :: w.journal }
  | _ => w

/-- What follows from the end of an activity. -/
def conclude (w : Warden) (t : Task) (e : Ended) : Warden :=
  match t.role with
  | .background => w
  | .named name => { w with endings := (name, w.now, e) :: w.endings }
  | .delivery d =>
    match e with
    | .verdict v =>
      { w with
        dispatcher := w.dispatcher.deliveryEnded d (some v)
        journal := (d, .ended v) :: w.journal }
    | _ => w

/-- What follows from the end of a delivery that has been cancelled. -/
def cancel (w : Warden) (t : Task) (d : Delivery) : Warden :=
  { w with
    dispatcher := w.dispatcher.deliveryEnded d none
    journal := if t.begun then (d, .cancelled) :: w.journal else w.journal }

/-- A turn of the activity that comes first; `none` if no activity can go on. -/
def turn (w : Warden) : Option Warden :=
  match w.ready with
  | [] => none
  | id :: rest =>
    match w.tasks.find? (·.id == id) with
    | none => some { w with ready := rest }
    | some t =>
      match w.cancelled? t with
      | some d =>
        some ({ w with tasks := w.tasks.filter (·.id ≠ id), ready := rest }.cancel t d).wake
      | none =>
        match (w.begin t).step t.activity with
        | .waits => some { w with ready := rest }.wake
        | .goes w a =>
          some { w with
            tasks := w.tasks.filter (·.id ≠ id) ++ [{ t with activity := a, begun := true }] }
        | .ends w e =>
          some ({ w with tasks := w.tasks.filter (·.id ≠ id), ready := rest }.conclude t e).wake

/-- Takes turns until no activity can go on, at most so many. -/
def settle : Nat → Warden → Warden
  | 0, w => w
  | turns + 1, w =>
    match w.turn with
    | some w => settle turns w
    | none => w

/-- More turns than are ever taken at one moment. -/
def turnLimit : Nat := 1000000

/-- Everything that can go on goes on. -/
def quiesce (w : Warden) : Warden :=
  settle turnLimit w.wake

/-- The next moment at which an activity may go on by itself. -/
def nextAlarm? (w : Warden) : Option Nanos :=
  ((w.tasks.flatMap fun t => w.alarms t.activity).filter (w.now < ·)).min?

/-- Lets time pass until a moment, in at most so many steps. -/
def passUntil (target : Nanos) : Nat → Warden → Warden
  | 0, w => w
  | steps + 1, w =>
    match w.nextAlarm? with
    | some alarm =>
      if alarm ≤ target then passUntil target steps { w with now := alarm }.quiesce
      else { w with now := target }.quiesce
    | none => { w with now := target }.quiesce

/-- Lets a duration pass. -/
def advance (w : Warden) (d : Nanos) : Warden :=
  passUntil (w.now + d) turnLimit w.quiesce

/-- Lets time pass until a named activity has ended, in at most so many steps. -/
def passUntilEnded (name : String) : Nat → Warden → Warden
  | 0, w => w
  | steps + 1, w =>
    if w.endings.any (·.1 == name) then w
    else
      match w.nextAlarm? with
      | some alarm => passUntilEnded name steps { w with now := alarm }.quiesce
      | none => w

/-- Lets everything go on until the dispatcher has ended, in at most so many turns. What there is
around the warden may depend on what it has done. -/
def passUntilOver (around : Warden → Surroundings) : Nat → Warden → Warden
  | 0, w => w
  | turns + 1, w =>
    if w.outcome.isSome then w
    else
      let w := { w with surroundings := around w }
      match w.turn with
      | some w => passUntilOver around turns w
      | none =>
        match w.nextAlarm? with
        | some alarm => passUntilOver around turns { w with now := alarm }.wake
        | none => w

end LogWarden.Warden
