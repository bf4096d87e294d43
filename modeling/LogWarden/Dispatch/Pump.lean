import LogWarden.Classifier
import LogWarden.Notice
import LogWarden.Source.Basic

/-! # Pumps

A pump takes the lines of a source and hands their events on, one after another, as long as there is
room for them. It goes on until its source has no more lines or it is stopped. -/

namespace LogWarden

/-- What a pump is at. -/
inductive PumpState
  /-- It asks for the next line. -/
  | asking
  /-- It hands on the events of a line. -/
  | sending (events : List Event)
  /-- The source has ended or failed, or the pump was stopped. -/
  | ended
  /-- The source broke. -/
  | broken
  /-- The pump is over, and that has been taken note of. -/
  | joined
  deriving DecidableEq, Repr

/-- A source that is being pumped. -/
structure Pump where
  /-- How the source described itself at the start. -/
  name : String
  source : Source
  state : PumpState
  deriving DecidableEq, Repr

namespace Pump

/-- A pump that starts on a source. -/
def start (s : Source) : Pump := ⟨s.describe, s, .asking⟩

/-- Whether a pump has more to do. -/
def isLive (p : Pump) : Bool :=
  match p.state with
  | .asking | .sending _ => true
  | .ended | .broken | .joined => false

/-- Whether a pump is over and nobody has taken note of that. -/
def isOver (p : Pump) : Bool :=
  match p.state with
  | .ended | .broken => true
  | .asking | .sending _ | .joined => false

/-- Stops a pump. -/
def stop (p : Pump) : Pump := { p with state := .ended }

/-- Takes note that a pump is over. -/
def join (p : Pump) : Pump := { p with state := .joined }

/-- The notices when note is taken that a pump is over. -/
def joinNotices (p : Pump) : List Notice :=
  if p.state = .broken then [.sourceBroken] else []

/-- The pump after a reading of its source, and the notices of the line's discarded matches. -/
def take (c : Classifier) (p : Pump) : Reading → Pump × List Notice
  | .line line =>
    let outcomes := c.outcomes line
    ({ p with state := .sending (outcomes.filterMap Outcome.event?) },
      (outcomes.filterMap Outcome.discarded?).map fun (kind, e) => .matchDiscarded kind line e)
  | .ended => ({ p with state := .ended }, [])
  | .failed e => ({ p with state := .ended }, [.sourceFailed p.name e])
  | .broken => ({ p with state := .broken }, [])

/-- A turn of a pump, given the room that there is for events: the pump, an event that it hands on,
and notices; `none` if it has to wait. -/
def next (c : Classifier) (around : Surroundings) (now : Nanos) (room : Bool) (p : Pump) :
    Option (Pump × Option Event × List Notice) :=
  match p.state with
  | .asking =>
    match p.source.next around now with
    | .goes source => some ({ p with source }, none, [])
    | .waits => none
    | .ends (source, reading) =>
      let (p, notices) := { p with source }.take c reading
      some (p, none, notices)
  | .sending [] => some ({ p with state := .asking }, none, [])
  | .sending (e :: rest) =>
    if room then some ({ p with state := .sending rest }, some e, []) else none
  | .ended | .broken | .joined => none

/-- When a pump that waits goes on by itself. -/
def alarm? (p : Pump) : Option Nanos :=
  match p.state with
  | .asking => p.source.alarm?
  | _ => none

end Pump

end LogWarden
