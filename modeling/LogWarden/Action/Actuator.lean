import LogWarden.Action.Step

/-! # Actuators

An actuator is what carries out the actions of a queue. How an action goes is its performance: what
can be seen of it and how long it pauses between, and how it ends. -/

namespace LogWarden

/-- What can be seen of an action. -/
inductive Mark
  /-- Press number `press` of `times`. -/
  | pressed (press times : Nat)
  | said (line : String)
  | began (action : Action)
  | ended (name : String)
  deriving DecidableEq, Repr

/-- What is said of a press or a line. -/
def Mark.text? : Mark → Option String
  | .pressed press times =>
    some ("jump press=" ++ natText press ++ " times=" ++ natText times)
  | .said line => some ("chat line=" ++ line)
  | .began _ | .ended _ => none

/-- A moment of a performance. -/
inductive Beat
  | mark (m : Mark)
  | pause (d : Nanos)
  /-- The presses from number `press` to number `times`, with pauses between them. -/
  | presses (press times : Nat) (interval : Nanos)
  deriving DecidableEq, Repr

/-- How a performance ends. -/
inductive Ending
  | done
  | failed (e : ActionError)
  | panicked
  deriving DecidableEq, Repr

/-- How an action goes. -/
structure Performance where
  beats : List Beat
  ending : Ending
  deriving DecidableEq, Repr

/-- The performance of an action, given the number of its request. -/
abbrev Actuator := Nat → Action → Performance

namespace Actuator

/-- The performance of any action. To hold needs no input device. -/
def perform (a : Actuator) (ticket : Nat) : Action → Performance
  | .hold d => ⟨[.pause d], .done⟩
  | action => a ticket action

/-- Shows what would be typed and pressed. -/
def dryRun : Actuator
  | _, .type lines pause => ⟨lines.map (fun l => .mark (.said l)) ++ [.pause pause], .done⟩
  | _, .jump times interval => ⟨[.presses 1 times interval], .done⟩
  | _, .hold d => ⟨[.pause d], .done⟩

end Actuator

/-- What the submitter of an action is told of its end. -/
def Ending.result (action : Action) : Ending → Except ActionError Unit
  | .done => .ok ()
  | .failed e => .error e
  | .panicked => .error (.panicked action.name)

end LogWarden
