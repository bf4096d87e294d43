import LogWarden.Duration
import LogWarden.Error

/-! # Actions and steps

An action is one thing that the player's input device does. A step is an action with the time that
its submitter waits for it. -/

namespace LogWarden

/-- One thing that the input device does. -/
inductive Action
  /-- Press jump a number of times, with a pause between presses. -/
  | jump (times : Nat) (interval : Nanos)
  /-- Do nothing for a time. -/
  | hold (duration : Nanos)
  /-- Enter lines into chat, then pause. -/
  | type (lines : List String) (pause : Nanos)
  deriving DecidableEq, Repr

namespace Action

/-- The name of an action in messages. -/
def name : Action → String
  | .jump .. => "jump"
  | .hold _ => "wait"
  | .type .. => "type"

/-- The text of an action in messages. -/
def text : Action → String
  | .jump times interval =>
    "jump x" ++ natText times ++ " every " ++ natText interval.millis ++ "ms"
  | .hold duration => "wait " ++ natText duration.millis ++ "ms"
  | .type lines _ => "type " ++ " | ".intercalate lines

/-- One line without a pause. -/
def line (s : String) : Action := .type [s] 0

end Action

/-- An action and how long its submitter waits for it. -/
structure Step where
  action : Action
  limit : Nanos
  deriving DecidableEq, Repr

/-- How long a submitter waits unless told otherwise. -/
def Step.defaultLimit : Nanos := .ofSeconds 10

/-- A step with the usual limit. -/
def Action.step (a : Action) : Step := ⟨a, Step.defaultLimit⟩

end LogWarden
