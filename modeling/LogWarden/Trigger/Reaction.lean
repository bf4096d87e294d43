import LogWarden.Action.ChainRun
import LogWarden.Trigger.Basic

/-! # Reacting by triggers

For an event every trigger that fires is run, one after another. One that fails does not keep the
others from running; the first failure is what the reaction ends with. -/

namespace LogWarden

/-- A reaction in progress. -/
structure Reaction where
  /-- The kind of the event. -/
  kind : String
  /-- What the triggers yield that have not been run. -/
  rest : List (Nat × Except CommandError Step)
  /-- The trigger that is being run. -/
  current : Option (Nat × TicketWait)
  /-- The first failure. -/
  failure : Option HandlerError

namespace Reaction

/-- What fired triggers yield, unless one of them stops the reaction. -/
def yields? : List (Nat × Except TriggerFault Step) → Option (List (Nat × Except CommandError Step))
  | [] => some []
  | (index, .ok step) :: rest => (yields? rest).map ((index, .ok step) :: ·)
  | (index, .error (.command e)) :: rest => (yields? rest).map ((index, .error e) :: ·)
  | (_, .error .secondsOverflow) :: _ => none

/-- The reaction to an event, unless a trigger stops it. -/
def start? (ts : TriggerSet) (e : Event) : Option Reaction :=
  (yields? (ts.fire e)).map fun rest => ⟨e.kind, rest, none, none⟩

/-- The reaction after a trigger failed. -/
def failed (r : Reaction) (index : Nat) (e : HandlerError) :
    Reaction × List Notice :=
  ({ r with current := none, failure := r.failure.or (some e) }, [.triggerFailed index r.kind e])

/-- A turn of a reaction. -/
def next (r : Reaction) (q : Queue) (now : Nanos) :
    Queue × Turn Reaction (Except HandlerError Unit) × List Notice :=
  match r.current with
  | some (index, w) =>
    match w.next q now with
    | .ends (.ok _) => (q, .goes { r with current := none }, [])
    | .ends (.error e) =>
      let (r, notices) := r.failed index (.action e)
      (q, .goes r, notices)
    | .goes w => (q, .goes { r with current := some (index, w) }, [])
    | .waits => (q, .waits, [])
  | none =>
    match r.rest with
    | [] =>
      (q, .ends (match r.failure with
        | some e => .error e
        | none => .ok ()), [])
    | (index, .error e) :: rest =>
      let (r, notices) := { r with rest }.failed index (.command e)
      (q, .goes r, notices)
    | (index, .ok step) :: rest =>
      let r := { r with rest }
      match step.submit q now with
      | none =>
        let (r, notices) := r.failed index (.action .queueClosed)
        (q, .goes r, notices)
      | some (w, q) => (q, .goes { r with current := some (index, w) }, [])

/-- When a reaction that waits goes on by itself. -/
def alarm? (r : Reaction) : Option Nanos :=
  r.current.bind fun (_, w) => w.alarm?

end Reaction

end LogWarden
