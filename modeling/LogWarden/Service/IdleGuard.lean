import LogWarden.Action.ChainRun
import LogWarden.Command.Basic
import LogWarden.Dispatch.Consumer
import LogWarden.Event.Basic

/-! # Keeping the player from idling

While the server takes the player for idle, the guard makes rounds of jumps and pauses. A round that
fails is followed by the next; only a closed queue ends them early. Where the limit of the pause would
be too long for a duration, no round can be made. -/

namespace LogWarden

/-- The guard against idling. -/
structure IdleGuard where
  jumpInterval : Nanos
  hold : Nanos
  stepLimit : Nanos
  /-- Whether the player is taken for idle. -/
  idle : Bool
  /-- How many idle periods there have been. -/
  evasions : Nat
  deriving DecidableEq, Repr

namespace IdleGuard

/-- A guard with given times, while the player is not idle. -/
def withTiming (jumpInterval hold : Nanos) : IdleGuard :=
  ⟨jumpInterval, hold, Step.defaultLimit, false, 0⟩

/-- A guard with jumps a second apart and pauses of four seconds. -/
def start : IdleGuard := withTiming (.ofSeconds 1) (.ofSeconds 4)

def name : String := "idle-guard"

def subscription : Subscription := .only [.playerIdle, .playerResume]

/-- The steps of a round: three jumps and a pause, whose limit must be a duration. -/
def round? (g : IdleGuard) : Option Chain :=
  (Nanos.add? g.hold g.stepLimit).map fun limit =>
    .ofSteps
      [{ ((JumpCommand.start 3).every g.jumpInterval).build with limit := g.stepLimit },
       ⟨.hold g.hold, limit⟩]

/-- The player is no longer taken for idle. -/
def resume (g : IdleGuard) : IdleGuard := { g with idle := false }

end IdleGuard

/-- Where an evasion stands. -/
inductive Evasion
  /-- The player is taken for idle just now. -/
  | fresh
  /-- Between two rounds. -/
  | between
  | round (r : ChainRun)
  deriving DecidableEq, Repr

/-- The guard behind an event, and an evasion that the event calls for. -/
def IdleGuard.react (g : IdleGuard) (e : Event) : IdleGuard × Option Evasion :=
  match e.payload with
  | .playerIdle => (g, some .fresh)
  | .playerResume => (g.resume, none)
  | _ => (g, none)

namespace Evasion

/-- Begins a round with its first step, if the player is still taken for idle. To make a round whose
pause has too long a limit panics, and leaves the player taken for idle. -/
def nextRound (g : IdleGuard) (q : Queue) (now : Nanos) :
    IdleGuard × Queue × Turn Evasion Verdict × List Notice :=
  if g.idle then
    match g.round? with
    | none => (g, q, .ends .panicked, [])
    | some chain =>
      match (ChainRun.start chain now).next q now with
      | (q, .goes r) => (g, q, .goes (.round r), [])
      | (q, .waits) => (g, q, .waits, [])
      | (q, .ends (.ok _)) => (g, q, .goes .between, [])
      | (q, .ends (.error e)) => ({ g with idle := false }, q, .ends (.failed (.action e)), [])
  else (g, q, .ends .ok, [])

/-- A turn of an evasion. -/
def next (g : IdleGuard) (q : Queue) (now : Nanos) :
    Evasion → IdleGuard × Queue × Turn Evasion Verdict × List Notice
  | .fresh =>
    if g.idle then (g, q, .ends .ok, [])
    else nextRound { g with idle := true, evasions := g.evasions + 1 } q now
  | .between => nextRound g q now
  | .round r =>
    match r.next q now with
    | (q, .goes r) => (g, q, .goes (.round r), [])
    | (q, .waits) => (g, q, .waits, [])
    | (q, .ends (.ok _)) => (g, q, .goes .between, [])
    | (q, .ends (.error .queueClosed)) =>
      ({ g with idle := false }, q, .ends (.failed (.action .queueClosed)), [])
    | (q, .ends (.error e)) => (g, q, .goes .between, [.roundFailed e])

/-- When an evasion that waits goes on by itself. -/
def alarms : Evasion → List Nanos
  | .round r => r.alarms
  | _ => []

end Evasion

end LogWarden
