import LogWarden.Event.Basic
import LogWarden.Trigger.Argument
import LogWarden.Trigger.Spec

/-! # Triggers

Triggers are compiled when they are loaded: a rule that names an unknown command, a call that its
stage does not offer or a pattern that cannot be read is refused. What only an event can tell fails
when the rule fires. -/

namespace LogWarden

/-- A compiled trigger. -/
structure Trigger where
  index : Nat
  on : String
  conditions : List (String × Condition)
  command : Command
  args : List (String × Json)
  calls : List (Method × List Json)
  /-- The limit of the step, if the rule gives one. -/
  limit : Option Nanos

/-- Why triggers cannot be compiled. -/
inductive TriggerCompileError
  | config (e : ConfigError)
  /-- The program stops: seconds that no duration can hold. -/
  | secondsOverflow
  deriving DecidableEq, Repr

/-- The value of a name. -/
def valueOf? (ms : List (String × Json)) (name : String) : Option Json :=
  (ms.find? (·.1 == name)).map (·.2)

namespace Trigger

/-- What the calls of a chain read so far amount to. -/
structure ChainState where
  stage : Stage
  calls : List (Method × List Json)
  limit : Option Nanos

/-- An error of the rule with an index. -/
def invalid {α : Type} (index : Nat) (reason : String) : Except TriggerCompileError α :=
  .error (.config (.invalidTrigger index reason))

/-- Compiles an entry of a chain at a position. -/
def compileEntry (index : Nat) (s : ChainState) (position : Nat) (entry : List Json) :
    Except TriggerCompileError ChainState :=
  match entry with
  | .str name :: args =>
    if name = "timeout" then
      match Argument.seconds "timeout" args.head? with
      | .ok d => .ok { s with limit := some d }
      | .error (.command e) => invalid index e.message
      | .error .secondsOverflow => .error .secondsOverflow
    else
      match s.stage.method? name with
      | some m => .ok ⟨m.next s.stage, s.calls ++ [(m, args)], s.limit⟩
      | none => invalid index (CommandError.notAllowed s.stage.name name).message
  | _ => invalid index ("chain entry #" ++ natText position ++ " must be [method, args...]")

/-- Compiles the entries of a chain from a position on. -/
def compileChain (index : Nat) : ChainState → Nat → List (List Json) →
    Except TriggerCompileError ChainState
  | s, _, [] => .ok s
  | s, position, entry :: rest => do
    let s ← compileEntry index s position entry
    compileChain index s (position + 1) rest

/-- Compiles the conditions of a rule; the first fault counts. -/
def compileConditions [PatternWording] (index : Nat) (cs : List (String × Json)) :
    Except TriggerCompileError (List (String × Condition)) :=
  cs.mapM fun (name, v) =>
    match Condition.compile v with
    | .ok c => .ok (name, c)
    | .error reason => invalid index reason

/-- Compiles the rule with an index. -/
def compile [PatternWording] (index : Nat) (spec : TriggerSpec) :
    Except TriggerCompileError Trigger := do
  if Text.isBlank spec.on then invalid index "'on' names no event kind"
  let conditions ← compileConditions index spec.conditions
  let command ← match Command.ofName? spec.action.action with
    | some c => pure c
    | none => invalid index ("unknown action '" ++ spec.action.action ++ "'")
  let s ← compileChain index ⟨command.stage, [], none⟩ 0 spec.action.chain
  if s.stage = .landEdit then invalid index "'edit' must be followed by 'trust' or 'claim'"
  return ⟨index, spec.on, conditions, command, spec.action.args, s.calls, s.limit⟩

/-- Whether a rule fires for an event. -/
def firesFor (t : Trigger) (e : Event) : Bool :=
  e.kind == t.on && t.conditions.all fun (name, c) => c.holds (e.payload.field? name)

/-- The argument of a rule's command: one of its own, else a field of the event. -/
def argument (t : Trigger) (e : Event) : Option Json :=
  (t.command.params.findSome? (valueOf? t.args)).or (t.command.params.findSome? e.payload.field?)

/-- The command of a rule after its calls. -/
def builder (t : Trigger) (channels : Aliases) (e : Event) : Except TriggerFault Builder := do
  let b ← t.command.start (t.argument e)
  t.calls.foldlM (fun b (m, args) => do
    let c ← m.call channels args
    (b.call c).mapError .command) b

/-- The step of a rule for an event. -/
def build (t : Trigger) (channels : Aliases) (limit : Nanos) (e : Event) :
    Except TriggerFault Step := do
  let b ← t.builder channels e
  let step ← b.build.mapError .command
  return { step with limit := t.limit.getD limit }

end Trigger

/-- Compiled triggers, with the channels that calls may name and the usual limit of steps. -/
structure TriggerSet where
  rules : List Trigger
  channels : Aliases
  stepLimit : Nanos

namespace TriggerSet

def name : String := "triggers"

/-- Compiles rules; the first fault counts. -/
def compileRules [PatternWording] :
    Nat → List TriggerSpec → Except TriggerCompileError (List Trigger)
  | _, [] => .ok []
  | index, spec :: rest => do
    let t ← Trigger.compile index spec
    return t :: (← compileRules (index + 1) rest)

/-- Compiles triggers. -/
def compile [PatternWording] (specs : List TriggerSpec) (channels : Aliases)
    (stepLimit : Nanos) : Except TriggerCompileError TriggerSet := do
  return ⟨← compileRules 0 specs, channels, stepLimit⟩

/-- A summary of the triggers. -/
def summary (ts : TriggerSet) : String :=
  "TriggerSet \x7b rules: " ++ natText ts.rules.length ++ ", step_timeout: " ++ ts.stepLimit.text
    ++ ", .. \x7d"

/-- What each rule that fires for an event yields, in order of the rules. -/
def fire (ts : TriggerSet) (e : Event) : List (Nat × Except TriggerFault Step) :=
  (ts.rules.filter (·.firesFor e)).map fun t => (t.index, t.build ts.channels ts.stepLimit e)

end TriggerSet

end LogWarden
