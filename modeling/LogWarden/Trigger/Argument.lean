import LogWarden.Command.Builder
import LogWarden.Event.Registry
import LogWarden.Json.Printer
import LogWarden.Trigger.Condition

/-! # Arguments of triggers

Arguments are JSON values. A text may be given as a number; seconds are any number that is not
negative. Seconds that no duration can hold are not an error of the rule: they stop the program. -/

namespace LogWarden

/-- Why a trigger yields no step. -/
inductive TriggerFault
  | command (e : CommandError)
  /-- The program stops: seconds that no duration can hold. -/
  | secondsOverflow
  deriving DecidableEq, Repr

/-- What is said when the program stops because of too many seconds. -/
def secondsOverflowMessage : String :=
  "cannot convert float seconds to Duration: value is either too big or NaN"

namespace Argument

/-- An argument as a message shows it. -/
def show? (v : Option Json) : String :=
  match v with
  | some v => v.compactText
  | none => "nothing"

/-- An argument that is not what a method expects. -/
def unexpected (method expected : String) (v : Option Json) : TriggerFault :=
  .command (.invalidArgument method ("expected " ++ expected ++ ", got " ++ show? v))

/-- A text, or the text of a number. -/
def text (method : String) (v : Option Json) : Except TriggerFault String :=
  match v with
  | some (.str s) => .ok s
  | some (.num n) => .ok (String.ofList (Json.numberText n))
  | v => .error (unexpected method "text" v)

/-- Seconds as a duration. -/
def seconds (method : String) (v : Option Json) : Except TriggerFault Nanos :=
  match v with
  | some (.num n) =>
    let x := n.toBinary64
    if x.isFinite && !x.isNegative then
      match Nanos.ofFloatSeconds? x with
      | some d => .ok d
      | none => .error .secondsOverflow
    else .error (unexpected method "non-negative seconds" v)
  | v => .error (unexpected method "non-negative seconds" v)

/-- A whole number of 32 bits. -/
def count (method : String) (v : Option Json) : Except TriggerFault Nat :=
  match v with
  | some (.num (.int n)) =>
    if 0 ≤ n ∧ n < 4294967296 then .ok n.toNat else .error (unexpected method "a whole number" v)
  | v => .error (unexpected method "a whole number" v)

/-- An amount of money: a whole number of 64 bits, as a text also with commas. -/
def amount (v : Option Json) : Except TriggerFault Int :=
  let invalid := fun reason => TriggerFault.command (.invalidArgument "pay" reason)
  match v with
  | some (.num n) =>
    let wrong := invalid ("amount " ++ String.ofList (Json.numberText n) ++ " is not a whole number")
    match n with
    | .int k => if k ≤ 9223372036854775807 then .ok k else .error wrong
    | .float _ => .error wrong
  | some (.str s) =>
    match Builtin.int64OfText? (s.toList.filter (· != ',')) with
    | some n => .ok n
    | none => .error (invalid ("amount '" ++ s ++ "' is not a whole number"))
  | v => .error (unexpected "pay" "an amount" v)

end Argument

/-- The call of a method with JSON arguments. A channel may be given by its name; a deposit without
an amount is all there is. -/
def Method.call (m : Method) (channels : Aliases) (args : List Json) :
    Except TriggerFault Call :=
  let text := Argument.text m.name args.head?
  match m with
  | .sendTo => text.map .sendTo
  | .toAll => .ok .toAll
  | .switchChannel => text.map fun name => .switchChannel ((channels.get? name).getD name)
  | .interval => (Argument.seconds m.name args.head?).map .interval
  | .transferTo => text.map .transferTo
  | .invite => .ok .invite
  | .accept => .ok .accept
  | .reject => .ok .reject
  | .deposit => if args.isEmpty then .ok (.deposit "all") else text.map .deposit
  | .edit => .ok .edit
  | .trust => .ok .trust
  | .claim => .ok .claim
  | .add => text.map .add
  | .remove => text.map .remove
  | .draw => .ok .draw
  | .erase => .ok .erase
  | .radius => (Argument.count m.name args.head?).map .radius
  | .auto => .ok .auto
  | .fill => .ok .fill

/-- The commands that a trigger can start. -/
inductive Command
  | chat | jump | pay | land
  deriving DecidableEq, Repr

namespace Command

/-- The stage of a fresh command. -/
def stage : Command → Stage
  | .chat => .chat
  | .jump => .jump
  | .pay => .pay
  | .land => .land

/-- The command of a name. -/
def ofName? (s : String) : Option Command :=
  [Command.chat, .jump, .pay, .land].find? (·.stage.name == s)

/-- The names under which the argument may be given, the preferred one first. -/
def params : Command → List String
  | .chat => ["content"]
  | .jump => ["times"]
  | .pay => ["amount"]
  | .land => ["land_name", "name"]

/-- Starts a command. -/
def start (c : Command) (arg : Option Json) : Except TriggerFault Builder :=
  match c with
  | .chat => (Argument.text "chat" arg).map fun s => .chat (.start s)
  | .jump =>
    match arg with
    | none => .ok (.jump (.start 3))
    | arg => (Argument.count "jump" arg).map fun n => .jump (.start n)
  | .pay => (Argument.amount arg).map fun n => .pay (.start n)
  | .land => (Argument.text "land" arg).map fun s => .land (.start s)

end Command

end LogWarden
