import LogWarden.Command.Basic
import LogWarden.Command.Land

/-! # Calls on commands

A command is made by a start and a sequence of calls. Which calls there are depends on the stage that
the command has reached. -/

namespace LogWarden

/-- What kind of command is being made. -/
inductive Stage
  | chat | jump | pay | land | landEdit | trust | claim
  deriving DecidableEq, Repr

/-- The name of a stage. -/
def Stage.name : Stage → String
  | .chat => "chat"
  | .jump => "jump"
  | .pay => "pay"
  | .land => "land"
  | .landEdit => "land.edit"
  | .trust => "land.edit.trust"
  | .claim => "land.edit.claim"

/-- The calls that commands offer. -/
inductive Method
  | sendTo | toAll | switchChannel | interval | transferTo | invite | accept | reject | deposit
  | edit | trust | claim | add | remove | draw | erase | radius | auto | fill
  deriving DecidableEq, Repr

namespace Method

/-- All calls. -/
def all : List Method :=
  [.sendTo, .toAll, .switchChannel, .interval, .transferTo, .invite, .accept, .reject, .deposit,
   .edit, .trust, .claim, .add, .remove, .draw, .erase, .radius, .auto, .fill]

/-- The name of a call. -/
def name : Method → String
  | .sendTo => "send_to"
  | .toAll => "to_all"
  | .switchChannel => "switch_channel"
  | .interval => "interval"
  | .transferTo => "transfer_to"
  | .invite => "invite"
  | .accept => "accept"
  | .reject => "reject"
  | .deposit => "deposit"
  | .edit => "edit"
  | .trust => "trust"
  | .claim => "claim"
  | .add => "add"
  | .remove => "remove"
  | .draw => "draw"
  | .erase => "erase"
  | .radius => "radius"
  | .auto => "auto"
  | .fill => "fill"

/-- The call of a name. -/
def ofName? (s : String) : Option Method :=
  all.find? (·.name == s)

/-- The stage behind a call. -/
def next (m : Method) (s : Stage) : Stage :=
  match m with
  | .edit => .landEdit
  | .trust => .trust
  | .claim => .claim
  | _ => s

end Method

namespace Stage

/-- The calls that a stage offers. -/
def methods : Stage → List Method
  | .chat => [.sendTo, .toAll, .switchChannel, .interval]
  | .jump => [.interval]
  | .pay => [.transferTo]
  | .land => [.invite, .accept, .reject, .deposit, .edit]
  | .landEdit => [.trust, .claim]
  | .trust => [.add, .remove]
  | .claim => [.draw, .erase, .radius, .auto, .fill]

/-- The call of a name that a stage offers. -/
def method? (s : Stage) (name : String) : Option Method :=
  s.methods.find? (·.name == name)

end Stage

/-- A call with its argument. -/
inductive Call
  | sendTo (player : String)
  | toAll
  | switchChannel (channel : String)
  | interval (d : Nanos)
  | transferTo (player : String)
  | invite | accept | reject
  | deposit (value : String)
  | edit | trust | claim
  | add (player : String)
  | remove (player : String)
  | draw | erase
  | radius (chunks : Nat)
  | auto | fill
  deriving DecidableEq, Repr

/-- Which call it is. -/
def Call.method : Call → Method
  | .sendTo _ => .sendTo
  | .toAll => .toAll
  | .switchChannel _ => .switchChannel
  | .interval _ => .interval
  | .transferTo _ => .transferTo
  | .invite => .invite
  | .accept => .accept
  | .reject => .reject
  | .deposit _ => .deposit
  | .edit => .edit
  | .trust => .trust
  | .claim => .claim
  | .add _ => .add
  | .remove _ => .remove
  | .draw => .draw
  | .erase => .erase
  | .radius _ => .radius
  | .auto => .auto
  | .fill => .fill

/-- A command in the making. -/
inductive Builder
  | chat (c : ChatCommand)
  | jump (c : JumpCommand)
  | pay (c : PayCommand)
  | land (c : LandCommand)
  | landEdit (e : LandEditor)
  | trust (c : TrustCommand)
  | claim (c : ClaimCommand)

namespace Builder

/-- The stage of a command. -/
def stage : Builder → Stage
  | .chat _ => .chat
  | .jump _ => .jump
  | .pay _ => .pay
  | .land _ => .land
  | .landEdit _ => .landEdit
  | .trust _ => .trust
  | .claim _ => .claim

/-- Makes a call. A call that the stage does not offer is an error. -/
def call : Builder → Call → Except CommandError Builder
  | .chat c, .sendTo player => .ok (.chat (c.sendTo player))
  | .chat c, .toAll => .ok (.chat c.toAll)
  | .chat c, .switchChannel channel => .ok (.chat (c.switchChannel channel))
  | .chat c, .interval d => .ok (.chat (c.every d))
  | .jump c, .interval d => .ok (.jump (c.every d))
  | .pay c, .transferTo player => .ok (.pay (c.transferTo player))
  | .land c, .invite => .ok (.land c.invite)
  | .land c, .accept => .ok (.land c.accept)
  | .land c, .reject => .ok (.land c.reject)
  | .land c, .deposit value => .ok (.land (c.deposit value))
  | .land c, .edit => .ok (.landEdit c.edit)
  | .landEdit e, .trust => .ok (.trust e.trust)
  | .landEdit e, .claim => .ok (.claim e.claim)
  | .trust c, .add player => .ok (.trust (c.add player))
  | .trust c, .remove player => .ok (.trust (c.remove player))
  | .claim c, .draw => .ok (.claim c.draw)
  | .claim c, .erase => .ok (.claim c.erase)
  | .claim c, .radius r => .ok (.claim (c.reshape (.radius r)))
  | .claim c, .auto => .ok (.claim (c.reshape .auto))
  | .claim c, .fill => .ok (.claim (c.reshape .fill))
  | _, c => .error (.invalidArgument c.method.name "called on the wrong builder")

/-- The step of a command. -/
def build : Builder → Except CommandError Step
  | .chat c => c.build
  | .jump c => .ok c.build
  | .pay c => c.build
  | .land c => c.build
  | .landEdit _ => .error (.incomplete "land edit")
  | .trust c => c.build
  | .claim c => c.build

/-- Makes calls in order, then builds. -/
def run (b : Builder) (calls : List Call) : Except CommandError Step := do
  let b ← calls.foldlM call b
  b.build

end Builder

end LogWarden
