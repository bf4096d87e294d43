import LogWarden.Action.Step
import LogWarden.Text

/-! # Chatting, paying and jumping

A chat command says its content to everybody or to one player, and a pay command transfers an amount
to one. The first call that makes no sense is remembered and reported when the command is built. -/

namespace LogWarden

/-! ## Chatting -/

/-- A chat command in the making. -/
structure ChatCommand where
  content : String
  recipient : Option String
  /-- The prefix of the channel to switch to before speaking. -/
  channel : Option String
  pause : Nanos
  error : Option CommandError
  deriving DecidableEq, Repr

namespace ChatCommand

/-- Says `content` in public chat. -/
def start (content : String) : ChatCommand :=
  ⟨content, none, none, 0, if Text.isBlank content then some .emptyContent else none⟩

/-- Remembers an error, unless there is one already. -/
def fail (c : ChatCommand) (e : CommandError) : ChatCommand :=
  { c with error := c.error.or (some e) }

/-- Says it to one player only. -/
def sendTo (c : ChatCommand) (player : String) : ChatCommand :=
  if Text.isBlank player then c.fail .emptyRecipient
  else { c with recipient := some (Text.trim player), channel := none }

/-- Says it in public chat, without a switch of channels. -/
def toAll (c : ChatCommand) : ChatCommand :=
  { c with recipient := none, channel := none }

/-- The prefix of a channel without white space around it and slashes before it. -/
def channelPrefix (s : String) : String :=
  String.ofList ((Text.trimChars s.toList).dropWhile (· == '/'))

/-- Switches to a channel before speaking. A private message has no channel. -/
def switchChannel (c : ChatCommand) (channel : String) : ChatCommand :=
  if c.recipient.isSome then c
  else if Text.isBlank channel then
    c.fail (.invalidArgument "switch_channel" "channel prefix is empty")
  else { c with channel := some (channelPrefix channel) }

/-- Sets the pause behind the last line. -/
def every (c : ChatCommand) (d : Nanos) : ChatCommand := { c with pause := d }

/-- The lines to type, in order. -/
def lines (c : ChatCommand) : List String :=
  match c.recipient, c.channel with
  | some player, _ => ["/m " ++ player ++ " " ++ c.content]
  | none, some channel => ["/" ++ channel, c.content]
  | none, none => [c.content]

def build (c : ChatCommand) : Except CommandError Step :=
  match c.error with
  | some e => .error e
  | none => .ok (Action.type c.lines c.pause).step

end ChatCommand

/-! ## Paying -/

/-- A transfer in the making. -/
structure PayCommand where
  amount : Int
  target : Option String
  error : Option CommandError
  deriving DecidableEq, Repr

namespace PayCommand

/-- Transfers an amount. -/
def start (amount : Int) : PayCommand :=
  ⟨amount, none, if amount ≤ 0 then some (.nonPositiveAmount amount) else none⟩

/-- Sets who gets it. -/
def transferTo (c : PayCommand) (player : String) : PayCommand :=
  if Text.isBlank player then { c with error := c.error.or (some .emptyRecipient) }
  else { c with target := some (Text.trim player) }

def build (c : PayCommand) : Except CommandError Step :=
  match c.error, c.target with
  | some e, _ => .error e
  | none, none => .error .emptyRecipient
  | none, some target =>
    .ok (Action.line ("/pay " ++ target ++ " " ++ String.ofList (intText c.amount))).step

end PayCommand

/-! ## Jumping -/

/-- Jumps with a pause between them. -/
structure JumpCommand where
  times : Nat
  interval : Nanos
  deriving DecidableEq, Repr

namespace JumpCommand

/-- Jumps, one second apart. -/
def start (times : Nat) : JumpCommand := ⟨times, .ofSeconds 1⟩

/-- Sets the pause between jumps. -/
def every (c : JumpCommand) (d : Nanos) : JumpCommand := { c with interval := d }

def build (c : JumpCommand) : Step := (Action.jump c.times c.interval).step

end JumpCommand

end LogWarden
