import LogWarden.Error
import LogWarden.Event.Payload
import LogWarden.Text

/-! # Registry of event kinds

A registry binds the name of an event kind to a kind of payload and to the rule that builds the
payload from what a match captured. Neither a name nor a kind of payload is bound twice. -/

namespace LogWarden

/-- The named groups of a match, sorted by name, each with what it ran over. -/
abbrev Captures := List (String × Option String)

namespace Captures

/-- What a group ran over, if the match passed it. -/
def get? (caps : Captures) (name : String) : Option String :=
  ((caps.find? (·.1 == name)).map (·.2)).join

/-- What a group ran over, where an event of `kind` cannot do without it. -/
def required (caps : Captures) (kind name : String) : Except ClassifyError String :=
  match caps.get? name with
  | some s => .ok s
  | none => .error (.missingField kind name)

end Captures

/-- Builds the payload of an event of a kind from what a match captured. -/
abbrev Constructor := String → Captures → Except ClassifyError Payload

/-- What an event kind is bound to. -/
structure Registration where
  payload : PayloadKind
  construct : Constructor

/-- An event kind with what it is to be bound to. -/
structure Binding where
  kind : String
  registration : Registration

/-- The bound event kinds. -/
structure Registry where
  /-- What each of the kinds is bound to. -/
  byKind : List (String × Registration)
  /-- The event kind of each kind of payload that is bound. -/
  byPayload : List (PayloadKind × String)

namespace Registry

/-- The registry without a bound kind. -/
def empty : Registry := ⟨[], []⟩

/-- What a kind is bound to. -/
def find? (r : Registry) (kind : String) : Option Registration :=
  r.byKind.lookup kind

/-- The kind that is bound to a kind of payload. -/
def kindOf? (r : Registry) (p : PayloadKind) : Option String :=
  r.byPayload.lookup p

/-- The kind of payload that a kind is bound to. -/
def payloadOf? (r : Registry) (kind : String) : Option PayloadKind :=
  (r.find? kind).map (·.payload)

def contains (r : Registry) (kind : String) : Bool :=
  (r.find? kind).isSome

def size (r : Registry) : Nat :=
  r.byKind.length

/-- Puts a value under a key, in place of the one that is there. -/
def put {α β : Type} [BEq α] (entries : List (α × β)) (key : α) (value : β) : List (α × β) :=
  entries.filter (·.1 != key) ++ [(key, value)]

/-- Binds a kind in the registry at hand. A kind that is bound already is reported before a kind of
payload that is. -/
def enter (b : Binding) : EStateM ConfigError Registry Unit := do
  let r ← get
  if r.contains b.kind then throw (.duplicateKind b.kind)
  if let some bound := r.kindOf? b.registration.payload then
    throw (.duplicatePayload b.registration.payload.name bound)
  modify fun r => { r with byPayload := put r.byPayload b.registration.payload b.kind }
  modify fun r => { r with byKind := put r.byKind b.kind b.registration }

/-- A registry with one more bound kind. -/
def register (r : Registry) (kind : String) (payload : PayloadKind) (construct : Constructor) :
    Except ConfigError Registry :=
  match (enter ⟨kind, ⟨payload, construct⟩⟩).run r with
  | .ok _ r => .ok r
  | .error e _ => .error e

/-- A summary of a registry: the bound kinds of payloads, in order, with their event kinds. -/
def summary (r : Registry) : String :=
  let kinds := PayloadKind.all.filterMap fun p =>
    (r.kindOf? p).map fun kind => p.title ++ ": " ++ Text.quote kind
  "EventRegistry \x7b kinds: \x7b" ++ ", ".intercalate kinds ++ "\x7d \x7d"

/-- Builds the payload of an event of a kind. -/
def construct (r : Registry) (kind : String) (caps : Captures) : Except ClassifyError Payload :=
  match r.find? kind with
  | some e => e.construct kind caps
  | none => .error (.unregisteredKind kind)

end Registry

/-! ## The built-in kinds -/

/-- The names of chat channels: each tag seen in a line with the prefix that commands use. -/
abbrev Aliases := List (String × String)

/-- The prefix of a channel tag. -/
def Aliases.get? (aliases : Aliases) (tag : String) : Option String :=
  (aliases.find? (·.1 == tag)).map (·.2)

namespace Builtin

/-- An amount with commas between its thousands. -/
def amount (kind field raw : String) : Except ClassifyError Binary64 :=
  match Binary64.ofText? (Text.trimChars (raw.toList.filter (· != ','))) with
  | some x => .ok x
  | none => .error (.invalidField kind field raw)

/-- The whole number that a text of digits with an optional sign denotes, if it fits 64 bits. -/
def int64OfText? (cs : List Char) : Option Int :=
  let (negative, body) := Binary64.signOf cs
  match Binary64.digitRun 0 0 body with
  | (n, count, []) =>
    let k : Int := if negative then -(n : Int) else n
    if count = 0 ∨ k < -9223372036854775808 ∨ 9223372036854775807 < k then none else some k
  | _ => none

/-- A whole number with optional white space around it. -/
def integer (kind field raw : String) : Except ClassifyError Int :=
  match int64OfText? (Text.trimChars raw.toList) with
  | some n => .ok n
  | none => .error (.invalidField kind field raw)

/-- The channel of a chat line: the prefix of its tag, and a line without a tag belongs to `G`. -/
def channel (aliases : Aliases) (caps : Captures) : String :=
  (aliases.get? ((caps.get? "channel").getD "G")).getD "global"

def message (aliases : Aliases) : Constructor := fun kind caps => do
  let player ← caps.required kind "player"
  return .message ((caps.get? "server_name").getD "主服") (channel aliases caps)
    ((caps.get? "tag").getD "流浪者") player ((caps.get? "content").getD "")

def whisper : Constructor := fun kind caps =>
  return .whisper (← caps.required kind "sender") (← caps.required kind "text")

def join : Constructor := fun kind caps =>
  return .join (← caps.required kind "player")

def quit : Constructor := fun kind caps =>
  return .quit (← caps.required kind "player")

def viewForced : Constructor := fun kind caps => do
  let dx ← integer kind "dx" (← caps.required kind "dx")
  let dy ← integer kind "dy" (← caps.required kind "dy")
  return .viewForced dx dy

def viewSync : Constructor := fun kind caps =>
  return .viewSync (← caps.required kind "admin_name")

def landInvite : Constructor := fun kind caps =>
  return .landInvite (← caps.required kind "inviter")
    (Text.trim (← caps.required kind "land_name"))

def landDeposit : Constructor := fun kind caps => do
  let land ← caps.required kind "land_name"
  let player ← caps.required kind "player"
  let value ← amount kind "in_value" (← caps.required kind "in_value")
  return .landDeposit land player value (← caps.required kind "now_value")

def landWithdraw : Constructor := fun kind caps => do
  let land ← caps.required kind "land_name"
  let player ← caps.required kind "player"
  let value ← amount kind "out_value" (← caps.required kind "out_value")
  return .landWithdraw land player value (← caps.required kind "now_value")

/-- A payload without fields. -/
def bare (p : Payload) : Constructor := fun _ _ => .ok p

end Builtin

/-- What the built-in kinds are bound to. -/
def Builtin.bindings (aliases : Aliases) : List Binding :=
  [⟨"message", ⟨.message, message aliases⟩⟩,
   ⟨"whisper", ⟨.whisper, whisper⟩⟩,
   ⟨"join", ⟨.join, join⟩⟩,
   ⟨"quit", ⟨.quit, quit⟩⟩,
   ⟨"kick", ⟨.kick, bare .kick⟩⟩,
   ⟨"view-forced", ⟨.viewForced, viewForced⟩⟩,
   ⟨"view-sync", ⟨.viewSync, viewSync⟩⟩,
   ⟨"disconnect", ⟨.disconnect, bare .disconnect⟩⟩,
   ⟨"land-invite", ⟨.landInvite, landInvite⟩⟩,
   ⟨"idle", ⟨.playerIdle, bare .playerIdle⟩⟩,
   ⟨"idle-resume", ⟨.playerResume, bare .playerResume⟩⟩,
   ⟨"land-deposit", ⟨.landDeposit, landDeposit⟩⟩,
   ⟨"land-withdraw", ⟨.landWithdraw, landWithdraw⟩⟩,
   ⟨"game-crashed", ⟨.gameCrashed, bare .gameCrashed⟩⟩]

namespace Registry

/-- Binds the built-in kinds one after another, up to one that cannot be bound. -/
def enterBuiltins (aliases : Aliases) : EStateM ConfigError Registry Unit :=
  (Builtin.bindings aliases).forM enter

/-- The registry of the built-in kinds. -/
def builtin (aliases : Aliases) : Registry :=
  match (enterBuiltins aliases).run .empty with
  | .ok _ r | .error _ r => r

end Registry

end LogWarden
