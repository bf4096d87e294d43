import LogWarden.Json.Decode

/-! # Payloads of events

What a recognised line says. A payload has a kind and, as JSON, is an object whose member `type`
names the kind beside the payload's fields. -/

namespace LogWarden

/-- The kinds of payloads. -/
inductive PayloadKind
  | message | whisper | join | quit | kick | viewForced | viewSync | disconnect | landInvite
  | playerIdle | playerResume | landDeposit | landWithdraw | gameCrashed
  deriving DecidableEq, Repr

namespace PayloadKind

/-- All kinds, in order. -/
def all : List PayloadKind :=
  [.message, .whisper, .join, .quit, .kick, .viewForced, .viewSync, .disconnect, .landInvite,
   .playerIdle, .playerResume, .landDeposit, .landWithdraw, .gameCrashed]

/-- The name of a kind. -/
def name : PayloadKind → String
  | .message => "message"
  | .whisper => "whisper"
  | .join => "join"
  | .quit => "quit"
  | .kick => "kick"
  | .viewForced => "view_forced"
  | .viewSync => "view_sync"
  | .disconnect => "disconnect"
  | .landInvite => "land_invite"
  | .playerIdle => "player_idle"
  | .playerResume => "player_resume"
  | .landDeposit => "land_deposit"
  | .landWithdraw => "land_withdraw"
  | .gameCrashed => "game_crashed"

/-- The name of a kind in summaries. -/
def title : PayloadKind → String
  | .message => "Message"
  | .whisper => "Whisper"
  | .join => "Join"
  | .quit => "Quit"
  | .kick => "Kick"
  | .viewForced => "ViewForced"
  | .viewSync => "ViewSync"
  | .disconnect => "Disconnect"
  | .landInvite => "LandInvite"
  | .playerIdle => "PlayerIdle"
  | .playerResume => "PlayerResume"
  | .landDeposit => "LandDeposit"
  | .landWithdraw => "LandWithdraw"
  | .gameCrashed => "GameCrashed"

/-- The kind with a name. -/
def ofName? (s : String) : Option PayloadKind :=
  all.find? (·.name == s)

/-- The position of a kind among all kinds. -/
def index (k : PayloadKind) : Nat :=
  all.idxOf k

end PayloadKind

/-- What a recognised line says. -/
inductive Payload
  /-- A line of public chat. -/
  | message (serverName channel tag player content : String)
  /-- A private message to us. -/
  | whisper (sender text : String)
  | join (player : String)
  | quit (player : String)
  /-- We were thrown out. -/
  | kick
  /-- The server turned our view. -/
  | viewForced (dx dy : Int)
  /-- An administrator shares our view. -/
  | viewSync (adminName : String)
  | disconnect
  | landInvite (inviter landName : String)
  /-- The server takes us for idle. -/
  | playerIdle
  /-- The server no longer takes us for idle. -/
  | playerResume
  | landDeposit (landName player : String) (inValue : Binary64) (nowValue : String)
  | landWithdraw (landName player : String) (outValue : Binary64) (nowValue : String)
  /-- The game itself crashed. -/
  | gameCrashed
  deriving DecidableEq, Repr

namespace Payload

/-- The kind of a payload. -/
def kind : Payload → PayloadKind
  | .message .. => .message
  | .whisper .. => .whisper
  | .join .. => .join
  | .quit .. => .quit
  | .kick => .kick
  | .viewForced .. => .viewForced
  | .viewSync .. => .viewSync
  | .disconnect => .disconnect
  | .landInvite .. => .landInvite
  | .playerIdle => .playerIdle
  | .playerResume => .playerResume
  | .landDeposit .. => .landDeposit
  | .landWithdraw .. => .landWithdraw
  | .gameCrashed => .gameCrashed

/-- A floating-point number as a value; there is none for infinity and not-a-number. -/
def floatValue (x : Binary64) : Json :=
  if x.isFinite then .num (.float x) else .null

/-- The fields of a payload with their values, in order of declaration. -/
def members : Payload → List (String × Json)
  | .message serverName channel tag player content =>
    [("server_name", .str serverName), ("channel", .str channel), ("tag", .str tag),
     ("player", .str player), ("content", .str content)]
  | .whisper sender text => [("sender", .str sender), ("text", .str text)]
  | .join player => [("player", .str player)]
  | .quit player => [("player", .str player)]
  | .viewForced dx dy => [("dx", .num (.int dx)), ("dy", .num (.int dy))]
  | .viewSync adminName => [("admin_name", .str adminName)]
  | .landInvite inviter landName => [("inviter", .str inviter), ("land_name", .str landName)]
  | .landDeposit landName player inValue nowValue =>
    [("land_name", .str landName), ("player", .str player), ("in_value", floatValue inValue),
     ("now_value", .str nowValue)]
  | .landWithdraw landName player outValue nowValue =>
    [("land_name", .str landName), ("player", .str player), ("out_value", floatValue outValue),
     ("now_value", .str nowValue)]
  | .kick | .disconnect | .playerIdle | .playerResume | .gameCrashed => []

/-- The fields of a payload, sorted by name. -/
def fields (p : Payload) : List (String × Json) :=
  Json.sortMembers p.members

/-- The value of a field. -/
def field? (p : Payload) (name : String) : Option Json :=
  (p.members.find? (·.1 == name)).map (·.2)

/-- A payload as JSON. -/
def toJson (p : Payload) : Json :=
  .obj (("type", .str p.kind.name) :: p.members)

/-! ## Reading -/

open Json

/-- A whole number of 64 bits. -/
def readInt64 : Reads Int :=
  readInt (-9223372036854775808) 9223372036854775807

/-- Readers of the fields of a payload, by position: a member name with its reader. The reading
checks that each member fits and keeps the values by name. -/
def fieldReaders : PayloadKind → List (String × Reads Json)
  | .message => ["server_name", "channel", "tag", "player", "content"].map text
  | .whisper => ["sender", "text"].map text
  | .join => [text "player"]
  | .quit => [text "player"]
  | .viewForced => [int "dx", int "dy"]
  | .viewSync => [text "admin_name"]
  | .landInvite => ["inviter", "land_name"].map text
  | .landDeposit => [text "land_name", text "player", float "in_value", text "now_value"]
  | .landWithdraw => [text "land_name", text "player", float "out_value", text "now_value"]
  | .kick | .disconnect | .playerIdle | .playerResume | .gameCrashed => []
where
  text (name : String) : String × Reads Json :=
    (name, fun levels d => (readString levels d).map .str)
  int (name : String) : String × Reads Json :=
    (name, fun levels d => (readInt64 levels d).map fun n => .num (.int n))
  float (name : String) : String × Reads Json :=
    (name, fun levels d => (readFloat levels d).map fun x => .num (.float x))

/-- The payload of a kind with the given field values, in order of declaration. -/
def ofValues? : PayloadKind → List Json → Option Payload
  | .message, [.str s, .str c, .str t, .str p, .str x] => some (.message s c t p x)
  | .whisper, [.str s, .str t] => some (.whisper s t)
  | .join, [.str p] => some (.join p)
  | .quit, [.str p] => some (.quit p)
  | .kick, [] => some .kick
  | .viewForced, [.num (.int x), .num (.int y)] => some (.viewForced x y)
  | .viewSync, [.str a] => some (.viewSync a)
  | .disconnect, [] => some .disconnect
  | .landInvite, [.str i, .str l] => some (.landInvite i l)
  | .playerIdle, [] => some .playerIdle
  | .playerResume, [] => some .playerResume
  | .landDeposit, [.str l, .str p, .num (.float x), .str n] => some (.landDeposit l p x n)
  | .landWithdraw, [.str l, .str p, .num (.float x), .str n] => some (.landWithdraw l p x n)
  | .gameCrashed, [] => some .gameCrashed
  | _, _ => none

/-- The field values of a payload from its members: each field once, other members ignored. -/
def valuesOfMembers (readers : List (String × Reads Json)) (ms : List (String × Json)) :
    Except JsonFault (List Json) :=
  readers.mapM fun (name, read) =>
    match ms.filter (·.1 == name) with
    | [(_, v)] => readValue read v
    | _ => .error .mismatched

/-- The field values of a payload from an array of them. -/
def valuesOfItems : List (String × Reads Json) → List Json → Except JsonFault (List Json)
  | [], [] => .ok []
  | (_, read) :: readers, v :: vs => do
    let w ← readValue read v
    return w :: (← valuesOfItems readers vs)
  | _, _ => .error .mismatched

/-- The kind that the members of a payload name, and the other members. -/
def readMembers (levels : Nat) : Option PayloadKind → List (String × Json) →
    List (QuotedText × Document) → Except JsonFault (Option PayloadKind × List (String × Json))
  | k, ms, [] => .ok (k, ms.reverse)
  | k, ms, (key, d) :: rest => do
    let key ← key.value
    if key == "type" then
      if k.isSome then .error .mismatched
      else
        match PayloadKind.ofName? (← readString levels d) with
        | some k => readMembers levels (some k) ms rest
        | none => .error .mismatched
    else
      let v ← readAny levels d
      readMembers levels k ((key, v) :: ms) rest

/-- Reads a payload: an object with the member `type`, or an array of the kind and the fields. -/
def read : Reads Payload
  | levels, .obj members tail => do
    let inner ← enter levels
    let (kind, ms) ← readMembers inner none [] members
    finish tail
    let kind ← required kind
    required (ofValues? kind (← valuesOfMembers (fieldReaders kind) ms))
  | levels, .arr items tail => do
    let inner ← enter levels
    match items with
    | [] => do
      finish tail
      .error .mismatched
    | d :: rest => do
      let some kind := PayloadKind.ofName? (← readString inner d) | .error .mismatched
      let vs ← rest.mapM (readAny inner)
      finish tail
      required (ofValues? kind (← valuesOfItems (fieldReaders kind) vs))
  | _, d => .error (mismatch d)

end Payload

end LogWarden
