import LogWarden.Command.Basic
import LogWarden.Command.Land
import LogWarden.Dispatch.Script
import LogWarden.Service.Channel

/-! # What the program replies to events

Besides its services and triggers the program answers to whispers that look like a check on the
player, to an administrator who shares the view, and to invitations; and it stops when the player
has been thrown out, has lost the connection, or has no game any more. -/

namespace LogWarden

namespace Reply

/-- Parts of a whisper by which somebody may want to know whether the player is present. -/
def presenceChecks : List String := ["跳一跳", "在"]

/-- Whether a whisper looks like a check on the player. -/
def isPresenceCheck (text : String) : Bool :=
  presenceChecks.any fun part => hasInfix part.toList text.toList

/-- A pause and some jumps, as of somebody who has just come back to the keyboard. -/
def evasion : Chain :=
  .ofSteps [(Action.hold (.ofSeconds 2)).step, ((JumpCommand.start 3).every (.ofSeconds 1)).build]

def toWhisper (e : Event) : List Deed :=
  match e.payload with
  | .whisper sender text =>
    .notify (.whispered sender text)
      :: if isPresenceCheck text then [.notify (.presenceChecked sender), .run evasion] else []
  | _ => []

/-- Runs a step within a limit, if it can be built. -/
def runWithin (limit : Nanos) : Except CommandError Step → Deed
  | .ok step => .run (.ofStep { step with limit })
  | .error e => .fail (.command e)

def toViewSync (limit : Nanos) (e : Event) : List Deed :=
  match e.payload with
  | .viewSync admin =>
    [.notify (.viewSynced admin),
     runWithin limit ((ChatCommand.start "干嘛干嘛，要干嘛...").sendTo admin).build]
  | _ => []

def toLandInvite (limit : Nanos) (e : Event) : List Deed :=
  match e.payload with
  | .landInvite inviter land =>
    [.notify (.landInvited inviter land),
     runWithin limit (LandCommand.start land).invite.accept.build]
  | _ => []

/-- The replies by the kinds of events. -/
def all (limit : Nanos) : List (String × (Event → List Deed)) :=
  [("whisper", toWhisper), ("view-sync", toViewSync limit), ("land-invite", toLandInvite limit),
   ("kick", fun _ => [.fail (.terminate "kicked from the server")]),
   ("disconnect", fun _ => [.fail (.terminate "disconnected")]),
   ("game-crashed", fun _ => [.notify .gameCrashed, .fail (.terminate "game crashed")])]

end Reply

end LogWarden
