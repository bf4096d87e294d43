import LogWarden.Error

/-! # Notices

While it runs the program gives notice of what goes wrong, and of a few other things. A notice has a
level, a message and details by name. -/

namespace LogWarden

/-- How much a notice matters. -/
inductive NoticeLevel
  | info | warning | error
  deriving DecidableEq, Repr

/-- The name of a level. -/
def NoticeLevel.name : NoticeLevel → String
  | .info => "INFO"
  | .warning => "WARN"
  | .error => "ERROR"

/-- What notice is given of. -/
inductive Notice
  | actionFailed (action : String) (e : ActionError)
  | probeNotSent (e : HandlerError)
  | roundFailed (e : ActionError)
  | triggerFailed (rule : Nat) (kind : String) (e : HandlerError)
  | matchDiscarded (kind line : String) (e : ClassifyError)
  | sourceFailed (source : String) (e : SourceError)
  /-- A source broke. -/
  | sourceBroken
  | consumerFailed (consumer kind : String) (e : HandlerError)
  | consumerPanicked (consumer kind : String)
  | startupHookFailed (hook : Nat) (e : HandlerError)
  | shutdownHookFailed (hook : Nat) (e : HandlerError)
  | terminating (reason : String)
  /-- The queue has stopped after so many actions. -/
  | queueStopped (executed : Nat)
  /-- Everything that there is to be started has been made. -/
  | starting (source : String) (ruleSets triggers : Nat) (player : String)
  /-- The actuator is ready for the window of the game. -/
  | actuatorReady (window : String)
  | whispered (sender text : String)
  /-- A whisper may be there to find out whether the player is present. -/
  | presenceChecked (sender : String)
  | viewSynced (admin : String)
  | landInvited (inviter land : String)
  | gameCrashed
  deriving DecidableEq, Repr

namespace Notice

def level : Notice → NoticeLevel
  | .actionFailed .. | .probeNotSent _ | .roundFailed _ | .triggerFailed .. | .matchDiscarded ..
  | .startupHookFailed .. | .shutdownHookFailed .. | .presenceChecked _ | .viewSynced _ => .warning
  | .sourceFailed .. | .sourceBroken | .consumerFailed .. | .consumerPanicked .. | .gameCrashed =>
    .error
  | .terminating _ | .queueStopped _ | .starting .. | .actuatorReady _ | .whispered ..
  | .landInvited .. => .info

def message : Notice → String
  | .actionFailed .. => "action failed"
  | .probeNotSent _ => "channel probe not sent, using cached channel"
  | .roundFailed _ => "idle evasion round failed"
  | .triggerFailed .. => "trigger failed"
  | .matchDiscarded .. => "match discarded"
  | .sourceFailed .. => "ingestion source failed"
  | .sourceBroken => "task panicked"
  | .consumerFailed .. => "event consumer failed"
  | .consumerPanicked .. => "event consumer panicked"
  | .startupHookFailed .. => "startup hook failed"
  | .shutdownHookFailed .. => "shutdown hook failed"
  | .terminating _ => "terminate signal received, draining"
  | .queueStopped _ => "action queue stopped"
  | .starting .. => "starting"
  | .actuatorReady _ => "dry-run actuator ready"
  | .whispered .. => "whisper"
  | .presenceChecked _ => "whisper looks like a presence check, evading"
  | .viewSynced _ => "view synchronized by admin, replying"
  | .landInvited .. => "accepting land invite"
  | .gameCrashed => "game client crashed"

/-- The details of a notice, sorted by name. -/
def details : Notice → List (String × String)
  | .actionFailed action e => [("action", action), ("error", e.message)]
  | .probeNotSent e => [("error", e.message)]
  | .roundFailed e => [("error", e.message)]
  | .triggerFailed rule kind e =>
    [("error", e.message), ("kind", kind), ("rule", natText rule)]
  | .matchDiscarded kind line e => [("error", e.message), ("kind", kind), ("line", line)]
  | .sourceFailed source e => [("error", e.message), ("source", source)]
  | .sourceBroken => [("task", "ingestion")]
  | .consumerFailed consumer kind e =>
    [("consumer", consumer), ("error", e.message), ("kind", kind)]
  | .consumerPanicked consumer kind => [("consumer", consumer), ("kind", kind)]
  | .startupHookFailed hook e => [("error", e.message), ("hook", natText hook)]
  | .shutdownHookFailed hook e => [("error", e.message), ("hook", natText hook)]
  | .terminating reason => [("reason", reason)]
  | .queueStopped executed => [("executed", natText executed)]
  | .starting source ruleSets triggers player =>
    [("player", player), ("rule_sets", natText ruleSets), ("source", source),
     ("triggers", natText triggers)]
  | .actuatorReady window => [("window", window)]
  | .whispered sender text => [("sender", sender), ("text", text)]
  | .presenceChecked sender => [("sender", sender)]
  | .viewSynced admin => [("admin", admin)]
  | .landInvited inviter land => [("inviter", inviter), ("land", land)]
  | .gameCrashed => []

/-- A notice in one line. -/
def text (n : Notice) : String :=
  " ".intercalate (n.level.name :: n.message :: n.details.map fun (k, v) => k ++ "=" ++ v)

end Notice

end LogWarden
