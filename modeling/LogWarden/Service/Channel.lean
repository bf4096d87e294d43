import LogWarden.Action.ChainRun
import LogWarden.Command.Basic
import LogWarden.Event.Basic
import LogWarden.Service.Probe

/-! # The channel that the player speaks in

The tracker follows the player's own messages. Asked for the channel it types a probe and takes the
channel of its echo; without an echo it answers with the channel last seen. -/

namespace LogWarden

/-- The start of a probe's text. -/
def probeMark : String := "channel_scan:"

/-- Whether a text has another one in it. -/
def hasInfix (part : List Char) : List Char → Bool
  | [] => part.isEmpty
  | c :: rest => part.isPrefixOf (c :: rest) || hasInfix part rest

/-- Whether a text is an echo of a probe. -/
def isEcho (text id : String) : Bool :=
  hasInfix (probeMark ++ id).toList text.toList

/-- The tracker of the player's channel. -/
structure ChannelTracker where
  userId : String
  probeTimeout : Nanos
  /-- The channel last seen. -/
  current : String
  probes : Probes String
  deriving DecidableEq, Repr

namespace ChannelTracker

/-- A tracker that has seen nothing. -/
def start (userId : String) (probeTimeout : Nanos) : ChannelTracker :=
  ⟨userId, probeTimeout, "global", .empty⟩

def name : String := "channel-tracker"

def subscription : Subscription := .only [.message]

/-- The tracker after an event. -/
def react (t : ChannelTracker) (e : Event) : ChannelTracker :=
  match e.payload with
  | .message _ channel _ player content =>
    if player = t.userId then
      { t with
        current := channel, probes := (t.probes.resolveWhere (isEcho content) channel).2 }
    else t
  | _ => t

end ChannelTracker

/-- Where a question for the channel stands. -/
inductive ChannelQuestion
  /-- The probe is about to be typed. -/
  | fresh (id : String)
  | typing (id : String) (w : TicketWait)
  | listening (w : EchoWait)
  deriving DecidableEq, Repr

namespace ChannelQuestion

/-- The answer without an echo, and a notice of why there is none. -/
def giveUp (t : ChannelTracker) (id : String) (e : HandlerError) :
    ChannelTracker × Turn ChannelQuestion String × List Notice :=
  ({ t with probes := t.probes.drop id }, .ends t.current, [.probeNotSent e])

/-- A turn of a question. -/
def next (t : ChannelTracker) (q : Queue) (now : Nanos) :
    ChannelQuestion →
      ChannelTracker × Queue × Turn ChannelQuestion String × List Notice
  | .fresh id =>
    let t := { t with probes := t.probes.register id }
    match (ChatCommand.start (probeMark ++ id)).build with
    | .error e =>
      let (t, turn, notices) := giveUp t id (.command e)
      (t, q, turn, notices)
    | .ok step =>
      match step.submit q now with
      | none =>
        let (t, turn, notices) := giveUp t id (.action .queueClosed)
        (t, q, turn, notices)
      | some (w, q) => (t, q, .goes (.typing id w), [])
  | .typing id w =>
    match w.next q now with
    | .ends (.ok _) =>
      (t, q, .goes (.listening ⟨id, now + t.probeTimeout, t.current⟩), [])
    | .ends (.error e) =>
      let (t, turn, notices) := giveUp t id (.action e)
      (t, q, turn, notices)
    | .goes w => (t, q, .goes (.typing id w), [])
    | .waits => (t, q, .waits, [])
  | .listening w =>
    let (probes, turn) := w.next t.probes now
    ({ t with probes }, q, turn.map .listening id, [])

/-- When a question that waits goes on by itself. -/
def alarm? : ChannelQuestion → Option Nanos
  | .fresh _ => none
  | .typing _ w => w.alarm?
  | .listening w => some w.deadline

end ChannelQuestion

end LogWarden
