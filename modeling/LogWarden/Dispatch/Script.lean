import LogWarden.Action.ChainRun
import LogWarden.Dispatch.Consumer

/-! # Scripts

What a consumer or a hook does can be written down as a list of deeds, which are done in order until
one fails. -/

namespace LogWarden

/-- One thing to do. -/
inductive Deed
  | sleep (d : Nanos)
  /-- Never end. -/
  | hang
  | panic
  | run (c : Chain)
  | fail (e : HandlerError)
  | requestDrain
  /-- Shut the queue down and wait for its worker. -/
  | shutDownQueue
  /-- Give notice of how many actions the queue has executed. -/
  | reportQueue
  | notify (n : Notice)
  deriving DecidableEq, Repr

/-- What a script is at. -/
inductive Doing
  | nothing
  | sleeping (wake : Nanos)
  | hanging
  | running (r : ChainRun)
  | shuttingDown (s : Shutdown)
  deriving DecidableEq, Repr

/-- A script that is being gone through. -/
structure Script where
  doing : Doing
  rest : List Deed
  deriving DecidableEq, Repr

/-- What a turn of a script came to. -/
structure ScriptTurn where
  queue : Queue
  turn : Turn Script Verdict
  /-- Whether a drain is requested. -/
  drains : Bool
  notices : List Notice

namespace Script

/-- The script of a list of deeds. -/
def start (deeds : List Deed) : Script := ⟨.nothing, deeds⟩

/-- Begins with a deed. -/
def begin (q : Queue) (now : Nanos) (rest : List Deed) : Deed → ScriptTurn
  | .sleep d => ⟨q, .goes ⟨.sleeping (now + d), rest⟩, false, []⟩
  | .hang => ⟨q, .goes ⟨.hanging, rest⟩, false, []⟩
  | .panic => ⟨q, .ends .panicked, false, []⟩
  | .run c => ⟨q, .goes ⟨.running (.start c now), rest⟩, false, []⟩
  | .fail e => ⟨q, .ends (.failed e), false, []⟩
  | .requestDrain => ⟨q, .goes ⟨.nothing, rest⟩, true, []⟩
  | .shutDownQueue => ⟨q, .goes ⟨.shuttingDown .fresh, rest⟩, false, []⟩
  | .reportQueue => ⟨q, .goes ⟨.nothing, rest⟩, false, [.queueStopped q.executed]⟩
  | .notify n => ⟨q, .goes ⟨.nothing, rest⟩, false, [n]⟩

/-- A turn of a script. -/
def next (q : Queue) (now : Nanos) (s : Script) : ScriptTurn :=
  match s.doing with
  | .nothing =>
    match s.rest with
    | [] => ⟨q, .ends .ok, false, []⟩
    | d :: rest => begin q now rest d
  | .sleeping wake =>
    if now < wake then ⟨q, .waits, false, []⟩ else ⟨q, .goes ⟨.nothing, s.rest⟩, false, []⟩
  | .hanging => ⟨q, .waits, false, []⟩
  | .running r =>
    match r.next q now with
    | (q, .goes r) => ⟨q, .goes ⟨.running r, s.rest⟩, false, []⟩
    | (q, .waits) => ⟨q, .waits, false, []⟩
    | (q, .ends (.ok _)) => ⟨q, .goes ⟨.nothing, s.rest⟩, false, []⟩
    | (q, .ends (.error e)) => ⟨q, .ends (.failed (.action e)), false, []⟩
  | .shuttingDown sd =>
    match sd.next q with
    | (q, .goes sd) => ⟨q, .goes ⟨.shuttingDown sd, s.rest⟩, false, []⟩
    | (q, .waits) => ⟨q, .waits, false, []⟩
    | (q, .ends _) => ⟨q, .goes ⟨.nothing, s.rest⟩, false, []⟩

/-- When a script that waits goes on by itself. -/
def alarms (s : Script) : List Nanos :=
  match s.doing with
  | .sleeping wake => [wake]
  | .running r => r.alarms
  | _ => []

end Script

end LogWarden
