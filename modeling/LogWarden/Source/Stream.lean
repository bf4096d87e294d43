import LogWarden.Source.FileTail

/-! # Reading a stream

A stream of lines comes from a forwarding endpoint. Where no connection can be had, the source falls
back on tailing a file, and stays there. An endpoint either refuses connections for now, and is tried
again after a pause and up to a limit, or cannot be reached at all. -/

namespace LogWarden

/-- What an attempt to connect comes to. -/
inductive Endpoint
  /-- There is no such endpoint. -/
  | unknown
  /-- Nobody answers there at the moment. -/
  | refusing
  deriving DecidableEq, Repr

/-- Where a stream stands. -/
inductive StreamState
  /-- Attempts are being made, the next not before a time. -/
  | connecting (resumeAt : Nanos)
  /-- The source reads the file instead. -/
  | degraded (tail : FileTail)
  deriving DecidableEq, Repr

/-- A stream with its file to fall back on. -/
structure StreamSource where
  addr : String
  retryLimit : Nat
  retryBackoff : Nanos
  fallback : FileTail
  /-- Attempts made so far. -/
  attempts : Nat
  state : StreamState
  deriving DecidableEq, Repr

namespace StreamSource

/-- A stream that has not been tried. -/
def start (addr : String) (retryLimit : Nat) (retryBackoff : Nanos) (fallback : FileTail) :
    StreamSource :=
  ⟨addr, retryLimit, retryBackoff, fallback, 0, .connecting 0⟩

/-- Whether the source reads the file instead. -/
def isDegraded (s : StreamSource) : Bool :=
  match s.state with
  | .degraded _ => true
  | .connecting _ => false

def describe (s : StreamSource) : String :=
  match s.state with
  | .degraded tail => "stream(" ++ s.addr ++ ") -> " ++ tail.describe
  | .connecting _ => "stream(" ++ s.addr ++ ")"

/-- A summary of the source. -/
def summary (s : StreamSource) : String :=
  "StreamSource \x7b addr: " ++ Text.quote s.addr ++ ", attempts: " ++ natText s.attempts
    ++ ", degraded: " ++ (if s.isDegraded then "true" else "false") ++ ", .. \x7d"

/-- Makes the next attempt to connect, or falls back on the file. -/
def connect (s : StreamSource) (endpoint : Endpoint) (now : Nanos) : StreamSource :=
  let degraded := StreamState.degraded s.fallback
  if s.attempts < s.retryLimit then
    let attempts := s.attempts + 1
    match endpoint with
    | .unknown => { s with attempts, state := degraded }
    | .refusing =>
      { s with
        attempts
        state := if attempts < s.retryLimit then .connecting (now + s.retryBackoff) else degraded }
  else { s with state := degraded }

/-- A turn of asking for the next line. -/
def next (s : StreamSource) (endpoint : Endpoint) (file : FileState) (now : Nanos) :
    Turn StreamSource (StreamSource × Except SourceError String) :=
  match s.state with
  | .connecting resumeAt => if now < resumeAt then .waits else .goes (s.connect endpoint now)
  | .degraded tail =>
    (tail.next file now).map (fun tail => { s with state := .degraded tail })
      fun (tail, r) => ({ s with state := .degraded tail }, r)

/-- When a source that waits goes on. -/
def alarm? (s : StreamSource) : Option Nanos :=
  match s.state with
  | .connecting resumeAt => some resumeAt
  | .degraded tail => tail.alarm?

/-- The source after the request for a line was given up. -/
def wake (s : StreamSource) : StreamSource :=
  match s.state with
  | .connecting _ => s
  | .degraded tail => { s with state := .degraded tail.wake }

/-- Asks for the next line until a time, in at most so many turns: the line or error, if there is
one by then. -/
def nextBy (endpoint : Endpoint) (file : FileState) (deadline : Nanos) :
    Nat → StreamSource → Nanos → StreamSource × Nanos × Option (Except SourceError String)
  | 0, s, now => (s, now, none)
  | turns + 1, s, now =>
    match s.next endpoint file now with
    | .goes s => nextBy endpoint file deadline turns s now
    | .ends (s, r) => (s, now, some r)
    | .waits =>
      match s.alarm? with
      | none => (s.wake, deadline, none)
      | some alarm =>
        if alarm ≤ deadline then nextBy endpoint file deadline turns s alarm
        else (s.wake, deadline, none)

end StreamSource

end LogWarden
