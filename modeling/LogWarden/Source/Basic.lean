import LogWarden.Config.Basic
import LogWarden.Source.Stream

/-! # Sources of lines

A source gives lines until it ends or fails. -/

namespace LogWarden

/-- A source that gives a list of lines and then ends. -/
structure Replay where
  lines : List String
  deriving DecidableEq, Repr

namespace Replay

/-- A source of some lines. -/
def start (lines : List String) : Replay := ⟨lines⟩

/-- How many lines are left. -/
def remaining (r : Replay) : Nat := r.lines.length

def describe (r : Replay) : String :=
  "replay(" ++ natText r.remaining ++ " lines)"

/-- The next line, if there is one. -/
def next (r : Replay) : Option String × Replay :=
  (r.lines.head?, ⟨r.lines.tail⟩)

end Replay

/-- What a feed has been given. -/
inductive Feeding
  | line (text : String)
  | failure (e : SourceError)
  /-- The source itself breaks. -/
  | breakdown
  deriving DecidableEq, Repr

/-- A source that is fed from outside while it runs. -/
structure Feed where
  name : String
  queue : List Feeding
  /-- Whether nothing more will be fed. -/
  closed : Bool
  deriving DecidableEq, Repr

/-- A source of lines. -/
inductive Source
  | replay (r : Replay)
  | feed (f : Feed)
  | tail (t : FileTail)
  | stream (s : StreamSource)
  deriving DecidableEq, Repr

/-- What asking for a line ends with. -/
inductive Reading
  | line (text : String)
  | ended
  | failed (e : SourceError)
  /-- The source itself broke. -/
  | broken
  deriving DecidableEq, Repr

namespace Reading

/-- The reading of a line or an error. -/
def ofResult : Except SourceError String → Reading
  | .ok text => .line text
  | .error e => .failed e

end Reading

/-- What a source depends on: a file and an endpoint. -/
structure Surroundings where
  file : FileState
  endpoint : Endpoint
  deriving DecidableEq, Repr

namespace Source

/-- The shortest pause between two looks at a file. -/
def clockTick : Nanos := .ofMillis 1

/-- The source that the settings ask for. -/
def ofSettings (s : IngestSettings) : Except ConfigError Source := do
  let tail := FileTail.start s.logPath (← s.textEncoding) (max s.pollInterval clockTick)
  match s.mode with
  | .file => return .tail tail
  | .stream => return .stream (.start s.addr s.retryLimit s.retryBackoff tail)

def describe : Source → String
  | .replay r => r.describe
  | .feed f => f.name
  | .tail t => t.describe
  | .stream s => s.describe

/-- The tail of the file that a source reads, if it reads one. -/
def tail? : Source → Option FileTail
  | .replay _ | .feed _ => none
  | .tail t => some t
  | .stream s =>
    match s.state with
    | .connecting _ => none
    | .degraded t => some t

/-- A turn of asking for the next line. -/
def next (around : Surroundings) (now : Nanos) : Source → Turn Source (Source × Reading)
  | .replay r =>
    match r.next with
    | (some line, r) => .ends (.replay r, .line line)
    | (none, r) => .ends (.replay r, .ended)
  | .feed f =>
    match f.queue with
    | [] => if f.closed then .ends (.feed f, .ended) else .waits
    | fed :: rest =>
      let f := { f with queue := rest }
      match fed with
      | .line text => .ends (.feed f, .line text)
      | .failure e => .ends (.feed f, .failed e)
      | .breakdown => .ends (.feed f, .broken)
  | .tail t => (t.next around.file now).map .tail fun (t, r) => (.tail t, .ofResult r)
  | .stream s =>
    (s.next around.endpoint around.file now).map .stream fun (s, r) => (.stream s, .ofResult r)

/-- Feeds a source that is fed from outside. -/
def give (fed : Feeding) : Source → Source
  | .feed f => .feed { f with queue := f.queue ++ [fed] }
  | s => s

/-- Says that a source is not fed any more. -/
def finish : Source → Source
  | .feed f => .feed { f with closed := true }
  | s => s

/-- When a source that waits goes on by itself. -/
def alarm? : Source → Option Nanos
  | .replay _ | .feed _ => none
  | .tail t => t.alarm?
  | .stream s => s.alarm?

end Source

end LogWarden
