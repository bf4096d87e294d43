import LogWarden.Duration
import LogWarden.Encoding.Decode
import LogWarden.File
import LogWarden.Turn

/-! # Tailing a file

A tail gives the lines that are added to a file. It looks at the file from time to time and
remembers up to which byte it has read; a line that has no end yet is left for later. A file that
is shorter than what has been read of it is read again from its start. -/

namespace LogWarden

/-- Cuts bytes behind each line feed, given the bytes of a line already begun and the lines before
it: the lines, and the bytes of a line that has no end. -/
def cutLines (line : List UInt8) (lines : List (List UInt8)) :
    List UInt8 → List (List UInt8) × List UInt8
  | [] => (lines.reverse, line.reverse)
  | b :: rest =>
    if b = 10 then cutLines [] ((b :: line).reverse :: lines) rest
    else cutLines (b :: line) lines rest

/-- The lines of some bytes, each with its line feed. -/
def wholeLines (bytes : List UInt8) : List (List UInt8) :=
  (cutLines [] [] bytes).1

/-- The text of a line, without white space at its end. -/
def Encoding.decodeLine (e : Encoding) (line : List UInt8) : String :=
  String.ofList (Text.trimEnd (e.decode line))

/-- The texts of lines. A line without text is left out. -/
def Encoding.lineTexts (e : Encoding) (lines : List (List UInt8)) : List String :=
  (lines.map e.decodeLine).filter (· ≠ "")

/-- A tail. -/
structure FileTail where
  path : String
  encoding : Encoding
  interval : Nanos
  /-- The byte up to which the file has been read, once it has been looked at. -/
  offset : Option Nat
  /-- Lines that have been read and not yet given. -/
  pending : List String
  /-- The tail does not look at the file before this time. -/
  asleepUntil : Nanos
  deriving DecidableEq, Repr

namespace FileTail

/-- A tail that has not looked at its file. -/
def start (path : String) (encoding : Encoding) (interval : Nanos) : FileTail :=
  ⟨path, encoding, interval, none, [], 0⟩

def describe (t : FileTail) : String :=
  "file(" ++ t.path ++ ")"

/-- Looks at what a file holds. The first look only notes its end. -/
def look (t : FileTail) (bytes : List UInt8) : FileTail :=
  match t.offset with
  | none => { t with offset := some bytes.length }
  | some offset =>
    if bytes.length < offset then { t with offset := some 0 }
    else
      let lines := wholeLines (bytes.drop offset)
      { t with
        offset := some (offset + lines.flatten.length)
        pending := t.pending ++ t.encoding.lineTexts lines }

/-- Whether a look opens a file of some length. The first one does not, and neither does one that
finds no more than has been read. -/
def opens (t : FileTail) (length : Nat) : Bool :=
  t.offset.any (· < length)

/-- Looks at the file. -/
def poll (t : FileTail) : FileState → Except SourceError FileTail
  | .absent => .error (.fileMissing t.path)
  | .unreadable cause => .error (.io t.path cause)
  | .closed bytes cause =>
    if t.opens bytes.length then .error (.io t.path cause) else .ok (t.look bytes)
  | .content bytes => .ok (t.look bytes)

/-- A turn of asking for the next line: it ends with a line or an error. After a look that gave no
lines the tail sleeps, except after the first. -/
def next (t : FileTail) (file : FileState) (now : Nanos) :
    Turn FileTail (FileTail × Except SourceError String) :=
  match t.pending with
  | line :: rest => .ends ({ t with pending := rest }, .ok line)
  | [] =>
    if now < t.asleepUntil then .waits
    else
      match t.poll file with
      | .error e => .ends (t, .error e)
      | .ok polled =>
        if polled.pending.isEmpty && t.offset.isSome then
          .goes { polled with asleepUntil := now + t.interval }
        else .goes polled

/-- When a tail that waits goes on. -/
def alarm? (t : FileTail) : Option Nanos :=
  if t.pending.isEmpty then some t.asleepUntil else none

/-- The tail after the request for a line was given up. -/
def wake (t : FileTail) : FileTail :=
  { t with asleepUntil := 0 }

/-- What can be had from a tail before it sleeps or fails, in at most so many turns. -/
def available (file : FileState) (now : Nanos) :
    Nat → FileTail → List (Except SourceError String) × FileTail
  | 0, t => ([], t)
  | turns + 1, t =>
    match t.next file now with
    | .goes t => available file now turns t
    | .waits => ([], t)
    | .ends (t, .error e) => ([.error e], t)
    | .ends (t, .ok line) =>
      let (rest, t) := available file now turns t
      (.ok line :: rest, t)

/-- Turns that are enough to have everything of a file. -/
def enoughTurns (t : FileTail) (file : FileState) : Nat :=
  t.pending.length + file.bytes.length + 4

/-- Takes lines until the tail sleeps or fails, then gives up the request. -/
def takeAll (t : FileTail) (file : FileState) (now : Nanos) :
    List (Except SourceError String) × FileTail :=
  let (lines, t) := available file now (t.enoughTurns file) t
  (lines, t.wake)

end FileTail

end LogWarden
