import LogWarden.Error

/-! # Files

What there is at a path, and what reading it as a text gives. -/

namespace LogWarden

/-- What there is at a path. -/
inductive FileState
  | absent
  /-- Something that cannot be read; `cause` is the system's wording. -/
  | unreadable (cause : String)
  /-- A file whose length can be had, though it cannot be opened. -/
  | closed (bytes : List UInt8) (cause : String)
  | content (bytes : List UInt8)
  deriving DecidableEq, Repr

namespace FileState

/-- What a file holds, as far as that is known. -/
def bytes : FileState → List UInt8
  | .content bytes | .closed bytes _ => bytes
  | .absent | .unreadable _ => []

/-- The text of a file. A file that is not UTF-8 is no text. -/
def readText (path : String) : FileState → Except ConfigError String
  | .absent => .error (.io path "no such file")
  | .unreadable cause | .closed _ cause => .error (.io path cause)
  | .content bytes =>
    match String.fromUTF8? ⟨bytes.toArray⟩ with
    | some s => .ok s
    | none => .error (.io path "the text is not UTF-8")

end FileState

/-- What comes of looking for a document: where there is none, a text to be written there and what
is read if that succeeds. -/
inductive Lookup (α : Type)
  | found (r : Except ConfigError α)
  | toWrite (text : String) (written : Except ConfigError α)

/-- Looks for a document at a path. -/
def Lookup.ofFile {α : Type} (path : String) (file : FileState) (initial : String)
    (written : Except ConfigError α) (read : String → Except ConfigError α) : Lookup α :=
  match file with
  | .absent => .toWrite initial written
  | file => .found (file.readText path >>= read)

/-- What was read, given why writing failed if it did. -/
def Lookup.result {α : Type} (path : String) (writeFault : Option String) :
    Lookup α → Except ConfigError α
  | .found r => r
  | .toWrite _ written =>
    match writeFault with
    | some cause => .error (.io path cause)
    | none => written

/-- The way to files. -/
structure FileAccess (m : Type → Type) where
  /-- What there is at a path. -/
  look : String → m FileState
  /-- Writes a text to a path, and says what went wrong if something did. -/
  write : String → String → m (Option String)

/-- Loads the document at a path, which is written if there is none. -/
def FileAccess.load {m : Type → Type} [Monad m] {α : Type} (files : FileAccess m)
    (lookup : String → FileState → Lookup α) (path : String) : m (Except ConfigError α) := do
  let found := lookup path (← files.look path)
  match found with
  | .found r => return r
  | .toWrite text _ => return found.result path (← files.write path text)

end LogWarden
