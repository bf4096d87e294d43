import LogWarden.Action.Step
import LogWarden.Text
import LogWarden.Unicode.LowerCase

/-! # Managing land

A land command answers an invitation, pays into the land's bank, or edits the land: whom it trusts
and what it claims. -/

namespace LogWarden

/-- What a land command does. -/
inductive LandTask
  | unset
  /-- An invitation, with the answer to it. -/
  | invite (answer : Option String)
  | deposit (value : String)
  deriving DecidableEq, Repr

/-- A land command in the making. -/
structure LandCommand where
  land : String
  task : LandTask
  error : Option CommandError
  deriving DecidableEq, Repr

/-- A land that is being edited. -/
structure LandEditor where
  land : String
  error : Option CommandError
  deriving DecidableEq, Repr

/-- A change of whom a land trusts. The last call counts, whether or not it made sense. -/
structure TrustCommand where
  editor : LandEditor
  line : Option (Except CommandError String)

/-- How a claim is shaped. -/
inductive ClaimShape
  | auto
  | fill
  | radius (chunks : Nat)
  deriving DecidableEq, Repr

/-- A change of what a land claims. -/
structure ClaimCommand where
  editor : LandEditor
  erases : Bool
  shape : ClaimShape
  deriving DecidableEq, Repr

namespace LandCommand

/-- Commands for a land. -/
def start (name : String) : LandCommand :=
  ⟨Text.trim name, .unset, if Text.isBlank name then some .emptyLandName else none⟩

/-- Turns to an invitation. -/
def invite (c : LandCommand) : LandCommand := { c with task := .invite none }

/-- Answers the invitation that was turned to. -/
def answer (c : LandCommand) (verb operation : String) : LandCommand :=
  match c.task with
  | .invite _ => { c with task := .invite (some verb) }
  | _ => { c with error := c.error.or (some (.outOfOrder operation "invite")) }

def accept (c : LandCommand) : LandCommand := c.answer "accept" "accept"

def reject (c : LandCommand) : LandCommand := c.answer "deny" "reject"

/-- Pays a number or `all` into the bank. -/
def deposit (c : LandCommand) (value : String) : LandCommand :=
  { c with task := .deposit (Unicode.lowerText (Text.trim value)) }

/-- Edits the land. -/
def edit (c : LandCommand) : LandEditor := ⟨c.land, c.error⟩

/-- The line of a task. -/
def line (land : String) : LandTask → Except CommandError String
  | .unset => .error (.incomplete "land")
  | .invite none => .error (.incomplete "land invite")
  | .invite (some verb) => .ok ("/land " ++ verb ++ " " ++ land)
  | .deposit value =>
    if value.isEmpty then .error (.invalidArgument "deposit" "deposit value is empty")
    else .ok ("/land deposit " ++ value ++ " " ++ land)

def build (c : LandCommand) : Except CommandError Step :=
  match c.error with
  | some e => .error e
  | none => (line c.land c.task).map fun l => (Action.line l).step

end LandCommand

namespace LandEditor

def trust (e : LandEditor) : TrustCommand := ⟨e, none⟩

def claim (e : LandEditor) : ClaimCommand := ⟨e, false, .auto⟩

/-- The step of an edit: the land is named first. -/
def finish (e : LandEditor) (line : String) : Except CommandError Step :=
  match e.error with
  | some err => .error err
  | none => .ok (Action.type ["/land edit " ++ e.land, line] 0).step

end LandEditor

namespace TrustCommand

/-- Sets the change. -/
def set (c : TrustCommand) (verb player : String) : TrustCommand :=
  { c with line := some (if Text.isBlank player then .error .emptyRecipient
      else .ok ("/land " ++ verb ++ " " ++ Text.trim player)) }

/-- Trusts a player. -/
def add (c : TrustCommand) (player : String) : TrustCommand := c.set "trust" player

/-- No longer trusts a player. -/
def remove (c : TrustCommand) (player : String) : TrustCommand := c.set "untrust" player

def build (c : TrustCommand) : Except CommandError Step :=
  match c.line with
  | none => .error (.incomplete "land trust")
  | some (.error e) => .error e
  | some (.ok line) => c.editor.finish line

end TrustCommand

namespace ClaimCommand

/-- Adds chunks. -/
def draw (c : ClaimCommand) : ClaimCommand := { c with erases := false }

/-- Removes chunks. -/
def erase (c : ClaimCommand) : ClaimCommand := { c with erases := true }

def reshape (c : ClaimCommand) (shape : ClaimShape) : ClaimCommand := { c with shape := shape }

/-- The line of a claim. A removal is confirmed at once. -/
def line (c : ClaimCommand) : String :=
  let shape := match c.shape with
    | .auto => "auto"
    | .fill => "fill"
    | .radius r => "radius " ++ natText r
  "/land " ++ (if c.erases then "unclaim " else "claim ") ++ shape
    ++ if c.erases then " confirm" else ""

def build (c : ClaimCommand) : Except CommandError Step := c.editor.finish c.line

end ClaimCommand

end LogWarden
