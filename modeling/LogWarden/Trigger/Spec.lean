import LogWarden.Json.Decode

/-! # Triggers as they are written down

A trigger names an event kind, conditions on the event's fields, and an action: the start of a
command with its arguments and a chain of calls, each a list of a name and arguments. -/

namespace LogWarden

/-- What a trigger does. -/
structure TriggerAction where
  action : String
  /-- Arguments by name, sorted. -/
  args : List (String × Json)
  chain : List (List Json)
  deriving Repr

/-- A trigger. -/
structure TriggerSpec where
  on : String
  /-- Conditions by field, sorted. -/
  conditions : List (String × Json)
  action : TriggerAction
  deriving Repr

open Json

namespace TriggerAction

/-- The fields of an action that have been read. -/
structure Partial where
  action : Option String
  args : Option (List (String × Json))
  chain : Option (List (List Json))

/-- Sets the name of the command; it may be written as `action` or as `cmd`. -/
def setName : Partial → Option String → Partial := fun s v => { s with action := v }

/-- Reads an action. -/
def read : Reads TriggerAction := fun levels d =>
  let action := field "action" Partial.action setName readString
  let args := field "args" Partial.args (fun s v => { s with args := v }) (readMap readSorted)
  let chain :=
    field "chain" Partial.chain (fun s v => { s with chain := v }) (readList (readList readSorted))
  let complete := fun s : Partial => do
    return ⟨← required s.action, s.args.getD [], s.chain.getD []⟩
  let fields := match d with
    | .obj .. => [action, { action with name := "cmd" }, args, chain]
    | _ => [action, args, chain]
  readRecord (σ := Partial) fields ⟨none, none, none⟩ complete levels d

def toJson (a : TriggerAction) : Json :=
  .obj [("action", .str a.action), ("args", .obj a.args), ("chain", .arr (a.chain.map .arr))]

end TriggerAction

namespace TriggerSpec

/-- The fields of a trigger that have been read. -/
structure Partial where
  on : Option String
  conditions : Option (List (String × Json))
  action : Option TriggerAction

/-- Reads a trigger. -/
def read : Reads TriggerSpec :=
  readRecord (σ := Partial)
    [field "on" Partial.on (fun s v => { s with on := v }) readString,
     field "when" Partial.conditions (fun s v => { s with conditions := v }) (readMap readSorted),
     field "do" Partial.action (fun s v => { s with action := v }) TriggerAction.read]
    ⟨none, none, none⟩
    fun s => return ⟨← required s.on, s.conditions.getD [], ← required s.action⟩

def toJson (t : TriggerSpec) : Json :=
  .obj [("on", .str t.on), ("when", .obj t.conditions), ("do", t.action.toJson)]

end TriggerSpec

end LogWarden
