import LogWarden.Json.Decode

/-! # Rule sets as they are written down

A table of rules is a JSON list of rule sets. A rule set names an event kind and lists patterns, each
with the groups that a match has to have. -/

namespace LogWarden

/-- A pattern with the groups that it declares. -/
structure RuleSpec where
  regex : String
  groups : List String
  deriving DecidableEq, Repr

/-- The rules of an event kind. -/
structure RuleSetSpec where
  name : String
  rules : List RuleSpec
  deriving DecidableEq, Repr

open Json

namespace RuleSpec

/-- The fields of a rule that have been read. -/
structure Partial where
  regex : Option String
  groups : Option (List String)

def read : Reads RuleSpec :=
  readRecord (σ := Partial)
    [field "regex" Partial.regex (fun s v => { s with regex := v }) readString,
     field "groups" Partial.groups (fun s v => { s with groups := v }) (readList readString)]
    ⟨none, none⟩
    fun s => return ⟨← required s.regex, s.groups.getD []⟩

def toJson (r : RuleSpec) : Json :=
  .obj [("regex", .str r.regex), ("groups", .arr (r.groups.map .str))]

end RuleSpec

namespace RuleSetSpec

/-- The fields of a rule set that have been read. -/
structure Partial where
  name : Option String
  rules : Option (List RuleSpec)

def read : Reads RuleSetSpec :=
  readRecord (σ := Partial)
    [field "name" Partial.name (fun s v => { s with name := v }) readString,
     field "rules" Partial.rules (fun s v => { s with rules := v }) (readList RuleSpec.read)]
    ⟨none, none⟩
    fun s => return ⟨← required s.name, ← required s.rules⟩

def toJson (r : RuleSetSpec) : Json :=
  .obj [("name", .str r.name), ("rules", .arr (r.rules.map RuleSpec.toJson))]

end RuleSetSpec

end LogWarden
