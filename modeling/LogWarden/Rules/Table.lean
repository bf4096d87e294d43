import LogWarden.Error
import LogWarden.Pattern.Basic
import LogWarden.Rules.Builtin
import LogWarden.Text

/-! # Tables of rules

A table is compiled once, patterns matching up to case, and then only read. -/

namespace LogWarden

/-- A compiled rule. No required field means that the groups of a match are not checked. -/
structure Rule where
  pattern : Pattern
  /-- The groups that a match has to have, sorted, each once. -/
  required : List String
  deriving DecidableEq, Repr

/-- The rules of an event kind. -/
structure RuleSet where
  kind : String
  rules : List Rule
  deriving DecidableEq, Repr

/-- Rule sets in order. -/
structure RuleTable where
  sets : List RuleSet
  deriving DecidableEq, Repr

/-- The names of a list, sorted, each once. -/
def sortNames (names : List String) : List String :=
  (Json.sortMembers (names.map fun n => (n, ()))).map (·.1)

/-- Compiles a rule of a kind. -/
def Rule.compile [PatternWording] (kind : String) (spec : RuleSpec) : Except ConfigError Rule :=
  match Pattern.compile? true spec.regex with
  | some p => .ok ⟨p, sortNames spec.groups⟩
  | none => .error (.invalidPattern kind (PatternWording.fault spec.regex))

/-- Compiles a rule set. -/
def RuleSet.compile [PatternWording] (spec : RuleSetSpec) : Except ConfigError RuleSet :=
  let name := Text.trim spec.name
  if name.isEmpty then .error (.invalidPattern spec.name "event kind name cannot be empty")
  else do
    let rules ← spec.rules.mapM (Rule.compile name)
    return ⟨name, rules⟩

/-- Compiles a table; the first fault counts. -/
def RuleTable.compile [PatternWording] (specs : List RuleSetSpec) :
    Except ConfigError RuleTable := do
  let sets ← specs.mapM RuleSet.compile
  return ⟨sets⟩

end LogWarden
