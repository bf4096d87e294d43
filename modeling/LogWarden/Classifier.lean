import LogWarden.Event.Basic
import LogWarden.Event.Registry
import LogWarden.Rules.Table

/-! # Classifying lines

Every line is tried against every rule, so one line may yield several events. A match that yields no
event is discarded with its error; classification itself never fails. -/

namespace LogWarden

/-- A table with the registry that builds payloads from its matches. -/
structure Classifier where
  table : RuleTable
  registry : Registry

/-- What became of a match. -/
inductive Outcome
  | event (e : Event)
  | discarded (kind : String) (e : ClassifyError)
  deriving DecidableEq, Repr

namespace Outcome

def event? : Outcome → Option Event
  | .event e => some e
  | .discarded .. => none

def discarded? : Outcome → Option (String × ClassifyError)
  | .event _ => none
  | .discarded kind e => some (kind, e)

end Outcome

namespace Classifier

/-- The event of a match, or why there is none. -/
def build (c : Classifier) (kind : String) (rule : Rule) (caps : Captures) :
    Except ClassifyError Event :=
  let actual := caps.map (·.1)
  if rule.required ≠ [] ∧ actual ≠ rule.required then
    .error (.fieldMismatch kind rule.required actual)
  else (c.registry.construct kind caps).map fun p => ⟨kind, p⟩

/-- What a rule makes of a line. -/
def apply (c : Classifier) (kind : String) (rule : Rule) (line : String) : Option Outcome :=
  (rule.pattern.captures? line).map fun groups =>
    match c.build kind rule (Json.sortMembers groups) with
    | .ok e => .event e
    | .error e => .discarded kind e

/-- What all rules make of a line, in order. -/
def outcomes (c : Classifier) (line : String) : List Outcome :=
  c.table.sets.flatMap fun set => set.rules.filterMap fun rule => c.apply set.kind rule line

/-- The events of a line, in order of the rules. -/
def classify (c : Classifier) (line : String) : List Event :=
  (c.outcomes line).filterMap Outcome.event?

/-- The matches of a line that yield no event, in order of the rules. -/
def discarded (c : Classifier) (line : String) : List (String × ClassifyError) :=
  (c.outcomes line).filterMap Outcome.discarded?

end Classifier

end LogWarden
