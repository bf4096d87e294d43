import LogWarden.Pattern.Reader
import LogWarden.Pattern.Search

/-! # Compiled patterns

A pattern text is compiled once and then searched for in many lines. -/

namespace LogWarden

/-- The messages about texts that are no patterns. Nothing depends on what they say. -/
class PatternWording where
  fault (text : String) : String

/-- The message begins with this, and goes on with the text and a mark below the fault. -/
instance : PatternWording := ⟨fun _ => "regex parse error:"⟩

/-- A compiled pattern. -/
structure Pattern where
  /-- The text it was compiled from. -/
  text : String
  plan : Pattern.Plan
  /-- The named groups with their indices, in order of opening. -/
  names : List (String × Nat)
  deriving DecidableEq, Repr

namespace Pattern

/-- Compiles a pattern text; `none` if the text is no pattern. -/
def compile? (ignoreCase : Bool) (text : String) : Option Pattern :=
  (read? ignoreCase text.toList).map fun (e, names) => ⟨text, (e.plan 0).1, names⟩

/-- Whether a pattern matches somewhere in a text. -/
def isMatch (p : Pattern) (text : String) : Bool :=
  (p.plan.search text.toList).isSome

/-- The part of a text that a group of a match ran over, if the match passed it. -/
def spanText (text : List Char) (c : Cursor) (index : Nat) : Option String :=
  (c.spans.find? (·.1 == index)).map fun (_, first, last) =>
    String.ofList ((text.drop first).take (last - first))

/-- The named groups of the first match in a text, each with what it ran over. -/
def captures? (p : Pattern) (text : String) : Option (List (String × Option String)) :=
  (p.plan.search text.toList).map fun (_, c) =>
    p.names.map fun (name, index) => (name, spanText text.toList c index)

end Pattern

end LogWarden
