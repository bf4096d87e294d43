import LogWarden.Json.Value

/-! # JSON documents as far as they can be read

A document is read from left to right into a tree, up to its first fault. What a fault is depends on
the reader: a value that nobody asked for may hold half a surrogate pair or a number too large, and a
value of the wrong type is a fault only where a type was asked for. So a tree says for every text and
number what it is when read and whether it can at least be skipped. -/

namespace LogWarden

/-- Why a document cannot be read. -/
inductive JsonFault
  /-- The text ends early. -/
  | ended
  /-- The text is no JSON. -/
  | malformed
  /-- The value is not of the type asked for. -/
  | mismatched
  deriving DecidableEq, Repr

/-- A quoted text: what it is when read, and the fault, if any, that keeps it from being skipped. -/
structure QuotedText where
  value : Except JsonFault String
  fault : Option JsonFault

/-- How a list of items or members ends. -/
inductive Tail
  | closed
  /-- A fault, and whether a comma stands before it. -/
  | cut (fault : JsonFault) (afterComma : Bool)

/-- A document read up to its first fault. -/
inductive Document
  | null
  | bool (b : Bool)
  | num (n : Except JsonFault JsonNumber)
  | str (s : QuotedText)
  | arr (items : List Document) (tail : Tail)
  /-- Members and how they end. A member whose value is missing has a fault as its value. -/
  | obj (members : List (QuotedText × Document)) (tail : Tail)
  /-- A fault in place of a value, and whether a value starts there. -/
  | fault (f : JsonFault) (started : Bool)

end LogWarden
