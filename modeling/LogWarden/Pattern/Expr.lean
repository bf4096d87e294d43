import LogWarden.Pattern.CharClass

/-! # Patterns as expressions

A pattern is read into an `Expr`. Flags are resolved while reading: an expression says what matches
whatever stood around it. -/

namespace LogWarden.Pattern

/-- The edges of a word. A half edge looks at one side only. -/
inductive WordEdge
  | edge | noEdge | start | stop | halfStart | halfStop
  deriving DecidableEq, Repr

/-- A condition on the characters before and after a place in a text. -/
inductive Look
  | textStart | textEnd | lineStart | lineEnd
  /-- The start of a line that a line feed, a carriage return or both end. -/
  | anyLineStart
  | anyLineEnd
  | word (kind : WordEdge)
  /-- A word edge where only letters, digits and `_` of the first 128 characters are word
  characters. -/
  | plainWord (kind : WordEdge)
  deriving DecidableEq, Repr

/-- Whether a word edge lies between two places, given whether a word character stands on each
side. -/
def WordEdge.holds (e : WordEdge) (before after : Bool) : Bool :=
  match e with
  | .edge => before != after
  | .noEdge => before == after
  | .start => !before && after
  | .stop => before && !after
  | .halfStart => !before
  | .halfStop => !after

/-- Whether a condition holds between two characters; `none` stands for an end of the text. -/
def Look.holds (l : Look) (before after : Option Char) : Bool :=
  match l with
  | .textStart => before.isNone
  | .textEnd => after.isNone
  | .lineStart => before.all (· == '\n')
  | .lineEnd => after.all (· == '\n')
  | .anyLineStart =>
    before.isNone || before == some '\n' || (before == some '\r' && after != some '\n')
  | .anyLineEnd =>
    after.isNone || after == some '\r' || (after == some '\n' && before != some '\r')
  | .word e => e.holds (before.any Unicode.isWordChar) (after.any Unicode.isWordChar)
  | .plainWord e => e.holds (before.any CharClass.plainWord.mem) (after.any CharClass.plainWord.mem)

/-- A pattern. The first alternative is preferred; a greedy repetition prefers more rounds. -/
inductive Expr
  | empty
  | chars (cls : CharClass)
  | look (l : Look)
  | group (index : Nat) (e : Expr)
  | seq (a b : Expr)
  | alt (a b : Expr)
  | repeated (e : Expr) (least : Nat) (most : Option Nat) (greedy : Bool)
  deriving DecidableEq, Repr

namespace Expr

/-- The indices of the groups, in order of opening. -/
def groups : Expr → List Nat
  | .empty | .chars _ | .look _ => []
  | .group i e => i :: e.groups
  | .seq a b | .alt a b => a.groups ++ b.groups
  | .repeated e _ _ _ => e.groups

/-- A repetition. No round at all is the empty pattern, whose groups are gone with it. -/
def times (e : Expr) (least : Nat) (most : Option Nat) (greedy : Bool) : Expr :=
  if most == some 0 then .empty else .repeated e least most greedy

/-- A sequence of patterns. -/
def seqs : List Expr → Expr
  | [] => .empty
  | [e] => e
  | e :: rest => .seq e (seqs rest)

/-- Alternatives, the preferred one first. -/
def alts : List Expr → Expr
  | [] => .empty
  | [e] => e
  | e :: rest => .alt e (alts rest)

end Expr

end LogWarden.Pattern
