import LogWarden.Pattern.Plan
import Std.Data.HashSet.Basic

/-! # Searching a text

A search looks for the leftmost match, and among the matches that start there for the preferred one.
It tries the ways through a plan in order of preference. A way never comes to one choice twice
without reading a character in between, so a loop whose rounds may be empty ends. A choice that has
failed at a place fails there again, whatever was captured on the way to it; a search remembers
these and so stays linear in the length of the text. -/

namespace LogWarden.Pattern

/-- A place in a text, and what the way to it captured. -/
structure Cursor where
  /-- The number of characters before the place. -/
  pos : Nat
  before : Option Char
  rest : List Char
  /-- The groups passed, the last one first: index, start and end. -/
  spans : List (Nat × Nat × Nat)
  /-- The choices met since the last character was read. -/
  trail : List Nat

namespace Cursor

/-- The start of a text. -/
def start (text : List Char) : Cursor :=
  ⟨0, none, text, [], []⟩

/-- The place behind the next character. -/
def read (c : Cursor) (x : Char) (rest : List Char) : Cursor :=
  ⟨c.pos + 1, some x, rest, c.spans, []⟩

/-- Notes that group `index` ran from `first` to here. -/
def record (c : Cursor) (index first : Nat) : Cursor :=
  { c with spans := (index, first, c.pos) :: c.spans }

/-- Notes that a choice was met. -/
def meet (c : Cursor) (choice : Nat) : Cursor :=
  { c with trail := choice :: c.trail }

end Cursor

/-- The choices that have failed, each with its place. -/
abbrev Failed := Std.HashSet (Nat × Nat)

/-- What the rest of a search makes of a place. -/
abbrev Continue := Cursor → Failed → Option Cursor × Failed

namespace Plan

/-- Meets a choice: two ways on from a place, tried in order, unless the choice was met on the way
here or has failed here before. -/
def decideAt (choice : Nat) (first second : Continue) : Continue := fun c failed =>
  if c.trail.contains choice || failed.contains (choice, c.pos) then (none, failed)
  else
    let d := c.meet choice
    match first d failed with
    | (some r, failed) => (some r, failed)
    | (none, failed) =>
      match second d failed with
      | (some r, failed) => (some r, failed)
      | (none, failed) => (none, failed.insert (choice, c.pos))

/-- The end of a round of a loop: one more round or the way on. The number of further rounds is
bounded; every round but the first reads a character, so the text's length bounds it. -/
def afterRound (round : Continue → Continue) (choice : Nat) (greedy : Bool) (k : Continue) :
    Nat → Continue
  | 0 => fun _ failed => (none, failed)
  | n + 1 =>
    let more := round (afterRound round choice greedy k n)
    if greedy then decideAt choice more k else decideAt choice k more

/-- Tries the ways through a plan, and goes on with `k` behind each. `size` is the length of the
text. -/
def explore (size : Nat) : Plan → Continue → Continue
  | .empty, k => k
  | .chars cls, k => fun c failed =>
    match c.rest with
    | [] => (none, failed)
    | x :: rest => if cls.mem x then k (c.read x rest) failed else (none, failed)
  | .look l, k => fun c failed =>
    if l.holds c.before c.rest.head? then k c failed else (none, failed)
  | .group i p, k => fun c failed =>
    p.explore size (fun d failed => k (d.record i c.pos) failed) c failed
  | .seq p q, k => p.explore size (q.explore size k)
  | .alt i p q, k => decideAt i (p.explore size k) (q.explore size k)
  | .loop i greedy p, k =>
    p.explore size (afterRound (p.explore size) i greedy k (size + 2))

/-- The first match that starts at one of the places of a text, from the left: its start and the
place behind it. -/
def searchFrom (p : Plan) (size : Nat) : List Char → Option Char → Nat → Failed →
    Option (Nat × Cursor)
  | rest, before, pos, failed =>
    match p.explore size (fun c failed => (some c, failed)) ⟨pos, before, rest, [], []⟩ failed with
    | (some c, _) => some (pos, c)
    | (none, failed) =>
      match rest with
      | [] => none
      | x :: rest => searchFrom p size rest (some x) (pos + 1) failed

/-- The leftmost match in a text: its start and the place behind it. -/
def search (p : Plan) (text : List Char) : Option (Nat × Cursor) :=
  p.searchFrom text.length text none 0 ∅

end Plan

end LogWarden.Pattern
