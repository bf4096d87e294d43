import LogWarden.Pattern.Expr

/-! # Search plans

A plan is a pattern whose counted repetitions are written out and whose choices are numbered. A
choice is a place where a search may go one of two ways: an alternative, or the end of a round of a
loop. Each copy of a repeated pattern has choices of its own. -/

namespace LogWarden.Pattern

/-- A pattern with numbered choices. A `loop` has one round or more. -/
inductive Plan
  | empty
  | chars (cls : CharClass)
  | look (l : Look)
  | group (index : Nat) (p : Plan)
  | seq (p q : Plan)
  | alt (choice : Nat) (p q : Plan)
  | loop (choice : Nat) (greedy : Bool) (p : Plan)
  deriving DecidableEq, Repr

namespace Plan

/-- The choices of a plan, in order of writing. -/
def choices : Plan → List Nat
  | .empty | .chars _ | .look _ => []
  | .group _ p => p.choices
  | .seq p q => p.choices ++ q.choices
  | .alt i p q => i :: (p.choices ++ q.choices)
  | .loop i _ p => i :: p.choices

/-- `p` or nothing; the preferred way stands first. -/
def optional (choice : Nat) (greedy : Bool) (p : Plan) : Plan :=
  if greedy then .alt choice p .empty else .alt choice .empty p

/-- `n` copies in a row, made one after another. -/
def copies (make : Nat → Plan × Nat) : Nat → Nat → Plan × Nat
  | 0, next => (.empty, next)
  | n + 1, next =>
    let (p, next) := make next
    let (rest, next) := copies make n next
    (.seq p rest, next)

/-- At most `n` copies in a row: each copy stands inside the choice to take the one before. -/
def upTo (make : Nat → Plan × Nat) (greedy : Bool) : Nat → Nat → Plan × Nat
  | 0, next => (.empty, next)
  | n + 1, next =>
    let (p, after) := make (next + 1)
    let (rest, last) := upTo make greedy n after
    (optional next greedy (.seq p rest), last)

/-- A repetition of the copies that `make` makes. -/
def rounds (make : Nat → Plan × Nat) (least : Nat) (most : Option Nat) (greedy : Bool)
    (next : Nat) : Plan × Nat :=
  match most, least with
  | some most, _ =>
    let (p, next) := copies make least next
    let (q, next) := upTo make greedy (most - least) next
    (.seq p q, next)
  | none, 0 =>
    let (p, last) := make (next + 2)
    (optional next greedy (.loop (next + 1) greedy p), last)
  | none, n + 1 =>
    let (p, next) := copies make n next
    let (q, last) := make (next + 1)
    (.seq p (.loop next greedy q), last)

end Plan

/-- The plan of a pattern, its choices numbered from `next`, and the first number left over. -/
def Expr.plan : Expr → Nat → Plan × Nat
  | .empty, next => (.empty, next)
  | .chars cls, next => (.chars cls, next)
  | .look l, next => (.look l, next)
  | .group i e, next =>
    let (p, next) := e.plan next
    (.group i p, next)
  | .seq a b, next =>
    let (p, next) := a.plan next
    let (q, next) := b.plan next
    (.seq p q, next)
  | .alt a b, next =>
    let (p, after) := a.plan (next + 1)
    let (q, last) := b.plan after
    (.alt next p q, last)
  | .repeated e least most greedy, next => Plan.rounds e.plan least most greedy next

end LogWarden.Pattern
