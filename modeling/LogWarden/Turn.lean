/-! # Turns

What goes on over time is made of turns. In a turn something goes on, or cannot go on before
something else has happened, or ends. -/

namespace LogWarden

/-- What came of a turn: `σ` is where it goes on from, `α` what it ended with. -/
inductive Turn (σ α : Type)
  | goes (s : σ)
  | waits
  | ends (a : α)
  deriving DecidableEq, Repr

namespace Turn

/-- Whether nothing could be done. -/
def isWaiting {σ α : Type} : Turn σ α → Bool
  | .waits => true
  | _ => false

/-- A turn of a part as a turn of the whole. -/
def map {σ τ α β : Type} (f : σ → τ) (g : α → β) : Turn σ α → Turn τ β
  | .goes s => .goes (f s)
  | .waits => .waits
  | .ends a => .ends (g a)

end Turn

end LogWarden
