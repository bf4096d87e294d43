import LogWarden.Duration
import LogWarden.Turn

/-! # Probes

A probe is an identifier that is sent out and comes back as an echo. Whoever sees the echo resolves
the probe with a value; the one who sent it has a guard, and gets the value or, after a while, gives
up. Without its guard a probe is no longer pending. -/

namespace LogWarden

/-- The probes that are pending, and the values of those that have been resolved. -/
structure Probes (α : Type) where
  pending : List String
  resolved : List (String × α)
  deriving DecidableEq, Repr

namespace Probes

variable {α : Type}

/-- No probes. -/
def empty : Probes α := ⟨[], []⟩

/-- Registers a probe. -/
def register (p : Probes α) (id : String) : Probes α :=
  { p with pending := p.pending ++ [id] }

/-- Resolves a pending probe, and says whether it was pending. -/
def resolve (p : Probes α) (id : String) (value : α) : Bool × Probes α :=
  if p.pending.contains id then
    (true, ⟨p.pending.erase id, (id, value) :: p.resolved⟩)
  else (false, p)

/-- Resolves the first pending probe that a condition accepts. -/
def resolveWhere (p : Probes α) (accepts : String → Bool) (value : α) : Option String × Probes α :=
  match p.pending.find? accepts with
  | some id => (some id, (p.resolve id value).2)
  | none => (none, p)

/-- The value of a probe that has been resolved. -/
def value? (p : Probes α) (id : String) : Option α :=
  (p.resolved.find? (·.1 == id)).map (·.2)

/-- Drops the guard of a probe. -/
def drop (p : Probes α) (id : String) : Probes α :=
  ⟨p.pending.erase id, p.resolved.filter (·.1 != id)⟩

end Probes

/-- The identifier of a probe: eight hexadecimal digits. -/
def probeId (seed number : Nat) : String :=
  let digits := Nat.toDigits 16 ((seed + number * 0x9E3779B1) % 4294967296)
  String.ofList (List.replicate (8 - digits.length) '0' ++ digits)

/-! ## Waiting for an echo -/

/-- A wait for the echo of a probe, with the value to fall back on. -/
structure EchoWait where
  id : String
  /-- The time at which the wait is given up. -/
  deadline : Nanos
  fallback : String
  deriving DecidableEq, Repr

namespace EchoWait

/-- A turn of waiting: the echo comes before the limit. With the wait its guard goes. -/
def next (w : EchoWait) (p : Probes String) (now : Nanos) :
    Probes String × Turn EchoWait String :=
  match p.value? w.id with
  | some v => (p.drop w.id, .ends v)
  | none => if w.deadline ≤ now then (p.drop w.id, .ends w.fallback) else (p, .waits)

end EchoWait

end LogWarden
