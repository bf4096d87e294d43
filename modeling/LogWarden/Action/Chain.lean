import LogWarden.Action.Step

/-! # Chains of steps

A chain runs its steps one after another. It may have a limit for the whole run; two chains in a row
have the tighter limit of both. -/

namespace LogWarden

/-- Steps in order, with an optional limit for all of them. -/
structure Chain where
  steps : List Step
  limit : Option Nanos
  deriving DecidableEq, Repr

namespace Chain

/-- The chain without steps. -/
def empty : Chain := ⟨[], none⟩

/-- The chain of one step. -/
def ofStep (s : Step) : Chain := ⟨[s], none⟩

/-- The chain of a list of steps. -/
def ofSteps (ss : List Step) : Chain := ⟨ss, none⟩

/-- The tighter of two limits. -/
def tighter : Option Nanos → Option Nanos → Option Nanos
  | some a, some b => some (min a b)
  | some a, none => some a
  | none, b => b

/-- One chain after another. -/
def append (a b : Chain) : Chain := ⟨a.steps ++ b.steps, tighter a.limit b.limit⟩

instance : Append Chain := ⟨append⟩

/-! A step counts as a chain of one step wherever chains are put one after another. -/

instance : HAppend Chain Step Chain := ⟨fun c s => c.append (ofStep s)⟩

instance : HAppend Step Chain Chain := ⟨fun s c => (ofStep s).append c⟩

instance : HAppend Step Step Chain := ⟨fun s t => (ofStep s).append (ofStep t)⟩

/-- A chain with a limit in place of the one it had. -/
def limited (c : Chain) (d : Nanos) : Chain := { c with limit := some d }

end Chain

end LogWarden
