import LogWarden.Warden.Run

/-!
# What a warden keeps

What every turn keeps, and what depends neither on the time nor on what there is around a warden nor
on which activities are ready, is kept as long as the warden goes on.
-/

namespace LogWarden.Warden

/-- Something that is kept in every turn and between any two turns. -/
structure Invariant (P : Warden → Prop) : Prop where
  turn : ∀ {w w'}, P w → w.turn = some w' → P w'
  between : ∀ {w}, P w → ∀ now surroundings ready, P { w with now, surroundings, ready }

namespace Invariant

variable {P : Warden → Prop} {w : Warden}

theorem wake (k : Invariant P) (h : P w) : P w.wake := k.between h w.now w.surroundings _

theorem settle (k : Invariant P) (h : P w) (n : Nat) : P (w.settle n) := by
  induction n generalizing w with
  | zero => exact h
  | succ n ih =>
      rw [Warden.settle]
      split
      · rename_i w' hturn
        exact ih (k.turn h hturn)
      · exact h

theorem quiesce (k : Invariant P) (h : P w) : P w.quiesce := k.settle (k.wake h) _

theorem later (k : Invariant P) (h : P w) (now : Nanos) : P { w with now }.quiesce :=
  k.quiesce (k.between h now w.surroundings w.ready)

theorem passUntil (k : Invariant P) (h : P w) (target : Nanos) (n : Nat) :
    P (w.passUntil target n) := by
  induction n generalizing w with
  | zero => exact h
  | succ n ih =>
      rw [Warden.passUntil]
      split
      · split
        · exact ih (k.later h _)
        · exact k.later h target
      · exact k.later h target

theorem advance (k : Invariant P) (h : P w) (d : Nanos) : P (w.advance d) :=
  k.passUntil (k.quiesce h) _ _

theorem passUntilEnded (k : Invariant P) (h : P w) (name : String) (n : Nat) :
    P (w.passUntilEnded name n) := by
  induction n generalizing w with
  | zero => exact h
  | succ n ih =>
      rw [Warden.passUntilEnded]
      split
      · exact h
      · split
        · exact ih (k.later h _)
        · exact h

theorem passUntilOver (k : Invariant P) (h : P w) (around : Warden → Surroundings) (n : Nat) :
    P (w.passUntilOver around n) := by
  induction n generalizing w with
  | zero => exact h
  | succ n ih =>
      have haround := k.between h w.now (around w) w.ready
      rw [Warden.passUntilOver]
      split
      · exact h
      · dsimp only
        split
        · rename_i w' hturn
          exact ih (k.turn haround hturn)
        · split
          · rename_i alarm _
            exact ih (k.wake (k.between haround alarm (around w) w.ready))
          · exact haround

end Invariant

end LogWarden.Warden
