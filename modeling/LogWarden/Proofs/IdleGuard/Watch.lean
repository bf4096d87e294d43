import LogWarden.Proofs.Queue.Steps
import LogWarden.Service.IdleGuard

/-!
# The guard against idling at work

Events reach the guard at any time, each in a reaction of its own. A reaction to an idle event is a
loop from the turn in which it sets the flag until it ends or is dropped; meanwhile anybody may use
the queue on which it makes its rounds.

## Implementation notes

A reaction looks at the flag and submits the first step of a round in one turn, since it is not
suspended between them. The queue may be in any state when the guard is set on it.
-/

namespace LogWarden

/-- What a run of the guard shows. -/
inductive GuardEvent
  /-- A reaction to an idle event took its first turn, while the queue was open or not. -/
  | idled (isOpen : Bool)
  /-- An event told that the player is back. -/
  | resumed
  /-- A reaction to an idle event panicked in its first turn, after it had set the flag. -/
  | panicked
  /-- A loop came to its end. -/
  | ended
  /-- A loop was dropped or panicked. -/
  | dropped
  deriving DecidableEq, Repr

/-- What an event that reaches the guard shows. -/
def GuardEvent.ofEvent (e : Event) : Option GuardEvent :=
  match e.payload with
  | .playerResume => some .resumed
  | _ => none

/-- Whether a reaction has set the flag and makes rounds. -/
def Evasion.isLoop : Evasion → Bool
  | .fresh => false
  | .between | .round _ => true

/-- What a turn of a reaction shows. -/
def Evasion.shows (isOpen : Bool) :
    Evasion → Turn Evasion Verdict → Option GuardEvent
  | .fresh, .ends .panicked => some .panicked
  | .fresh, _ => some (.idled isOpen)
  | _, .ends .panicked => some .dropped
  | _, .ends _ => some .ended
  | _, _ => none

/-- A guard with its queue and its reactions, at a time. -/
structure Watch where
  now : Nanos
  queue : Queue
  guard : IdleGuard
  reactions : List Evasion

namespace Watch

/-- A guard that has not seen any event, on a queue. -/
def start (q : Queue) (g : IdleGuard) : Watch :=
  ⟨0, q, { g with idle := false, evasions := 0 }, []⟩

/-- How many loops there are among reactions. -/
def loopsAmong (cs : List Evasion) : Nat := cs.countP Evasion.isLoop

def loops (w : Watch) : Nat := loopsAmong w.reactions

/-- What a turn of the reaction at a position makes of the reactions. -/
def put (cs : List Evasion) (i : Nat) :
    Turn Evasion Verdict → List Evasion
  | .goes c => cs.set i c
  | .waits => cs
  | .ends _ => cs.eraseIdx i

/-- What becomes of a guard in a turn of the reaction at a position. -/
def turn (w : Watch) (i : Nat) (c : Evasion) : Watch :=
  let (guard, queue, turn, _) := c.next w.guard w.queue w.now
  { w with guard, queue, reactions := put w.reactions i turn }

/-- One step of a guard, its reactions and its queue, and what it shows. -/
inductive Step (a : Actuator) (w : Watch) : Option GuardEvent → Watch → Prop
  | queue {e queue} (h : Queue.Step a w.queue e queue) : Step a w none { w with queue }
  | react (e : Event) :
      Step a w (GuardEvent.ofEvent e)
        { w with
          guard := (w.guard.react e).1, reactions := w.reactions ++ (w.guard.react e).2.toList }
  | turn {i c} (h : w.reactions[i]? = some c) :
      Step a w (c.shows (!w.queue.isClosed) (c.next w.guard w.queue w.now).2.2.1) (w.turn i c)
  | drop {i c} (h : w.reactions[i]? = some c) :
      Step a w (if c.isLoop then some .dropped else none)
        { w with reactions := w.reactions.eraseIdx i }
  | pass (d : Nanos) : Step a w none { w with now := w.now + d }

/-- Steps from a guard that has not seen any event, and what they show. -/
inductive Run (a : Actuator) (q : Queue) (g : IdleGuard) : List GuardEvent → Watch → Prop
  | start : Run a q g [] (.start q g)
  | tail {tr e w w'} (run : Run a q g tr w) (step : Step a w e w') : Run a q g (tr ++ e.toList) w'

end Watch

namespace Evasion

/-- What a turn of a reaction does to the guard, and what comes of the turn. -/
inductive Change (g : IdleGuard) (isOpen : Bool) :
    Evasion → IdleGuard → Turn Evasion Verdict → Prop
  | ignored (h : g.idle = true) : Change g isOpen .fresh g (.ends .ok)
  | begins (r : ChainRun) (h : g.idle = false) (ho : isOpen = true) :
      Change g isOpen .fresh { g with idle := true, evasions := g.evasions + 1 } (.goes (.round r))
  | refused (h : g.idle = false) (ho : isOpen = false) :
      Change g isOpen .fresh { g with idle := false, evasions := g.evasions + 1 }
        (.ends (.failed (.action .queueClosed)))
  | panics (h : g.idle = false) :
      Change g isOpen .fresh { g with idle := true, evasions := g.evasions + 1 } (.ends .panicked)
  | goes {c c'} (h : c.isLoop = true) (h' : c'.isLoop = true) : Change g isOpen c g (.goes c')
  | waits {c} (h : c.isLoop = true) : Change g isOpen c g .waits
  | ends {c} (h : c.isLoop = true) (hi : g.idle = false) : Change g isOpen c g (.ends .ok)
  | closed {c} (h : c.isLoop = true) :
      Change g isOpen c { g with idle := false } (.ends (.failed (.action .queueClosed)))
  | breaks {c} (h : c.isLoop = true) : Change g isOpen c g (.ends .panicked)

variable {g : IdleGuard} {q : Queue} {now : Nanos}

theorem nextRound_of_not_idle (h : g.idle = false) :
    nextRound g q now = (g, q, .ends .ok, []) := by
  simp [nextRound, h]

/-- A round begins unless it cannot be made or the queue is closed. -/
theorem nextRound_of_idle (h : g.idle = true) :
    nextRound g q now = (g, q, .ends .panicked, []) ∨
      (q.isClosed = true ∧ nextRound g q now =
        ({ g with idle := false }, q, .ends (.failed (.action .queueClosed)), [])) ∨
      q.isClosed = false ∧ ∃ r q', nextRound g q now = (g, q', .goes (.round r), []) := by
  rw [nextRound, if_pos h, IdleGuard.round?]
  cases Nanos.add? g.hold g.stepLimit with
  | none => exact .inl rfl
  | some limit =>
      cases hc : q.isClosed with
      | true =>
          refine .inr (.inl ⟨rfl, ?_⟩)
          simp [ChainRun.next, ChainRun.start, Chain.ofSteps, Step.submit, Queue.submit, hc]
      | false =>
          refine .inr (.inr ⟨rfl, ?_⟩)
          simp [ChainRun.next, ChainRun.start, Chain.ofSteps, Step.submit, Queue.submit, hc]

theorem next_change (c : Evasion) (g : IdleGuard) (q : Queue) (now : Nanos) :
    Change g (!q.isClosed) c (c.next g q now).1 (c.next g q now).2.2.1 := by
  cases c with
  | fresh =>
      cases hi : g.idle with
      | true => simpa [next, hi] using Change.ignored hi
      | false =>
          have hset := @nextRound_of_idle { g with idle := true, evasions := g.evasions + 1 } q now
          rcases hset rfl with hn | ⟨hc, hn⟩ | ⟨hc, r, q', hn⟩
          · simpa [next, hi, hn] using Change.panics hi
          · simpa [next, hi, hn, hc] using Change.refused hi rfl
          · simpa [next, hi, hn, hc] using Change.begins r hi rfl
  | between =>
      cases hi : g.idle with
      | true =>
          rcases @nextRound_of_idle _ q now hi with hn | ⟨hc, hn⟩ | ⟨hc, r, q', hn⟩
          · simpa [next, hn] using Change.breaks rfl
          · simpa [next, hn] using Change.closed rfl
          · simpa [next, hn] using Change.goes rfl rfl
      | false => simpa [next, nextRound_of_not_idle hi] using Change.ends rfl hi
  | round r =>
      rw [next]
      split
      · exact .goes rfl rfl
      · exact .waits rfl
      · exact .goes rfl rfl
      · exact .closed rfl
      · exact .goes rfl rfl

end Evasion

end LogWarden
