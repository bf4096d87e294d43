import Mathlib.Data.List.Perm.Basic
import LogWarden.Proofs.Queue.Account
import LogWarden.Proofs.Queue.Moments

/-!
# A queue does not depend on who waits for it

Besides the calls, the turns and the time that passes there are the receivers of what the worker
sends. The receiver of a ticket is dropped at once, or it is in a wait, with a limit or without one,
that begins at any time and may be given up at any time; when its wait is over, it is gone. Two runs
with the same calls at the same instants show the same of the queue, however its tickets are awaited,
and though what the worker sends in one of them reaches nobody in the other.
-/

namespace LogWarden

/-- The ticket whose result is sent in a move of a queue. -/
def QueueMove.sends? : QueueMove → Option ℕ
  | .worked (some (.told r _)) | .worked (some (.gaveUp r)) => some r.ticket
  | _ => none

/-- What is seen of a queue and of those who wait for its tickets. -/
inductive AttendedEvent
  | moved (e : QueueMove)
  /-- What the worker sent reached nobody. -/
  | unheard (e : QueueMove)
  /-- A wait ended with the result of its ticket. -/
  | answered (ticket : ℕ) (r : Except ActionError Unit)
  /-- A wait ended before there was a result. -/
  | expired (ticket : ℕ) (r : Except ActionError Unit)
  deriving DecidableEq, Repr

def AttendedEvent.move? : AttendedEvent → Option QueueMove
  | .moved e | .unheard e => some e
  | .answered .. | .expired .. => none

/-- What is seen of the queue alone. -/
def movesOf (tr : List (Instant × AttendedEvent)) : List (Instant × QueueMove) :=
  tr.filterMap fun x => x.2.move?.map (x.1, ·)

/-- A queue at an instant, with the waits for its tickets. -/
structure Attended extends QueueMoment where
  waits : List TicketWait
  /-- The tickets whose receivers are gone. -/
  gone : List ℕ

namespace Attended

/-- A fresh queue. -/
def start : Attended := ⟨.start, [], []⟩

/-- What is seen of a move. To send to a receiver that is gone fails, and the worker ignores it. -/
def shows (s : Attended) (e : QueueMove) : AttendedEvent :=
  if e.sends?.any s.gone.contains then .unheard e else .moved e

/-- The tickets that are awaited, and those whose receivers are gone. -/
def spent (s : Attended) : List ℕ := s.waits.map (·.ticket) ++ s.gone

/-- Whether somebody holds a ticket and does not await it yet. -/
def Holds (s : Attended) (ticket : ℕ) : Prop := ticket < s.queue.accepted ∧ ticket ∉ s.spent

instance (s : Attended) (ticket : ℕ) : Decidable (s.Holds ticket) :=
  inferInstanceAs (Decidable (_ ∧ _))

/-- The wait at a position is over, and its receiver is gone. -/
def leave (s : Attended) (i : ℕ) (w : TicketWait) : Attended :=
  { s with waits := s.waits.eraseIdx i, gone := w.ticket :: s.gone }

@[simp] theorem leave_toQueueMoment (s : Attended) (i : ℕ) (w : TicketWait) :
    (s.leave i w).toQueueMoment = s.toQueueMoment :=
  rfl

/-- One step of a queue in time or of a wait for one of its tickets. -/
inductive Step (a : Actuator) (s : Attended) : Option AttendedEvent → Attended → Prop
  | move {e m} (h : QueueMoment.Step a s.toQueueMoment e m) :
      Step a s (e.map s.shows) { s with toQueueMoment := m }
  | drop {ticket : ℕ} (h : s.Holds ticket) : Step a s none { s with gone := ticket :: s.gone }
  | await {ticket : ℕ} (h : s.Holds ticket) (limit : Option Nanos) :
      Step a s none
        { s with waits := s.waits ++ [⟨ticket, limit.map fun d => (s.now + d, d)⟩] }
  | answer {i w r} (h : s.waits[i]? = some w) (hres : (s.queue.result? w.ticket).isSome)
      (hends : w.next s.queue s.now = .ends r) :
      Step a s (some (.answered w.ticket r)) (s.leave i w)
  | expire {i w r} (h : s.waits[i]? = some w) (hres : s.queue.result? w.ticket = none)
      (hends : w.next s.queue s.now = .ends r) :
      Step a s (some (.expired w.ticket r)) (s.leave i w)
  | abandon {i w} (h : s.waits[i]? = some w) : Step a s none (s.leave i w)

/-- Steps one after another, and what is seen. -/
inductive Steps (a : Actuator) (s : Attended) : List (Instant × AttendedEvent) → Attended → Prop
  | refl : Steps a s [] s
  | tail {tr e s₁ s₂} (steps : Steps a s tr s₁) (step : Step a s₁ e s₂) :
      Steps a s (tr ++ e.toList.map (s₁.instant, ·)) s₂

/-- A run from a fresh queue. -/
abbrev Run (a : Actuator) (tr : List (Instant × AttendedEvent)) (s : Attended) : Prop :=
  Steps a .start tr s

/-- Where a run has been, and what had been seen by then. -/
def Passes (a : Actuator) (tr : List (Instant × AttendedEvent)) (s : Attended)
    (tr₁ : List (Instant × AttendedEvent)) (s₁ : Attended) : Prop :=
  Run a tr₁ s₁ ∧ ∃ tr₂, Steps a s₁ tr₂ s ∧ tr = tr₁ ++ tr₂

end Attended

/-- What two runs of a queue with the same calls at the same instants have in common. -/
structure Undisturbed (a : Actuator) (tr₁ : List (Instant × AttendedEvent)) (s₁ : Attended)
    (tr₂ : List (Instant × AttendedEvent)) (s₂ : Attended) : Prop where
  /-- The turns of the run that is behind are the first turns of the other one, at the same instants,
  and there are no other ones before it ends. -/
  turns : s₁.instant ≤ s₂.instant →
    ∃ later, turnsOf (movesOf tr₂) = turnsOf (movesOf tr₁) ++ later ∧
      ∀ x ∈ later, s₁.instant ≤ x.1
  /-- What reaches nobody in the run that is behind is sent at the same instant in the other one, and
  may reach somebody there. -/
  unheard : s₁.instant ≤ s₂.instant → ∀ i e, (i, .unheard e) ∈ tr₁ →
    (i, .moved e) ∈ tr₂ ∨ (i, .unheard e) ∈ tr₂
  /-- At an instant that both pass, behind as many calls, there is one and the same queue. -/
  queue : ∀ {tr₁' m₁ tr₂' m₂}, Attended.Passes a tr₁ s₁ tr₁' m₁ →
    Attended.Passes a tr₂ s₂ tr₂' m₂ → m₁.instant = m₂.instant →
    (callsOf (movesOf tr₁')).length = (callsOf (movesOf tr₂')).length → m₁.queue = m₂.queue
  /-- What a ticket resolved with in the run that is behind, any wait for it gets in the other. -/
  awaited : s₁.instant ≤ s₂.instant → ∀ (w : TicketWait) r,
    s₁.queue.result? w.ticket = some r → w.next s₂.queue s₂.now = .ends r
  /-- Waits that do not end before there is a result end with the same one. -/
  answers : ∀ ticket r₁ r₂ i₁ i₂, (i₁, .answered ticket r₁) ∈ tr₁ →
    (i₂, .answered ticket r₂) ∈ tr₂ → r₁ = r₂

theorem movesOf_append (tr tr' : List (Instant × AttendedEvent)) :
    movesOf (tr ++ tr') = movesOf tr ++ movesOf tr' :=
  List.filterMap_append

theorem movesOf_event (i : Instant) (e : Option AttendedEvent) :
    movesOf (e.toList.map (i, ·)) = (e.bind AttendedEvent.move?).toList.map (i, ·) := by
  rcases e with _ | _ | _ | _ | _ <;> rfl

theorem mem_movesOf {tr : List (Instant × AttendedEvent)} {i : Instant} {e : QueueMove} :
    (i, e) ∈ movesOf tr ↔ (i, .moved e) ∈ tr ∨ (i, .unheard e) ∈ tr := by
  rw [movesOf, List.mem_filterMap]
  constructor
  · rintro ⟨⟨i', x⟩, hmem, hmove⟩
    obtain ⟨e', he, hpair⟩ := Option.map_eq_some_iff.mp hmove
    obtain ⟨rfl, rfl⟩ := Prod.mk.inj hpair
    cases x with
    | moved => exact .inl (Option.some.inj he ▸ hmem)
    | unheard => exact .inr (Option.some.inj he ▸ hmem)
    | answered | expired => cases he
  · rintro (hmem | hmem) <;> exact ⟨_, hmem, rfl⟩

namespace Attended

variable {a : Actuator} {s s' s₁ s₂ : Attended} {e : Option AttendedEvent}
variable {tr tr₁ tr₂ : List (Instant × AttendedEvent)} {ticket : ℕ} {r : Except ActionError Unit}

@[simp] theorem move?_shows (s : Attended) (e : QueueMove) : (s.shows e).move? = some e := by
  rw [shows]
  split <;> rfl

/-- What is seen of the queue alone are steps of the queue in time. -/
theorem Steps.moves (steps : Steps a s tr s') :
    QueueMoment.Steps a s.toQueueMoment (movesOf tr) s'.toQueueMoment := by
  induction steps with
  | refl => exact .refl
  | tail _ step ih =>
      rw [movesOf_append, movesOf_event]
      cases step with
      | @move e m h =>
          have he (s : Attended) : (e.map s.shows).bind AttendedEvent.move? = e := by
            cases e <;> simp
          rw [he]
          exact ih.tail h
      | drop | await | answer | expire | abandon => simpa [AttendedEvent.move?] using ih

theorem Run.exists_queue_run (run : Run a tr s) : ∃ es, Queue.Run a es s.queue :=
  (Steps.moves run).queue_steps

theorem Step.result?_of_answered (step : Step a s e s') (he : e = some (.answered ticket r)) :
    s.queue.result? ticket = some r := by
  cases step with
  | answer hw hres hends =>
      obtain ⟨rfl, rfl⟩ := AttendedEvent.answered.inj (Option.some.inj he)
      rcases TicketWait.next_eq_ends hends with hsome | ⟨hnone, -⟩
      · exact hsome
      · simp [hnone] at hres
  | @move e =>
      obtain ⟨e, -, hshown⟩ := Option.map_eq_some_iff.mp he
      have hmove := congrArg AttendedEvent.move? hshown
      rw [move?_shows] at hmove
      cases hmove
  | drop | await | expire | abandon => cases he

theorem spent_leave {i : ℕ} {w : TicketWait} (h : s.waits[i]? = some w) :
    (s.leave i w).spent.Perm s.spent := by
  obtain ⟨hi, rfl⟩ := List.getElem?_eq_some_iff.mp h
  have hwaits := (List.getElem_cons_eraseIdx_perm hi).map (·.ticket)
  exact List.perm_middle.trans (hwaits.append_right s.gone)

theorem Step.spent_perm (step : Step a s e s') :
    s'.spent.Perm s.spent ∨ ∃ ticket, s.Holds ticket ∧ s'.spent.Perm (ticket :: s.spent) := by
  cases step with
  | move => exact .inl (.refl _)
  | drop h => exact .inr ⟨_, h, List.perm_middle⟩
  | @await ticket h limit =>
      refine .inr ⟨ticket, h, ?_⟩
      simp [spent]
  | answer h | expire h | abandon h => exact .inl (spent_leave h)

/-- A ticket is awaited once at most, and as long as it is awaited its receiver is there. -/
theorem Run.spent_nodup (run : Run a tr s) : s.spent.Nodup := by
  induction run with
  | refl => exact List.nodup_nil
  | tail _ step ih =>
      rcases step.spent_perm with hsame | ⟨ticket, h, hmore⟩
      · exact hsame.nodup_iff.mpr ih
      · exact hmore.nodup_iff.mpr (List.nodup_cons.mpr ⟨h.2, ih⟩)

/-- The result that a wait ended with is still there when a run ends. -/
theorem Run.result?_of_answered (run : Run a tr s) {i : Instant}
    (h : (i, .answered ticket r) ∈ tr) : s.queue.result? ticket = some r := by
  induction run with
  | refl => simp at h
  | tail run step ih =>
      obtain ⟨es, before⟩ := Run.exists_queue_run run
      obtain ⟨es', rest⟩ := (Steps.refl.tail step).moves.queue_steps
      apply before.result?_eq_some rest
      rcases List.mem_append.mp h with hbefore | hlast
      · exact ih hbefore
      · obtain ⟨e, he, hpair⟩ := List.mem_map.mp hlast
        obtain ⟨-, rfl⟩ := Prod.mk.inj hpair
        exact step.result?_of_answered (Option.mem_toList.mp he)

/-- Of two runs with the same calls at the same instants, the one that is behind shows of the queue
what the other one begins with. -/
theorem Run.meet (run₁ : Run a tr₁ s₁) (run₂ : Run a tr₂ s₂)
    (hcalls : callsOf (movesOf tr₁) = callsOf (movesOf tr₂)) (hle : s₁.instant ≤ s₂.instant) :
    ∃ later, movesOf tr₂ = movesOf tr₁ ++ later ∧
      QueueMoment.Steps a s₁.toQueueMoment later s₂.toQueueMoment ∧ callsOf later = [] :=
  (Steps.moves run₁).meet (Steps.moves run₂) .refl hcalls hle

theorem Run.queue_eq (run₁ : Run a tr₁ s₁) (run₂ : Run a tr₂ s₂)
    (hcalls : callsOf (movesOf tr₁) = callsOf (movesOf tr₂)) (heq : s₁.instant = s₂.instant) :
    s₁.queue = s₂.queue := by
  obtain ⟨later, -, steps, hnone⟩ := run₁.meet run₂ hcalls heq.le
  obtain ⟨-, hsame⟩ := steps.eq_of_instant_le hnone heq.ge
  exact (congrArg QueueMoment.queue hsame).symm

theorem Run.result?_eq_some (run₁ : Run a tr₁ s₁) (run₂ : Run a tr₂ s₂)
    (hcalls : callsOf (movesOf tr₁) = callsOf (movesOf tr₂)) (hle : s₁.instant ≤ s₂.instant)
    (h : s₁.queue.result? ticket = some r) : s₂.queue.result? ticket = some r := by
  obtain ⟨later, -, steps, -⟩ := run₁.meet run₂ hcalls hle
  obtain ⟨es, first⟩ := run₁.exists_queue_run
  obtain ⟨es', rest⟩ := steps.queue_steps
  exact Queue.Run.result?_eq_some first rest h

theorem Passes.calls_prefix (h : Passes a tr s tr₁ s₁) :
    callsOf (movesOf tr₁) <+: callsOf (movesOf tr) := by
  obtain ⟨-, tr₂, -, rfl⟩ := h
  rw [movesOf_append, callsOf_append]
  exact List.prefix_append _ _

end Attended

/-- In two runs with the same calls at the same instants, the actions begin and end at the same
instants, the queue is the same at each instant, and tickets resolve with the same results, no matter
who waits for which ticket, with which limit and for how long, and which receivers are gone when the
worker sends to them. -/
theorem waits_disturb_nothing {a : Actuator} {tr₁ tr₂ : List (Instant × AttendedEvent)}
    {s₁ s₂ : Attended} (run₁ : Attended.Run a tr₁ s₁) (run₂ : Attended.Run a tr₂ s₂)
    (hcalls : callsOf (movesOf tr₁) = callsOf (movesOf tr₂)) : Undisturbed a tr₁ s₁ tr₂ s₂ where
  turns := by
    intro hle
    obtain ⟨later, hmoves, steps, -⟩ := run₁.meet run₂ hcalls hle
    refine ⟨turnsOf later, by rw [hmoves, turnsOf_append], ?_⟩
    intro x hx
    obtain ⟨y, hy, hwork⟩ := List.mem_filterMap.mp hx
    obtain ⟨w, -, rfl⟩ := Option.map_eq_some_iff.mp hwork
    exact steps.le_of_mem hy
  unheard := by
    intro hle i e hmem
    obtain ⟨later, hmoves, -⟩ := run₁.meet run₂ hcalls hle
    have hsent : (i, e) ∈ movesOf tr₂ := by
      rw [hmoves]
      exact List.mem_append_left _ (mem_movesOf.mpr (.inr hmem))
    exact mem_movesOf.mp hsent
  queue := by
    intro tr₁' m₁ tr₂' m₂ h₁ h₂ heq hlength
    have hprefix : callsOf (movesOf tr₁') <+: callsOf (movesOf tr₂) := hcalls ▸ h₁.calls_prefix
    have hsame := List.prefix_of_prefix_length_le hprefix h₂.calls_prefix hlength.le
    exact h₁.1.queue_eq h₂.1 (hsame.eq_of_length hlength) heq
  awaited := by
    intro hle w r hres
    rw [TicketWait.next, run₁.result?_eq_some run₂ hcalls hle hres]
  answers := by
    intro ticket r₁ r₂ i₁ i₂ h₁ h₂
    have hres₁ := run₁.result?_of_answered h₁
    have hres₂ := run₂.result?_of_answered h₂
    rcases le_total s₁.instant s₂.instant with hle | hle
    · have hres := run₁.result?_eq_some run₂ hcalls hle hres₁
      exact Option.some.inj (hres.symm.trans hres₂)
    · have hres := run₂.result?_eq_some run₁ hcalls.symm hle hres₂
      exact Option.some.inj (hres₁.symm.trans hres)

/-- Whether a wait gives up during the action, so that the worker tells nobody how it ended, or stays
until its end, the action goes on alike. -/
theorem waits_disturb_nothing_of_timeout :
    ∃ tr₁ s₁ tr₂ s₂, Attended.Run (.rehearsal false) tr₁ s₁ ∧
      Attended.Run (.rehearsal false) tr₂ s₂ ∧
      callsOf (movesOf tr₁) = callsOf (movesOf tr₂) ∧
      (toLex (1, 0), .expired 0 (.error (.timeout 0))) ∈ tr₁ ∧
      (toLex (2, 2), .unheard (.worked (some (.told ⟨0, .hold 2⟩ .done)))) ∈ tr₁ ∧
      (toLex (2, 3), .answered 0 (.ok ())) ∈ tr₂ ∧
      s₁.queue.executed = 1 ∧ Undisturbed (.rehearsal false) tr₁ s₁ tr₂ s₂ := by
  have idle : ∀ m : QueueMoment, m.queue.workerNext (.rehearsal false) m.now = none →
      (∃ act, m.queue.acts = [act] ∧ m.now < act.pausedUntil) → m.IsIdle (.rehearsal false) := by
    intro m hworker ⟨act, hact, hpause⟩
    refine ⟨hworker, fun i => ?_⟩
    cases i with
    | zero => simp [Queue.actNext, hact, hpause]
    | succ i => simp [Queue.actNext, hact]
  have submitted := (@Attended.Steps.refl (.rehearsal false) .start).tail
    (.move (.call (.submit (.hold 2)) (by decide)))
  have begun₁ := ((submitted.tail (@Attended.Step.await _ _ 0 (by decide) (some 1))).tail
    (.move (.worker rfl))).tail (.move (@QueueMoment.Step.act _ _ 0 _ _ rfl))
  have begun₂ := ((submitted.tail (@Attended.Step.await _ _ 0 (by decide) none)).tail
    (.move (.worker rfl))).tail (.move (@QueueMoment.Step.act _ _ 0 _ _ rfl))
  have expired := (begun₁.tail (.move (.tick (idle _ rfl ⟨_, rfl, by decide⟩)))).tail
    (@Attended.Step.expire _ _ 0 _ _ rfl rfl rfl)
  have paused := begun₂.tail (.move (.tick (idle _ rfl ⟨_, rfl, by decide⟩)))
  have ended₁ := ((expired.tail (.move (.tick (idle _ rfl ⟨_, rfl, by decide⟩)))).tail
    (.move (@QueueMoment.Step.act _ _ 0 _ _ rfl))).tail (.move (.worker rfl))
  have ended₂ := ((paused.tail (.move (.tick (idle _ rfl ⟨_, rfl, by decide⟩)))).tail
    (.move (@QueueMoment.Step.act _ _ 0 _ _ rfl))).tail (.move (.worker rfl))
  have told := ended₁.tail (.move (.worker rfl))
  have answered := (ended₂.tail (.move (.worker rfl))).tail
    (@Attended.Step.answer _ _ 0 _ _ rfl rfl rfl)
  refine ⟨_, _, _, _, told, answered, rfl, ?_, ?_, ?_, rfl,
    waits_disturb_nothing told answered rfl⟩
  · decide
  · decide
  · decide

end LogWarden
