import Mathlib.Data.Prod.Lex
import LogWarden.Proofs.Queue.Usage

/-!
# A queue as time passes

Those who hold a queue make calls, its worker and its actions take their turns, and time passes where
neither of them can go on. The calls are free; everything else is determined by them.

## Implementation notes

Several turns may be taken at one time, so an instant is a time with the number of turns that have
been taken at it. It tells whether a call came before or behind a turn at the same time. Time passes
by a nanosecond, so that nobody is passed over who could go on in between.
-/

namespace LogWarden

/-- What those who hold a queue can do to it. -/
inductive QueueCall
  | submit (action : Action)
  | close
  /-- A call to shut the queue down, up to where it waits for the worker. -/
  | shutDown
  | hold
  | release
  deriving DecidableEq, Repr

/-- A queue behind a call. An action that a closed queue refuses leaves no trace. -/
def QueueCall.apply (c : QueueCall) (q : Queue) : Queue :=
  match c with
  | .submit action => ((q.submit action).map (·.2)).getD q
  | .close => q.close
  | .shutDown => (Shutdown.fresh.next q).1
  | .hold => q.hold
  | .release => q.release

/-- A time, and how many turns have been taken at it. -/
abbrev Instant := Nanos ×ₗ ℕ

/-- What is seen of a queue as time passes. -/
inductive QueueMove
  | called (c : QueueCall)
  /-- The worker or an action took a turn. -/
  | worked (w : Option QueueWork)
  deriving DecidableEq, Repr

namespace QueueMove

def call? : QueueMove → Option QueueCall
  | .called c => some c
  | .worked _ => none

def work? : QueueMove → Option (Option QueueWork)
  | .called _ => none
  | .worked w => some w

end QueueMove

/-- The calls that were made, each with its instant. -/
def callsOf (tr : List (Instant × QueueMove)) : List (Instant × QueueCall) :=
  tr.filterMap fun x => x.2.call?.map (x.1, ·)

/-- The turns that the worker and the actions took, each with its instant. -/
def turnsOf (tr : List (Instant × QueueMove)) : List (Instant × Option QueueWork) :=
  tr.filterMap fun x => x.2.work?.map (x.1, ·)

/-- A queue at an instant. -/
structure QueueMoment where
  now : Nanos
  /-- How many turns have been taken at this time. -/
  turns : ℕ
  queue : Queue

namespace QueueMoment

/-- A fresh queue. -/
def start : QueueMoment := ⟨0, 0, .start⟩

def instant (m : QueueMoment) : Instant := toLex (m.now, m.turns)

/-- Whether neither the worker nor an action can go on. -/
def IsIdle (a : Actuator) (m : QueueMoment) : Prop :=
  m.queue.workerNext a m.now = none ∧ ∀ i, m.queue.actNext m.now i = none

/-- One step of a queue in time. -/
inductive Step (a : Actuator) (m : QueueMoment) : Option QueueMove → QueueMoment → Prop
  | call (c : QueueCall) (h : 0 < m.queue.holders) :
      Step a m (some (.called c)) { m with queue := c.apply m.queue }
  | worker {queue w} (h : m.queue.workerNext a m.now = some (queue, w)) :
      Step a m (some (.worked w)) { m with turns := m.turns + 1, queue }
  | act {i queue w} (h : m.queue.actNext m.now i = some (queue, w)) :
      Step a m (some (.worked w)) { m with turns := m.turns + 1, queue }
  | tick (h : m.IsIdle a) : Step a m none { m with now := m.now + 1, turns := 0 }

/-- Steps one after another, and what is seen of the queue. -/
inductive Steps (a : Actuator) : QueueMoment → List (Instant × QueueMove) → QueueMoment → Prop
  | refl {m} : Steps a m [] m
  | head {m e m₁ tr m₂} (step : Step a m e m₁) (steps : Steps a m₁ tr m₂) :
      Steps a m (e.toList.map (m.instant, ·) ++ tr) m₂

end QueueMoment

namespace Queue

variable {a : Actuator} {b : Books} {q q' q₁ q₂ : Queue} {now : Nanos} {i j : ℕ}
variable {w w₁ w₂ : Option QueueWork}

/-- While an action is in progress, the worker waits for it. -/
theorem Ledger.workerNext_eq_none (l : Ledger a b q) (h : q.actNext now i = some (q', w)) :
    i = 0 ∧ q.workerNext a now = none := by
  obtain ⟨done, begun, ended, collected, s⟩ := l.stages
  cases s.hand with
  | acting act hw ha hr hact he =>
      have hi : i = 0 := by
        by_contra hne
        simp [actNext, ha, hne] at h
      refine ⟨hi, ?_⟩
      simp [workerNext, hw, ending?, he]
  | nothing _ ha | acted _ _ ha | replying _ _ ha => simp [actNext, ha] at h

/-- What a call does to a queue is a few steps of the queue. -/
theorem exists_steps_apply (c : QueueCall) (h : 0 < q.holders) :
    ∃ es, Queue.Steps a q es (c.apply q) := by
  cases c with
  | submit action =>
      cases hs : q.submit action with
      | none =>
          refine ⟨[], ?_⟩
          simpa [QueueCall.apply, hs] using Queue.Steps.refl
      | some x =>
          refine ⟨q.news x.2, ?_⟩
          simpa [QueueCall.apply, hs] using Queue.steps_submit a hs
  | close => exact ⟨_, Queue.steps_close a q⟩
  | shutDown => exact ⟨_, (User.shutdown .fresh).next_steps a q 0⟩
  | hold => exact ⟨_, .single (.hold h)⟩
  | release => exact ⟨_, .single (.release h)⟩

end Queue

@[simp] theorem callsOf_append (tr tr' : List (Instant × QueueMove)) :
    callsOf (tr ++ tr') = callsOf tr ++ callsOf tr' :=
  List.filterMap_append

@[simp] theorem turnsOf_append (tr tr' : List (Instant × QueueMove)) :
    turnsOf (tr ++ tr') = turnsOf tr ++ turnsOf tr' :=
  List.filterMap_append

theorem callsOf_move (i : Instant) (e : Option QueueMove) :
    callsOf (e.toList.map (i, ·)) = (e.bind QueueMove.call?).toList.map (i, ·) := by
  rcases e with _ | _ | _ <;> rfl

namespace QueueMoment

variable {a : Actuator} {m m' m₁ m₂ : QueueMoment} {e e₁ e₂ : Option QueueMove}
variable {tr tr₁ tr₂ : List (Instant × QueueMove)} {es : List QueueEvent}

theorem Step.queue_steps (step : Step a m e m') : ∃ es, Queue.Steps a m.queue es m'.queue := by
  cases step with
  | call c h => exact Queue.exists_steps_apply c h
  | worker h => exact ⟨_, .single (.worker h)⟩
  | act h => exact ⟨_, .single (.act h)⟩
  | tick => exact ⟨_, .refl⟩

theorem Steps.queue_steps (steps : Steps a m tr m') :
    ∃ es, Queue.Steps a m.queue es m'.queue := by
  induction steps with
  | refl => exact ⟨_, .refl⟩
  | head step _ ih =>
      obtain ⟨es, first⟩ := step.queue_steps
      obtain ⟨es', second⟩ := ih
      exact ⟨_, first.trans second⟩

theorem Steps.tail (steps : Steps a m tr m₁) (step : Step a m₁ e m₂) :
    Steps a m (tr ++ e.toList.map (m₁.instant, ·)) m₂ := by
  induction steps with
  | refl => simpa using Steps.head step .refl
  | head first _ ih => simpa only [List.append_assoc] using Steps.head first (ih step)

theorem Step.instant_le (step : Step a m e m') : m.instant ≤ m'.instant := by
  rw [instant, instant, Prod.Lex.toLex_le_toLex]
  cases step with
  | call => exact .inr ⟨rfl, Nat.le_refl _⟩
  | worker | act => exact .inr ⟨rfl, Nat.le_succ _⟩
  | tick => exact .inl (Nat.lt_succ_self _)

/-- An instant is over with every step but a call. -/
theorem Step.instant_lt (step : Step a m e m') (h : e.bind QueueMove.call? = none) :
    m.instant < m'.instant := by
  rw [instant, instant, Prod.Lex.toLex_lt_toLex]
  cases step with
  | call => cases h
  | worker | act => exact .inr ⟨rfl, Nat.lt_succ_self _⟩
  | tick => exact .inl (Nat.lt_succ_self _)

theorem Steps.instant_le (steps : Steps a m tr m') : m.instant ≤ m'.instant := by
  induction steps with
  | refl => exact le_refl _
  | head step _ ih => exact step.instant_le.trans ih

/-- Nothing is seen before the instant at which steps begin. -/
theorem Steps.le_of_mem (steps : Steps a m tr m') {x : Instant × QueueMove} (hx : x ∈ tr) :
    m.instant ≤ x.1 := by
  induction steps with
  | refl => simp at hx
  | head step _ ih =>
      rcases List.mem_append.mp hx with hfirst | hrest
      · obtain ⟨y, -, rfl⟩ := List.mem_map.mp hfirst
        exact le_refl _
      · exact step.instant_le.trans (ih hrest)

theorem Steps.instant_le_of_mem_callsOf (steps : Steps a m tr m') {i : Instant} {c : QueueCall}
    (hmem : (i, c) ∈ callsOf tr) : m.instant ≤ i := by
  obtain ⟨⟨i', e⟩, he, hc⟩ := List.mem_filterMap.mp hmem
  obtain ⟨c', -, hpair⟩ := Option.map_eq_some_iff.mp hc
  obtain ⟨rfl, -⟩ := Prod.mk.inj hpair
  exact steps.le_of_mem he

/-- Steps that begin and end at one instant are calls. -/
theorem Steps.eq_of_instant_le (steps : Steps a m tr m') (hcalls : callsOf tr = [])
    (hle : m'.instant ≤ m.instant) : tr = [] ∧ m' = m := by
  cases steps with
  | refl => exact ⟨rfl, rfl⟩
  | @head _ e m₁ tr _ step steps =>
      have hnone : e.bind QueueMove.call? = none := by
        rw [callsOf_append, List.append_eq_nil_iff] at hcalls
        cases e with
        | none => rfl
        | some e => cases e <;> simp_all [callsOf, QueueMove.call?]
      have hlt := (step.instant_lt hnone).trans_le (steps.instant_le.trans hle)
      exact absurd hlt (lt_irrefl _)

/-- From one moment there is one step for each call, and one step besides. -/
theorem Step.unique (step₁ : Step a m e₁ m₁) (step₂ : Step a m e₂ m₂)
    (run : Queue.Run a es m.queue)
    (h : e₁.bind QueueMove.call? = e₂.bind QueueMove.call?) : e₁ = e₂ ∧ m₁ = m₂ := by
  have l := run.ledger
  cases step₁ with
  | call c₁ =>
      cases step₂ with
      | call c₂ =>
          obtain rfl : c₁ = c₂ := Option.some.inj h
          exact ⟨rfl, rfl⟩
      | worker | act | tick => cases h
  | worker h₁ =>
      cases step₂ with
      | call => cases h
      | worker h₂ =>
          obtain ⟨rfl, rfl⟩ := Prod.mk.inj (Option.some.inj (h₁.symm.trans h₂))
          exact ⟨rfl, rfl⟩
      | act h₂ => cases h₁.symm.trans (l.workerNext_eq_none h₂).2
      | tick hidle => cases h₁.symm.trans hidle.1
  | act h₁ =>
      obtain ⟨rfl, hnone⟩ := l.workerNext_eq_none h₁
      cases step₂ with
      | call => cases h
      | worker h₂ => cases hnone.symm.trans h₂
      | act h₂ =>
          obtain ⟨rfl, -⟩ := l.workerNext_eq_none h₂
          obtain ⟨rfl, rfl⟩ := Prod.mk.inj (Option.some.inj (h₁.symm.trans h₂))
          exact ⟨rfl, rfl⟩
      | tick hidle => cases h₁.symm.trans (hidle.2 0)
  | tick hidle =>
      cases step₂ with
      | call => cases h
      | worker h₂ => cases hidle.1.symm.trans h₂
      | act h₂ => cases (hidle.2 _).symm.trans h₂
      | tick => exact ⟨rfl, rfl⟩

/-- No call at an instant follows a step that ends it. -/
theorem Step.not_mem_callsOf (step : Step a m e m') (steps : Steps a m' tr m₂)
    (h : e.bind QueueMove.call? = none) (c : QueueCall) : (m.instant, c) ∉ callsOf tr := by
  intro hmem
  have hle := steps.instant_le_of_mem_callsOf hmem
  exact absurd (step.instant_lt h) (not_lt_of_ge hle)

/-- Two ways to go on with the same calls at the same instants begin with the same call, if either
begins with one. -/
theorem Step.call?_eq {m₁' m₂' : QueueMoment} (step₁ : Step a m e₁ m₁) (steps₁ : Steps a m₁ tr₁ m₁')
    (step₂ : Step a m e₂ m₂) (steps₂ : Steps a m₂ tr₂ m₂')
    (h : callsOf (e₁.toList.map (m.instant, ·) ++ tr₁) =
      callsOf (e₂.toList.map (m.instant, ·) ++ tr₂)) :
    e₁.bind QueueMove.call? = e₂.bind QueueMove.call? := by
  rw [callsOf_append, callsOf_append, callsOf_move, callsOf_move] at h
  cases h₁ : e₁.bind QueueMove.call? with
  | none =>
      cases h₂ : e₂.bind QueueMove.call? with
      | none => rfl
      | some c =>
          have hmem : (m.instant, c) ∈ callsOf tr₁ := by
            rw [h₁, h₂, Option.toList_none, List.map_nil, List.nil_append] at h
            simp [h]
          exact absurd hmem (step₁.not_mem_callsOf steps₁ h₁ c)
  | some c =>
      cases h₂ : e₂.bind QueueMove.call? with
      | none =>
          have hmem : (m.instant, c) ∈ callsOf tr₂ := by
            rw [h₁, h₂, Option.toList_none, List.map_nil, List.nil_append] at h
            simp [← h]
          exact absurd hmem (step₂.not_mem_callsOf steps₂ h₂ c)
      | some c' =>
          simp only [h₁, h₂, Option.toList_some, List.map_cons, List.cons_append, List.cons.injEq,
            Prod.mk.injEq, true_and] at h
          rw [h.1]

/-- Of two ways to go on with the same calls at the same instants, the one that is behind is the
beginning of the other. -/
theorem Steps.meet (steps₁ : Steps a m tr₁ m₁) (steps₂ : Steps a m tr₂ m₂)
    (run : Queue.Run a es m.queue) (hcalls : callsOf tr₁ = callsOf tr₂)
    (hle : m₁.instant ≤ m₂.instant) :
    ∃ later, tr₂ = tr₁ ++ later ∧ Steps a m₁ later m₂ ∧ callsOf later = [] := by
  induction steps₁ generalizing tr₂ es with
  | refl => exact ⟨tr₂, rfl, steps₂, hcalls.symm⟩
  | @head m e₁ m₁' tr₁ m₁ step₁ steps₁ ih =>
      cases steps₂ with
      | refl =>
          obtain ⟨hnil, rfl⟩ := (Steps.head step₁ steps₁).eq_of_instant_le hcalls hle
          exact ⟨[], by simp [hnil], .refl, rfl⟩
      | @head _ e₂ m₂' tr₂ _ step₂ steps₂ =>
          have hcall := step₁.call?_eq steps₁ step₂ steps₂ hcalls
          obtain ⟨rfl, rfl⟩ := step₁.unique step₂ run hcall
          obtain ⟨es', first⟩ := step₁.queue_steps
          rw [callsOf_append, callsOf_append, List.append_cancel_left_eq] at hcalls
          obtain ⟨later, rfl, rest, hnone⟩ := ih steps₂ (run.trans first) hcalls hle
          exact ⟨later, by rw [List.append_assoc], rest, hnone⟩

end QueueMoment

end LogWarden
