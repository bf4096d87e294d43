import LogWarden.Proofs.Lists
import LogWarden.Proofs.Queue.Usage

/-!
# The course of a chain

A chain is run on a queue that others use as they like. The run takes its turns when it likes, time
passes, and the run may be cancelled at any time. What is seen of the run tells where it stands.

## Implementation notes

Time passes in two ways: promptly, while the run waits and up to its next limit at most, or with a
lag, by any amount. What a turn shows of a step is read off the step alone; what the run ends with is
what its turn says.
-/

namespace LogWarden

/-- What came of a step of a chain. -/
inductive StepNews
  | submitted (s : Step) (ticket : ℕ)
  /-- The step returned to the run, since its wait ended or the queue refused it. -/
  | returned (r : Except ActionError Unit)
  deriving DecidableEq, Repr

/-- What is seen of a chain that is run. -/
inductive ChainEvent
  /-- What others, the worker and the actions did to the queue. -/
  | others (es : List QueueEvent)
  /-- The run took a turn: what came of its step and what the run returned. -/
  | turned (news : Option StepNews) (result : Option (Except ActionError Unit))
  | cancelled
  | passed (d : Nanos)
  /-- Time passed although the run could go on. -/
  | lagged (d : Nanos)
  deriving DecidableEq, Repr

namespace ChainEvent

def submission? : ChainEvent → Option (Step × ℕ)
  | .turned (some (.submitted s ticket)) _ => some (s, ticket)
  | _ => none

def stepResult? : ChainEvent → Option (Except ActionError Unit)
  | .turned (some (.returned r)) _ => some r
  | _ => none

/-- Whether the run is over with this. -/
def isEnd : ChainEvent → Bool
  | .turned _ (some _) | .cancelled => true
  | _ => false

/-- Whether the run took a turn in which it did not just wait. -/
def isMove : ChainEvent → Bool
  | .turned none none => false
  | .turned _ _ => true
  | _ => false

/-- What became of the queue. -/
def history : ChainEvent → List QueueEvent
  | .others es => es
  | .turned (some (.submitted s ticket)) _ => [.accepted ⟨ticket, s.action⟩]
  | _ => []

end ChainEvent

section Projections
variable (tr : List (Nanos × ChainEvent))

/-- The steps that a run submitted, with their tickets. -/
def submissionsOf : List (Step × ℕ) := tr.filterMap (·.2.submission?)

/-- What the steps of a run returned. -/
def stepResultsOf : List (Except ActionError Unit) := tr.filterMap (·.2.stepResult?)

/-- Whether a run has returned or was cancelled. -/
def isOver : Bool := tr.any (·.2.isEnd)

/-- The history of the queue. -/
def historyOf : List QueueEvent := tr.flatMap (·.2.history)

end Projections

/-- What a turn ended with. -/
def Turn.result? {σ α : Type} : Turn σ α → Option α
  | .ends a => some a
  | .goes _ | .waits => none

/-- Where something goes on from behind a turn that began at `s`. -/
def Turn.rest? {σ α : Type} (t : Turn σ α) (s : σ) : Option σ :=
  match t with
  | .goes s => some s
  | .waits => some s
  | .ends _ => none

/-- What a turn of a run shows of its step. -/
def ChainRun.news? (r : ChainRun) (q : Queue) (now : Nanos) : Option StepNews :=
  match r.waiting, r.rest with
  | some w, _ => (w.next q now).result?.map .returned
  | none, s :: _ =>
    match s.submit q now with
    | some (w, _) => some (.submitted s w.ticket)
    | none => some (.returned (.error .queueClosed))
  | none, [] => none

/-- A chain that is run on a queue that others use. -/
structure ChainCourse where
  usage : Usage
  /-- The run, unless it is over. -/
  run : Option ChainRun

namespace ChainCourse

/-- A chain that begins to be run. -/
def start (c : Chain) (u : Usage) : ChainCourse := ⟨u, some (.start c u.now)⟩

/-- A turn of the run. -/
def turn (s : ChainCourse) (r : ChainRun) : ChainCourse :=
  let (queue, turn) := r.next s.usage.queue s.usage.now
  ⟨{ s.usage with queue }, turn.rest? r⟩

/-- Whether the run has to wait until a duration has passed. -/
def IsServed (s : ChainCourse) (d : Nanos) : Prop :=
  ∀ r, s.run = some r →
    (r.next s.usage.queue s.usage.now).2 = .waits ∧ ∀ t ∈ r.alarms, s.usage.now + d ≤ t

/-- Some time later. -/
def later (s : ChainCourse) (d : Nanos) : ChainCourse :=
  { s with usage := { s.usage with now := s.usage.now + d } }

/-- One step of the course of a chain. -/
inductive Step (a : Actuator) (s : ChainCourse) : ChainEvent → ChainCourse → Prop
  | others {es usage} (h : Usage.Step a s.usage es usage) (hnow : usage.now = s.usage.now) :
      Step a s (.others es) { s with usage }
  | turn {r} (h : s.run = some r) :
      Step a s (.turned (r.news? s.usage.queue s.usage.now)
        (r.next s.usage.queue s.usage.now).2.result?) (s.turn r)
  | cancel {r} (h : s.run = some r) : Step a s .cancelled { s with run := none }
  | pass {d} (h : s.IsServed d) : Step a s (.passed d) (s.later d)
  | lag (d : Nanos) : Step a s (.lagged d) (s.later d)

/-- The course of a chain that begins to be run where others use a queue, and what is seen of it,
with the time. -/
inductive Run (a : Actuator) (c : Chain) (u : Usage) :
    List (Nanos × ChainEvent) → ChainCourse → Prop
  | start : Run a c u [] (.start c u)
  | tail {tr s e s'} (run : Run a c u tr s) (step : Step a s e s') :
      Run a c u (tr ++ [(s.usage.now, e)]) s'

end ChainCourse

/-- What a turn of a run does: what it shows of its step, what it returns, and what becomes of the
queue and of the run. -/
inductive ChainRun.Goes (r : ChainRun) (q : Queue) (now : Nanos) :
    Option StepNews → Option (Except ActionError Unit) → Queue → Option ChainRun → Prop
  | finish (hw : r.waiting = none) (hr : r.rest = []) : Goes r q now none (some (.ok ())) q none
  | refuse {s rest} (hw : r.waiting = none) (hr : r.rest = s :: rest) (h : q.isClosed = true) :
      Goes r q now (some (.returned (.error .queueClosed))) (some (.error .queueClosed)) q none
  | submit {s rest queue} (hw : r.waiting = none) (hr : r.rest = s :: rest)
      (h : q.submit s.action = some (q.accepted, queue)) :
      Goes r q now (some (.submitted s q.accepted)) none queue
        (some ⟨rest, some ⟨q.accepted, some (now + s.limit, s.limit)⟩, r.limit⟩)
  | succeed {w} (hw : r.waiting = some w) (h : w.next q now = .ends (.ok ())) :
      Goes r q now (some (.returned (.ok ()))) none q (some { r with waiting := none })
  | fail {w e} (hw : r.waiting = some w) (h : w.next q now = .ends (.error e)) :
      Goes r q now (some (.returned (.error e))) (some (.error e)) q none
  | expire {w deadline d} (hw : r.waiting = some w) (h : w.next q now = .waits)
      (hlimit : r.limit = some (deadline, d)) (hle : deadline ≤ now) :
      Goes r q now none (some (.error (.chainTimeout d.reportedMillis))) q none
  | wait {w} (hw : r.waiting = some w) (h : w.next q now = .waits)
      (hlimit : ∀ deadline d, r.limit = some (deadline, d) → now < deadline) :
      Goes r q now none none q (some r)

theorem ChainRun.goes (r : ChainRun) (q : Queue) (now : Nanos) :
    r.Goes q now (r.news? q now) (r.next q now).2.result? (r.next q now).1
      ((r.next q now).2.rest? r) := by
  cases hw : r.waiting with
  | none =>
      cases hr : r.rest with
      | nil =>
          simp only [next, news?, hw, hr]
          exact .finish hw hr
      | cons s rest =>
          cases hs : q.submit s.action with
          | none =>
              simp only [next, news?, hw, hr, Step.submit, hs, Option.map_none]
              exact .refuse hw hr (Queue.submit_eq_none_iff.mp hs)
          | some x =>
              obtain ⟨ticket, queue⟩ := x
              obtain ⟨-, rfl, -⟩ := Queue.submit_eq_some_iff.mp hs
              simp only [next, news?, hw, hr, Step.submit, hs, Option.map_some]
              exact .submit hw hr hs
  | some w =>
      cases hn : w.next q now with
      | ends res =>
          cases res with
          | ok =>
              simp only [next, news?, hw, hn]
              exact .succeed hw hn
          | error e =>
              simp only [next, news?, hw, hn]
              exact .fail hw hn
      | goes w' => exact absurd hn TicketWait.next_ne_goes
      | waits =>
          cases hl : r.limit with
          | none =>
              simp only [next, news?, hw, hn, hl]
              exact .wait hw hn (by simp [hl])
          | some x =>
              obtain ⟨deadline, d⟩ := x
              by_cases hle : deadline ≤ now
              · simp only [next, news?, hw, hn, hl, hle, if_true]
                exact .expire hw hn hl hle
              · simp only [next, news?, hw, hn, hl, hle, if_false]
                exact .wait hw hn (by simpa [hl] using hle)

/-- A run has to wait for its last step, as long as its limit has not passed. -/
theorem ChainRun.next_eq_waits {r : ChainRun} {q : Queue} {now : Nanos}
    (h : (r.next q now).2 = .waits) :
    ∃ w, r.waiting = some w ∧ w.next q now = .waits ∧
      ∀ deadline d, r.limit = some (deadline, d) → now < deadline := by
  revert h
  fun_cases ChainRun.next r q now with
  | case8 w hw hn deadline d hl hle =>
      intro _
      refine ⟨w, hw, hn, ?_⟩
      intro deadline' d' hl'
      obtain ⟨rfl, rfl⟩ := Prod.mk.inj (Option.some.inj (hl.symm.trans hl'))
      exact Nat.lt_of_not_ge hle
  | case9 w hw hn hl =>
      intro _
      exact ⟨w, hw, hn, by simp [hl]⟩
  | case1 | case2 | case3 | case4 | case5 | case6 | case7 =>
      intro h
      cases h

section Projections
variable (tr : List (Nanos × ChainEvent)) (x : Nanos × ChainEvent)

@[simp] theorem submissionsOf_append_singleton :
    submissionsOf (tr ++ [x]) = submissionsOf tr ++ x.2.submission?.toList := by
  cases h : x.2.submission? <;> simp [submissionsOf, h]

@[simp] theorem stepResultsOf_append_singleton :
    stepResultsOf (tr ++ [x]) = stepResultsOf tr ++ x.2.stepResult?.toList := by
  cases h : x.2.stepResult? <;> simp [stepResultsOf, h]

@[simp] theorem isOver_append_singleton : isOver (tr ++ [x]) = (isOver tr || x.2.isEnd) := by
  simp [isOver]

@[simp] theorem historyOf_append_singleton :
    historyOf (tr ++ [x]) = historyOf tr ++ x.2.history := by
  simp [historyOf]

end Projections

namespace ChainCourse

/-- What becomes of the course of a chain in one step. -/
inductive Change (a : Actuator) (s : ChainCourse) : ChainEvent → ChainCourse → Prop
  | others {es usage} (h : Usage.Step a s.usage es usage) (hnow : usage.now = s.usage.now) :
      Change a s (.others es) { s with usage }
  | turn {r news res queue run} (h : s.run = some r)
      (goes : r.Goes s.usage.queue s.usage.now news res queue run) :
      Change a s (.turned news res) ⟨{ s.usage with queue }, run⟩
  | cancel {r} (h : s.run = some r) : Change a s .cancelled { s with run := none }
  | pass {d} (h : s.IsServed d) : Change a s (.passed d) (s.later d)
  | lag (d : Nanos) : Change a s (.lagged d) (s.later d)

/-- Where a run stands, by what has been seen of it: which of the steps of its chain it has submitted,
and what these returned. -/
inductive Stands (c : Chain) (since : Nanos) (tr : List (Nanos × ChainEvent)) :
    Option ChainRun → Prop
  /-- The run is about to submit a step or to return. -/
  | between {rest} (steps : (submissionsOf tr).map (·.1) ++ rest = c.steps)
      (results : stepResultsOf tr = List.replicate (submissionsOf tr).length (.ok ()))
      (going : isOver tr = false) :
      Stands c since tr (some ⟨rest, none, c.limit.map fun d => (since + d, d)⟩)
  /-- The run waits for the step that was submitted last. -/
  | waiting {rest before s ticket t} (steps : (submissionsOf tr).map (·.1) ++ rest = c.steps)
      (last : submissionsOf tr = before ++ [(s, ticket)])
      (results : stepResultsOf tr = List.replicate before.length (.ok ()))
      (going : isOver tr = false)
      (submitted : (t, .turned (some (.submitted s ticket)) none) ∈ tr) :
      Stands c since tr
        (some ⟨rest, some ⟨ticket, some (t + s.limit, s.limit)⟩,
          c.limit.map fun d => (since + d, d)⟩)
  | ended (steps : (submissionsOf tr).map (·.1) <+: c.steps)
      (results : (stepResultsOf tr).length ≤ c.steps.length) (h : isOver tr = true) :
      Stands c since tr none

variable {a : Actuator} {c : Chain} {u : Usage} {s s' : ChainCourse} {e : ChainEvent}
variable {tr tr₁ tr₂ : List (Nanos × ChainEvent)} {since t : Nanos}

theorem Step.change (step : Step a s e s') : Change a s e s' := by
  cases step with
  | others h hnow => exact .others h hnow
  | turn h => exact .turn h (ChainRun.goes ..)
  | cancel h => exact .cancel h
  | pass h => exact .pass h
  | lag d => exact .lag d

namespace Stands

variable {run : Option ChainRun}

theorem steps_prefix (h : Stands c since tr run) :
    (submissionsOf tr).map (·.1) <+: c.steps := by
  cases h with
  | between steps | waiting steps => exact ⟨_, steps⟩
  | ended steps => exact steps

theorem submissions_length_le (h : Stands c since tr run) :
    (submissionsOf tr).length ≤ c.steps.length := by
  simpa using h.steps_prefix.length_le

theorem results_length_le (h : Stands c since tr run) :
    (stepResultsOf tr).length ≤ c.steps.length := by
  have hle := h.submissions_length_le
  cases h with
  | between steps results => simpa [results] using hle
  | waiting steps last results =>
      rw [last, List.length_append] at hle
      rw [results, List.length_replicate]
      exact Nat.le_of_add_right_le hle
  | ended steps results => exact results

/-- Of a step less than there are the run has seen the end when it waits or is about to submit. -/
theorem results_length_lt {r : ChainRun} (h : Stands c since tr (some r))
    (hopen : r.waiting = none → r.rest ≠ []) :
    (stepResultsOf tr).length < c.steps.length := by
  have hle := h.submissions_length_le
  cases h with
  | @between rest steps results =>
      have hrest : 0 < rest.length := List.length_pos_of_ne_nil (hopen rfl)
      rw [results, List.length_replicate, ← steps, List.length_append, List.length_map]
      omega
  | waiting steps last results =>
      rw [last, List.length_append] at hle
      rw [results, List.length_replicate]
      exact hle

theorem going {r : ChainRun} (h : Stands c since tr (some r)) : isOver tr = false := by
  cases h with
  | between _ _ going | waiting _ _ _ going => exact going

theorem limit_eq {r : ChainRun} (h : Stands c since tr (some r)) :
    r.limit = c.limit.map fun d => (since + d, d) := by
  cases h with
  | between | waiting => rfl

/-- What is not seen of the run itself leaves it where it stands. -/
theorem frame (h : Stands c since tr run) {x : Nanos × ChainEvent}
    (hsub : x.2.submission? = none) (hres : x.2.stepResult? = none) (hend : x.2.isEnd = false) :
    Stands c since (tr ++ [x]) run := by
  have hsubs : submissionsOf (tr ++ [x]) = submissionsOf tr := by simp [hsub]
  have hresults : stepResultsOf (tr ++ [x]) = stepResultsOf tr := by simp [hres]
  have hover : isOver (tr ++ [x]) = isOver tr := by simp [hend]
  cases h with
  | between steps results going =>
      exact .between (by rwa [hsubs]) (by rwa [hsubs, hresults]) (by rwa [hover])
  | waiting steps last results going submitted =>
      exact .waiting (by rwa [hsubs]) (by rwa [hsubs]) (by rwa [hresults]) (by rwa [hover])
        (List.mem_append_left _ submitted)
  | ended steps results h =>
      exact .ended (by rwa [hsubs]) (by rwa [hresults]) (by rwa [hover])

/-- A run that returns is over. -/
theorem finish (h : Stands c since tr run) {x : Nanos × ChainEvent} (hend : x.2.isEnd = true)
    (hsub : x.2.submission? = none)
    (hres : (stepResultsOf tr).length + x.2.stepResult?.toList.length ≤ c.steps.length) :
    Stands c since (tr ++ [x]) none := by
  refine .ended ?_ ?_ ?_
  · simpa [hsub] using h.steps_prefix
  · simpa using hres
  · simp [hend]

/-- A turn takes the run to where its events say that it stands. -/
theorem turn {r : ChainRun} (h : Stands c since tr (some r)) {q queue : Queue}
    {news : Option StepNews} {res : Option (Except ActionError Unit)}
    (goes : r.Goes q t news res queue run) :
    Stands c since (tr ++ [(t, .turned news res)]) run := by
  cases goes with
  | finish | expire => exact h.finish rfl rfl h.results_length_le
  | refuse hw hr => exact h.finish rfl rfl (h.results_length_lt (by simp [hr]))
  | fail hw => exact h.finish rfl rfl (h.results_length_lt (by simp [hw]))
  | @submit s rest queue hw hr hs =>
      cases h with
      | between steps results going =>
          obtain rfl := hr
          have hlast : submissionsOf (tr ++ [(t, .turned (some (.submitted s q.accepted)) none)]) =
              submissionsOf tr ++ [(s, q.accepted)] := by
            simp [ChainEvent.submission?]
          refine .waiting ?_ hlast ?_ ?_ (by simp)
          · simpa [hlast] using steps
          · simpa [ChainEvent.stepResult?] using results
          · simpa [ChainEvent.isEnd] using going
      | waiting => cases hw
  | succeed hw hends =>
      cases h with
      | between => cases hw
      | waiting steps last results going =>
          refine .between ?_ ?_ ?_
          · simpa [ChainEvent.submission?] using steps
          · simp [ChainEvent.submission?, ChainEvent.stepResult?, results, last,
              List.replicate_succ']
          · simpa [ChainEvent.isEnd] using going
  | wait => exact h.frame rfl rfl rfl

theorem change (h : Stands c since tr s.run) (change : Change a s e s') :
    Stands c since (tr ++ [(s.usage.now, e)]) s'.run := by
  cases change with
  | others | pass | lag => exact h.frame rfl rfl rfl
  | turn hrun goes =>
      rw [hrun] at h
      exact h.turn goes
  | cancel => exact h.finish rfl rfl h.results_length_le

end Stands

theorem Run.stands (run : Run a c u tr s) : Stands c u.now tr s.run := by
  induction run with
  | start => exact .between rfl rfl rfl
  | tail _ step ih => exact ih.change step.change

theorem Change.queue_steps (change : Change a s e s') :
    Queue.Steps a s.usage.queue e.history s'.usage.queue := by
  cases change with
  | others h => exact h.queue_steps
  | turn _ goes =>
      cases goes with
      | submit _ _ hs => exact .single (.submit hs)
      | finish | refuse | succeed | fail | expire | wait => exact .refl
  | cancel | pass | lag => exact .refl

/-- Only a run that goes on ends. -/
theorem Change.isSome_of_isEnd (change : Change a s e s') (h : e.isEnd = true) :
    ∃ r, s.run = some r := by
  cases change with
  | turn hrun | cancel hrun => exact ⟨_, hrun⟩
  | others | pass | lag => cases h

/-- What becomes of the queue is a run of the queue. -/
theorem Run.queue_run (run : Run a c u tr s) {tr₀ : List QueueEvent} (run₀ : Usage.Run a tr₀ u) :
    Queue.Run a (tr₀ ++ historyOf tr) s.usage.queue := by
  induction run with
  | start => simpa [historyOf, ChainCourse.start] using run₀.queue_run
  | tail _ step ih =>
      rw [historyOf_append_singleton, ← List.append_assoc]
      exact ih.trans step.change.queue_steps

/-- What is seen is seen in a step, and what becomes of the queue later are steps of the queue. -/
theorem Run.exists_step (run : Run a c u tr s) (htr : tr = tr₁ ++ (t, e) :: tr₂) :
    ∃ s₁ s₂, Run a c u tr₁ s₁ ∧ s₁.usage.now = t ∧ Change a s₁ e s₂ ∧
      ∃ es, Queue.Steps a s₁.usage.queue es s.usage.queue := by
  induction run generalizing tr₂ with
  | start => simp at htr
  | @tail tr s₁ e' s₂ run step ih =>
      rcases append_singleton_split htr with ⟨-, rfl, hlast⟩ | ⟨tr₃, -, hrest⟩
      · obtain ⟨rfl, rfl⟩ := Prod.mk.inj hlast
        exact ⟨s₁, s₂, run, rfl, step.change, _, step.change.queue_steps⟩
      · obtain ⟨s₀, s₁', run₀, hnow, change, es, steps⟩ := ih hrest
        exact ⟨s₀, s₁', run₀, hnow, change, _, steps.trans step.change.queue_steps⟩

/-- A turn of a run that is seen was taken where the run stood by what had been seen before. -/
theorem Run.exists_turn (run : Run a c u tr s) {news : Option StepNews}
    {res : Option (Except ActionError Unit)} (htr : tr = tr₁ ++ (t, .turned news res) :: tr₂) :
    ∃ s₁ r queue run', Run a c u tr₁ s₁ ∧ s₁.run = some r ∧ Stands c u.now tr₁ (some r) ∧
      s₁.usage.now = t ∧ r.Goes s₁.usage.queue t news res queue run' ∧
      ∃ es, Queue.Steps a s₁.usage.queue es s.usage.queue := by
  obtain ⟨s₁, s₂, run₁, rfl, change, later⟩ := run.exists_step htr
  cases change with
  | turn hrun goes =>
      have stands := run₁.stands
      rw [hrun] at stands
      exact ⟨s₁, _, _, _, run₁, hrun, stands, rfl, goes, later⟩

end ChainCourse

end LogWarden
