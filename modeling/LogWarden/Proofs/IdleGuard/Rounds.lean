import LogWarden.Proofs.Chain.Course
import LogWarden.Service.IdleGuard

/-!
# The rounds of a loop

A round submits jumps, waits for their end, submits a pause and waits for its end; then the loop
looks at the flag again. Where the jumps or the pause fail, the round is left at once: for good if
the queue is closed, and for the next look at the flag otherwise. Where a round cannot be made, who
would begin it panics.

## Implementation notes

A reaction takes up its event, or looks at the flag between two rounds, and submits the jumps in one
turn, since it is not suspended between them.
-/

namespace LogWarden

namespace IdleGuard

/-- The first step of a round. -/
def jumps (g : IdleGuard) : Step := ⟨.jump 3 g.jumpInterval, g.stepLimit⟩

/-- The second step of a round. -/
def pause (g : IdleGuard) : Step := ⟨.hold g.hold, g.hold + g.stepLimit⟩

/-- Whether the limit of the pause has no more seconds than a duration can have. -/
def MakesRounds (g : IdleGuard) : Prop :=
  (g.hold + g.stepLimit) / 1000000000 < 18446744073709551616

theorem round?_eq_some {g : IdleGuard} (h : g.MakesRounds) :
    g.round? = some ⟨[g.jumps, g.pause], none⟩ := by
  have hlt : (g.hold + g.stepLimit) / 1000000000 < Nanos.secondsBound := h
  rw [round?, Nanos.add?, if_pos hlt]
  rfl

theorem round?_eq_none {g : IdleGuard} (h : ¬g.MakesRounds) : g.round? = none := by
  have hnot : ¬(g.hold + g.stepLimit) / 1000000000 < Nanos.secondsBound := h
  rw [round?, Nanos.add?, if_neg hnot]
  rfl

/-- A guard with its flag set, in a further idle period. -/
def taken (g : IdleGuard) : IdleGuard := { g with idle := true, evasions := g.evasions + 1 }

end IdleGuard

/-- What a reaction begins a turn with. -/
inductive Opening
  /-- It takes up its event while the flag is like this. -/
  | idled (wasIdle : Bool)
  /-- It looks at the flag between two rounds, which is like this. -/
  | looked (isIdle : Bool)
  /-- It goes on with its round. -/
  | wentOn
  deriving DecidableEq, Repr

namespace Evasion

/-- A reaction that has submitted the jumps of a round. -/
def jumping (pause : Step) (w : TicketWait) : Evasion := .round ⟨[pause], some w, none⟩

/-- A reaction whose jumps have ended well. -/
def jumped (pause : Step) : Evasion := .round ⟨[pause], none, none⟩

/-- A reaction that has submitted the pause of a round. -/
def pausing (w : TicketWait) : Evasion := .round ⟨[], some w, none⟩

/-- A reaction whose pause has ended well. -/
def paused : Evasion := .round ⟨[], none, none⟩

/-- The stages in which a reaction can be. Each wait has a limit. -/
inductive IsStage (pause : Step) : Evasion → Prop
  | fresh : IsStage pause .fresh
  | between : IsStage pause .between
  | jumping {w : TicketWait} (h : w.limit.isSome = true) : IsStage pause (jumping pause w)
  | jumped : IsStage pause (jumped pause)
  | pausing {w : TicketWait} (h : w.limit.isSome = true) : IsStage pause (pausing w)
  | paused : IsStage pause paused

/-- How many pauses a reaction has yet to submit in its round. -/
def pausesLeft : Evasion → ℕ
  | .round r => r.rest.length
  | .fresh | .between => 0

section Stages
variable (pause : Step) (w : TicketWait)

@[simp] theorem pausesLeft_fresh : fresh.pausesLeft = 0 := rfl

@[simp] theorem pausesLeft_between : between.pausesLeft = 0 := rfl

@[simp] theorem pausesLeft_jumping : (jumping pause w).pausesLeft = 1 := rfl

@[simp] theorem pausesLeft_jumped : (jumped pause).pausesLeft = 1 := rfl

@[simp] theorem pausesLeft_pausing : (pausing w).pausesLeft = 0 := rfl

@[simp] theorem pausesLeft_paused : paused.pausesLeft = 0 := rfl

end Stages

def opening (g : IdleGuard) : Evasion → Opening
  | .fresh => .idled g.idle
  | .between => .looked g.idle
  | .round _ => .wentOn

/-- What the turn in which a round begins shows of its first step. -/
def firstNews? (g : IdleGuard) (q : Queue) (now : Nanos) : Option StepNews :=
  g.round?.bind fun c => (ChainRun.start c now).news? q now

/-- What a turn shows of a step. -/
def news? (g : IdleGuard) (q : Queue) (now : Nanos) : Evasion → Option StepNews
  | .fresh => if g.idle then none else firstNews? g q now
  | .between => if g.idle then firstNews? g q now else none
  | .round r => r.news? q now

/-- The step that was submitted. -/
def stepOf? : Option StepNews → Option Step
  | some (.submitted s _) => some s
  | _ => none

/-- The wait for a step that was submitted now. -/
def waitFor (s : Step) (q : Queue) (now : Nanos) : TicketWait :=
  ⟨q.accepted, some (now + s.limit, s.limit)⟩

/-- What a turn of a reaction does that does not just wait: what it begins with, what it shows of a
step, what the reaction returns, and what becomes of the guard, the queue and the reaction. -/
inductive Goes (g : IdleGuard) (q : Queue) (now : Nanos) :
    Evasion → Opening → Option StepNews → Option Verdict →
      IdleGuard → Queue → Option Evasion → Prop
  /-- The player is taken for idle already. -/
  | ignore (h : g.idle = true) : Goes g q now .fresh (.idled true) none (some .ok) g q none
  | begin {queue} (h : g.idle = false) (hmakes : g.MakesRounds)
      (hs : q.submit g.jumps.action = some (q.accepted, queue)) :
      Goes g q now .fresh (.idled false) (some (.submitted g.jumps q.accepted)) none g.taken queue
        (some (jumping g.pause (waitFor g.jumps q now)))
  | refuseFirst (h : g.idle = false) (hmakes : g.MakesRounds) (hclosed : q.isClosed = true) :
      Goes g q now .fresh (.idled false) (some (.returned (.error .queueClosed)))
        (some (.failed (.action .queueClosed))) { g.taken with idle := false } q none
  | panicFirst (h : g.idle = false) (hmakes : ¬g.MakesRounds) :
      Goes g q now .fresh (.idled false) none (some .panicked) g.taken q none
  | again {queue} (h : g.idle = true) (hmakes : g.MakesRounds)
      (hs : q.submit g.jumps.action = some (q.accepted, queue)) :
      Goes g q now .between (.looked true) (some (.submitted g.jumps q.accepted)) none g queue
        (some (jumping g.pause (waitFor g.jumps q now)))
  | refuse (h : g.idle = true) (hmakes : g.MakesRounds) (hclosed : q.isClosed = true) :
      Goes g q now .between (.looked true) (some (.returned (.error .queueClosed)))
        (some (.failed (.action .queueClosed))) { g with idle := false } q none
  | panic (h : g.idle = true) (hmakes : ¬g.MakesRounds) :
      Goes g q now .between (.looked true) none (some .panicked) g q none
  | stop (h : g.idle = false) :
      Goes g q now .between (.looked false) none (some .ok) g q none
  | jumped {w} (h : w.next q now = .ends (.ok ())) :
      Goes g q now (jumping g.pause w) .wentOn (some (.returned (.ok ()))) none g q
        (some (jumped g.pause))
  | pause {queue} (hs : q.submit g.pause.action = some (q.accepted, queue)) :
      Goes g q now (Evasion.jumped g.pause) .wentOn (some (.submitted g.pause q.accepted)) none g
        queue (some (pausing (waitFor g.pause q now)))
  | refusePause (hclosed : q.isClosed = true) :
      Goes g q now (Evasion.jumped g.pause) .wentOn (some (.returned (.error .queueClosed)))
        (some (.failed (.action .queueClosed))) { g with idle := false } q none
  | paused {w} (h : w.next q now = .ends (.ok ())) :
      Goes g q now (pausing w) .wentOn (some (.returned (.ok ()))) none g q (some paused)
  | finish : Goes g q now Evasion.paused .wentOn none none g q (some .between)
  | fail {rest w e} (h : w.next q now = .ends (.error e)) (he : e ≠ .queueClosed) :
      Goes g q now (.round ⟨rest, some w, none⟩) .wentOn (some (.returned (.error e))) none g q
        (some .between)
  | closed {rest w} (h : w.next q now = .ends (.error .queueClosed)) :
      Goes g q now (.round ⟨rest, some w, none⟩) .wentOn
        (some (.returned (.error .queueClosed))) (some (.failed (.action .queueClosed)))
        { g with idle := false } q none

variable {g : IdleGuard} {q : Queue} {now : Nanos} {c : Evasion}

/-- What `Goes` says of the turn that the reaction takes. -/
def Takes (g : IdleGuard) (q : Queue) (now : Nanos) (c : Evasion) : Prop :=
  Goes g q now c (c.opening g) (c.news? g q now) (c.next g q now).2.2.1.result?
    (c.next g q now).1 (c.next g q now).2.1 ((c.next g q now).2.2.1.rest? c)

/-- A submission succeeds unless the queue is closed. -/
theorem submit_cases (s : Step) (q : Queue) (now : Nanos) :
    q.isClosed = true ∧ s.submit q now = none ∨
      ∃ queue, q.submit s.action = some (q.accepted, queue) ∧
        s.submit q now = some (waitFor s q now, queue) := by
  cases hs : q.submit s.action with
  | none => exact .inl ⟨Queue.submit_eq_none_iff.mp hs, by simp [Step.submit, hs]⟩
  | some x =>
      obtain ⟨ticket, queue⟩ := x
      obtain ⟨-, rfl, -⟩ := Queue.submit_eq_some_iff.mp hs
      exact .inr ⟨queue, rfl, by simp [Step.submit, hs, waitFor]⟩

/-- A round begins with its jumps unless it cannot be made or the queue is closed. -/
theorem nextRound_cases (h : g.idle = true) :
    (¬g.MakesRounds ∧ firstNews? g q now = none ∧
        nextRound g q now = (g, q, .ends .panicked, [])) ∨
      (g.MakesRounds ∧ q.isClosed = true ∧
        firstNews? g q now = some (.returned (.error .queueClosed)) ∧
        nextRound g q now =
          ({ g with idle := false }, q, .ends (.failed (.action .queueClosed)), [])) ∨
      ∃ queue, g.MakesRounds ∧ q.submit g.jumps.action = some (q.accepted, queue) ∧
        firstNews? g q now = some (.submitted g.jumps q.accepted) ∧
        nextRound g q now = (g, queue, .goes (jumping g.pause (waitFor g.jumps q now)), []) := by
  by_cases hmakes : g.MakesRounds
  · have hround := IdleGuard.round?_eq_some hmakes
    right
    rcases submit_cases g.jumps q now with ⟨hclosed, hnone⟩ | ⟨queue, hs, hsome⟩
    · refine .inl ⟨hmakes, hclosed, ?_, ?_⟩
      · simp [firstNews?, hround, ChainRun.news?, ChainRun.start, hnone]
      · simp [nextRound, hround, ChainRun.next, ChainRun.start, hnone, h]
    · refine .inr ⟨queue, hmakes, hs, ?_, ?_⟩
      · simp [firstNews?, hround, ChainRun.news?, ChainRun.start, hsome, waitFor]
      · simp [nextRound, hround, ChainRun.next, ChainRun.start, hsome, h, jumping]
  · have hround := IdleGuard.round?_eq_none hmakes
    exact .inl ⟨hmakes, by simp [firstNews?, hround], by simp [nextRound, hround, h]⟩

theorem next_fresh (h : g.idle = false) : next g q now .fresh = nextRound g.taken q now := by
  rw [next, h]
  rfl

theorem takes_fresh : Takes g q now .fresh := by
  cases hidle : g.idle with
  | true =>
      simp only [Takes, opening, news?, next, hidle, if_true]
      exact .ignore hidle
  | false =>
      have hnews : news? g q now .fresh = firstNews? g.taken q now := by
        rw [news?, hidle]
        rfl
      rw [Takes, next_fresh hidle, hnews, opening, hidle]
      rcases @nextRound_cases g.taken q now rfl with
        ⟨hmakes, hn, hround⟩ | ⟨hmakes, hclosed, hn, hround⟩ | ⟨queue, hmakes, hs, hn, hround⟩
      · rw [hn, hround]
        exact .panicFirst hidle hmakes
      · rw [hn, hround]
        exact .refuseFirst hidle hmakes hclosed
      · rw [hn, hround]
        exact .begin hidle hmakes hs

theorem takes_between : Takes g q now .between := by
  cases hidle : g.idle with
  | true =>
      have hnews : news? g q now .between = firstNews? g q now := by
        rw [news?, hidle]
        rfl
      rw [Takes, hnews, opening, hidle, next]
      rcases nextRound_cases hidle with
        ⟨hmakes, hn, hround⟩ | ⟨hmakes, hclosed, hn, hround⟩ | ⟨queue, hmakes, hs, hn, hround⟩
      · rw [hn, hround]
        exact .panic hidle hmakes
      · rw [hn, hround]
        exact .refuse hidle hmakes hclosed
      · rw [hn, hround]
        exact .again hidle hmakes hs
  | false =>
      simp only [Takes, opening, news?, next, nextRound, hidle]
      exact .stop hidle

/-- What a wait that failed makes of a round, unless the queue is closed. -/
theorem next_of_error {rest : List Step} {w : TicketWait} {e : ActionError}
    (h : w.next q now = .ends (.error e)) (he : e ≠ .queueClosed) :
    next g q now (.round ⟨rest, some w, none⟩) = (g, q, .goes .between, [.roundFailed e]) := by
  cases e with
  | queueClosed => exact absurd rfl he
  | _ => simp [next, ChainRun.next, h]

/-- A round has to wait where the wait for its step goes on. -/
theorem next_eq_waits_iff {rest : List Step} {w : TicketWait} :
    (next g q now (.round ⟨rest, some w, none⟩)).2.2.1 = .waits ↔ w.next q now = .waits := by
  cases h : w.next q now with
  | goes w' => exact absurd h TicketWait.next_ne_goes
  | waits => simp [next, ChainRun.next, h]
  | ends res =>
      cases res with
      | ok => simp [next, ChainRun.next, h]
      | error e =>
          by_cases he : e = .queueClosed
          · subst he
            simp [next, ChainRun.next, h]
          · simp [next_of_error h he]

theorem takes_waiting {rest : List Step} {w : TicketWait}
    (hrest : rest = [g.pause] ∨ rest = []) (hmoves : w.next q now ≠ .waits) :
    Takes g q now (.round ⟨rest, some w, none⟩) := by
  cases hw : w.next q now with
  | goes w' => exact absurd hw TicketWait.next_ne_goes
  | waits => exact absurd hw hmoves
  | ends res =>
      cases res with
      | ok =>
          simp only [Takes, opening, news?, next, ChainRun.news?, ChainRun.next, hw]
          rcases hrest with rfl | rfl
          · exact .jumped hw
          · exact .paused hw
      | error e =>
          by_cases he : e = .queueClosed
          · subst he
            simp only [Takes, opening, news?, next, ChainRun.news?, ChainRun.next, hw]
            exact .closed hw
          · simp only [Takes, opening, news?, next_of_error hw he, ChainRun.news?, hw]
            exact .fail hw he

/-- A reaction in one of the stages takes a turn that `Goes` describes, unless it has to wait. -/
theorem IsStage.takes (h : IsStage g.pause c) (hmoves : (c.next g q now).2.2.1 ≠ .waits) :
    Takes g q now c := by
  cases h with
  | fresh => exact takes_fresh
  | between => exact takes_between
  | jumping => exact takes_waiting (.inl rfl) (mt next_eq_waits_iff.mpr hmoves)
  | pausing => exact takes_waiting (.inr rfl) (mt next_eq_waits_iff.mpr hmoves)
  | paused => exact .finish
  | jumped =>
      rcases submit_cases g.pause q now with ⟨hclosed, hnone⟩ | ⟨queue, hs, hsome⟩
      · simp only [Takes, Evasion.jumped, opening, news?, next, ChainRun.news?, ChainRun.next,
          hnone]
        exact .refusePause hclosed
      · simp only [Takes, Evasion.jumped, opening, news?, next, ChainRun.news?, ChainRun.next,
          hsome]
        exact .pause hs

theorem nextRound_ne_waits : (nextRound g q now).2.2.1 ≠ .waits := by
  cases hidle : g.idle with
  | true =>
      rcases @nextRound_cases g q now hidle with
        ⟨-, -, hround⟩ | ⟨-, -, -, hround⟩ | ⟨queue, -, -, -, hround⟩ <;> simp [hround]
  | false => simp [nextRound, hidle]

/-- A reaction has to wait only for a step that it has submitted. -/
theorem IsStage.of_waits (h : IsStage g.pause c) (hwaits : (c.next g q now).2.2.1 = .waits) :
    ∃ w, (c = Evasion.jumping g.pause w ∨ c = Evasion.pausing w) ∧ w.limit.isSome = true ∧
      w.next q now = .waits := by
  cases h with
  | jumping h => exact ⟨_, .inl rfl, h, next_eq_waits_iff.mp hwaits⟩
  | pausing h => exact ⟨_, .inr rfl, h, next_eq_waits_iff.mp hwaits⟩
  | fresh =>
      cases hidle : g.idle with
      | true => simp [next, hidle] at hwaits
      | false =>
          rw [next_fresh hidle] at hwaits
          exact absurd hwaits nextRound_ne_waits
  | between => exact absurd hwaits nextRound_ne_waits
  | paused => cases hwaits
  | jumped =>
      rcases submit_cases g.pause q now with ⟨-, hnone⟩ | ⟨queue, -, hsome⟩
      · simp [Evasion.jumped, next, ChainRun.next, hnone] at hwaits
      · simp [Evasion.jumped, next, ChainRun.next, hsome] at hwaits

section Goes
variable {o : Opening} {news : Option StepNews} {res : Option Verdict}
variable {g' : IdleGuard} {queue : Queue} {c' : Evasion} {rest : Option Evasion}

/-- A turn leaves a reaction in one of the stages. -/
theorem Goes.isStage (goes : Goes g q now c o news res g' queue (some c')) :
    c'.IsStage g.pause := by
  cases goes with
  | begin | again => exact .jumping rfl
  | jumped => exact .jumped
  | pause => exact .pausing rfl
  | paused => exact .paused
  | finish | fail => exact .between

/-- A turn leaves the times of the guard alone. -/
theorem Goes.guard_eq (goes : Goes g q now c o news res g' queue rest) :
    g' = { g with idle := g'.idle, evasions := g'.evasions } := by
  cases goes <;> rfl

/-- All that a turn does to the queue is to submit a step. -/
theorem Goes.submits (goes : Goes g q now c o news res g' queue rest) :
    (∃ s, news = some (.submitted s q.accepted) ∧ q.submit s.action = some (q.accepted, queue)) ∨
      (∀ s ticket, news ≠ some (.submitted s ticket)) ∧ queue = q := by
  cases goes with
  | begin _ _ hs | again _ _ hs | pause hs => exact .inl ⟨_, rfl, hs⟩
  | _ => exact .inr ⟨by simp, rfl⟩

end Goes

end Evasion

end LogWarden
