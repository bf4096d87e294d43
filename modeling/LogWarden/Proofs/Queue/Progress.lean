import LogWarden.Proofs.Queue.Tickets
import Mathlib.Algebra.Ring.Nat
import Mathlib.Data.List.Basic

/-!
# Every ticket is resolved

Whatever else happens to a queue, each turn of its worker or of an action takes something off what
is left to do before a given ticket is resolved, and nobody else adds to it. As long as the ticket
is not resolved, the worker or an action can go on.

## Implementation notes

Requests accepted later are not counted in what is left to do before a ticket is resolved, since the
worker takes and gives up requests in order.
-/

namespace LogWarden

/-- How many turns a moment of a performance takes at most. -/
def Beat.turns : Beat → Nat
  | .mark _ | .pause _ => 1
  | .presses press times _ => 2 * (times + 1 - press) + 1

/-- How many turns an action takes at most until it has ended. -/
def Act.turns (act : Act) : Nat := (act.beats.map Beat.turns).sum + 1

/-- How many turns the worker takes at most if no request is to be taken or given up. -/
def Worker.turns : Worker → Nat
  | .awaiting _ => 4
  | .replying .. => 3
  | .resting => 2
  | .leaving => 1
  | .stopped => 0

namespace Queue

/-- How many turns a request that has not begun takes at most. -/
def turnsOf (a : Actuator) (r : Request) : Nat := (Act.start a 0 r).turns + 3

/-- How many turns the worker and the actions take at most until a ticket is resolved. -/
def turnsLeft (a : Actuator) (ticket : Nat) (q : Queue) : Nat :=
  ((q.waiting.filter (·.ticket ≤ ticket)).map (turnsOf a)).sum + (q.acts.map Act.turns).sum
    + q.worker.turns

/-- A turn of the worker or of an action in progress, at any time. -/
inductive WorkStep (a : Actuator) (q : Queue) : Queue → Prop
  | worker {now w q'} (h : q.workerNext a now = some (q', w)) : WorkStep a q q'
  | act {now i w q'} (h : q.actNext now i = some (q', w)) : WorkStep a q q'

/-- Steps of a queue, with a number of turns of the worker and of actions among them. -/
inductive Turns (a : Actuator) (q : Queue) : Nat → Queue → Prop
  | refl : Turns a q 0 q
  | work {n q₁ q₂} (turns : Turns a q n q₁) (step : WorkStep a q₁ q₂) : Turns a q (n + 1) q₂
  | other {n e q₁ q₂} (turns : Turns a q n q₁) (step : Step a q₁ e q₂) : Turns a q n q₂

variable {a : Actuator} {b : Books} {q q' : Queue} {tr : List QueueEvent}
variable {e : Option QueueEvent} {w : Option QueueWork} {r : Request} {rest : List Request}
variable {ticket n : Nat}

/-- An action has less to do behind a moment of its performance. -/
theorem play_turns_lt (act : Act) (now : Nanos) {x : Beat} {rest : List Beat}
    (h : act.beats = x :: rest) : (act.play now rest x).1.turns < act.turns := by
  simp only [Act.turns, h]
  fun_cases Act.play act now rest x with
  | case3 press times interval hlt =>
      simp only [List.map_cons, List.sum_cons, Beat.turns]
      omega
  | _ => simp [Beat.turns]

theorem sum_map_set_lt {l : List Act} {i : Nat} {act act' : Act} (h : l[i]? = some act)
    (hlt : act'.turns < act.turns) :
    ((l.set i act').map Act.turns).sum < (l.map Act.turns).sum := by
  induction l generalizing i with
  | nil => simp at h
  | cons x l ih =>
      cases i with
      | zero =>
          obtain rfl : x = act := by simpa using h
          simpa using hlt
      | succ i => simpa using ih (by simpa using h)

theorem sum_map_eraseIdx_lt {l : List Act} {i : Nat} {act : Act} (h : l[i]? = some act) :
    ((l.eraseIdx i).map Act.turns).sum < (l.map Act.turns).sum := by
  induction l generalizing i with
  | nil => simp at h
  | cons x l ih =>
      cases i with
      | zero => simp [Act.turns]
      | succ i => simpa using ih (by simpa using h)

theorem Ledger.waiting_sorted (l : Ledger a b q) :
    q.waiting.Pairwise fun r r' => r.ticket < r'.ticket := by
  have hsorted : (b.accepted.map (·.ticket)).Pairwise (· < ·) :=
    l.tickets_eq ▸ List.pairwise_lt_range
  rw [List.pairwise_map, l.accepted_eq, List.pairwise_append] at hsorted
  exact hsorted.2.1

/-- A worker that is free has all requests before an unresolved one behind it. -/
theorem Ledger.head_ticket_le (l : Ledger a b q)
    (hfree : q.worker = .resting ∨ q.worker.hasLeft = true) (h : q.waiting = r :: rest)
    (hlt : ticket < q.accepted) (hnone : q.result? ticket = none) : r.ticket ≤ ticket := by
  obtain ⟨r', hr', rfl⟩ := l.exists_request hlt
  rcases l.resolved_or_waiting hfree hr' with hres | hwait
  · simp [hnone] at hres
  · have hsorted := l.waiting_sorted
    rw [h, List.pairwise_cons] at hsorted
    rw [h, List.mem_cons] at hwait
    rcases hwait with rfl | hrest
    · exact Nat.le_refl _
    · exact Nat.le_of_lt (hsorted.1 r' hrest)

/-- Each turn of the worker or of an action takes something off what is left to do. -/
theorem Ledger.turnsLeft_lt (l : Ledger a b q) (hlt : ticket < q.accepted)
    (hnone : q.result? ticket = none) (c : WorkChange a q w q') :
    turnsLeft a ticket q' < turnsLeft a ticket q := by
  cases c with
  | leave hw | collect hw | tell hw | stop hw =>
      simp only [turnsLeft, Queue.leave, Queue.collect, Queue.tell, Queue.stop, hw, Worker.turns]
      omega
  | @begin now r rest hw _ h =>
      have hhead := l.head_ticket_le (.inl hw) h hlt hnone
      have hstart : (Act.start a now r).turns = (Act.start a 0 r).turns := rfl
      simp only [turnsLeft, Queue.begin, hw, h, hhead, Worker.turns, turnsOf, hstart,
        decide_true, List.filter_cons_of_pos, List.map_cons, List.sum_cons, List.map_append,
        List.sum_append, List.map_nil, List.sum_nil]
      omega
  | giveUp hw h =>
      have hhead := l.head_ticket_le (.inr (by simp [hw, Worker.hasLeft])) h hlt hnone
      simp only [turnsLeft, Queue.giveUp, h, hhead, decide_true, List.filter_cons_of_pos,
        List.map_cons, List.sum_cons, turnsOf]
      omega
  | @play now i act x rest h hx =>
      have hsum := sum_map_set_lt h (play_turns_lt act now hx)
      simpa [turnsLeft, Queue.play] using hsum
  | finish h =>
      have hsum := sum_map_eraseIdx_lt h
      simpa [turnsLeft, Queue.finish] using hsum

/-- Nobody adds to what is left to do. -/
theorem Ledger.turnsLeft_le (l : Ledger a b q) (hlt : ticket < q.accepted)
    (hnone : q.result? ticket = none) (c : Change a q e q') :
    turnsLeft a ticket q' ≤ turnsLeft a ticket q := by
  cases c with
  | accept =>
      have hlater : ¬q.accepted ≤ ticket := by omega
      simp [turnsLeft, hlater]
  | work c => exact Nat.le_of_lt (l.turnsLeft_lt hlt hnone c)
  | close | join | hold | release => exact Nat.le_refl _

theorem Change.accepted_le (c : Change a q e q') : q.accepted ≤ q'.accepted := by
  cases c with
  | accept => exact Nat.le_succ _
  | work c => cases c <;> exact Nat.le_refl _
  | close | join | hold | release => exact Nat.le_refl _

theorem Change.settled_suffix (c : Change a q e q') : q.settled <:+ q'.settled := by
  cases c with
  | work c =>
      cases c with
      | tell | giveUp => exact List.suffix_cons _ _
      | leave | begin | collect | stop | play | finish => exact List.suffix_rfl
  | accept | close | join | hold | release => exact List.suffix_rfl

/-- What was resolved stays so. -/
theorem Change.result?_eq_none (c : Change a q e q') (h : q'.result? ticket = none) :
    q.result? ticket = none := by
  simp only [result?, Option.map_eq_none_iff, List.find?_eq_none] at h ⊢
  exact fun x hx => h x (c.settled_suffix.subset hx)

theorem Steps.settled_suffix (steps : Steps a q tr q') : q.settled <:+ q'.settled := by
  induction steps with
  | refl => exact List.suffix_rfl
  | tail _ step ih => exact ih.trans step.change.settled_suffix

/-- A result stays the same. -/
theorem Run.result?_eq_some {es : List QueueEvent} (run : Run a es q) (steps : Steps a q tr q')
    {res : Except ActionError Unit} (h : q.result? ticket = some res) :
    q'.result? ticket = some res := by
  have hnodup := (Run.ledger run).settled_nodup
  have hnodup' := (Run.ledger (run.trans steps)).settled_nodup
  rw [result?, find?_fst_eq_some_iff hnodup] at h
  rw [result?, find?_fst_eq_some_iff hnodup']
  exact steps.settled_suffix.subset h

theorem WorkStep.change (step : WorkStep a q q') : ∃ w, WorkChange a q w q' := by
  cases step with
  | worker h => exact ⟨_, workChange_of_workerNext h⟩
  | act h => exact ⟨_, workChange_of_actNext h⟩

/-- A ticket that is not resolved yet has seen no more turns than it takes at most. -/
theorem Turns.add_turnsLeft_le (turns : Turns a q n q') (l : Ledger a b q)
    (hlt : ticket < q.accepted) (hnone : q'.result? ticket = none) :
    n + turnsLeft a ticket q' ≤ turnsLeft a ticket q := by
  suffices hall : (∃ b', Ledger a b' q') ∧ ticket < q'.accepted ∧
      (q'.result? ticket = none → n + turnsLeft a ticket q' ≤ turnsLeft a ticket q) from
    hall.2.2 hnone
  clear hnone
  induction turns with
  | refl => exact ⟨⟨b, l⟩, hlt, fun _ => by simp⟩
  | work _ step ih =>
      obtain ⟨⟨b', l'⟩, hlt', hle⟩ := ih
      obtain ⟨w, c⟩ := step.change
      have c' : Change a _ _ _ := .work c
      refine ⟨⟨_, l'.work c⟩, Nat.lt_of_lt_of_le hlt' c'.accepted_le, fun hnone => ?_⟩
      have hbefore := c'.result?_eq_none hnone
      have hless := l'.turnsLeft_lt hlt' hbefore c
      have hsum := hle hbefore
      omega
  | other _ step ih =>
      obtain ⟨⟨b', l'⟩, hlt', hle⟩ := ih
      have c := step.change
      refine ⟨⟨_, l'.change c⟩, Nat.lt_of_lt_of_le hlt' c.accepted_le, fun hnone => ?_⟩
      have hbefore := c.result?_eq_none hnone
      have hless := l'.turnsLeft_le hlt' hbefore c
      have hsum := hle hbefore
      omega

/-- Where neither the worker nor an action can go on, every ticket has its result. -/
theorem Ledger.allResolved_of_stuck (l : Ledger a b q) (hstuck : ∀ q', ¬WorkStep a q q') :
    q.AllResolved := by
  have hworker : q.workerNext a 0 = none := by
    rw [Option.eq_none_iff_forall_ne_some]
    exact fun x hx => hstuck x.1 (.worker hx)
  cases hw : q.worker with
  | resting => exact l.allResolved (.inl hw) (waiting_eq_nil_of_resting hw hworker)
  | stopped => exact l.allResolved (.inr (by simp [hw, Worker.hasLeft])) (l.stopped_waiting hw)
  | replying r e => simp [workerNext, hw] at hworker
  | leaving => cases hq : q.waiting <;> simp [workerNext, hw, hq] at hworker
  | awaiting r =>
      -- either the action can go on at some time or the worker sees that it has ended
      obtain ⟨done, begun, ended, collected, hand, _⟩ := l.stages
      cases hand with
      | acting act _ ha =>
          have hact : q.actNext act.pausedUntil 0 ≠ none := by
            cases hb : act.beats <;> simp [actNext, ha, hb]
          obtain ⟨x, hx⟩ := Option.ne_none_iff_exists'.mp hact
          exact absurd (.act hx) (hstuck x.1)
      | acted r' hw' _ he =>
          obtain rfl : r' = r := by simpa [hw] using hw'.symm
          simp [workerNext, hw, ending?, he] at hworker
      | nothing hw' | replying _ hw' => simp [hw, Worker.hasLeft] at hw'

/-- As long as a ticket is not resolved, the worker or an action can go on. -/
theorem Ledger.exists_workStep (l : Ledger a b q) (hlt : ticket < q.accepted)
    (hnone : q.result? ticket = none) : ∃ q', WorkStep a q q' := by
  by_contra hstuck
  have hres := l.allResolved_of_stuck (not_exists.mp hstuck) ticket hlt
  simp [hnone] at hres

end Queue

end LogWarden
