import LogWarden.Proofs.Chain.Course
import LogWarden.Proofs.Queue.Account
import Mathlib.Data.List.Induction

/-!
# What is known of a chain that is run

A run submits the steps of its chain in order, each when the one before has returned without an
error, and returns when all have, when one has failed or when its limit has passed. Whatever it has
submitted by then is still executed, unless the queue is closed first.
-/

namespace LogWarden

/-- The request by which a step was submitted. -/
def requestOf (x : Step × ℕ) : Request := ⟨x.2, x.1.action⟩

/-- What a run returns at a time, given what the steps of its chain returned: that all is well if all
of them have returned without an error, the error of the step that failed, or that the limit of the
chain has passed, in milliseconds of 64 bits, if neither all have returned nor one has failed. -/
inductive Conclusion (c : Chain) (since t : Nanos) :
    List (Except ActionError Unit) → Except ActionError Unit → Prop
  | finished : Conclusion c since t (List.replicate c.steps.length (.ok ())) (.ok ())
  | failed {n e} (h : n < c.steps.length) :
      Conclusion c since t (List.replicate n (.ok ()) ++ [.error e]) (.error e)
  | expired {n d} (h : n < c.steps.length) (hlimit : c.limit = some d) (hle : since + d ≤ t) :
      Conclusion c since t (List.replicate n (.ok ()))
        (.error (.chainTimeout (min (d / 1000000) 18446744073709551615)))

/-- The step that was submitted last, and when. -/
def LastSubmission (tr : List (Nanos × ChainEvent)) (t : Nanos) (step : Step) (ticket : ℕ) : Prop :=
  (t, .turned (some (.submitted step ticket)) none) ∈ tr ∧
    (submissionsOf tr).getLast? = some (step, ticket)

/-- Whether no stretch of time in which a run could go on leads across a moment. -/
def IsServedAt (deadline : Nanos) (tr : List (Nanos × ChainEvent)) : Prop :=
  ∀ t d, (t, .lagged d) ∈ tr → t + d ≤ deadline ∨ deadline < t

theorem IsServedAt.left {deadline : Nanos} {tr₁ tr₂ : List (Nanos × ChainEvent)}
    (h : IsServedAt deadline (tr₁ ++ tr₂)) : IsServedAt deadline tr₁ :=
  fun t d hlag => h t d (List.mem_append_left _ hlag)

/-- What is known of a run of a chain from what has been seen of it. -/
structure ChainAccount (a : Actuator) (c : Chain) (since : Nanos) (tr₀ : List QueueEvent)
    (tr : List (Nanos × ChainEvent)) (s : ChainCourse) : Prop where
  /-- Of chains that are put together, the steps come in order and the tightest limit counts. -/
  composed : ∀ parts : List Chain, c = parts.foldl (· ++ ·) .empty →
    c.steps = parts.flatMap (·.steps) ∧ c.limit = (parts.filterMap (·.limit)).min?
  /-- What is submitted are the first steps of the chain, each by one request of its own. -/
  submits : (submissionsOf tr).map (·.1) <+: c.steps ∧
    ((submissionsOf tr).map requestOf).Sublist (books (tr₀ ++ historyOf tr)).accepted ∧
    ((submissionsOf tr).map (·.2)).Nodup
  /-- A step is submitted only when all before it have returned without an error. -/
  in_turn : ∀ tr₁ t step ticket res tr₂,
    tr = tr₁ ++ (t, .turned (some (.submitted step ticket)) res) :: tr₂ →
      c.steps[(submissionsOf tr₁).length]? = some step ∧
        stepResultsOf tr₁ = List.replicate (submissionsOf tr₁).length (.ok ())
  /-- A step returns the result of its ticket, that its own limit of so many milliseconds has passed,
  or that the queue is closed. -/
  step_returns : ∀ tr₁ t r res tr₂, tr = tr₁ ++ (t, .turned (some (.returned r)) res) :: tr₂ →
    (∃ t₁ step ticket, LastSubmission tr₁ t₁ step ticket ∧
      (s.usage.queue.result? ticket = some r ∨
        t₁ + step.limit ≤ t ∧
          r = .error (.timeout (min (step.limit / 1000000) 18446744073709551615)))) ∨
    s.usage.queue.isClosed = true ∧ r = .error .queueClosed
  returns : ∀ tr₁ t news r tr₂, tr = tr₁ ++ (t, .turned news (some r)) :: tr₂ →
    Conclusion c since t (stepResultsOf (tr₁ ++ [(t, .turned news (some r))])) r
  /-- Behind its end the run does nothing. -/
  silent : ∀ tr₁ tr₂, tr = tr₁ ++ tr₂ → isOver tr₁ = true →
    ∀ t news res, (t, .turned news res) ∉ tr₂
  /-- Where time does not lag across the limit, the run does nothing behind it, and it is over by
  then. -/
  on_time : ∀ d, c.limit = some d → IsServedAt (since + d) tr →
    (∀ t news res, (t, .turned news res) ∈ tr → t ≤ since + d) ∧
      (s.run.isSome → s.usage.now ≤ since + d)
  /-- A run has to wait only for a step without a result, within the limits of both. -/
  waits : ∀ r, s.run = some r → (r.next s.usage.queue s.usage.now).2 = .waits →
    ∃ t step ticket, LastSubmission tr t step ticket ∧ s.usage.queue.result? ticket = none ∧
      s.usage.now < t + step.limit ∧ ∀ d, c.limit = some d → s.usage.now < since + d
  /-- So many turns that are not spent waiting end a run. -/
  few_turns : tr.countP (·.2.isMove) ≤ 2 * c.steps.length + 1
  /-- A step that was submitted is executed, unless the queue is closed before it is taken. -/
  executed : ∀ x ∈ submissionsOf tr, ∀ res, s.usage.queue.result? x.2 = some res →
    (Queue.outcome a (requestOf x) ∈ (books (tr₀ ++ historyOf tr)).collected ∧
      (requestOf x).Returns a res) ∨
    (requestOf x ∉ (books (tr₀ ++ historyOf tr)).begun ∧ .closed ∈ tr₀ ++ historyOf tr ∧
      res = .error .queueClosed)
  /-- It is so after a number of turns of the worker and of the actions, whatever the others do. -/
  resolved : ∀ x ∈ submissionsOf tr, ∀ n q', Queue.Turns a s.usage.queue n q' →
    Queue.turnsLeft a x.2 s.usage.queue < n → (q'.result? x.2).isSome

namespace Chain

theorem tighter_assoc (x y z : Option Nanos) :
    tighter (tighter x y) z = tighter x (tighter y z) := by
  cases x <;> cases y <;> cases z <;> simp [tighter, Nat.min_assoc]

theorem min?_cons_eq_tighter (d : Nanos) (ds : List Nanos) :
    (d :: ds).min? = tighter (some d) ds.min? := by
  rw [List.min?_cons]
  cases ds.min? <;> rfl

theorem steps_foldl (c : Chain) (parts : List Chain) :
    (parts.foldl (· ++ ·) c).steps = c.steps ++ parts.flatMap (·.steps) := by
  induction parts generalizing c with
  | nil => simp
  | cons part parts ih =>
      rw [List.foldl_cons, ih, List.flatMap_cons, ← List.append_assoc]
      rfl

theorem limit_foldl (c : Chain) (parts : List Chain) :
    (parts.foldl (· ++ ·) c).limit = tighter c.limit (parts.filterMap (·.limit)).min? := by
  induction parts generalizing c with
  | nil => cases h : c.limit <;> simp [tighter, h]
  | cons part parts ih =>
      calc
        ((part :: parts).foldl (· ++ ·) c).limit
        _ = tighter (tighter c.limit part.limit) (parts.filterMap (·.limit)).min? := ih (c ++ part)
        _ = tighter c.limit (tighter part.limit (parts.filterMap (·.limit)).min?) :=
            tighter_assoc ..
        _ = tighter c.limit ((part :: parts).filterMap (·.limit)).min? := by
            cases h : part.limit with
            | none => simp [tighter, h]
            | some d => rw [List.filterMap_cons_some h, min?_cons_eq_tighter]

end Chain

theorem ChainEvent.isMove_le (e : ChainEvent) : e.isMove.toNat ≤
    e.submission?.toList.length + e.stepResult?.toList.length + e.isEnd.toNat := by
  cases e with
  | turned news res =>
      rcases news with _ | news
      · cases res <;> exact Nat.le_refl _
      · cases news <;> cases res <;> simp [isMove, submission?, stepResult?, isEnd]
  | others | cancelled | passed | lagged => exact Nat.zero_le _

namespace ChainCourse

variable {a : Actuator} {c : Chain} {u : Usage} {s : ChainCourse}
variable {tr tr₁ tr₂ : List (Nanos × ChainEvent)} {tr₀ : List QueueEvent} {since t : Nanos}
variable {news : Option StepNews} {res : Option (Except ActionError Unit)} {r : ChainRun}
variable {q queue : Queue} {run' : Option ChainRun}

/-- In each turn that is not spent waiting a step is submitted or returns, or the run ends. -/
theorem Run.moves_le (run : Run a c u tr s) :
    tr.countP (·.2.isMove) ≤
      (submissionsOf tr).length + (stepResultsOf tr).length + (isOver tr).toNat := by
  induction run with
  | start => exact Nat.zero_le _
  | @tail tr s e s' run step ih =>
      have hmove := e.isMove_le
      have hover : (isOver tr).toNat + e.isEnd.toNat ≤ (isOver tr || e.isEnd).toNat := by
        cases hend : e.isEnd with
        | false => simp
        | true =>
            obtain ⟨r, hr⟩ := step.change.isSome_of_isEnd hend
            have hgoing : isOver tr = false := Stands.going (hr ▸ run.stands)
            simp [hgoing]
      simp only [List.countP_append, List.countP_singleton, submissionsOf_append_singleton,
        stepResultsOf_append_singleton, isOver_append_singleton, List.length_append]
      cases hm : e.isMove <;> simp [hm] at hmove ⊢ <;> omega

/-- Where a run has to wait, there is a step without a result, and no limit has passed. -/
theorem Stands.of_waits (h : Stands c since tr (some r)) (hwaits : (r.next q t).2 = .waits) :
    ∃ t₁ step ticket, LastSubmission tr t₁ step ticket ∧ q.result? ticket = none ∧
      t < t₁ + step.limit ∧ ∀ d, c.limit = some d → t < since + d := by
  obtain ⟨w, hw, hnext, hlimit⟩ := ChainRun.next_eq_waits hwaits
  obtain ⟨hnone, hbefore⟩ := TicketWait.next_eq_waits hnext
  have hchain : ∀ d, c.limit = some d → t < since + d := by
    intro d hd
    exact hlimit _ d (by rw [h.limit_eq, hd, Option.map_some])
  cases h with
  | between => cases hw
  | @waiting rest before step ticket t₁ steps last results going submitted =>
      obtain rfl := Option.some.inj hw
      exact ⟨t₁, step, ticket, ⟨submitted, by simp [last]⟩, hnone, hbefore _ rfl, hchain⟩

theorem Stands.deadline_mem_alarms (h : Stands c since tr (some r)) {d : Nanos}
    (hd : c.limit = some d) : since + d ∈ r.alarms := by
  apply List.mem_append_right
  simp [h.limit_eq, hd]

/-- With the turn in which a run returns, what its steps returned is all that counts. -/
theorem Stands.conclusion (h : Stands c since tr (some r)) {res : Except ActionError Unit}
    (goes : r.Goes q t news (some res) queue run') :
    Conclusion c since t (stepResultsOf (tr ++ [(t, .turned news (some res))])) res := by
  rw [stepResultsOf_append_singleton]
  cases goes with
  | finish hw hr =>
      cases h with
      | between steps results =>
          obtain rfl := hr
          have hlength : (submissionsOf tr).length = c.steps.length := by
            rw [← steps, List.append_nil, List.length_map]
          rw [results, hlength]
          simpa [ChainEvent.stepResult?] using Conclusion.finished
      | waiting => cases hw
  | refuse hw hr =>
      have hlt := h.results_length_lt (by simp [hr])
      cases h with
      | between steps results =>
          rw [results, List.length_replicate] at hlt
          rw [results]
          exact .failed hlt
      | waiting => cases hw
  | fail hw =>
      have hlt := h.results_length_lt (by simp [hw])
      cases h with
      | between => cases hw
      | waiting steps last results =>
          rw [results, List.length_replicate] at hlt
          rw [results]
          exact .failed hlt
  | expire hw hnext hlimit hle =>
      have hlt := h.results_length_lt (by simp [hw])
      have hchain := h.limit_eq.symm.trans hlimit
      obtain ⟨d, hd, hpair⟩ := Option.map_eq_some_iff.mp hchain
      obtain ⟨rfl, rfl⟩ := Prod.mk.inj hpair
      cases h with
      | between => cases hw
      | waiting steps last results =>
          rw [results, List.length_replicate] at hlt
          rw [results]
          simpa [ChainEvent.stepResult?, Nanos.reportedMillis, Nanos.millis] using
            Conclusion.expired hlt hd hle

/-- What a step returns comes from the queue or from the limit of the step. -/
theorem Stands.step_returns (h : Stands c since tr (some r)) {x : Except ActionError Unit}
    (goes : r.Goes q t (some (.returned x)) res queue run') :
    (∃ t₁ step ticket, LastSubmission tr t₁ step ticket ∧
      (q.result? ticket = some x ∨
        t₁ + step.limit ≤ t ∧
          x = .error (.timeout (min (step.limit / 1000000) 18446744073709551615)))) ∨
    q.isClosed = true ∧ x = .error .queueClosed := by
  have waited : ∀ w, r.waiting = some w → w.next q t = .ends x →
      ∃ t₁ step ticket, LastSubmission tr t₁ step ticket ∧
        (q.result? ticket = some x ∨
          t₁ + step.limit ≤ t ∧
            x = .error (.timeout (min (step.limit / 1000000) 18446744073709551615))) := by
    intro w hw hends
    cases h with
    | between => cases hw
    | @waiting rest before step ticket t₁ steps last results going submitted =>
        obtain rfl := Option.some.inj hw
        refine ⟨t₁, step, ticket, ⟨submitted, by simp [last]⟩, ?_⟩
        rcases TicketWait.next_eq_ends hends with hres | ⟨-, deadline, d, hlimit, hle, herror⟩
        · exact .inl hres
        · obtain ⟨rfl, rfl⟩ := Prod.mk.inj (Option.some.inj hlimit)
          exact .inr ⟨hle, herror⟩
  cases goes with
  | refuse hw hr hclosed => exact .inr ⟨hclosed, rfl⟩
  | succeed hw hends => exact .inl (waited _ hw hends)
  | fail hw hends => exact .inl (waited _ hw hends)

/-- A step is submitted with all before it done. -/
theorem Stands.in_turn (h : Stands c since tr (some r)) {step : LogWarden.Step} {ticket : ℕ}
    (goes : r.Goes q t (some (.submitted step ticket)) res queue run') :
    c.steps[(submissionsOf tr).length]? = some step ∧
      stepResultsOf tr = List.replicate (submissionsOf tr).length (.ok ()) := by
  cases goes with
  | submit hw hrest =>
      cases h with
      | between steps results =>
          obtain rfl := hrest
          refine ⟨?_, results⟩
          rw [← steps, List.getElem?_append_right (by simp)]
          simp
      | waiting => cases hw

/-- Behind its end a run does nothing. -/
theorem Run.silent (run : Run a c u (tr₁ ++ tr₂) s) (hover : isOver tr₁ = true) :
    (t, .turned news res) ∉ tr₂ := by
  intro hmem
  obtain ⟨tr₃, tr₄, rfl⟩ := List.append_of_mem hmem
  obtain ⟨s₁, r, queue, run', -, -, stands, -⟩ := run.exists_turn (List.append_assoc ..).symm
  have hgoing := stands.going
  rw [isOver, List.any_append, Bool.or_eq_false_iff] at hgoing
  exact absurd (hgoing.1.symm.trans hover) Bool.false_ne_true

/-- Where time does not lag across the limit of its chain, a run that goes on is within it. -/
theorem Run.now_le (run : Run a c u tr s) {d : Nanos} (hd : c.limit = some d)
    (hserved : IsServedAt (u.now + d) tr) (hr : s.run = some r) : s.usage.now ≤ u.now + d := by
  induction run generalizing r with
  | start => exact Nat.le_add_right _ _
  | @tail tr s e s' run step ih =>
      have hstands := run.stands
      cases step with
      | others _ hnow => exact hnow.symm ▸ ih hserved.left hr
      | @turn r₁ h => exact ih hserved.left h
      | cancel => cases hr
      | @pass d₁ h =>
          rw [show s.run = some r from hr] at hstands
          exact (h r hr).2 _ (hstands.deadline_mem_alarms hd)
      | lag d₁ =>
          have hbefore := ih hserved.left hr
          rcases hserved s.usage.now d₁ (by simp) with hle | hlt
          · exact hle
          · exact absurd hbefore (Nat.not_le.mpr hlt)

/-- Where time does not lag across the limit of its chain, a run does nothing behind it. -/
theorem Run.turn_le (run : Run a c u tr s) {d : Nanos} (hd : c.limit = some d)
    (hserved : IsServedAt (u.now + d) tr) (hmem : (t, .turned news res) ∈ tr) :
    t ≤ u.now + d := by
  obtain ⟨tr₁, tr₂, rfl⟩ := List.append_of_mem hmem
  obtain ⟨s₁, r, queue, run', run₁, hr, -, rfl, -⟩ := run.exists_turn rfl
  exact run₁.now_le hd hserved.left hr

/-- Each submission is an accepted request, in the order of the submissions. -/
theorem submissions_sublist (tr : List (Nanos × ChainEvent)) :
    ((submissionsOf tr).map requestOf).Sublist (books (historyOf tr)).accepted := by
  induction tr using List.reverseRecOn with
  | nil => exact .slnil
  | append_singleton tr x ih =>
      rw [submissionsOf_append_singleton, List.map_append, historyOf_append_singleton, books_append]
      refine ih.append ?_
      obtain ⟨t, e⟩ := x
      cases h : e.submission? with
      | none => exact List.nil_sublist _
      | some y =>
          have hhistory : e.history = [.accepted (requestOf y)] := by
            cases e with
            | turned news res =>
                rcases news with _ | news
                · cases h
                · cases news with
                  | submitted step ticket =>
                      obtain rfl := Option.some.inj h
                      rfl
                  | returned => cases h
            | others | cancelled | passed | lagged => cases h
          rw [hhistory]
          exact List.Sublist.refl _

end ChainCourse

/-- A run that waits behind the limit of its chain returns. -/
theorem ChainCourse.Step.expire {a : Actuator} {s : ChainCourse} {r : ChainRun} {w : TicketWait}
    {deadline d : Nanos} (hrun : s.run = some r) (hw : r.waiting = some w)
    (hnone : s.usage.queue.result? w.ticket = none) (halarm : ∀ t ∈ w.alarm?, s.usage.now < t)
    (hlimit : r.limit = some (deadline, d)) (hle : deadline ≤ s.usage.now) :
    ChainCourse.Step a s (.turned none (some (.error (.chainTimeout d.reportedMillis))))
      { s with run := none } := by
  have hwaits : w.next s.usage.queue s.usage.now = .waits := by
    cases hl : w.limit with
    | none => simp [TicketWait.next, hnone, hl]
    | some x =>
        have hlt := halarm x.1 (by simp [TicketWait.alarm?, hl])
        simp [TicketWait.next, hnone, hl, Nat.not_le.mpr hlt]
  have step := ChainCourse.Step.turn (a := a) hrun
  simpa [ChainCourse.turn, ChainRun.next, ChainRun.news?, hw, hwaits, hlimit, hle, Turn.result?,
    Turn.rest?] using step

/-- Whatever others do with the queue, however long it takes and whenever the run is cancelled, a run
of a chain keeps to its account. -/
theorem chain_accounted {a : Actuator} {c : Chain} {u : Usage} {tr₀ : List QueueEvent}
    {tr : List (Nanos × ChainEvent)} {s : ChainCourse} (run₀ : Usage.Run a tr₀ u)
    (run : ChainCourse.Run a c u tr s) : ChainAccount a c u.now tr₀ tr s := by
  have stands := run.stands
  have hrun := run.queue_run run₀
  have l := hrun.ledger
  have hrequests : ((submissionsOf tr).map requestOf).Sublist
      (books (tr₀ ++ historyOf tr)).accepted := by
    rw [books_append]
    exact (ChainCourse.submissions_sublist tr).trans (List.sublist_append_right _ _)
  have haccepted : ∀ x ∈ submissionsOf tr, requestOf x ∈ (books (tr₀ ++ historyOf tr)).accepted :=
    fun x hx => hrequests.subset (List.mem_map_of_mem hx)
  exact {
    composed := by
      rintro parts rfl
      refine ⟨?_, ?_⟩
      · rw [Chain.steps_foldl, Chain.empty, List.nil_append]
      · rw [Chain.limit_foldl, Chain.empty, Chain.tighter]
    submits := by
      refine ⟨stands.steps_prefix, hrequests, ?_⟩
      have hnodup := l.tickets_nodup.sublist (hrequests.map (·.ticket))
      rwa [List.map_map] at hnodup
    in_turn := by
      intro tr₁ t step ticket res tr₂ htr
      obtain ⟨s₁, r, queue, run', -, -, stands₁, -, goes, -⟩ := run.exists_turn htr
      exact stands₁.in_turn goes
    step_returns := by
      intro tr₁ t x res tr₂ htr
      obtain ⟨s₁, r, queue, run', run₁, -, stands₁, -, goes, es, later⟩ := run.exists_turn htr
      rcases stands₁.step_returns goes with ⟨t₁, step, ticket, hlast, hres⟩ | ⟨hclosed, hx⟩
      · have hrun₁ := run₁.queue_run run₀
        exact .inl ⟨t₁, step, ticket, hlast, hres.imp_left (hrun₁.result?_eq_some later)⟩
      · exact .inr ⟨later.isClosed_mono hclosed, hx⟩
    returns := by
      intro tr₁ t news x tr₂ htr
      obtain ⟨s₁, r, queue, run', -, -, stands₁, -, goes, -⟩ := run.exists_turn htr
      exact stands₁.conclusion goes
    silent := by
      rintro tr₁ tr₂ rfl hover t news res
      exact run.silent hover
    on_time := by
      intro d hd hserved
      refine ⟨fun t news res hmem => run.turn_le hd hserved hmem, fun hsome => ?_⟩
      obtain ⟨r, hr⟩ := Option.isSome_iff_exists.mp hsome
      exact run.now_le hd hserved hr
    waits := by
      intro r hr hwaits
      rw [hr] at stands
      exact stands.of_waits hwaits
    few_turns := by
      have hmoves := run.moves_le
      have hsubmissions := stands.submissions_length_le
      have hresults := stands.results_length_le
      have hover := Bool.toNat_le (isOver tr)
      omega
    executed := by
      intro x hx res hres
      by_cases hbegun : requestOf x ∈ (books (tr₀ ++ historyOf tr)).begun
      · obtain ⟨htold, rfl⟩ := l.result_of_begun hbegun hres
        exact .inl ⟨l.told_prefix_collected.subset htold, (requestOf x).returns_result a⟩
      · obtain ⟨hgiven, rfl⟩ := l.result_of_not_begun (haccepted x hx) hbegun hres
        have hleft := l.givenUp_left (List.ne_nil_of_mem hgiven)
        exact .inr ⟨hbegun, hrun.cancelled_iff.mp hleft.2, rfl⟩
    resolved := by
      intro x hx n q' turns hmany
      have hlt : x.2 ∈ List.range s.usage.queue.accepted := by
        rw [← l.tickets_eq]
        exact List.mem_map_of_mem (haccepted x hx)
      exact turns.isSome_result? l (List.mem_range.mp hlt) hmany }

/-- A chain whose limit passes during its second step submits no third one, and the second one is
executed all the same, though it fails; a chain ends with the panic of its step. -/
theorem chain_accounted_of_timeout :
    (∃ c tr s, c.limit = some 2000000 ∧ ChainCourse.Run (.rehearsal true) c .start tr s ∧
      submissionsOf tr = [(⟨.line "hi", 5000000⟩, 0), (⟨.jump 2 3000000, 5000000⟩, 1)] ∧
      (2000000, .turned none (some (.error (.chainTimeout 2)))) ∈ tr ∧
      s.usage.queue.result? 1 = some (.error (.failed "jump" "slipped")) ∧
      s.usage.queue.executed = 2 ∧ ChainAccount (.rehearsal true) c 0 [] tr s) ∧
    ∃ c tr s, ChainCourse.Run (.rehearsal true) c .start tr s ∧
      submissionsOf tr = [(⟨.line "panic", 5000000⟩, 0)] ∧
      (0, .turned (some (.returned (.error (.panicked "type"))))
        (some (.error (.panicked "type")))) ∈ tr ∧
      ChainAccount (.rehearsal true) c 0 [] tr s := by
  constructor
  · let c : Chain := ⟨[⟨.line "hi", 5000000⟩, ⟨.jump 2 3000000, 5000000⟩, ⟨.line "late", 5000000⟩],
      some 2000000⟩
    have submitted := (@ChainCourse.Run.start (.rehearsal true) c .start).tail (.turn rfl)
    have typed := (((submitted.tail (.others (.worker rfl) rfl)).tail
      (.others (@Usage.Step.act _ _ 0 _ _ rfl) rfl)).tail
      (.others (@Usage.Step.act _ _ 0 _ _ rfl) rfl)).tail
      (.others (@Usage.Step.act _ _ 0 _ _ rfl) rfl)
    have told := ((typed.tail (.others (@Usage.Step.act _ _ 0 _ _ rfl) rfl)).tail
      (.others (.worker rfl) rfl)).tail (.others (.worker rfl) rfl)
    have jumping := (((told.tail (.turn rfl)).tail (.turn rfl)).tail
      (.others (.worker rfl) rfl)).tail (.others (@Usage.Step.act _ _ 0 _ _ rfl) rfl)
    have paused := (jumping.tail (.others (@Usage.Step.act _ _ 0 _ _ rfl) rfl)).tail
      (@ChainCourse.Step.pass _ _ 2000000 (by
        rintro r ⟨⟩
        exact ⟨rfl, by decide⟩))
    have expired := paused.tail (.expire rfl rfl rfl (by
      rintro t ⟨⟩
      decide) rfl (by decide))
    have later := expired.tail (@ChainCourse.Step.pass _ _ 1000000 nofun)
    have slipped := ((later.tail (.others (@Usage.Step.act _ _ 0 _ _
      (Queue.actNext_of_beats_eq_nil rfl rfl (by decide))) rfl)).tail
      (.others (.worker rfl) rfl)).tail (.others (.worker rfl) rfl)
    exact ⟨c, _, _, rfl, slipped, by decide +kernel, by decide +kernel, by decide +kernel,
      by decide +kernel, chain_accounted .refl slipped⟩
  · let c : Chain := ⟨[⟨.line "panic", 5000000⟩, ⟨.line "late", 5000000⟩], none⟩
    have submitted := (@ChainCourse.Run.start (.rehearsal true) c .start).tail (.turn rfl)
    have panicked := ((submitted.tail (.others (.worker rfl) rfl)).tail
      (.others (@Usage.Step.act _ _ 0 _ _ rfl) rfl)).tail
      (.others (@Usage.Step.act _ _ 0 _ _ rfl) rfl)
    have told := (panicked.tail (.others (.worker rfl) rfl)).tail (.others (.worker rfl) rfl)
    have returned := told.tail (.turn rfl)
    exact ⟨c, _, _, returned, rfl, by decide, chain_accounted .refl returned⟩

end LogWarden
