import LogWarden.Proofs.Queue.Order
import Mathlib.Data.List.Nodup

/-!
# When calls to shut a queue down return

The end of the worker can be waited for once. The call that was given it returns when the worker has
stopped; every later call returns in its first turn, whether the worker has stopped or not. In both
cases nothing begins any more, but in the second one an action may still be in progress.
-/

namespace LogWarden

namespace Queue

/-- Nothing is in progress, and nothing begins whatever happens to the queue. -/
structure Exited (a : Actuator) (q : Queue) : Prop where
  stopped : q.worker = .stopped
  acts_eq : q.acts = []
  quiet : ∀ tr q', Steps a q tr q' → (books tr).begun = []

variable {a : Actuator} {b : Books} {q q' : Queue} {tr : List QueueEvent}

theorem Ledger.exited (l : Ledger a b q) (h : q.worker = .stopped) : Exited a q := by
  have hleft : q.worker.hasLeft = true := by simp [h, Worker.hasLeft]
  refine ⟨h, ?_, fun tr q' steps => (steps.quiet_of_hasLeft hleft).2⟩
  obtain ⟨done, begun, ended, collected, hand, _⟩ := l.stages
  cases hand with
  | nothing _ ha => exact ha
  | acting _ hw | acted _ hw | replying _ hw => simp [h] at hw

theorem Steps.awaited_mono (steps : Steps a q tr q') (h : q.awaited = true) :
    q'.awaited = true := by
  induction steps with
  | refl => exact h
  | tail _ step ih => exact step.change.awaited_iff.mpr (.inl ih)

end Queue

variable {a : Actuator} {tr : List QueueEvent} {u u' : Usage} {es : List QueueEvent}

/-- A call returns in its first turn if the end of the worker was given away before, and otherwise
when the worker has stopped. -/
theorem Shutdown.next_eq_ends_iff {s : Shutdown} {q q' : Queue} :
    s.next q = (q', .ends ()) ↔
      s = .fresh ∧ q.awaited = true ∧ q' = q.close ∨
        s = .waiting ∧ q.worker = .stopped ∧ q' = q := by
  cases s with
  | fresh => cases h : q.awaited <;> simp [Shutdown.next, h, @eq_comm _ q']
  | waiting => by_cases h : q.worker = .stopped <;> simp [Shutdown.next, h, @eq_comm _ q']

/-- Only a call that is given the end of the worker begins to wait for it. -/
theorem User.next_eq_goes_waiting {c : User} {q q' : Queue} {now : Nanos}
    (h : c.next q now = (q', .goes (.shutdown .waiting))) :
    q.awaited = false ∧ q'.awaited = true := by
  cases c with
  | ticket w => cases hw : w.next q now <;> simp [User.next, Turn.map, hw] at h
  | chain r => cases hr : (r.next q now).2 <;> simp [User.next, Turn.map, hr] at h
  | shutdown s =>
      cases s with
      | waiting =>
          by_cases hs : q.worker = .stopped <;>
            simp [User.next, Shutdown.next, Turn.map, hs] at h
      | fresh =>
          cases ha : q.awaited with
          | true => simp [User.next, Shutdown.next, Turn.map, ha] at h
          | false =>
              simp only [User.next, Shutdown.next, Turn.map, ha, Bool.false_eq_true, if_false,
                Prod.mk.injEq, and_true] at h
              exact ⟨rfl, h ▸ rfl⟩

namespace Usage

/-- How many calls to shut the queue down wait for its worker. -/
def waitingCalls (u : Usage) : Nat := u.users.count (.shutdown .waiting)

/-- How many calls can wait for the worker. -/
def awaitedCalls (u : Usage) : Nat := if u.queue.awaited then 1 else 0

theorem awaitedCalls_le (h : u.queue.awaited = true → u'.queue.awaited = true) :
    u.awaitedCalls ≤ u'.awaitedCalls := by
  cases hu : u.queue.awaited with
  | true => simp [awaitedCalls, hu, h hu]
  | false => simp [awaitedCalls, hu]

/-- In a turn of a user nobody begins to wait for the worker but a call that is given its end. -/
theorem turn_waitingCalls_le {i : Nat} {c : User} (h : u.users[i]? = some c)
    (hle : u.waitingCalls ≤ u.awaitedCalls)
    (hgrown : u.awaitedCalls ≤ (u.turn i c).awaitedCalls) :
    (u.turn i c).waitingCalls ≤ (u.turn i c).awaitedCalls := by
  obtain ⟨hi, _⟩ := List.getElem?_eq_some_iff.mp h
  revert hgrown
  fun_cases Usage.turn u i c with
  | case1 q' c' hnext =>
      intro hgrown
      by_cases hc : c' = .shutdown .waiting
      · subst hc
        obtain ⟨hbefore, hafter⟩ := User.next_eq_goes_waiting hnext
        have hless : (u.users.set i (.shutdown .waiting)).count (.shutdown .waiting)
            ≤ u.waitingCalls + 1 := by
          rw [List.count_set hi, beq_self_eq_true, if_pos rfl]
          exact Nat.add_le_add_right (Nat.sub_le _ _) 1
        simp only [waitingCalls, awaitedCalls, hbefore, hafter, Bool.false_eq_true, if_true,
          if_false] at hle hless ⊢
        omega
      · have hless : (u.users.set i c').count (.shutdown .waiting) ≤ u.waitingCalls := by
          rw [List.count_set hi, beq_false_of_ne hc]
          exact Nat.sub_le _ _
        exact Nat.le_trans hless (Nat.le_trans hle hgrown)
  | case2 q' hnext => exact fun hgrown => Nat.le_trans hle hgrown
  | case3 q' res hnext =>
      intro hgrown
      have hless := (List.eraseIdx_sublist u.users i).count_le (.shutdown .waiting)
      exact Nat.le_trans hless (Nat.le_trans hle hgrown)

theorem Step.waitingCalls_le (step : Step a u es u') (hle : u.waitingCalls ≤ u.awaitedCalls) :
    u'.waitingCalls ≤ u'.awaitedCalls := by
  have hgrown : u.awaitedCalls ≤ u'.awaitedCalls :=
    awaitedCalls_le fun h => step.queue_steps.awaited_mono h
  cases step with
  | turn h => exact turn_waitingCalls_le h hle hgrown
  | @begin c h =>
      have hnew : c ≠ .shutdown .waiting := by cases h <;> simp
      have hsame : (u.users ++ [c]).count (.shutdown .waiting) = u.waitingCalls := by
        rw [List.count_append, List.count_singleton, beq_false_of_ne hnew]
        rfl
      exact Nat.le_trans (Nat.le_of_eq hsame) hle
  | abandon i =>
      have hless := (List.eraseIdx_sublist u.users i).count_le (.shutdown .waiting)
      exact Nat.le_trans hless hle
  | _ => exact Nat.le_trans hle hgrown

/-- At most one call waits for the worker, and none before the end of the worker was given away. -/
theorem Run.waitingCalls_le (run : Run a tr u) : u.waitingCalls ≤ u.awaitedCalls := by
  induction run with
  | refl => exact Nat.le_refl _
  | tail _ step ih => exact step.waitingCalls_le ih

end Usage

/-- In every run, a turn of a call to shut the queue down lets it return before the worker has
exited exactly if it is the first turn of the call, another call was given the end of the worker
before, and the worker has not stopped. At most one call ever waits for the worker, and when a call
has returned, no action begins any more. -/
theorem shutdown_returns_early_iff {i : Nat} {s : Shutdown} (run : Usage.Run a tr u)
    (hcall : u.users[i]? = some (.shutdown s)) :
    ((∃ q, s.next u.queue = (q, .ends ()) ∧ ¬q.Exited a) ↔
        s = .fresh ∧ .joined ∈ tr ∧ .work .stopped ∉ tr) ∧
      u.waitingCalls ≤ 1 ∧
      ∀ q, s.next u.queue = (q, .ends ()) →
        ∀ tr' q', Queue.Steps a q tr' q' → (books tr').begun = [] := by
  have hrun := run.queue_run
  refine ⟨⟨?_, ?_⟩, ?_, ?_⟩
  · rintro ⟨q, hret, hnot⟩
    rcases Shutdown.next_eq_ends_iff.mp hret with ⟨rfl, haw, rfl⟩ | ⟨_, hstop, rfl⟩
    · refine ⟨rfl, hrun.awaited_iff.mp haw, fun hmem => hnot ?_⟩
      have hclose := hrun.trans (Queue.steps_close a u.queue)
      exact (Queue.Run.ledger hclose).exited (hrun.stopped_iff.mpr hmem)
    · exact absurd (hrun.ledger.exited hstop) hnot
  · rintro ⟨rfl, hjoined, hmem⟩
    have haw := hrun.awaited_iff.mpr hjoined
    refine ⟨u.queue.close, Shutdown.next_eq_ends_iff.mpr (.inl ⟨rfl, haw, rfl⟩), fun hexit => ?_⟩
    exact hmem (hrun.stopped_iff.mp hexit.stopped)
  · exact Nat.le_trans run.waitingCalls_le (by unfold Usage.awaitedCalls; split <;> simp)
  · intro q hret tr' q' steps
    rcases Shutdown.next_eq_ends_iff.mp hret with ⟨_, _, rfl⟩ | ⟨_, hstop, rfl⟩
    · exact (steps.quiet_of_cancelled rfl).2.2
    · exact (hrun.ledger.exited hstop).quiet tr' q' steps

/-- A call that has not taken its first turn, beside one that waits for an action to end. -/
theorem exists_run_second_call :
    ∃ tr u, Usage.Run .dryRun tr u ∧ u.users = [.shutdown .waiting, .shutdown .fresh] ∧
      u.queue.worker = .awaiting ⟨0, .hold 50⟩ ∧ u.queue.awaited = true ∧
      .joined ∈ tr ∧ .work .stopped ∉ tr := by
  have acting := ((Usage.Steps.refl.tail
    (@Usage.Step.submit .dryRun .start (.hold 50) _ _ rfl)).tail
    (.worker rfl)).tail (@Usage.Step.act _ _ 0 _ _ rfl)
  have waiting := (acting.tail (.begin .shutDown)).tail (@Usage.Step.turn _ _ 0 _ rfl)
  have both := waiting.tail (.begin .shutDown)
  exact ⟨_, _, both, rfl, rfl, rfl, by decide, by decide⟩

/-- A second call returns while the first one waits. -/
theorem shutdown_returns_early_beside_first :
    ∃ tr u, Usage.Run .dryRun tr u ∧ u.users = [.shutdown .waiting, .shutdown .fresh] ∧
      ∃ q, Shutdown.fresh.next u.queue = (q, .ends ()) ∧ ¬q.Exited .dryRun := by
  obtain ⟨tr, u, run, husers, _, _, hjoined, hstopped⟩ := exists_run_second_call
  have hcall : u.users[1]? = some (.shutdown .fresh) := by simp [husers]
  have early := (shutdown_returns_early_iff run hcall).1
  exact ⟨tr, u, run, husers, early.mpr ⟨rfl, hjoined, hstopped⟩⟩

/-- So it is not true that the worker has exited whenever a call returns. -/
theorem not_exited_of_shutdown_returns :
    ¬∀ (a : Actuator) (tr : List QueueEvent) (u : Usage) (i : Nat) (s : Shutdown) (q : Queue),
      Usage.Run a tr u → u.users[i]? = some (.shutdown s) → s.next u.queue = (q, .ends ()) →
        q.Exited a := by
  intro hclaim
  obtain ⟨tr, u, run, husers, hworker, haw, _, _⟩ := exists_run_second_call
  have hcall : u.users[1]? = some (.shutdown .fresh) := by simp [husers]
  have hret : Shutdown.fresh.next u.queue = (u.queue.close, .ends ()) :=
    Shutdown.next_eq_ends_iff.mpr (.inl ⟨rfl, haw, rfl⟩)
  have hstop : u.queue.worker = .stopped := (hclaim _ tr u 1 .fresh _ run hcall hret).stopped
  simp [hworker] at hstop

end LogWarden
