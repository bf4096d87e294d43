import LogWarden.Proofs.Queue.Ledger

/-!
# After a queue has been closed

A queue is closed for good, the end of its worker is given away once, and a worker that has left
never comes back. So the history tells which of it has happened, and what follows in a history after
such an event is limited.
-/

namespace LogWarden.Queue

variable {a : Actuator} {q q' : Queue} {tr : List QueueEvent} {e : Option QueueEvent}

theorem Change.cancelled_iff (c : Change a q e q') :
    q'.cancelled = true ↔ q.cancelled = true ∨ e = some .closed := by
  cases c with
  | work c => cases c <;> simp [Queue.leave, Queue.begin, Queue.collect, Queue.tell, Queue.giveUp,
      Queue.stop, Queue.play, Queue.finish]
  | _ => simp [Queue.close, Queue.join, Queue.hold, Queue.release]

theorem Change.awaited_iff (c : Change a q e q') :
    q'.awaited = true ↔ q.awaited = true ∨ e = some .joined := by
  cases c with
  | work c => cases c <;> simp [Queue.leave, Queue.begin, Queue.collect, Queue.tell, Queue.giveUp,
      Queue.stop, Queue.play, Queue.finish]
  | _ => simp [Queue.close, Queue.join, Queue.hold, Queue.release]

theorem Change.stopped_iff (c : Change a q e q') :
    q'.worker = .stopped ↔ q.worker = .stopped ∨ e = some (.work .stopped) := by
  cases c with
  | work c =>
      cases c with
      | leave hw | begin _ hw | collect hw | tell hw | giveUp hw | stop hw =>
          simp [hw, Queue.leave, Queue.begin, Queue.collect, Queue.tell, Queue.giveUp, Queue.stop]
      | play | finish => simp [Queue.play, Queue.finish]
  | _ => simp [Queue.close, Queue.join, Queue.hold, Queue.release]

/-- What is true once an event has been shown is true exactly in the histories that show it. -/
theorem Steps.holds_iff_mem {P : Queue → Prop} {x : QueueEvent}
    (hstep : ∀ {q q' : Queue} {e : Option QueueEvent},
      Change a q e q' → (P q' ↔ P q ∨ e = some x)) (steps : Steps a q tr q') :
    P q' ↔ P q ∨ x ∈ tr := by
  induction steps with
  | refl => simp
  | tail _ step ih =>
      rw [hstep step.change, ih, List.mem_append, Option.mem_toList, or_assoc]

theorem Run.cancelled_iff (run : Run a tr q) : q.cancelled = true ↔ .closed ∈ tr := by
  simpa [Queue.start] using Steps.holds_iff_mem Change.cancelled_iff run

theorem Run.awaited_iff (run : Run a tr q) : q.awaited = true ↔ .joined ∈ tr := by
  simpa [Queue.start] using Steps.holds_iff_mem Change.awaited_iff run

theorem Run.stopped_iff (run : Run a tr q) : q.worker = .stopped ↔ .work .stopped ∈ tr := by
  simpa [Queue.start] using Steps.holds_iff_mem Change.stopped_iff run

theorem Change.hasLeft (c : Change a q e q') (h : q.worker.hasLeft = true) :
    q'.worker.hasLeft = true := by
  cases c with
  | work c =>
      cases c with
      | leave | stop => rfl
      | begin _ hw | collect hw | tell hw => simp [hw, Worker.hasLeft] at h
      | giveUp | play | finish => exact h
  | _ => exact h

/-- Whoever found a queue closed would find it closed later. -/
theorem Steps.isClosed_mono (steps : Steps a q tr q') (h : q.isClosed = true) :
    q'.isClosed = true := by
  induction steps with
  | refl => exact h
  | tail _ step ih =>
      have c := step.change
      rw [isClosed, Bool.or_eq_true] at ih ⊢
      rcases ih with hc | hl
      · exact .inl (c.cancelled_iff.mpr (.inl hc))
      · exact .inr (c.hasLeft hl)

/-- Nothing is accepted or begun in a queue that has been closed. -/
theorem Steps.quiet_of_cancelled (steps : Steps a q tr q') (h : q.cancelled = true) :
    q'.cancelled = true ∧ (books tr).accepted = [] ∧ (books tr).begun = [] := by
  induction steps with
  | refl => exact ⟨h, rfl, rfl⟩
  | tail _ step ih =>
      obtain ⟨hc, hacc, hbeg⟩ := ih
      have c := step.change
      refine ⟨c.cancelled_iff.mpr (.inl hc), ?_⟩
      rw [books_append_toList]
      cases c with
      | accept _ hopen => simp [isClosed, hc] at hopen
      | work c =>
          cases c with
          | begin _ _ hopen => simp [hc] at hopen
          | _ => exact ⟨hacc, hbeg⟩
      | _ => exact ⟨hacc, hbeg⟩

/-- Nothing begins behind a worker that has left. -/
theorem Steps.quiet_of_hasLeft (steps : Steps a q tr q') (h : q.worker.hasLeft = true) :
    q'.worker.hasLeft = true ∧ (books tr).begun = [] := by
  induction steps with
  | refl => exact ⟨h, rfl⟩
  | tail _ step ih =>
      obtain ⟨hl, hbeg⟩ := ih
      have c := step.change
      refine ⟨c.hasLeft hl, ?_⟩
      rw [books_append_toList]
      cases c with
      | work c =>
          cases c with
          | begin _ hw => simp [hw, Worker.hasLeft] at hl
          | _ => exact hbeg
      | _ => exact hbeg

end LogWarden.Queue
