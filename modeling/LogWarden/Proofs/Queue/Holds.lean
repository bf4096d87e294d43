import LogWarden.Proofs.Queue.Tickets
import LogWarden.Proofs.Queue.Usage
import Mathlib.Data.List.Induction

/-!
# Requests to hold

To hold needs no input device, so no actuator can cut it short: the submitter of a request to hold
is told that it has ended well only when the time has passed.
-/

namespace LogWarden

theorem mem_books_ended {tr : List QueueEvent} {x : Request × Ending} :
    x ∈ (books tr).ended ↔ .work (.ended x.1 x.2) ∈ tr := by
  induction tr using List.reverseRecOn with
  | nil => simp [Books.empty]
  | append_singleton tr y ih =>
      rw [books_append_singleton, List.mem_append, List.mem_singleton, ← ih]
      fun_cases Books.note (books tr) y <;> simp [Prod.ext_iff]

namespace Queue

variable {a : Actuator} {q : Queue} {tr : List QueueEvent}

theorem work_not_mem_news {q' : Queue} {w : QueueWork} : .work w ∉ q.news q' := by
  simp only [news, List.mem_append, List.mem_map]
  split_ifs <;> simp

theorem Ledger.ticket_lt {b : Books} (l : Ledger a b q) {r : Request} (hr : r ∈ b.begun) :
    r.ticket < q.accepted := by
  have hmem : r.ticket ∈ b.accepted.map (·.ticket) :=
    List.mem_map_of_mem (l.mem_accepted.mpr (.inl hr))
  rw [l.tickets_eq] at hmem
  exact List.mem_range.mp hmem

theorem Ledger.told_subset_ended {b : Books} (l : Ledger a b q) : b.told ⊆ b.ended := by
  obtain ⟨done, begun, ended, collected, -, -, he, -, ht⟩ := l.stages
  rw [ht, he, List.map_append]
  exact List.subset_append_left ..

/-- A turn of the worker begins an action at most, and ends none. -/
theorem workerNext_acts {now : Nanos} {q' : Queue} {w : Option QueueWork}
    (h : q.workerNext a now = some (q', w)) :
    (q'.acts = q.acts ∨ ∃ r, q'.acts = q.acts ++ [.start a now r]) ∧
      ∀ r e, w ≠ some (.ended r e) := by
  revert h
  fun_cases q.workerNext a now with
  | case2 _ _ r =>
      rintro ⟨⟩
      exact ⟨.inr ⟨r, rfl⟩, nofun⟩
  | case4 | case9 => exact nofun
  | case5 =>
      intro h
      obtain ⟨e, -, ⟨⟩⟩ := Option.map_eq_some_iff.mp h
      exact ⟨.inl rfl, nofun⟩
  | _ =>
      rintro ⟨⟩
      exact ⟨.inl rfl, nofun⟩

/-- An action goes on where it does not pause. -/
theorem actNext_cases {now : Nanos} {i : ℕ} {q' : Queue} {w : Option QueueWork}
    (h : q.actNext now i = some (q', w)) :
    ∃ act, q.acts[i]? = some act ∧ act.pausedUntil ≤ now ∧
      ((∃ x rest, act.beats = x :: rest ∧ q' = q.play i act now x rest ∧ w = none) ∨
        act.beats = [] ∧ q' = q.finish i act ∧ w = some (.ended act.request act.ending)) := by
  cases hi : q.acts[i]? with
  | none => simp [actNext, hi] at h
  | some act =>
      simp only [actNext, hi, Option.ite_none_left_eq_some] at h
      obtain ⟨hpaused, h⟩ := h
      refine ⟨act, rfl, Nat.le_of_not_lt hpaused, ?_⟩
      cases hb : act.beats with
      | nil =>
          simp only [hb, Option.some.injEq, Prod.mk.injEq] at h
          exact .inr ⟨rfl, h.1.symm, h.2.symm⟩
      | cons x rest =>
          simp only [hb, Option.some.injEq, Prod.mk.injEq] at h
          exact .inl ⟨x, rest, rfl, h.1.symm, h.2.symm⟩

end Queue

theorem User.next_acts (c : User) (q : Queue) (now : Nanos) : (c.next q now).1.acts = q.acts := by
  cases c with
  | ticket w => rfl
  | chain r =>
      rcases r.next_queue q now with h | ⟨action, ticket, h⟩
      · exact congrArg Queue.acts h
      · obtain ⟨-, -, hq⟩ := Queue.submit_eq_some_iff.mp h
        have hnext : (User.next q now (.chain r)).1 = (r.next q now).1 := rfl
        rw [hnext, hq]
  | shutdown s =>
      simp only [User.next]
      fun_cases Shutdown.next q s <;> rfl

/-- A request to hold for a duration has not ended before a time. -/
structure HoldsUntil (ticket : ℕ) (d due : Nanos) (tr : List QueueEvent) (u : Usage) : Prop where
  accepted : ⟨ticket, .hold d⟩ ∈ (books tr).accepted
  due_le : due ≤ u.now + d
  acting : ∀ act ∈ u.queue.acts, act.request = ⟨ticket, .hold d⟩ →
    act.beats = [.pause d] ∨ act.beats = [] ∧ due ≤ act.pausedUntil
  ended : ∀ e, .work (.ended ⟨ticket, .hold d⟩ e) ∈ tr → due ≤ u.now

namespace HoldsUntil

variable {a : Actuator} {u u' : Usage} {tr es : List QueueEvent} {ticket : ℕ} {d due : Nanos}

theorem accepted_append (h : HoldsUntil ticket d due tr u) (es : List QueueEvent) :
    ⟨ticket, .hold d⟩ ∈ (books (tr ++ es)).accepted := by
  rw [books_append]
  exact List.mem_append_left _ h.accepted

/-- What leaves the actions in progress alone does not end them. -/
theorem of_acts_eq (h : HoldsUntil ticket d due tr u) (hacts : u'.queue.acts = u.queue.acts)
    (hnow : u.now ≤ u'.now) (hes : ∀ r e, .work (.ended r e) ∉ es) :
    HoldsUntil ticket d due (tr ++ es) u' where
  accepted := h.accepted_append es
  due_le := Nat.le_trans h.due_le (Nat.add_le_add_right hnow d)
  acting := hacts ▸ h.acting
  ended e he := by
    rcases List.mem_append.mp he with he | he
    · exact Nat.le_trans (h.ended e he) hnow
    · exact absurd he (hes _ e)

theorem act (h : HoldsUntil ticket d due tr u) {i : ℕ} {queue : Queue} {w : Option QueueWork}
    (hact : u.queue.actNext u.now i = some (queue, w)) :
    HoldsUntil ticket d due (tr ++ (w.map QueueEvent.work).toList) { u with queue } := by
  obtain ⟨act, hi, hpaused, ⟨x, rest, hbeats, rfl, rfl⟩ | ⟨hbeats, rfl, rfl⟩⟩ :=
    Queue.actNext_cases hact
  · refine ⟨h.accepted_append _, h.due_le, ?_, by simpa using h.ended⟩
    intro act' hmem hr
    have hmem : act' ∈ u.queue.acts.set i (act.play u.now rest x).1 := hmem
    rcases List.mem_or_eq_of_mem_set hmem with hmem | heq
    · exact h.acting act' hmem hr
    · rw [heq, Act.play_request] at hr
      rcases h.acting act (List.mem_of_getElem? hi) hr with hb | ⟨hb, -⟩
      · obtain ⟨rfl, rfl⟩ := List.cons.inj (hbeats.symm.trans hb)
        exact .inr ⟨congrArg Act.beats heq, heq ▸ h.due_le⟩
      · cases hbeats.symm.trans hb
  · refine ⟨h.accepted_append _, h.due_le, ?_, ?_⟩
    · exact fun act' hmem => h.acting act' (List.mem_of_mem_eraseIdx hmem)
    · intro e he
      rcases List.mem_append.mp he with he | he
      · exact h.ended e he
      · obtain ⟨hr, -⟩ : ⟨ticket, .hold d⟩ = act.request ∧ e = act.ending := by simpa using he
        rcases h.acting act (List.mem_of_getElem? hi) hr.symm with hb | ⟨-, hdue⟩
        · cases hbeats.symm.trans hb
        · exact Nat.le_trans hdue hpaused

theorem step (h : HoldsUntil ticket d due tr u) (step : Usage.Step a u es u') :
    HoldsUntil ticket d due (tr ++ es) u' := by
  have hnews (q' : Queue) : ∀ r e, .work (.ended r e) ∉ u.queue.news q' :=
    fun _ _ => Queue.work_not_mem_news
  cases step with
  | submit hs =>
      obtain ⟨-, -, rfl⟩ := Queue.submit_eq_some_iff.mp hs
      exact h.of_acts_eq rfl (Nat.le_refl _) (by simp)
  | close => exact h.of_acts_eq rfl (Nat.le_refl _) (hnews _)
  | hold | release | begin | abandon => exact h.of_acts_eq rfl (Nat.le_refl _) (by simp)
  | @turn i c hc =>
      refine h.of_acts_eq ?_ ?_ (hnews _)
      · rw [Usage.turn_queue, User.next_acts]
      · fun_cases Usage.turn u i c <;> exact Nat.le_refl _
  | pass d => exact h.of_acts_eq rfl (Nat.le_add_right ..) (by simp)
  | @worker queue w hw =>
      obtain ⟨hacts, hnone⟩ := Queue.workerNext_acts hw
      have hes : ∀ r e, .work (.ended r e) ∉ (w.map QueueEvent.work).toList := by simpa using hnone
      rcases hacts with hacts | ⟨r, hacts⟩
      · exact h.of_acts_eq hacts (Nat.le_refl _) hes
      · refine ⟨h.accepted_append _, h.due_le, ?_, ?_⟩
        · intro act hmem hr
          rw [hacts, List.mem_append, List.mem_singleton] at hmem
          rcases hmem with hmem | rfl
          · exact h.acting act hmem hr
          · obtain rfl : r = ⟨ticket, .hold d⟩ := hr
            exact .inl rfl
        · intro e he
          exact h.ended e ((List.mem_append.mp he).resolve_right (hes _ e))
  | act hact => exact h.act hact

/-- A request to hold that has just been accepted. -/
theorem of_submit {q : Queue} (l : Queue.Ledger a (books tr) u.queue)
    (hs : u.queue.submit (.hold d) = some (u.queue.accepted, q)) :
    HoldsUntil u.queue.accepted d (u.now + d)
      (tr ++ [.accepted ⟨u.queue.accepted, .hold d⟩]) { u with queue := q } := by
  obtain ⟨-, -, rfl⟩ := Queue.submit_eq_some_iff.mp hs
  have hnew : ⟨u.queue.accepted, .hold d⟩ ∉ (books tr).begun := fun hmem =>
    Nat.lt_irrefl _ (l.ticket_lt hmem)
  refine ⟨by simp [Books.note], Nat.le_refl _, ?_, ?_⟩
  · intro act hmem hr
    have hbegun : act.request ∈ (books tr).begun.drop (books tr).ended.length :=
      l.acts_eq ▸ List.mem_map_of_mem hmem
    exact absurd (hr ▸ List.mem_of_mem_drop hbegun) hnew
  · intro e he
    have hended : (⟨u.queue.accepted, .hold d⟩, e) ∈ (books tr).ended :=
      mem_books_ended.mpr (by simpa using he)
    exact absurd (l.ended_prefix_begun.1.subset (List.mem_map_of_mem hended)) hnew

/-- The submitter is told that it has ended well when the time has passed, or that the queue was
closed. -/
theorem of_result (h : HoldsUntil ticket d due tr u) (l : Queue.Ledger a (books tr) u.queue)
    {r : Except ActionError Unit} (hr : u.queue.result? ticket = some r) :
    r = .ok () ∧ due ≤ u.now ∨ r = .error .queueClosed := by
  by_cases hbegun : ⟨ticket, .hold d⟩ ∈ (books tr).begun
  · obtain ⟨htold, rfl⟩ := l.result_of_begun hbegun hr
    exact .inl ⟨rfl, h.ended _ (mem_books_ended.mp (l.told_subset_ended htold))⟩
  · exact .inr (l.result_of_not_begun h.accepted hbegun hr).2

/-- A wait for it that is not given up before goes on until the time has passed, unless the queue is
closed. -/
theorem due_le_of_ends {w : TicketWait} (h : HoldsUntil w.ticket d due tr u)
    (l : Queue.Ledger a (books tr) u.queue) (hlimit : ∀ t ∈ w.alarm?, due ≤ t)
    {r : Except ActionError Unit} (hr : w.next u.queue u.now = .ends r)
    (hopen : r ≠ .error .queueClosed) : due ≤ u.now := by
  rcases TicketWait.next_eq_ends hr with hres | ⟨-, deadline, limit, hlim, hle, -⟩
  · rcases h.of_result l hres with ⟨-, hdue⟩ | hclosed
    · exact hdue
    · exact absurd hclosed hopen
  · exact Nat.le_trans (hlimit deadline (by rw [TicketWait.alarm?, hlim]; rfl)) hle

end HoldsUntil

end LogWarden
