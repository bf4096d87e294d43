import LogWarden.Proofs.Queue.Progress

/-!
# The account of tickets

What is known of the tickets of a queue, whoever uses it and however its users and actions take
turns: which results they have, when they get them, and what a close changes.
-/

namespace LogWarden

/-- What the submitter of a request is told when its action has ended: that all is well, the error of
the actuator, or that the action of that name panicked. To hold needs no actuator. -/
inductive Request.Returns (a : Actuator) : Request → Except ActionError Unit → Prop
  | held {ticket d} : Returns a ⟨ticket, .hold d⟩ (.ok ())
  | done {ticket action} (hold : ∀ d, action ≠ .hold d) (h : (a ticket action).ending = .done) :
      Returns a ⟨ticket, action⟩ (.ok ())
  | failed {ticket action e} (hold : ∀ d, action ≠ .hold d)
      (h : (a ticket action).ending = .failed e) : Returns a ⟨ticket, action⟩ (.error e)
  | jumpPanicked {ticket times interval}
      (h : (a ticket (.jump times interval)).ending = .panicked) :
      Returns a ⟨ticket, .jump times interval⟩ (.error (.panicked "jump"))
  | typePanicked {ticket lines pause} (h : (a ticket (.type lines pause)).ending = .panicked) :
      Returns a ⟨ticket, .type lines pause⟩ (.error (.panicked "type"))

namespace Request

variable {a : Actuator}

theorem returns_of_ending {ticket : Nat} {action : Action} (hold : ∀ d, action ≠ .hold d)
    (panic : (a ticket action).ending = .panicked →
      Returns a ⟨ticket, action⟩ (.error (.panicked action.name))) :
    Returns a ⟨ticket, action⟩ ((a ticket action).ending.result action) := by
  cases h : (a ticket action).ending with
  | done => exact .done hold h
  | failed e => exact .failed hold h
  | panicked => exact panic h

theorem returns_result (a : Actuator) (r : Request) :
    r.Returns a ((a.perform r.ticket r.action).ending.result r.action) := by
  obtain ⟨ticket, action⟩ := r
  cases action with
  | hold d => exact .held
  | jump times interval => exact returns_of_ending (by simp) .jumpPanicked
  | type lines pause => exact returns_of_ending (by simp) .typePanicked

end Request

/-- What is known of the tickets of a queue after a history. -/
structure TicketAccount (a : Actuator) (tr : List QueueEvent) (q : Queue) : Prop where
  /-- Accepted requests are numbered in the order of submission. -/
  numbered : (books tr).accepted.map (·.ticket) = List.range q.accepted
  /-- No ticket is resolved twice. -/
  once : (q.settled.map (·.1)).Nodup
  recorded : ∀ ticket res, q.result? ticket = some res ↔ (ticket, res) ∈ q.settled
  /-- A wait ends with the result of its own ticket or, before there is one, by its limit, which is
  reported in milliseconds of 64 bits. -/
  waits : ∀ (w : TicketWait) now res, w.next q now = .ends res →
    q.result? w.ticket = some res ∨
      q.result? w.ticket = none ∧ ∃ deadline limit, w.limit = some (deadline, limit) ∧
        deadline ≤ now ∧ res = .error (.timeout (min (limit / 1000000) 18446744073709551615))
  /-- A request that was taken resolves with the outcome of its own action. -/
  own : ∀ r ∈ (books tr).begun, ∀ res, q.result? r.ticket = some res → r.Returns a res
  /-- A request that was not taken resolves only because the queue was closed. -/
  refused : ∀ r ∈ (books tr).accepted, r ∉ (books tr).begun → ∀ res,
    q.result? r.ticket = some res → res = .error .queueClosed ∧ .closed ∈ tr
  /-- Nothing is accepted or taken after a close. -/
  closed : ∀ tr₁ tr₂, tr = tr₁ ++ .closed :: tr₂ →
    (books tr).accepted = (books tr₁).accepted ∧ (books tr).begun = (books tr₁).begun
  /-- Whoever submits after a close is told so. -/
  submit_closed : .closed ∈ tr → ∀ action, q.submit action = none
  /-- The worker counts the actions that it saw end, each of them once. -/
  executed : q.executed = (books tr).collected.length ∧
    (books tr).collected <+: (books tr).begun.map (Queue.outcome a)
  /-- An action has been counted when its ticket is resolved. -/
  counted : ∀ r ∈ (books tr).begun, (q.result? r.ticket).isSome →
    Queue.outcome a r ∈ (books tr).collected
  /-- A worker that waits for work has resolved every ticket. -/
  idle : ∀ now, q.worker = .resting → q.workerNext a now = none → q.AllResolved
  /-- Without a close, the worker stops only behind all accepted requests. -/
  dropped : .closed ∉ tr → q.worker = .stopped →
    (books tr).collected.map (·.1) = (books tr).accepted
  /-- A ticket is resolved after a number of turns that does not depend on what others do. -/
  resolved : ∀ ticket < q.accepted, ∀ n q', Queue.Turns a q n q' →
    Queue.turnsLeft a ticket q < n → (q'.result? ticket).isSome
  /-- Until a ticket is resolved, the worker or an action can go on. -/
  goes_on : ∀ ticket < q.accepted, q.result? ticket = none → ∃ q', Queue.WorkStep a q q'

namespace Queue

variable {a : Actuator} {q q' : Queue} {tr tr₁ tr₂ : List QueueEvent} {ticket n : Nat}

/-- Where a queue is closed, the requests that are accepted and those that are taken stay the same.
-/
theorem Run.same_of_closed (run : Run a (tr₁ ++ .closed :: tr₂) q) :
    (books (tr₁ ++ .closed :: tr₂)).accepted = (books tr₁).accepted ∧
      (books (tr₁ ++ .closed :: tr₂)).begun = (books tr₁).begun := by
  rw [List.append_cons] at run ⊢
  obtain ⟨q₂, before, behind⟩ := run.split
  have hclosed : q₂.cancelled = true := (Run.cancelled_iff before).mpr (by simp)
  obtain ⟨_, hacc, hbeg⟩ := behind.quiet_of_cancelled hclosed
  rw [books_append, books_append_singleton]
  simp [Books.append, Books.note, hacc, hbeg]

/-- A ticket has its result after at most as many turns as were left for it. -/
theorem Turns.isSome_result? (turns : Turns a q n q') {b : Books} (l : Ledger a b q)
    (hlt : ticket < q.accepted) (hmany : turnsLeft a ticket q < n) :
    (q'.result? ticket).isSome := by
  by_contra hnone
  rw [Option.not_isSome_iff_eq_none] at hnone
  have hle := turns.add_turnsLeft_le l hlt hnone
  omega

end Queue

/-- In every run of a queue and its users the tickets are accounted for: none is resolved twice or
with another action's outcome, none is lost, and none is executed behind a close. -/
theorem tickets_accounted {a : Actuator} {tr : List QueueEvent} {u : Usage}
    (run : Usage.Run a tr u) : TicketAccount a tr u.queue := by
  have hrun := run.queue_run
  have l := hrun.ledger
  have hclosed := hrun.cancelled_iff
  exact {
    numbered := l.tickets_eq
    once := l.settled_nodup
    recorded := fun ticket res => Queue.find?_fst_eq_some_iff l.settled_nodup
    waits := fun w now res h => TicketWait.next_eq_ends h
    own := fun r hr res h => by
      rw [(l.result_of_begun hr h).2]
      exact r.returns_result a
    refused := fun r hr hb res h => by
      obtain ⟨hg, hres⟩ := l.result_of_not_begun hr hb h
      have hleft := l.givenUp_left (List.ne_nil_of_mem hg)
      exact ⟨hres, hclosed.mp hleft.2⟩
    closed := fun tr₁ tr₂ htr => by
      subst htr
      exact hrun.same_of_closed
    submit_closed := fun h action => by
      rw [Queue.submit_eq_none_iff, Queue.isClosed, hclosed.mpr h, Bool.true_or]
    executed := ⟨l.executed_eq, l.collected_prefix_begun⟩
    counted := fun r hr h => by
      obtain ⟨res, hres⟩ := Option.isSome_iff_exists.mp h
      exact l.told_prefix_collected.subset (l.result_of_begun hr hres).1
    idle := fun now hw h => l.allResolved (.inl hw) (Queue.waiting_eq_nil_of_resting hw h)
    dropped := fun h hw => by
      have hopen : u.queue.cancelled = false := by simpa [← hclosed] using h
      exact l.collected_of_hasLeft (by simp [hw, Worker.hasLeft]) hopen
    resolved := fun ticket hlt n q' turns hmany => turns.isSome_result? l hlt hmany
    goes_on := fun ticket hlt hnone => l.exists_workStep hlt hnone }

/-- Of five requests the first fails, the second panics and the third ends well; a close during the
fourth lets it end as usual and gives up the fifth. -/
theorem tickets_accounted_of_close_midway :
    ∃ tr u, Usage.Run (.rehearsal true) tr u ∧
      u.queue.settled = [(4, .error .queueClosed), (3, .ok ()), (2, .ok ()),
        (1, .error (.panicked "type")), (0, .error (.failed "jump" "slipped"))] ∧
      u.queue.executed = 4 ∧ TicketAccount (.rehearsal true) tr u.queue := by
  have submitted := ((((Usage.Steps.refl.tail
    (@Usage.Step.submit (.rehearsal true) .start (.jump 2 5) _ _ rfl)).tail
    (@Usage.Step.submit _ _ (.line "panic") _ _ rfl)).tail
    (@Usage.Step.submit _ _ (.hold 3) _ _ rfl)).tail
    (@Usage.Step.submit _ _ (.line "hi") _ _ rfl)).tail
    (@Usage.Step.submit _ _ (.line "late") _ _ rfl)
  have jumping := ((submitted.tail (.worker rfl)).tail
    (@Usage.Step.act _ _ 0 _ _ rfl)).tail (@Usage.Step.act _ _ 0 _ _ rfl)
  have slipped := (((jumping.tail (.pass 5)).tail
    (@Usage.Step.act _ _ 0 _ _ rfl)).tail (.worker rfl)).tail (.worker rfl)
  have panicked := ((((slipped.tail (.worker rfl)).tail (@Usage.Step.act _ _ 0 _ _ rfl)).tail
    (@Usage.Step.act _ _ 0 _ _ rfl)).tail (.worker rfl)).tail (.worker rfl)
  have holding := ((panicked.tail (.worker rfl)).tail
    (@Usage.Step.act _ _ 0 _ _ rfl)).tail (.pass 3)
  have held := ((holding.tail (@Usage.Step.act _ _ 0 _ _ rfl)).tail
    (.worker rfl)).tail (.worker rfl)
  have closed := ((held.tail (.worker rfl)).tail (@Usage.Step.act _ _ 0 _ _ rfl)).tail .close
  have ended := ((closed.tail (@Usage.Step.act _ _ 0 _ _ rfl)).tail
    (@Usage.Step.act _ _ 0 _ _ rfl)).tail (@Usage.Step.act _ _ 0 _ _ rfl)
  have told := (ended.tail (.worker rfl)).tail (.worker rfl)
  have stopped := ((told.tail (.worker rfl)).tail (.worker rfl)).tail (.worker rfl)
  exact ⟨_, _, stopped, rfl, rfl, tickets_accounted stopped⟩

end LogWarden
