import LogWarden.Action.ChainRun
import LogWarden.Proofs.Queue.Closing

/-!
# A queue and those who use it

Besides those who submit actions and close the queue there are users who take their time: waits for
tickets, runs of chains and calls to shut the queue down. Any number of them may begin at any time,
each takes its turns when it likes, and each may be abandoned before it ends. Whatever they do, what
becomes of the queue is a run of the queue.

## Implementation notes

A ticket that nobody waits for and a wait that is never begun are the same. Nothing keeps a queue
with users from losing its last holder, or time from passing while somebody could go on, so there
are more runs here than those in which the users hold the queue and are served at once.
-/

namespace LogWarden

/-- Somebody who uses a queue over time. -/
inductive User
  | ticket (w : TicketWait)
  | chain (r : ChainRun)
  | shutdown (s : Shutdown)
  deriving DecidableEq, Repr

/-- A turn of a user. -/
def User.next (q : Queue) (now : Nanos) : User → Queue × Turn User (Except ActionError Unit)
  | .ticket w => (q, (w.next q now).map .ticket id)
  | .chain r =>
    let (q, turn) := r.next q now
    (q, turn.map .chain id)
  | .shutdown s =>
    let (q, turn) := s.next q
    (q, turn.map .shutdown fun _ => .ok ())

/-- What a user has done to a queue, told from the queue before and behind its turn. -/
def Queue.news (q q' : Queue) : List QueueEvent :=
  (q'.waiting.drop q.waiting.length).map .accepted
    ++ (if q.cancelled = q'.cancelled then [] else [.closed])
    ++ (if q.awaited = q'.awaited then [] else [.joined])

/-- A queue with its users, at a time. -/
structure Usage where
  now : Nanos
  queue : Queue
  users : List User

namespace Usage

/-- A fresh queue that nobody uses yet. -/
def start : Usage := ⟨0, .start, []⟩

/-- The users that may begin: a wait for an accepted ticket with a limit or without one, a run of
any chain, and a call to shut the queue down. -/
inductive Begins (u : Usage) : User → Prop
  | wait {ticket : Nat} (h : ticket < u.queue.accepted) : Begins u (.ticket ⟨ticket, none⟩)
  | waitWithin {ticket : Nat} (h : ticket < u.queue.accepted) (d : Nanos) :
      Begins u (.ticket ⟨ticket, some (u.now + d, d)⟩)
  | run (c : Chain) : Begins u (.chain (.start c u.now))
  | shutDown : Begins u (.shutdown .fresh)

/-- What becomes of a queue and its users in a turn of the user at a position. -/
def turn (u : Usage) (i : Nat) (c : User) : Usage :=
  match c.next u.queue u.now with
  | (queue, .goes c) => { u with queue, users := u.users.set i c }
  | (queue, .waits) => { u with queue }
  | (queue, .ends _) => { u with queue, users := u.users.eraseIdx i }

@[simp] theorem turn_queue (u : Usage) (i : Nat) (c : User) :
    (u.turn i c).queue = (c.next u.queue u.now).1 := by
  fun_cases turn u i c <;> simp_all

/-- One step of a queue and its users, and what it shows of the queue. -/
inductive Step (a : Actuator) (u : Usage) : List QueueEvent → Usage → Prop
  | submit {action ticket queue} (h : u.queue.submit action = some (ticket, queue)) :
      Step a u [.accepted ⟨ticket, action⟩] { u with queue }
  | close : Step a u (u.queue.news u.queue.close) { u with queue := u.queue.close }
  | hold (h : 0 < u.queue.holders) : Step a u [] { u with queue := u.queue.hold }
  | release (h : 0 < u.queue.holders) : Step a u [] { u with queue := u.queue.release }
  | begin {c : User} (h : u.Begins c) : Step a u [] { u with users := u.users ++ [c] }
  | turn {i c} (h : u.users[i]? = some c) :
      Step a u (u.queue.news (c.next u.queue u.now).1) (u.turn i c)
  | abandon (i : Nat) : Step a u [] { u with users := u.users.eraseIdx i }
  | worker {queue w} (h : u.queue.workerNext a u.now = some (queue, w)) :
      Step a u (w.map .work).toList { u with queue }
  | act {i queue w} (h : u.queue.actNext u.now i = some (queue, w)) :
      Step a u (w.map .work).toList { u with queue }
  | pass (d : Nanos) : Step a u [] { u with now := u.now + d }

/-- Steps one after another, and what they show of the queue. -/
inductive Steps (a : Actuator) (u : Usage) : List QueueEvent → Usage → Prop
  | refl : Steps a u [] u
  | tail {tr es u₁ u₂} (steps : Steps a u tr u₁) (step : Step a u₁ es u₂) :
      Steps a u (tr ++ es) u₂

/-- A run of a queue and its users from the start. -/
abbrev Run (a : Actuator) (tr : List QueueEvent) (u : Usage) : Prop := Steps a .start tr u

end Usage

section Users
variable (a : Actuator) {q q' : Queue}

@[simp] theorem Queue.news_self (q : Queue) : q.news q = [] := by
  simp [Queue.news]

theorem Queue.news_submit {action : Action} {ticket : Nat}
    (h : q.submit action = some (ticket, q')) : q.news q' = [.accepted ⟨ticket, action⟩] := by
  obtain ⟨_, rfl, rfl⟩ := Queue.submit_eq_some_iff.mp h
  simp [Queue.news]

theorem Queue.steps_submit {action : Action} {ticket : Nat}
    (h : q.submit action = some (ticket, q')) : Queue.Steps a q (q.news q') q' := by
  rw [Queue.news_submit h]
  exact .single (.submit h)

theorem Queue.steps_close (q : Queue) : Queue.Steps a q (q.news q.close) q.close := by
  cases hc : q.cancelled with
  | true =>
      have hsame : q.close = q := by simp [Queue.close, ← hc]
      rw [hsame, Queue.news_self]
      exact .refl
  | false =>
      have hnews : q.news q.close = [.closed] := by simp [Queue.news, Queue.close, hc]
      rw [hnews]
      exact .single (.close hc)

theorem Queue.steps_close_join (q : Queue) (h : q.awaited = false) :
    Queue.Steps a q (q.news q.close.join) q.close.join := by
  have hnews : q.news q.close.join = q.news q.close ++ [.joined] := by
    simp [Queue.news, Queue.close, Queue.join, h]
  rw [hnews]
  exact (Queue.steps_close a q).tail (.join h)

/-- A step submits its action or finds the queue closed. -/
theorem Step.submit_queue {s : Step} {now : Nanos} {w : TicketWait}
    (h : s.submit q now = some (w, q')) : ∃ ticket, q.submit s.action = some (ticket, q') := by
  simp only [Step.submit, Option.map_eq_some_iff, Prod.mk.injEq] at h
  obtain ⟨⟨ticket, q₁⟩, hs, _, rfl⟩ := h
  exact ⟨ticket, hs⟩

/-- In a turn of a chain at most one action is submitted, and nothing else is done to the queue. -/
theorem ChainRun.next_queue (r : ChainRun) (q : Queue) (now : Nanos) :
    (r.next q now).1 = q ∨ ∃ action ticket, q.submit action = some (ticket, (r.next q now).1) := by
  fun_cases ChainRun.next r q now with
  | case3 _ s rest _ w q' h =>
      obtain ⟨ticket, hs⟩ := Step.submit_queue h
      exact .inr ⟨s.action, ticket, hs⟩
  | _ => exact .inl rfl

/-- A turn of a user is a few steps of the queue. -/
theorem User.next_steps (c : User) (q : Queue) (now : Nanos) :
    Queue.Steps a q (q.news (c.next q now).1) (c.next q now).1 := by
  cases c with
  | ticket w => simpa [User.next] using Queue.Steps.refl
  | chain r =>
      rcases r.next_queue q now with h | ⟨action, ticket, h⟩
      · simpa [User.next, h] using Queue.Steps.refl
      · exact Queue.steps_submit a h
  | shutdown s =>
      cases s with
      | waiting =>
          have hsame : ((Shutdown.waiting).next q).1 = q := by
            simp only [Shutdown.next]
            split <;> rfl
          simpa [User.next, hsame] using Queue.Steps.refl
      | fresh =>
          cases h : q.awaited with
          | true => simpa [User.next, Shutdown.next, h] using Queue.steps_close a q
          | false => simpa [User.next, Shutdown.next, h] using Queue.steps_close_join a q h

end Users

namespace Usage

variable {a : Actuator} {u u' : Usage} {tr es : List QueueEvent}

theorem Step.queue_steps (step : Step a u es u') : Queue.Steps a u.queue es u'.queue := by
  cases step with
  | submit h => exact .single (.submit h)
  | close => exact Queue.steps_close a u.queue
  | hold h => exact .single (.hold h)
  | release h => exact .single (.release h)
  | @turn i c h => exact u.turn_queue i c ▸ c.next_steps a u.queue u.now
  | worker h => exact .single (.worker h)
  | act h => exact .single (.act h)
  | begin | abandon | pass => exact .refl

/-- What becomes of a used queue is a run of the queue, with the same history. -/
theorem Steps.queue_steps (steps : Steps a u tr u') : Queue.Steps a u.queue tr u'.queue := by
  induction steps with
  | refl => exact .refl
  | tail _ step ih => exact ih.trans step.queue_steps

theorem Run.queue_run (run : Run a tr u) : Queue.Run a tr u.queue := Steps.queue_steps run

end Usage

end LogWarden
