import LogWarden.Action.Chain
import LogWarden.Action.Queue
import LogWarden.Turn

/-! # Waiting for actions

Whoever submits an action may wait for its end, up to a limit. To give up affects the wait alone: the
action still runs. A chain submits each step when the one before has ended well. -/

namespace LogWarden

/-- A wait for a ticket. -/
structure TicketWait where
  ticket : Nat
  /-- The time at which the wait is given up, and the limit that led to it. -/
  limit : Option (Nanos × Nanos)
  deriving DecidableEq, Repr

namespace TicketWait

/-- A turn of waiting: the result comes before the limit. -/
def next (w : TicketWait) (q : Queue) (now : Nanos) : Turn TicketWait (Except ActionError Unit) :=
  match q.result? w.ticket with
  | some r => .ends r
  | none =>
    match w.limit with
    | some (deadline, limit) =>
      if deadline ≤ now then .ends (.error (.timeout limit.reportedMillis)) else .waits
    | none => .waits

/-- When a wait goes on by itself. -/
def alarm? (w : TicketWait) : Option Nanos := w.limit.map (·.1)

section Turns
variable {w w' : TicketWait} {q : Queue} {now : Nanos} {res : Except ActionError Unit}

theorem next_ne_goes : w.next q now ≠ .goes w' := by
  fun_cases next w q now <;> exact nofun

/-- A wait ends with the result of its ticket or, before there is one, behind its limit. -/
theorem next_eq_ends (h : w.next q now = .ends res) :
    q.result? w.ticket = some res ∨
      q.result? w.ticket = none ∧ ∃ deadline limit, w.limit = some (deadline, limit) ∧
        deadline ≤ now ∧ res = .error (.timeout limit.reportedMillis) := by
  revert h
  fun_cases next w q now with
  | case1 r hr =>
      rintro ⟨⟩
      exact .inl hr
  | case2 hr deadline limit hl hle =>
      rintro ⟨⟩
      exact .inr ⟨hr, deadline, limit, hl, hle, rfl⟩
  | case3 | case4 => exact nofun

theorem next_eq_waits (h : w.next q now = .waits) :
    q.result? w.ticket = none ∧ ∀ t ∈ w.alarm?, now < t := by
  revert h
  fun_cases next w q now with
  | case1 | case2 => exact nofun
  | case3 hr deadline limit hl hle =>
      intro _
      refine ⟨hr, fun t ht => ?_⟩
      obtain rfl : deadline = t := by simpa [alarm?, hl] using ht
      exact Nat.lt_of_not_ge hle
  | case4 hr hl =>
      intro _
      exact ⟨hr, by simp [alarm?, hl]⟩

end Turns

end TicketWait

/-- Submits a step: the wait for it, unless the queue is closed. -/
def Step.submit (s : Step) (q : Queue) (now : Nanos) : Option (TicketWait × Queue) :=
  (q.submit s.action).map fun (ticket, q) => (⟨ticket, some (now + s.limit, s.limit)⟩, q)

/-- A chain that is being run. -/
structure ChainRun where
  /-- The steps that have not been submitted. -/
  rest : List Step
  /-- The wait for the step that was submitted last. -/
  waiting : Option TicketWait
  /-- The time at which the run is given up, and the limit that led to it. -/
  limit : Option (Nanos × Nanos)
  deriving DecidableEq, Repr

namespace ChainRun

/-- A run of a chain that begins now. -/
def start (c : Chain) (now : Nanos) : ChainRun :=
  ⟨c.steps, none, c.limit.map fun d => (now + d, d)⟩

/-- A turn of a run: the next step is submitted, or the wait for the last one goes on. The limit of
the run counts only where it would wait. -/
def next (r : ChainRun) (q : Queue) (now : Nanos) :
    Queue × Turn ChainRun (Except ActionError Unit) :=
  match r.waiting with
  | none =>
    match r.rest with
    | [] => (q, .ends (.ok ()))
    | s :: rest =>
      match s.submit q now with
      | none => (q, .ends (.error .queueClosed))
      | some (w, q) => (q, .goes { r with rest, waiting := some w })
  | some w =>
    match w.next q now with
    | .ends (.ok _) => (q, .goes { r with waiting := none })
    | .ends (.error e) => (q, .ends (.error e))
    | .goes w => (q, .goes { r with waiting := some w })
    | .waits =>
      match r.limit with
      | some (deadline, limit) =>
        if deadline ≤ now then (q, .ends (.error (.chainTimeout limit.reportedMillis)))
        else (q, .waits)
      | none => (q, .waits)

/-- When a run that waits goes on by itself. -/
def alarms (r : ChainRun) : List Nanos :=
  (r.waiting.bind TicketWait.alarm?).toList ++ (r.limit.map (·.1)).toList

end ChainRun

end LogWarden
