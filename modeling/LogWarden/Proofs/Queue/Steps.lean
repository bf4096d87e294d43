import LogWarden.Action.Queue

/-!
# What can happen to a queue

A step of a queue is anything that its holders, its worker or an action in progress can do to it, at
any time. A run is any sequence of steps from a fresh queue; what it shows is kept in its history.
`Change` says for each step what becomes of the queue, and all invariants are derived from it.

## Implementation notes

A holder submits or closes in one step, since neither is ever suspended. The worker is suspended
between taking a request, seeing how its action ended and telling the submitter, so these are steps
of their own, and an action goes on in steps that the worker has no part in.
-/

namespace LogWarden

/-- What a run of a queue shows. -/
inductive QueueEvent
  | accepted (r : Request)
  /-- The queue was closed, for the first time. -/
  | closed
  /-- A call to shut the queue down was given the end of the worker to wait for. -/
  | joined
  | work (w : QueueWork)
  deriving DecidableEq, Repr

/-- What a history tells of requests, in the order of the history. -/
structure Books where
  accepted : List Request
  /-- Requests whose actions have begun. -/
  begun : List Request
  ended : List (Request × Ending)
  /-- Requests of which the worker has seen how their actions ended. -/
  collected : List (Request × Ending)
  /-- Requests whose submitters have been told how their actions ended. -/
  told : List (Request × Ending)
  givenUp : List Request

namespace Books

def empty : Books := ⟨[], [], [], [], [], []⟩

/-- The books after one more event. -/
def note (b : Books) : QueueEvent → Books
  | .accepted r => { b with accepted := b.accepted ++ [r] }
  | .work (.began r) => { b with begun := b.begun ++ [r] }
  | .work (.ended r e) => { b with ended := b.ended ++ [(r, e)] }
  | .work (.collected r e) => { b with collected := b.collected ++ [(r, e)] }
  | .work (.told r e) => { b with told := b.told ++ [(r, e)] }
  | .work (.gaveUp r) => { b with givenUp := b.givenUp ++ [r] }
  | .work .stopped | .closed | .joined => b

/-- The books after a step. -/
def after (b : Books) (e : Option QueueEvent) : Books := e.elim b b.note

/-- The books of one history and of another one behind it. -/
def append (b b' : Books) : Books :=
  ⟨b.accepted ++ b'.accepted, b.begun ++ b'.begun, b.ended ++ b'.ended,
    b.collected ++ b'.collected, b.told ++ b'.told, b.givenUp ++ b'.givenUp⟩

theorem append_empty (b : Books) : b.append .empty = b := by
  simp [append, empty]

theorem append_note (b b' : Books) (x : QueueEvent) :
    (b.append b').note x = b.append (b'.note x) := by
  fun_cases note b' x <;> simp [note, append]

end Books

/-- The books of a history. -/
def books (tr : List QueueEvent) : Books := tr.foldl Books.note .empty

@[simp] theorem books_nil : books [] = .empty := rfl

@[simp] theorem books_append_singleton (tr : List QueueEvent) (x : QueueEvent) :
    books (tr ++ [x]) = (books tr).note x := by
  simp [books]

theorem books_append_toList (tr : List QueueEvent) (e : Option QueueEvent) :
    books (tr ++ e.toList) = (books tr).after e := by
  cases e <;> simp [Books.after]

theorem books_append (tr tr' : List QueueEvent) :
    books (tr ++ tr') = (books tr).append (books tr') := by
  have hfold : ∀ b, tr'.foldl Books.note ((books tr).append b)
      = (books tr).append (tr'.foldl Books.note b) := by
    induction tr' with
    | nil => exact fun b => rfl
    | cons x tr' ih =>
        intro b
        rw [List.foldl_cons, Books.append_note, ih, List.foldl_cons]
  calc books (tr ++ tr')
      _ = tr'.foldl Books.note ((books tr).append .empty) := by
          simp only [books, List.foldl_append, Books.append_empty]
      _ = (books tr).append (books tr') := hfold .empty

namespace Queue

/-- One step of a queue, and what it shows. -/
inductive Step (a : Actuator) (q : Queue) : Option QueueEvent → Queue → Prop
  | submit {action ticket q'} (h : q.submit action = some (ticket, q')) :
      Step a q (some (.accepted ⟨ticket, action⟩)) q'
  | close (h : q.cancelled = false) : Step a q (some .closed) q.close
  | join (h : q.awaited = false) : Step a q (some .joined) q.join
  | hold (h : 0 < q.holders) : Step a q none q.hold
  | release (h : 0 < q.holders) : Step a q none q.release
  | worker {now w q'} (h : q.workerNext a now = some (q', w)) : Step a q (w.map .work) q'
  | act {now i w q'} (h : q.actNext now i = some (q', w)) : Step a q (w.map .work) q'

/-- Steps one after another, and what they show. -/
inductive Steps (a : Actuator) (q : Queue) : List QueueEvent → Queue → Prop
  | refl : Steps a q [] q
  | tail {tr e q₁ q₂} (steps : Steps a q tr q₁) (step : Step a q₁ e q₂) :
      Steps a q (tr ++ e.toList) q₂

/-- A run of a queue from its start. -/
abbrev Run (a : Actuator) (tr : List QueueEvent) (q : Queue) : Prop := Steps a .start tr q

/-- What becomes of a queue in a turn of its worker or of an action, and what the queue was like. -/
inductive WorkChange (a : Actuator) (q : Queue) : Option QueueWork → Queue → Prop
  | leave (hw : q.worker = .resting)
      (h : q.cancelled = true ∨ q.waiting = [] ∧ q.holders = 0) : WorkChange a q none q.leave
  | begin (now : Nanos) {r rest} (hw : q.worker = .resting) (hc : q.cancelled = false)
      (h : q.waiting = r :: rest) : WorkChange a q (some (.began r)) (q.begin a now r rest)
  | collect {r e} (hw : q.worker = .awaiting r) (h : q.ending? r.ticket = some e) :
      WorkChange a q (some (.collected r e)) (q.collect r e)
  | tell {r e} (hw : q.worker = .replying r e) :
      WorkChange a q (some (.told r e)) (q.tell r e)
  | giveUp {r rest} (hw : q.worker = .leaving) (h : q.waiting = r :: rest) :
      WorkChange a q (some (.gaveUp r)) (q.giveUp r rest)
  | stop (hw : q.worker = .leaving) (h : q.waiting = []) :
      WorkChange a q (some .stopped) q.stop
  | play (now : Nanos) {i act b rest} (h : q.acts[i]? = some act) (hb : act.beats = b :: rest) :
      WorkChange a q none (q.play i act now b rest)
  | finish {i act} (h : q.acts[i]? = some act) (hb : act.beats = []) :
      WorkChange a q (some (.ended act.request act.ending)) (q.finish i act)

/-- What becomes of a queue in one step. -/
inductive Change (a : Actuator) (q : Queue) : Option QueueEvent → Queue → Prop
  | accept (action : Action) (h : q.isClosed = false) :
      Change a q (some (.accepted ⟨q.accepted, action⟩))
        { q with accepted := q.accepted + 1, waiting := q.waiting ++ [⟨q.accepted, action⟩] }
  | close (h : q.cancelled = false) : Change a q (some .closed) q.close
  | join (h : q.awaited = false) : Change a q (some .joined) q.join
  | hold (h : 0 < q.holders) : Change a q none q.hold
  | release (h : 0 < q.holders) : Change a q none q.release
  | work {w q'} (c : WorkChange a q w q') : Change a q (w.map .work) q'

variable {a : Actuator} {q q' : Queue} {tr tr' : List QueueEvent} {e : Option QueueEvent}

theorem submit_eq_none_iff {action : Action} : q.submit action = none ↔ q.isClosed = true := by
  simp [submit]

theorem submit_eq_some_iff {action : Action} {ticket : Nat} :
    q.submit action = some (ticket, q') ↔
      q.isClosed = false ∧ ticket = q.accepted ∧
        q' = { q with
          accepted := q.accepted + 1, waiting := q.waiting ++ [⟨q.accepted, action⟩] } := by
  cases h : q.isClosed <;> simp [submit, h, eq_comm]

theorem workChange_of_workerNext {now : Nanos} {w : Option QueueWork}
    (h : q.workerNext a now = some (q', w)) : WorkChange a q w q' := by
  cases hw : q.worker with
  | resting =>
      cases hc : q.cancelled with
      | true =>
          simp only [workerNext, hw, hc, if_true, Option.some.injEq, Prod.mk.injEq] at h
          obtain ⟨rfl, rfl⟩ := h
          exact .leave hw (.inl hc)
      | false =>
          cases hq : q.waiting with
          | cons r rest =>
              simp only [workerNext, hw, hc, hq, Bool.false_eq_true, if_false, Option.some.injEq,
                Prod.mk.injEq] at h
              obtain ⟨rfl, rfl⟩ := h
              exact .begin now hw hc hq
          | nil =>
              simp only [workerNext, hw, hc, hq, Bool.false_eq_true, if_false,
                Option.ite_none_right_eq_some, Option.some.injEq, Prod.mk.injEq] at h
              obtain ⟨hh, rfl, rfl⟩ := h
              exact .leave hw (.inr ⟨hq, hh⟩)
  | awaiting r =>
      simp only [workerNext, hw, Option.map_eq_some_iff, Prod.mk.injEq] at h
      obtain ⟨e, he, rfl, rfl⟩ := h
      exact .collect hw he
  | replying r e =>
      simp only [workerNext, hw, Option.some.injEq, Prod.mk.injEq] at h
      obtain ⟨rfl, rfl⟩ := h
      exact .tell hw
  | leaving =>
      cases hq : q.waiting with
      | cons r rest =>
          simp only [workerNext, hw, hq, Option.some.injEq, Prod.mk.injEq] at h
          obtain ⟨rfl, rfl⟩ := h
          exact .giveUp hw hq
      | nil =>
          simp only [workerNext, hw, hq, Option.some.injEq, Prod.mk.injEq] at h
          obtain ⟨rfl, rfl⟩ := h
          exact .stop hw hq
  | stopped => simp [workerNext, hw] at h

theorem workChange_of_actNext {now : Nanos} {i : Nat} {w : Option QueueWork}
    (h : q.actNext now i = some (q', w)) : WorkChange a q w q' := by
  cases hi : q.acts[i]? with
  | none => simp [actNext, hi] at h
  | some act =>
      simp only [actNext, hi, Option.ite_none_left_eq_some] at h
      obtain ⟨_, h⟩ := h
      cases hb : act.beats with
      | cons b rest =>
          simp only [hb, Option.some.injEq, Prod.mk.injEq] at h
          obtain ⟨rfl, rfl⟩ := h
          exact .play now hi hb
      | nil =>
          simp only [hb, Option.some.injEq, Prod.mk.injEq] at h
          obtain ⟨rfl, rfl⟩ := h
          exact .finish hi hb

theorem Step.change (step : Step a q e q') : Change a q e q' := by
  cases step with
  | submit h =>
      obtain ⟨hc, rfl, rfl⟩ := submit_eq_some_iff.mp h
      exact .accept _ hc
  | close h => exact .close h
  | join h => exact .join h
  | hold h => exact .hold h
  | release h => exact .release h
  | worker h => exact .work (workChange_of_workerNext h)
  | act h => exact .work (workChange_of_actNext h)

namespace Steps

theorem single (step : Step a q e q') : Steps a q e.toList q' := by
  simpa using Steps.refl.tail step

theorem trans {q₁ q₂ : Queue} (first : Steps a q tr q₁) (second : Steps a q₁ tr' q₂) :
    Steps a q (tr ++ tr') q₂ := by
  induction second with
  | refl => simpa using first
  | tail _ step ih => simpa only [List.append_assoc] using ih.tail step

/-- Steps that show one history after another pass a queue that shows the first one alone. -/
theorem split {tr₁ tr₂ : List QueueEvent} (steps : Steps a q (tr₁ ++ tr₂) q') :
    ∃ q₁, Steps a q tr₁ q₁ ∧ Steps a q₁ tr₂ q' := by
  generalize htr : tr₁ ++ tr₂ = tr at steps
  induction steps generalizing tr₂ with
  | refl =>
      obtain ⟨rfl, rfl⟩ := List.append_eq_nil_iff.mp htr
      exact ⟨q, .refl, .refl⟩
  | @tail tr e q₁ q₂ steps step ih =>
      -- a step shows at most one event, so the border lies before or behind it
      cases e with
      | none =>
          obtain ⟨q₀, first, second⟩ := @ih tr₂ (by simpa using htr)
          exact ⟨q₀, first, by simpa using second.tail step⟩
      | some x =>
          rcases List.eq_nil_or_concat tr₂ with rfl | ⟨tr₃, y, rfl⟩
          · obtain rfl : tr₁ = tr ++ [x] := by simpa using htr
            exact ⟨q₂, steps.tail step, .refl⟩
          · rw [List.concat_eq_append, ← List.append_assoc, Option.toList_some] at htr
            obtain ⟨hrest, hx⟩ := List.append_inj' htr rfl
            obtain rfl : y = x := by simpa using hx
            obtain ⟨q₀, first, second⟩ := ih hrest
            exact ⟨q₀, first, by simpa using second.tail step⟩

end Steps

end Queue

end LogWarden
