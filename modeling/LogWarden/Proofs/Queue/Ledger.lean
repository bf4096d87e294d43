import LogWarden.Proofs.Queue.Steps
import Mathlib.Data.List.Basic

/-!
# The books of a queue balance

Whatever happens to a queue, its books agree with what it holds. Every accepted request has been
taken, has been given up or waits, in the order of submission; of the requests that were taken, only
the last one can be on its way, and it passes the same stages as all before it.
-/

namespace LogWarden.Queue

/-- A request with the way in which its own action ends. -/
def outcome (a : Actuator) (r : Request) : Request × Ending :=
  (r, (a.perform r.ticket r.action).ending)

/-- What is recorded for the ticket of a request whose submitter was told how its action ended. -/
def resultOf (x : Request × Ending) : Nat × Except ActionError Unit :=
  (x.1.ticket, x.2.result x.1.action)

/-- What is recorded for the ticket of a request that was given up. -/
def refusalOf (r : Request) : Nat × Except ActionError Unit := (r.ticket, .error .queueClosed)

/-- How far the request is that the worker has in hand, if there is one: the requests that have
begun, have ended and have been collected beyond those whose submitters were told. -/
inductive InHand (a : Actuator) (q : Queue) : List Request → List Request → List Request → Prop
  | nothing (hw : q.worker = .resting ∨ q.worker.hasLeft = true) (ha : q.acts = [])
      (he : q.ended = []) : InHand a q [] [] []
  | acting {r : Request} (act : Act) (hw : q.worker = .awaiting r) (ha : q.acts = [act])
      (hr : act.request = r) (hact : act.ending = (outcome a r).2) (he : q.ended = []) :
      InHand a q [r] [] []
  | acted (r : Request) (hw : q.worker = .awaiting r) (ha : q.acts = [])
      (he : q.ended = [(r.ticket, (outcome a r).2)]) : InHand a q [r] [r] []
  | replying (r : Request) (hw : q.worker = .replying r (outcome a r).2) (ha : q.acts = [])
      (he : q.ended = []) : InHand a q [r] [r] [r]

/-- The books in the stages that a request passes. `done` are the requests that have passed all. -/
structure Stages (a : Actuator) (b : Books) (q : Queue)
    (done begun ended collected : List Request) : Prop where
  hand : InHand a q begun ended collected
  begun_eq : b.begun = done ++ begun
  ended_eq : b.ended = (done ++ ended).map (outcome a)
  collected_eq : b.collected = (done ++ collected).map (outcome a)
  told_eq : b.told = done.map (outcome a)

/-- What the worker leaves behind. -/
structure Departure (b : Books) (q : Queue) : Prop where
  /-- Only a worker that leaves a closed queue gives requests up. -/
  givenUp_left : b.givenUp ≠ [] → q.worker.hasLeft = true ∧ q.cancelled = true
  /-- A worker that leaves a queue that is not closed leaves nothing behind. -/
  left_waiting : q.worker.hasLeft = true → q.cancelled = true ∨ q.waiting = []
  stopped_waiting : q.worker = .stopped → q.waiting = []

/-- The books agree with the queue. -/
structure Ledger (a : Actuator) (b : Books) (q : Queue) : Prop extends Departure b q where
  accepted_eq : b.accepted = b.begun ++ b.givenUp ++ q.waiting
  tickets_eq : b.accepted.map (·.ticket) = List.range q.accepted
  stages : ∃ done begun ended collected, Stages a b q done begun ended collected
  settled_eq : q.settled = (b.told.map resultOf ++ b.givenUp.map refusalOf).reverse
  executed_eq : q.executed = b.collected.length

variable {a : Actuator} {b : Books} {q q' : Queue} {e : Option QueueEvent}
variable {w : Option QueueWork} {tr : List QueueEvent}

theorem InHand.congr {begun ended collected : List Request}
    (hand : InHand a q begun ended collected)
    (hw : q'.worker = q.worker) (ha : q'.acts = q.acts) (he : q'.ended = q.ended) :
    InHand a q' begun ended collected := by
  cases hand with
  | nothing hw₀ ha₀ he₀ => exact .nothing (hw ▸ hw₀) (ha.trans ha₀) (he.trans he₀)
  | acting act hw₀ ha₀ hr hact he₀ =>
      exact .acting act (hw.trans hw₀) (ha.trans ha₀) hr hact (he.trans he₀)
  | acted r hw₀ ha₀ he₀ => exact .acted r (hw.trans hw₀) (ha.trans ha₀) (he.trans he₀)
  | replying r hw₀ ha₀ he₀ => exact .replying r (hw.trans hw₀) (ha.trans ha₀) (he.trans he₀)

theorem Stages.congr {done begun ended collected : List Request}
    (s : Stages a b q done begun ended collected)
    (hw : q'.worker = q.worker) (ha : q'.acts = q.acts) (he : q'.ended = q.ended) :
    Stages a b q' done begun ended collected :=
  { s with hand := s.hand.congr hw ha he }

theorem hasLeft_of_isClosed_eq_false (h : q.isClosed = false) : q.worker.hasLeft = false := by
  simp only [isClosed, Bool.or_eq_false_iff] at h
  exact h.2

theorem Departure.givenUp_eq_nil (l : Departure b q) (h : q.worker.hasLeft = false) :
    b.givenUp = [] := by
  by_contra hne
  have hleft := (l.givenUp_left hne).1
  simp [h] at hleft

/-- A worker that has not left has left nothing behind. -/
theorem Departure.of_present (hnone : b.givenUp = []) (h : q.worker.hasLeft = false) :
    Departure b q where
  givenUp_left hne := absurd hnone hne
  left_waiting hl := by simp [h] at hl
  stopped_waiting hs := by simp [hs, Worker.hasLeft] at h

theorem start_ledger (a : Actuator) : Ledger a .empty .start where
  accepted_eq := rfl
  tickets_eq := rfl
  stages := ⟨[], [], [], [], .nothing (.inl rfl) rfl rfl, rfl, rfl, rfl, rfl⟩
  settled_eq := rfl
  executed_eq := rfl
  toDeparture := .of_present rfl rfl

/-- What a turn of the worker or of an action does to the stages. One that begins an action finds
nothing in hand, and every other one moves the request in hand on or leaves it alone. -/
theorem Stages.work {done begun ended collected : List Request}
    (s : Stages a b q done begun ended collected) (c : WorkChange a q w q') :
    ∃ done begun ended collected,
      Stages a (b.after (w.map .work)) q' done begun ended collected := by
  obtain ⟨hand, hb, he, hc, ht⟩ := s
  cases c with
  | leave hw =>
      cases hand with
      | nothing _ ha hq =>
          exact ⟨done, [], [], [], .nothing (.inr rfl) ha hq, hb, he, hc, ht⟩
      | acting | acted | replying => simp_all
  | @begin now r rest hw =>
      cases hand with
      | nothing _ ha hq =>
          refine ⟨done, [r], [], [], .acting (.start a now r) rfl ?_ rfl rfl hq, ?_, he, hc, ht⟩
          · simp [Queue.begin, ha]
          · simp [Books.after, Books.note, hb]
      | acting | acted | replying => simp_all
  | @collect r x hw hx =>
      cases hand with
      | acted r' hw' ha hq =>
          obtain rfl : r' = r := by simpa [hw] using hw'.symm
          obtain rfl : (outcome a r').2 = x := by simpa [ending?, hq] using hx
          refine ⟨done, [r'], [r'], [r'], .replying r' rfl ha ?_, hb, he, ?_, ht⟩
          · simp [Queue.collect, hq]
          · simp [Books.after, Books.note, hc, outcome]
      | acting act hw' ha hr hact hq => simp [ending?, hq] at hx
      | nothing | replying => simp_all [Worker.hasLeft]
  | @tell r x hw =>
      cases hand with
      | replying r' hw' ha hq =>
          obtain ⟨rfl, rfl⟩ : r' = r ∧ (outcome a r').2 = x := by simpa [hw, eq_comm] using hw'
          refine ⟨done ++ [r'], [], [], [], .nothing (.inl rfl) ha hq, ?_, ?_, ?_, ?_⟩
          · simpa [Books.after, Books.note] using hb
          · simpa [Books.after, Books.note] using he
          · simpa [Books.after, Books.note] using hc
          · simp [Books.after, Books.note, ht, outcome]
      | nothing | acting | acted => simp_all [Worker.hasLeft]
  | giveUp hw h =>
      cases hand with
      | nothing _ ha hq =>
          have hleft : q.worker.hasLeft = true := by simp [hw, Worker.hasLeft]
          exact ⟨done, [], [], [], .nothing (.inr hleft) ha hq, hb, he, hc, ht⟩
      | acting | acted | replying => simp_all
  | stop hw =>
      cases hand with
      | nothing _ ha hq =>
          exact ⟨done, [], [], [], .nothing (.inr rfl) ha hq, hb, he, hc, ht⟩
      | acting | acted | replying => simp_all
  | @play now i act x rest h hx =>
      cases hand with
      | acting act' hw ha hr hact hq =>
          obtain ⟨rfl, rfl⟩ : 0 = i ∧ act = act' := by
            simpa [ha, List.getElem?_singleton, eq_comm] using h
          have hplay : (q.play 0 act now x rest).acts = [(act.play now rest x).1] := by
            simp [Queue.play, ha]
          exact ⟨done, _, [], [], .acting _ hw hplay (by simp [hr]) (by simp [hact]) hq, hb, he, hc,
            ht⟩
      | nothing _ ha | acted _ _ ha | replying _ _ ha => simp [ha] at h
  | @finish i act h hx =>
      cases hand with
      | acting act' hw ha hr hact hq =>
          obtain ⟨rfl, rfl⟩ : 0 = i ∧ act = act' := by
            simpa [ha, List.getElem?_singleton, eq_comm] using h
          refine ⟨done, _, _, [], .acted _ hw ?_ ?_, hb, ?_, hc, ht⟩
          · simp [Queue.finish, ha]
          · simp [Queue.finish, hq, hr, hact]
          · simp [Books.after, Books.note, he, hr, hact, outcome]
      | nothing _ ha | acted _ _ ha | replying _ _ ha => simp [ha] at h

theorem Ledger.work (l : Ledger a b q) (c : WorkChange a q w q') :
    Ledger a (b.after (w.map .work)) q' := by
  have hstages : ∃ done begun ended collected,
      Stages a (b.after (w.map .work)) q' done begun ended collected := by
    obtain ⟨done, begun, ended, collected, s⟩ := l.stages
    exact s.work c
  cases c with
  | play | finish => exact { l with stages := hstages }
  | leave hw h =>
      exact { l with
        stages := hstages
        givenUp_left := fun hne => ⟨rfl, (l.givenUp_left hne).2⟩
        left_waiting := fun _ => h.imp_right And.left
        stopped_waiting := fun hs => by cases hs }
  | begin now hw hc h =>
      have hnone : b.givenUp = [] := l.givenUp_eq_nil (by simp [hw, Worker.hasLeft])
      exact { l with
        accepted_eq := by
          simp [Books.after, Books.note, Queue.begin, l.accepted_eq, hnone, h]
        stages := hstages
        toDeparture := .of_present hnone rfl }
  | collect hw h =>
      have hnone : b.givenUp = [] := l.givenUp_eq_nil (by simp [hw, Worker.hasLeft])
      exact { l with
        stages := hstages
        executed_eq := by simp [Books.after, Books.note, Queue.collect, l.executed_eq]
        toDeparture := .of_present hnone rfl }
  | tell hw =>
      have hnone : b.givenUp = [] := l.givenUp_eq_nil (by simp [hw, Worker.hasLeft])
      exact { l with
        stages := hstages
        settled_eq := by
          simp [Books.after, Books.note, Queue.tell, l.settled_eq, hnone, resultOf]
        toDeparture := .of_present hnone rfl }
  | giveUp hw h =>
      have hleft : q.worker.hasLeft = true := by simp [hw, Worker.hasLeft]
      have hclosed : q.cancelled = true := (l.left_waiting hleft).resolve_right (by simp [h])
      exact { l with
        accepted_eq := by simp [Books.after, Books.note, Queue.giveUp, l.accepted_eq, h]
        stages := hstages
        settled_eq := by
          simp [Books.after, Books.note, Queue.giveUp, l.settled_eq, refusalOf]
        givenUp_left := fun _ => ⟨hleft, hclosed⟩
        left_waiting := fun _ => .inl hclosed
        stopped_waiting := fun (hs : q.worker = .stopped) => by simp [hw] at hs }
  | stop hw h =>
      exact { l with
        stages := hstages
        givenUp_left := fun hne => ⟨rfl, (l.givenUp_left hne).2⟩
        left_waiting := fun _ => .inr h
        stopped_waiting := fun _ => h }

theorem Ledger.change (l : Ledger a b q) (c : Change a q e q') : Ledger a (b.after e) q' := by
  obtain ⟨done, begun, ended, collected, s⟩ := l.stages
  cases c with
  | join | hold | release =>
      exact { l with stages := ⟨_, _, _, _, s.congr rfl rfl rfl⟩ }
  | accept action h =>
      have hleft := hasLeft_of_isClosed_eq_false h
      exact { l with
        accepted_eq := by simp [Books.after, Books.note, l.accepted_eq]
        tickets_eq := by simp [Books.after, Books.note, l.tickets_eq, List.range_succ]
        stages := ⟨_, _, _, _, s.hand.congr rfl rfl rfl, s.begun_eq, s.ended_eq, s.collected_eq,
          s.told_eq⟩
        toDeparture := .of_present (l.givenUp_eq_nil hleft) hleft }
  | close h =>
      exact { l with
        stages := ⟨_, _, _, _, s.congr rfl rfl rfl⟩
        givenUp_left := fun hne => ⟨(l.givenUp_left hne).1, rfl⟩
        left_waiting := fun _ => .inl rfl }
  | work c => exact l.work c

/-- Whatever happens to a queue, its books agree with it. -/
theorem Run.ledger (run : Run a tr q) : Ledger a (books tr) q := by
  induction run with
  | refl => exact start_ledger a
  | tail _ step ih => exact books_append_toList _ _ ▸ ih.change step.change

end LogWarden.Queue
