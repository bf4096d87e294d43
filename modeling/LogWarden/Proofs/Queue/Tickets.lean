import LogWarden.Proofs.Queue.Order
import Mathlib.Data.List.Nodup

/-!
# What tickets resolve with

Results are recorded by ticket, and tickets are never given twice. So no ticket is resolved twice,
the result of a request that was taken is the one of its own action, and that of any other request
is that the queue was closed.
-/

namespace LogWarden

namespace Queue

/-- Whether every ticket that was given has a result. -/
def AllResolved (q : Queue) : Prop := ∀ ticket < q.accepted, (q.result? ticket).isSome

variable {a : Actuator} {b : Books} {q : Queue} {tr : List QueueEvent} {r r' : Request}
variable {res : Except ActionError Unit}

theorem find?_fst_eq_some_iff {β : Type} {l : List (Nat × β)} (h : (l.map (·.1)).Nodup) {k : Nat}
    {v : β} : (l.find? (·.1 == k)).map (·.2) = some v ↔ (k, v) ∈ l := by
  induction l with
  | nil => simp
  | cons x l ih =>
      obtain ⟨k', v'⟩ := x
      simp only [List.map_cons, List.nodup_cons, List.mem_map, not_exists, not_and] at h
      obtain ⟨hfresh, hrest⟩ := h
      by_cases hk : k' = k
      · subst hk
        have hout : (k', v) ∉ l := fun hmem => hfresh _ hmem rfl
        simp [hout, eq_comm]
      · have hne : (k, v) ≠ (k', v') := fun heq => hk (congrArg Prod.fst heq).symm
        simp [hk, hne, ih hrest]

theorem Ledger.collected_prefix_begun (l : Ledger a b q) :
    b.collected <+: b.begun.map (outcome a) := by
  obtain ⟨done, begun, ended, collected, hand, hb, _, hc, _⟩ := l.stages
  rw [hc, hb]
  cases hand with
  | nothing | acting | acted | replying => simp

theorem Ledger.told_prefix_collected (l : Ledger a b q) : b.told <+: b.collected := by
  obtain ⟨done, begun, ended, collected, hand, _, _, hc, ht⟩ := l.stages
  rw [hc, ht]
  cases hand with
  | nothing | acting | acted | replying => simp

theorem Ledger.told_prefix_begun (l : Ledger a b q) : b.told <+: b.begun.map (outcome a) :=
  l.told_prefix_collected.trans l.collected_prefix_begun

/-- Requests with one ticket are one request. -/
theorem Ledger.eq_of_ticket_eq (l : Ledger a b q) (hr : r ∈ b.accepted) (hr' : r' ∈ b.accepted)
    (h : r.ticket = r'.ticket) : r = r' :=
  List.inj_on_of_nodup_map l.tickets_nodup hr hr' h

theorem Ledger.mem_accepted (l : Ledger a b q) :
    r ∈ b.accepted ↔ r ∈ b.begun ∨ r ∈ b.givenUp ∨ r ∈ q.waiting := by
  rw [l.accepted_eq, List.mem_append, List.mem_append, or_assoc]

/-- No request is taken and given up as well. -/
theorem Ledger.not_mem_givenUp (l : Ledger a b q) (hr : r ∈ b.begun) : r ∉ b.givenUp := by
  have hnodup : b.accepted.Nodup := l.tickets_nodup.of_map _
  rw [l.accepted_eq, List.append_assoc, List.nodup_append] at hnodup
  intro hg
  exact hnodup.2.2 r hr r (List.mem_append_left _ hg) rfl

theorem Ledger.settled_tickets (l : Ledger a b q) :
    q.settled.map (·.1) = ((b.told.map (·.1) ++ b.givenUp).map (·.ticket)).reverse := by
  simp [l.settled_eq, resultOf, refusalOf, Function.comp_def]

/-- No ticket is resolved twice. -/
theorem Ledger.settled_nodup (l : Ledger a b q) : (q.settled.map (·.1)).Nodup := by
  have htold : b.told.map (·.1) <+: b.begun := by
    simpa only [map_outcome_fst] using l.told_prefix_begun.map (·.1)
  have hsub : (b.told.map (·.1) ++ b.givenUp).Sublist b.accepted := by
    rw [l.accepted_eq]
    exact (htold.sublist.append (.refl _)).trans (List.sublist_append_left _ _)
  rw [l.settled_tickets, List.nodup_reverse]
  exact l.tickets_nodup.sublist (hsub.map _)

theorem Ledger.result?_eq_some_iff (l : Ledger a b q) {ticket : Nat} :
    q.result? ticket = some res ↔
      (∃ x ∈ b.told, resultOf x = (ticket, res)) ∨
        ∃ r ∈ b.givenUp, refusalOf r = (ticket, res) := by
  rw [result?, find?_fst_eq_some_iff l.settled_nodup, l.settled_eq]
  simp only [List.mem_reverse, List.mem_append, List.mem_map]

/-- The result of a request that was taken is the one of its own action. -/
theorem Ledger.result_of_begun (l : Ledger a b q) (hr : r ∈ b.begun)
    (h : q.result? r.ticket = some res) :
    outcome a r ∈ b.told ∧ res = (outcome a r).2.result r.action := by
  have hacc : r ∈ b.accepted := l.mem_accepted.mpr (.inl hr)
  rcases l.result?_eq_some_iff.mp h with ⟨x, hx, hres⟩ | ⟨g, hg, hres⟩
  · obtain ⟨r', hr', rfl⟩ := List.mem_map.mp (l.told_prefix_begun.subset hx)
    obtain ⟨hticket, rfl⟩ : r'.ticket = r.ticket ∧ (outcome a r').2.result r'.action = res := by
      simpa only [resultOf, outcome, Prod.mk.injEq] using hres
    obtain rfl := l.eq_of_ticket_eq (l.mem_accepted.mpr (.inl hr')) hacc hticket
    exact ⟨hx, rfl⟩
  · have hticket : g.ticket = r.ticket := congrArg Prod.fst hres
    obtain rfl := l.eq_of_ticket_eq (l.mem_accepted.mpr (.inr (.inl hg))) hacc hticket
    exact absurd hg (l.not_mem_givenUp hr)

/-- A request that was not taken is resolved only by being given up. -/
theorem Ledger.result_of_not_begun (l : Ledger a b q) (hr : r ∈ b.accepted) (hb : r ∉ b.begun)
    (h : q.result? r.ticket = some res) : r ∈ b.givenUp ∧ res = .error .queueClosed := by
  rcases l.result?_eq_some_iff.mp h with ⟨x, hx, hres⟩ | ⟨g, hg, hres⟩
  · obtain ⟨r', hr', rfl⟩ := List.mem_map.mp (l.told_prefix_begun.subset hx)
    have hticket : r'.ticket = r.ticket := congrArg Prod.fst hres
    obtain rfl := l.eq_of_ticket_eq (l.mem_accepted.mpr (.inl hr')) hr hticket
    exact absurd hr' hb
  · obtain ⟨hticket, rfl⟩ : g.ticket = r.ticket ∧ Except.error .queueClosed = res := by
      simpa only [refusalOf, Prod.mk.injEq] using hres
    obtain rfl := l.eq_of_ticket_eq (l.mem_accepted.mpr (.inr (.inl hg))) hr hticket
    exact ⟨hg, rfl⟩

/-- With nothing in hand, the worker has told all whose requests were taken. -/
theorem Ledger.told_eq_of_free (l : Ledger a b q)
    (h : q.worker = .resting ∨ q.worker.hasLeft = true) :
    b.told = b.begun.map (outcome a) ∧ b.collected = b.begun.map (outcome a) := by
  obtain ⟨done, begun, ended, collected, hand, hb, _, hc, ht⟩ := l.stages
  cases hand with
  | nothing => simp [hb, hc, ht]
  | acting _ hw | acted _ hw | replying _ hw => simp [hw, Worker.hasLeft] at h

theorem Ledger.exists_request (l : Ledger a b q) {ticket : Nat} (h : ticket < q.accepted) :
    ∃ r ∈ b.accepted, r.ticket = ticket := by
  have hmem : ticket ∈ b.accepted.map (·.ticket) := by
    rw [l.tickets_eq]
    exact List.mem_range.mpr h
  exact List.mem_map.mp hmem

/-- With nothing in hand, only requests that wait are not resolved. -/
theorem Ledger.resolved_or_waiting (l : Ledger a b q)
    (h : q.worker = .resting ∨ q.worker.hasLeft = true) (hr : r ∈ b.accepted) :
    (q.result? r.ticket).isSome ∨ r ∈ q.waiting := by
  rw [Option.isSome_iff_exists]
  rcases l.mem_accepted.mp hr with hb | hg | hwait
  · have htold : outcome a r ∈ b.told := by
      rw [(l.told_eq_of_free h).1]
      exact List.mem_map_of_mem hb
    exact .inl ⟨_, l.result?_eq_some_iff.mpr (.inl ⟨_, htold, rfl⟩)⟩
  · exact .inl ⟨_, l.result?_eq_some_iff.mpr (.inr ⟨_, hg, rfl⟩)⟩
  · exact .inr hwait

theorem Ledger.allResolved (l : Ledger a b q)
    (h : q.worker = .resting ∨ q.worker.hasLeft = true) (hnone : q.waiting = []) :
    q.AllResolved := by
  intro ticket hlt
  obtain ⟨r, hr, rfl⟩ := l.exists_request hlt
  exact (l.resolved_or_waiting h hr).resolve_right (by simp [hnone])

/-- A worker that has left a queue which was not closed has seen every accepted action end. -/
theorem Ledger.collected_of_hasLeft (l : Ledger a b q) (h : q.worker.hasLeft = true)
    (hopen : q.cancelled = false) : b.collected.map (·.1) = b.accepted := by
  have hnone : b.givenUp = [] := by
    by_contra hne
    have hclosed := (l.givenUp_left hne).2
    simp [hopen] at hclosed
  have hwait : q.waiting = [] := (l.left_waiting h).resolve_left (by simp [hopen])
  rw [(l.told_eq_of_free (.inr h)).2, map_outcome_fst, l.accepted_eq, hnone, hwait]
  simp

/-- A worker at rest that has to wait finds no request. -/
theorem waiting_eq_nil_of_resting {now : Nanos} (hw : q.worker = .resting)
    (h : q.workerNext a now = none) : q.waiting = [] := by
  by_contra hne
  obtain ⟨r, rest, hq⟩ := List.exists_cons_of_ne_nil hne
  cases hc : q.cancelled <;> simp [workerNext, hw, hq, hc] at h

end Queue

end LogWarden
