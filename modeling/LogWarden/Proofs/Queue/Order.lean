import LogWarden.Proofs.Queue.Usage
import LogWarden.Action.Rehearsal

/-!
# Actions begin in order and one at a time

The requests whose actions have begun are the first of those that were accepted, and no action
begins while another one is in progress, whoever uses the queue and however actions end.
-/

namespace LogWarden

namespace Queue

variable {a : Actuator} {b : Books} {q : Queue} {tr tr₁ tr₂ : List QueueEvent} {r : Request}

theorem Ledger.begun_prefix_accepted (l : Ledger a b q) : b.begun <+: b.accepted :=
  ⟨b.givenUp ++ q.waiting, by rw [l.accepted_eq, List.append_assoc]⟩

theorem Ledger.tickets_nodup (l : Ledger a b q) : (b.accepted.map (·.ticket)).Nodup :=
  l.tickets_eq ▸ List.nodup_range

theorem Ledger.begun_nodup (l : Ledger a b q) : (b.begun.map (·.ticket)).Nodup :=
  l.tickets_nodup.sublist (l.begun_prefix_accepted.sublist.map _)

theorem map_outcome_fst (a : Actuator) (rs : List Request) :
    (rs.map (outcome a)).map (·.1) = rs := by
  simp [outcome, Function.comp_def]

/-- The actions in progress are those that have begun and have not ended. -/
theorem Ledger.acts_eq (l : Ledger a b q) :
    q.acts.map (·.request) = b.begun.drop b.ended.length := by
  obtain ⟨done, begun, ended, collected, hand, hb, he, _, _⟩ := l.stages
  cases hand with
  | acting act _ ha hr => simp [ha, hr, hb, he]
  | nothing _ ha | acted _ _ ha | replying _ _ ha => simp [ha, hb, he]

theorem Ledger.acts_length (l : Ledger a b q) : q.acts.length ≤ 1 := by
  obtain ⟨done, begun, ended, collected, hand, _⟩ := l.stages
  cases hand with
  | acting act _ ha => simp [ha]
  | nothing _ ha | acted _ _ ha | replying _ _ ha => simp [ha]

/-- Actions end in the order in which they begin, and at most one has yet to end. -/
theorem Ledger.ended_prefix_begun (l : Ledger a b q) :
    b.ended.map (·.1) <+: b.begun ∧ b.begun.length ≤ b.ended.length + 1 := by
  obtain ⟨done, begun, ended, collected, hand, hb, he, _, _⟩ := l.stages
  rw [he, map_outcome_fst, hb]
  cases hand with
  | nothing | acting | acted | replying => simp

/-- Where an action begins, all that began before have ended. -/
theorem Run.ended_of_began (run : Run a (tr₁ ++ .work (.began r) :: tr₂) q) :
    (books tr₁).ended.map (·.1) = (books tr₁).begun := by
  rw [List.append_cons] at run
  obtain ⟨q₂, run₂, _⟩ := run.split
  obtain ⟨q₁, run₁, _⟩ := run₂.split
  have hpre := (Run.ledger run₁).ended_prefix_begun.1
  have hlength := (Run.ledger run₂).ended_prefix_begun.2
  apply hpre.eq_of_length_le
  simpa [Books.note] using hlength

end Queue

/-- In every run of a queue and its users, actions begin in the order in which they were accepted
and at most once each, at most one is in progress, and when one begins, all that began before it
have ended. -/
theorem begins_in_order {a : Actuator} {tr : List QueueEvent} {u : Usage} (run : Usage.Run a tr u) :
    (books tr).begun <+: (books tr).accepted ∧
      (books tr).accepted.map (·.ticket) = List.range u.queue.accepted ∧
      ((books tr).begun.map (·.ticket)).Nodup ∧
      u.queue.acts.map (·.request) = (books tr).begun.drop (books tr).ended.length ∧
      u.queue.acts.length ≤ 1 ∧
      ∀ tr₁ r tr₂, tr = tr₁ ++ .work (.began r) :: tr₂ →
        (books tr₁).ended.map (·.1) = (books tr₁).begun := by
  have l := Queue.Run.ledger run.queue_run
  refine ⟨l.begun_prefix_accepted, l.tickets_eq, l.begun_nodup, l.acts_eq, l.acts_length, ?_⟩
  intro tr₁ r tr₂ htr
  have hrun := run.queue_run
  rw [htr] at hrun
  exact hrun.ended_of_began

/-- An action that panics makes room for the next one. -/
theorem begins_in_order_after_panic :
    ∃ tr u, Usage.Run (.rehearsal false) tr u ∧
      u.queue.acts.map (·.request) = [⟨1, .jump 2 5⟩] ∧
      ((books tr).begun = [⟨0, .line "panic"⟩, ⟨1, .jump 2 5⟩] ∧
        (books tr).ended = [(⟨0, .line "panic"⟩, .panicked)]) ∧
      (books tr).begun <+: (books tr).accepted ∧ u.queue.acts.length ≤ 1 := by
  have submitted := (Usage.Steps.refl.tail
    (@Usage.Step.submit (.rehearsal false) .start (.line "panic") _ _ rfl)).tail
    (@Usage.Step.submit _ _ (.jump 2 5) _ _ rfl)
  have begun := submitted.tail (.worker rfl)
  have panicked := (begun.tail (@Usage.Step.act _ _ 0 _ _ rfl)).tail
    (@Usage.Step.act _ _ 0 _ _ rfl)
  have run := ((panicked.tail (.worker rfl)).tail (.worker rfl)).tail (.worker rfl)
  obtain ⟨hpre, _, _, _, hlength, _⟩ := begins_in_order run
  exact ⟨_, _, run, rfl, ⟨rfl, rfl⟩, hpre, hlength⟩

end LogWarden
