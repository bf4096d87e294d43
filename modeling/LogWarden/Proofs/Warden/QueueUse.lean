import LogWarden.Proofs.Queue.Usage
import LogWarden.Proofs.Warden.Invariant

/-!
# What a warden does to its queue

Whatever goes on in a warden, what becomes of its queue is made of steps of the queue. So what holds
after every run of a queue holds of the queue of a warden at any time.
-/

namespace LogWarden

/-- Whether a queue can become another one. -/
def Queue.Reaches (a : Actuator) (q q' : Queue) : Prop := ∃ tr, Queue.Steps a q tr q'

namespace Queue.Reaches

variable {a : Actuator} {q q₁ q' : Queue}

theorem refl (q : Queue) : Reaches a q q := ⟨[], .refl⟩

theorem trans (h : Reaches a q q₁) (h' : Reaches a q₁ q') : Reaches a q q' := by
  obtain ⟨tr, steps⟩ := h
  obtain ⟨tr', steps'⟩ := h'
  exact ⟨tr ++ tr', steps.trans steps'⟩

theorem submit {s : LogWarden.Step} {now : Nanos} {w : TicketWait}
    (h : s.submit q now = some (w, q')) : Reaches a q q' := by
  obtain ⟨ticket, hs⟩ := Step.submit_queue h
  exact ⟨_, Queue.steps_submit a hs⟩

theorem release (q : Queue) : Reaches a q q.release := by
  cases hq : q.holders with
  | zero =>
      have hholders : q.holders - 1 = q.holders := by omega
      have hsame : q.release = q := by rw [Queue.release, hholders]
      rw [hsame]
      exact refl q
  | succ n => exact ⟨_, .single (.release (hq ▸ Nat.succ_pos n))⟩

theorem work {now : Nanos} {w : Option QueueWork} (h : q.work a now = some (q', w)) :
    Reaches a q q' := by
  rw [Queue.work, Option.or_eq_some_iff] at h
  rcases h with h | ⟨_, h⟩
  · exact ⟨_, .single (.worker h)⟩
  · exact ⟨_, .single (.act h)⟩

end Queue.Reaches

section Users

open Queue (Reaches)
variable {a : Actuator} (q : Queue) (now : Nanos)

theorem ChainRun.next_reaches (r : ChainRun) : Reaches a q (r.next q now).1 :=
  ⟨_, User.next_steps a (.chain r) q now⟩

theorem Shutdown.next_reaches (s : Shutdown) : Reaches a q (s.next q).1 :=
  ⟨_, User.next_steps a (.shutdown s) q 0⟩

theorem Script.next_reaches (s : Script) : Reaches a q (s.next q now).queue := by
  unfold Script.next
  split
  · split
    · exact .refl q
    · rename_i d rest _
      cases d <;> exact .refl q
  · split <;> exact .refl q
  · exact .refl q
  · rename_i r _
    have h := r.next_reaches (a := a) q now
    split <;> simp_all
  · rename_i sd _
    have h := sd.next_reaches (a := a) q
    split <;> simp_all

theorem Evasion.nextRound_reaches (g : IdleGuard) : Reaches a q (nextRound g q now).2.1 := by
  unfold nextRound
  split
  · split
    · exact .refl q
    · rename_i c _
      have h := (ChainRun.start c now).next_reaches (a := a) q now
      split <;> simp_all
  · exact .refl q

theorem Evasion.next_reaches (g : IdleGuard) (c : Evasion) : Reaches a q (c.next g q now).2.1 := by
  cases c with
  | fresh =>
      rw [Evasion.next]
      split
      · exact .refl q
      · exact Evasion.nextRound_reaches q now _
  | between => exact Evasion.nextRound_reaches q now g
  | round r =>
      have h := r.next_reaches (a := a) q now
      rw [Evasion.next]
      split <;> simp_all

theorem Reaction.next_reaches (r : Reaction) : Reaches a q (r.next q now).1 := by
  fun_cases Reaction.next r q now with
  | case8 _ index step rest _ _ w q' h => exact .submit h
  | _ => exact .refl q

theorem ChannelQuestion.next_reaches (t : ChannelTracker) (c : ChannelQuestion) :
    Reaches a q (c.next t q now).2.1 := by
  fun_cases ChannelQuestion.next t q now c with
  | case3 _ _ step _ w q' h => exact .submit h
  | _ => exact .refl q

end Users

namespace Warden

/-- A warden that comes of another one, as far as the queue is concerned. -/
structure Serves (w w' : Warden) : Prop where
  actuator_eq : w'.actuator = w.actuator
  reaches : w.queue.Reaches w.actuator w'.queue

/-- What a turn of an activity comes to, as far as the queue is concerned. -/
def Step.Serves (w : Warden) : Step → Prop
  | .goes w' _ | .ends w' _ => w.Serves w'
  | .waits => True

variable {w w' w₁ : Warden}

theorem Serves.of_eq (ha : w'.actuator = w.actuator) (hq : w'.queue = w.queue) : w.Serves w' :=
  ⟨ha, hq ▸ .refl _⟩

theorem Serves.trans (h : w.Serves w₁) (h' : w₁.Serves w') : w.Serves w' :=
  ⟨h'.actuator_eq.trans h.actuator_eq, h.reaches.trans (h.actuator_eq ▸ h'.reaches)⟩

theorem ofTurn_serves {σ α : Type} (h : w.Serves w') (f : σ → Activity) (g : α → Ended)
    (turn : Turn σ α) : Step.Serves w (.ofTurn w' f g turn) := by
  cases turn with
  | goes | ends => exact h
  | waits => trivial

/-- So the books of its queue balance whatever has gone on in a warden. -/
theorem Serves.ledger (h : w.Serves w') (hstart : w.queue = .start) :
    ∃ b, Queue.Ledger w'.actuator b w'.queue := by
  obtain ⟨ha, tr, steps⟩ := h
  rw [hstart, ← ha] at steps
  exact ⟨_, Queue.Run.ledger steps⟩

theorem foldl_serves {α : Type} {f : Warden → α → Warden} (hf : ∀ (w : Warden) x, w.Serves (f w x))
    (xs : List α) (w : Warden) : w.Serves (xs.foldl f w) := by
  induction xs generalizing w with
  | nil => exact .of_eq rfl rfl
  | cons x xs ih => exact (hf w x).trans (ih (f w x))

theorem deliver_serves (w : Warden) (made : List Delivery) : w.Serves (w.deliver made) := by
  refine foldl_serves (fun w d => ?_) made w
  split <;> exact .of_eq rfl rfl

theorem startPumps_serves (w : Warden) : w.Serves w.startPumps := by
  refine foldl_serves (fun w i => ?_) _ _
  exact .of_eq rfl rfl

theorem stepDispatch_serves (w : Warden) (hook : Option Script) :
    (w.stepDispatch hook).Serves w := by
  cases hook with
  | some hook =>
      have h := hook.next_reaches (a := w.actuator) w.queue w.now
      simp only [stepDispatch]
      split
      · exact ⟨rfl, h⟩
      · trivial
      · exact ⟨rfl, h⟩
      · exact ⟨rfl, h⟩
  | none =>
      simp only [stepDispatch]
      split
      · exact .of_eq rfl rfl
      · exact .of_eq rfl rfl
      · refine Serves.trans ?_ (startPumps_serves _)
        exact .of_eq rfl rfl
      · refine Serves.trans ?_ (deliver_serves _ _)
        exact .of_eq rfl rfl
      · exact .of_eq rfl rfl
      · exact .of_eq rfl rfl
      · trivial
      · exact .of_eq rfl rfl

theorem stepConsume_serves (w : Warden) (e : Event) (c : Conduct) :
    (w.stepConsume e c).Serves w := by
  cases c with
  | script | trackChannel => exact .of_eq rfl rfl
  | guardIdling =>
      simp only [stepConsume]
      split <;> exact .of_eq rfl rfl
  | fireTriggers =>
      simp only [stepConsume]
      split <;> exact .of_eq rfl rfl

/-- A turn of an activity makes steps of the queue, or leaves it alone. -/
theorem step_serves (w : Warden) (c : Activity) : (w.step c).Serves w := by
  cases c with
  | worker =>
      simp only [step]
      split
      · rename_i queue work h
        exact ⟨rfl, .work h⟩
      · trivial
  | pump i =>
      simp only [step]
      split
      · split <;> exact .of_eq rfl rfl
      · trivial
  | dispatch hook => exact w.stepDispatch_serves hook
  | consume c e => exact w.stepConsume_serves e c
  | script s =>
      refine ofTurn_serves ?_ _ _ _
      exact ⟨rfl, s.next_reaches w.queue w.now⟩
  | evasion c =>
      refine ofTurn_serves ?_ _ _ _
      exact ⟨rfl, c.next_reaches w.queue w.now w.guard⟩
  | reaction r =>
      refine ofTurn_serves ?_ _ _ _
      exact ⟨rfl, r.next_reaches w.queue w.now⟩
  | chain r =>
      have h := r.next_reaches (a := w.actuator) w.queue w.now
      refine ofTurn_serves ?_ _ _ _
      refine ⟨rfl, ?_⟩
      dsimp only
      split
      · exact h.trans (.release _)
      · exact h
  | question c =>
      refine ofTurn_serves ?_ _ _ _
      exact ⟨rfl, c.next_reaches w.queue w.now w.tracker⟩
  | shutdown s =>
      refine ofTurn_serves ?_ _ _ _
      exact ⟨rfl, s.next_reaches w.queue⟩
  | ticket | echo | drain =>
      refine ofTurn_serves ?_ _ _ _
      exact .of_eq rfl rfl

theorem wake_serves (w : Warden) : w.Serves w.wake := .of_eq rfl rfl

theorem begin_serves (w : Warden) (t : Task) : w.Serves (w.begin t) := by
  unfold begin
  split
  · split <;> exact .of_eq rfl rfl
  · exact .of_eq rfl rfl

theorem conclude_serves (w : Warden) (t : Task) (e : Ended) : w.Serves (w.conclude t e) := by
  unfold conclude
  split
  · exact .of_eq rfl rfl
  · exact .of_eq rfl rfl
  · split <;> exact .of_eq rfl rfl

/-- A turn of a warden makes steps of its queue. -/
theorem turn_serves (h : w.turn = some w') : w.Serves w' := by
  unfold turn at h
  split at h
  · cases h
  · split at h
    · obtain rfl := Option.some.inj h
      exact .of_eq rfl rfl
    · rename_i t _
      split at h
      · obtain rfl := Option.some.inj h
        exact .of_eq rfl rfl
      · have hbegin := w.begin_serves t
        have hstep := (w.begin t).step_serves t.activity
        split at h <;> rename_i heq <;> rw [heq] at hstep <;> obtain rfl := Option.some.inj h
        · exact .of_eq rfl rfl
        · exact hbegin.trans (hstep.trans (.of_eq rfl rfl))
        · have hended : w.Serves _ := hbegin.trans hstep
          refine hended.trans (.trans (.trans ?_ (conclude_serves _ _ _)) (wake_serves _))
          exact .of_eq rfl rfl

/-- Whatever goes on in a warden makes steps of its queue. -/
theorem serves_invariant (w : Warden) : Invariant w.Serves where
  turn := fun h hturn => h.trans (turn_serves hturn)
  between := fun h _ _ _ => h.trans (.of_eq rfl rfl)

/-- As time passes, what becomes of the queue of a warden is made of steps of the queue. -/
theorem advance_serves (w : Warden) (d : Nanos) : w.Serves (w.advance d) :=
  w.serves_invariant.advance (.of_eq rfl rfl) d

theorem passUntilEnded_serves (name : String) (n : Nat) (w : Warden) :
    w.Serves (passUntilEnded name n w) :=
  w.serves_invariant.passUntilEnded (.of_eq rfl rfl) name n

/-- The same holds of a warden that runs until its dispatcher has ended. -/
theorem passUntilOver_serves (around : Warden → Surroundings) (n : Nat) (w : Warden) :
    w.Serves (passUntilOver around n w) :=
  w.serves_invariant.passUntilOver (.of_eq rfl rfl) around n

end Warden

end LogWarden
