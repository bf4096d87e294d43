import LogWarden.Proofs.Dispatch.Course
import LogWarden.Proofs.Dispatch.Deliveries
import LogWarden.Proofs.Dispatch.Pumps

/-!
# Hooks and the loop

A hook runs inside the dispatcher, but never inside its loop: the startup hooks are run before the
loop begins and the shutdown hooks after it has been left. What a hook returns makes no difference
to what comes next. A hook that panics ends the dispatcher: nothing is read or delivered after it,
the dispatcher does not return, and no call to drain returns that has not returned before.
-/

namespace LogWarden

/-- Whether the hook that begins, returns or panics is a startup hook, if something shown is that of
a hook. -/
@[simp] def DispatchEvent.ofHook? : DispatchEvent → Option Bool
  | .hookBegan isStartup .. | .hookEnded isStartup .. | .hookPanicked isStartup _ => some isStartup
  | _ => none

/-- Whether something shown is a request to drain, or a turn of a call to drain that goes on. -/
@[simp] def DispatchEvent.isDrain : DispatchEvent → Bool
  | .drainRequested => true
  | .drained _ _ _ returns => !returns
  | _ => false

theorem Phase.lifecycle_of_hook {p : Phase} {isStartup : Bool} {k : Nat}
    (h : p.hook? = some (isStartup, k)) :
    p.lifecycle = if isStartup then .running else .draining := by
  cases p with
  | startup | shutdown =>
      cases h
      rfl
  | _ => cases h

namespace Dispatching

variable {c : Classifier} {s s' : Dispatching} {mv : Move} {e : Option DispatchEvent}
variable {tr tr₁ tr₂ : List DispatchEvent} {ms : List Move} {x : DispatchEvent}
variable {isStartup : Bool} {k : Nat}

/-- A hook of the dispatcher has panicked, and the dispatcher with it. -/
structure IsBroken (s : Dispatching) : Prop where
  broken : s.broken = true
  inHook : s.inHook = true
  pumps : s.dispatcher.pumps = []
  inProgress : s.dispatcher.inProgress = []
  lifecycle : s.dispatcher.lifecycle = .running ∨ s.dispatcher.lifecycle = .draining

/-- What a hook returns makes no difference to what becomes of the dispatcher. -/
theorem endHook_fst (s : Dispatching) (r r' : Except HandlerError Unit) :
    (s.endHook r).map Prod.fst = (s.endHook r').map Prod.fst := by
  cases hx : s.hookUnderWay? with
  | none => simp [endHook, hx]
  | some x =>
      cases hp : s.dispatcher.phase <;> simp [endHook, hx, Dispatcher.hookEnded, hp]

/-- A hook begins, returns or panics in its phase. -/
theorem Change.phase_of_hook (h : Change c s mv (some x) s') (hx : x.ofHook? = some isStartup) :
    ∃ k, s.dispatcher.phase.hook? = some (isStartup, k) := by
  cases h with
  | endStartup r hh hb hp | endShutdown r hh hb hp =>
      cases hx
      exact ⟨_, congrArg Phase.hook? hp⟩
  | panicHook hh hb hp =>
      cases hx
      exact ⟨_, hp⟩
  | own _ _ h =>
      cases h with
      | beginStartup hp | beginShutdown hp =>
          cases hx
          exact ⟨_, congrArg Phase.hook? hp⟩
      | _ => cases hx
  | pumpWait _ he =>
      rcases he with he | ⟨he, -⟩ <;> cases he
      cases hx
  | pump _ _ h =>
      cases h <;> cases hx
  | _ => cases hx

theorem Change.looping_of_delivered {i : Nat} {e : Event} {made : List Delivery}
    (h : Change c s mv (some (.delivered i e made)) s') : s'.dispatcher.phase = .looping := by
  cases h with
  | own _ _ h =>
      cases h with
      | deliver hp => exact hp
  | pumpWait _ he => simp at he
  | pump _ _ h => cases h

/-- A broken dispatcher stays broken, and shows nothing but that somebody wants to drain. -/
theorem Change.broken (h : Change c s mv e s') (hs : s.IsBroken) :
    s'.IsBroken ∧ ∀ x, e = some x → x.isDrain = true := by
  obtain ⟨hb, hh, hpumps, hx, hl⟩ := hs
  cases h with
  | requestDrain => exact ⟨⟨hb, hh, hpumps, hx, hl⟩, by rintro _ ⟨⟩; rfl⟩
  | beginCall =>
      refine ⟨⟨hb, hh, hpumps, hx, hl⟩, ?_⟩
      rintro _ ⟨⟩
      rcases hl with hl | hl <;> simp [hl]
  | pollCall =>
      refine ⟨⟨hb, hh, hpumps, hx, hl⟩, ?_⟩
      rintro _ ⟨⟩
      rcases hl with hl | hl <;> simp [hl]
  | call | abandonCall => exact ⟨⟨hb, hh, hpumps, hx, hl⟩, by rintro _ ⟨⟩⟩
  | feed | finish =>
      refine ⟨⟨hb, hh, ?_, hx, hl⟩, by rintro _ ⟨⟩⟩
      simp [Dispatcher.modifySource, hpumps]
  | pumpWait hi | pump hi | send hi | stopPump hi => simp [hpumps] at hi
  | own hh' => simp [hh] at hh'
  | endStartup _ _ hb' | endShutdown _ _ hb' | panicHook _ hb' => simp [hb] at hb'
  | endDelivery _ hx' | cancelDelivery _ hx' => simp [hx] at hx'

theorem Run.broken (run : Run c s ms tr s') (hs : s.IsBroken) :
    s'.IsBroken ∧ ∀ x ∈ tr, x.isDrain = true := by
  induction run with
  | refl => exact ⟨hs, by simp⟩
  | tail _ h ih =>
      obtain ⟨hs₂, hx⟩ := (change_of_move h).broken ih.1
      refine ⟨hs₂, fun x hmem => ?_⟩
      rcases List.mem_append.mp hmem with hmem | hmem
      · exact ih.2 x hmem
      · exact hx x (Option.mem_toList.mp hmem)

/-- Only a panic breaks a dispatcher. -/
theorem Change.broken_eq (h : Change c s mv e s') :
    s'.broken = s.broken ∨ ∃ isStartup k, e = some (.hookPanicked isStartup k) := by
  cases h with
  | panicHook => exact .inr ⟨_, _, rfl⟩
  | own _ _ h => cases h <;> exact .inl rfl
  | _ => exact .inl rfl

theorem Run.broken_eq_false (run : Run c s ms tr s') (hs : s.broken = false)
    (htr : ∀ isStartup k, .hookPanicked isStartup k ∉ tr) : s'.broken = false := by
  induction run with
  | refl => exact hs
  | tail _ h ih =>
      simp only [List.mem_append, not_or] at htr
      rcases (change_of_move h).broken_eq with heq | ⟨isStartup, k, rfl⟩
      · exact heq.trans (ih fun isStartup k => (htr isStartup k).1)
      · exact absurd (by simp) (htr isStartup k).2

/-- Whatever is delivered is delivered in the loop, which no dispatcher comes back to. -/
theorem Run.looping_between (run : Run c s ms tr s') {i : Nat} {e : Event} {made : List Delivery}
    (hmem : .delivered i e made ∈ tr) : s'.dispatcher.phase.stagesLeft ≤ 4 ∧
      4 ≤ s.dispatcher.phase.stagesLeft := by
  obtain ⟨tr₁, tr₂, rfl⟩ := List.append_of_mem hmem
  obtain ⟨_, s₁, _, s₂, _, first, move, second⟩ := run.move_at
  have hloop := (change_of_move move).looping_of_delivered
  have hle := (first.tail move).stagesLeft_le
  have hle' := second.stagesLeft_le
  rw [hloop] at hle hle'
  exact ⟨hle', hle⟩

variable {consumers : List Consumer} {buffer startups shutdowns : Nat} {sources : List Source}

section Account
variable (run : Run c (start consumers buffer startups shutdowns sources) ms tr s)
include run

/-- Nothing is delivered before the loop begins. -/
theorem Run.not_delivered (hp : s.dispatcher.phase.isOpened = false) (i : Nat) (e : Event)
    (made : List Delivery) : .delivered i e made ∉ tr := by
  intro hmem
  have hle := (run.looping_between hmem).1
  cases hphase : s.dispatcher.phase <;> simp_all [Phase.stagesLeft]

/-- No delivery is in progress when a hook is. -/
theorem Run.inProgress_eq_nil (hp : s.dispatcher.phase.hook? = some (isStartup, k)) :
    s.dispatcher.inProgress = [] := by
  cases isStartup with
  | false =>
      refine (run.deliveryBooks.settled ?_).1
      cases hphase : s.dispatcher.phase <;> simp_all
  | true =>
      have hnone : fanOutsIn tr = [] := by
        refine List.filterMap_eq_nil_iff.mpr fun x hx => ?_
        cases x with
        | delivered i e made =>
            refine absurd hx (run.not_delivered ?_ i e made)
            cases hphase : s.dispatcher.phase <;> simp_all
        | _ => rfl
      have hperm := run.deliveryBooks.perm
      rw [madeIn, hnone, List.flatMap_nil] at hperm
      exact (List.append_eq_nil_iff.mp hperm.nil_eq.symm).2

/-- The dispatcher that a hook has panicked in is broken. -/
theorem Run.isBroken_of_panicked {s' : Dispatching}
    (h : Change c s mv (some (.hookPanicked isStartup k)) s') : s'.IsBroken := by
  cases h with
  | panicHook hh hb hp =>
      refine ⟨rfl, hh, ?_, run.inProgress_eq_nil hp, ?_⟩
      · refine run.pumpBooks.pumps_eq_nil ?_
        cases hphase : s.dispatcher.phase <;> simp_all
      · have hl := run.course.lifecycle_eq
        rw [standing, Phase.lifecycle_of_hook hp] at hl
        cases isStartup
        · exact .inr hl
        · exact .inl hl
  | own _ _ h => cases h
  | pumpWait _ he => simp at he
  | pump _ _ h => cases h

end Account

/-- A startup hook begins, returns or panics before the loop begins. -/
theorem Run.startup_hook_before
    (run : Run c (start consumers buffer startups shutdowns sources) ms (tr₁ ++ x :: tr₂) s)
    (hx : x.ofHook? = some true) :
    .moved .draining ∉ tr₁ ∧ ∀ i e made, .delivered i e made ∉ tr₁ := by
  obtain ⟨_, s₁, _, _, _, first, move, _⟩ := run.move_at
  obtain ⟨k, hk⟩ := (change_of_move move).phase_of_hook hx
  constructor
  · rw [← mem_statesOf, first.course.states_eq, standing, Phase.lifecycle_of_hook hk]
    simp
  · refine first.not_delivered ?_
    cases hphase : s₁.dispatcher.phase <;> simp_all

/-- A shutdown hook begins, returns or panics when the loop has been left, and nothing is delivered
after that. -/
theorem Run.shutdown_hook_behind
    (run : Run c (start consumers buffer startups shutdowns sources) ms (tr₁ ++ x :: tr₂) s)
    (hx : x.ofHook? = some false) :
    .moved .draining ∈ tr₁ ∧ ∀ i e made, .delivered i e made ∉ tr₂ := by
  obtain ⟨_, s₁, _, _, _, first, move, second⟩ := run.move_at
  obtain ⟨k, hk⟩ := (change_of_move move).phase_of_hook hx
  constructor
  · rw [← mem_statesOf, first.course.states_eq, standing, Phase.lifecycle_of_hook hk]
    simp
  · intro i e made hmem
    have hle := (((Run.single move).trans second).looping_between
      (List.mem_append_right _ hmem)).2
    cases hphase : s₁.dispatcher.phase <;> simp_all [Phase.stagesLeft]

/-- A hook that has panicked leaves a broken dispatcher. -/
theorem Run.isBroken (run : Run c (start consumers buffer startups shutdowns sources) ms tr s)
    (h : .hookPanicked isStartup k ∈ tr) : s.IsBroken := by
  obtain ⟨tr₁, tr₂, rfl⟩ := List.append_of_mem h
  obtain ⟨_, _, _, _, _, first, move, second⟩ := run.move_at
  exact (second.broken (first.isBroken_of_panicked (change_of_move move))).1

/-- After a hook has panicked nothing is shown but that somebody wants to drain. -/
theorem Run.after_panic
    (run : Run c (start consumers buffer startups shutdowns sources) ms
      (tr₁ ++ .hookPanicked isStartup k :: tr₂) s) : ∀ x ∈ tr₂, x.isDrain = true := by
  obtain ⟨_, _, _, _, _, first, move, second⟩ := run.move_at
  exact (second.broken (first.isBroken_of_panicked (change_of_move move))).2

end Dispatching

end LogWarden
