import LogWarden.Proofs.Dispatch.Progress
import LogWarden.Proofs.Dispatch.Served

/-!
# The life of a dispatcher

However often and whenever a drain is requested, and however hooks, sources and consumers end, a
dispatcher with sources goes through its states once each and runs each of its hooks once, the
startup hooks before it asks its sources and the shutdown hooks after all that it has started has
ended. From every point on it can be brought to its end, whatever its hooks return. A dispatcher one
of whose hooks panics stays where it is.
-/

namespace LogWarden

/-- The pump whose turn something shown is, if it is one's. -/
def DispatchEvent.pump? : DispatchEvent → Option Nat
  | .asked i _ | .sent i _ | .pumpStopped i => some i
  | _ => none

theorem Phase.isSettled_iff {p : Phase} : p.isSettled = true ↔ p.stagesLeft ≤ 1 := by
  cases p <;> simp [stagesLeft]

theorem Phase.hookUnderWay_length_le (p : Phase) (inHook : Bool) :
    (p.hookUnderWay inHook).length ≤ 1 := by
  cases p <;> cases inHook <;> simp

namespace Dispatching

variable {consumers : List Consumer} {c : Classifier} {s s' : Dispatching} {n m : Nat}
variable {mv : Move} {e : Option DispatchEvent} {tr tr₁ tr₂ : List DispatchEvent}
variable {buffer startups shutdowns : Nat} {sources : List Source} {ms : List Move}

/-- A history of a dispatcher with so many hooks and sources is that of one life. -/
structure LifecycleAccount (c : Classifier) (startups shutdowns n : Nat) (tr : List DispatchEvent)
    (s : Dispatching) : Prop where
  /-- The states follow one another, each once, up to the present one. -/
  states : statesOf tr = s.dispatcher.lifecycle.path
  /-- The hooks begin in order, each at most once and in its state. -/
  hooks_begin : hooksBegun tr <+:
    (hookNames true startups ++ hookNames false shutdowns).map hookInState
  /-- A hook has ended, in whatever way, before the next one begins. -/
  hooks_end : hooksEnded tr <+: (hooksBegun tr).map Prod.fst ∧
    (hooksBegun tr).length ≤ (hooksEnded tr).length + 1
  /-- When a source is asked, all startup hooks have ended. -/
  asked_after : ∀ tr₁ i r tr₂, tr = tr₁ ++ .asked i r :: tr₂ →
    hooksEnded tr₁ = hookNames true startups
  /-- When a shutdown hook begins, all pumps are over and all deliveries have ended, and no pump
  takes a turn after that. -/
  shutdown_after : ∀ tr₁ k l tr₂, tr = tr₁ ++ .hookBegan false k l :: tr₂ →
    (∀ i < n, PumpOver tr₁ i) ∧ (∀ x ∈ madeIn tr, ∃ v, .ended x v ∈ tr₁) ∧
      ∀ x ∈ tr₂, x.pump? = none
  /-- A call to drain returns when the dispatcher has stopped, unless it was made before it ran. -/
  drain_returns : ∀ tr₁ i isFirst l tr₂, tr = tr₁ ++ .drained i isFirst l true :: tr₂ →
    .moved .stopped ∈ tr₁ ∨ isFirst = true ∧ statesOf tr₁ = []
  /-- A dispatcher that returns has gone through all states and has run all hooks. -/
  returned : ∀ r, .returned r ∈ tr → r = .ok () ∧ statesOf tr = [.running, .draining, .stopped] ∧
    hooksBegun tr = (hookNames true startups ++ hookNames false shutdowns).map hookInState ∧
    hooksEnded tr = hookNames true startups ++ hookNames false shutdowns
  /-- Unless a hook has panicked, the dispatcher can be brought to return, whatever the hooks that
  are left return. -/
  can_return : (∀ isStartup k, .hookPanicked isStartup k ∉ tr) → ∀ results,
    ∃ ms' tr' s', Run c s ms' tr' s' ∧ s'.result = some (.ok ()) ∧ HooksReturn results tr'
  /-- A dispatcher whose hook has panicked does not return, and no call to drain returns after
  that. -/
  panicked : ∀ tr₁ isStartup k tr₂, tr = tr₁ ++ .hookPanicked isStartup k :: tr₂ →
    (∀ r, .returned r ∉ tr) ∧ ∀ i isFirst l, .drained i isFirst l true ∉ tr₂

/-- A history of a dispatcher without sources: it is refused, and nothing else comes of it. -/
structure RefusalAccount (c : Classifier) (tr : List DispatchEvent) (s : Dispatching) : Prop where
  states : statesOf tr = [] ∧ s.dispatcher.lifecycle = .idle
  hooks : hooksBegun tr = []
  returned : ∀ r, .returned r ∈ tr → r = .error .noIngestionSource
  refused : s.result = none →
    ∃ s', Run c s [.own] [.returned (.error .noIngestionSource)] s'

/-- The hooks of a phase are a first part of all hooks. -/
theorem hooks_prefix_all {p : Phase} {inHook : Bool} (h : p.Within n m inHook) :
    p.hooksDone n m ++ p.hookUnderWay inHook <+: hookNames true n ++ hookNames false m := by
  cases p with
  | waiting =>
      cases h
      exact List.nil_prefix
  | startup k =>
      cases inHook with
      | false =>
          rw [Phase.hooksDone, Phase.hookUnderWay, if_neg (by simp), List.append_nil]
          exact (hookNames_prefix_of_le true h).trans (List.prefix_append ..)
      | true =>
          have hsucc := (hookNames_prefix_of_le true (Nat.succ_le_of_lt h)).trans
            (List.prefix_append _ (hookNames false m))
          rw [hookNames_succ] at hsucc
          exact hsucc
  | looping | stoppingPumps | stoppingDeliveries =>
      cases h
      exact ⟨hookNames false m, by simp⟩
  | shutdown k =>
      cases inHook with
      | false =>
          rw [Phase.hooksDone, Phase.hookUnderWay, if_neg (by simp), List.append_nil]
          exact List.prefix_append_right_inj _ |>.mpr (hookNames_prefix_of_le false h)
      | true =>
          have hsucc := hookNames_prefix_of_le false (Nat.succ_le_of_lt h)
          rw [hookNames_succ] at hsucc
          rw [Phase.hooksDone, List.append_assoc]
          exact List.prefix_append_right_inj _ |>.mpr hsucc
  | «over» =>
      cases h
      exact ⟨[], by simp⟩

theorem Course.hooksBegun_fst (k : Course n m tr s.standing) :
    (hooksBegun tr).map Prod.fst =
      hooksEnded tr ++ s.dispatcher.phase.hookUnderWay s.inHook := by
  rw [k.begun_eq, k.ended_eq, List.map_map]
  exact List.map_id _

/-- Only in the loop are sources asked. -/
theorem Change.asked {i : Nat} {r : Option Reading} (h : Change c s mv (some (.asked i r)) s')
    (pumps : PumpBooks n tr s.dispatcher) : s.dispatcher.phase = .looping := by
  cases h with
  | pumpWait hi he =>
      rcases he with he | ⟨he, hp⟩
      · cases he
      · cases he
        exact pumps.looping hi hp
  | pump hi hp h =>
      cases h <;> exact pumps.looping hi hp
  | own _ _ h => cases h

theorem Change.hookBegan {k : Nat} {l : Lifecycle}
    (h : Change c s mv (some (.hookBegan false k l)) s') :
    s.dispatcher.phase = .shutdown k ∧ s'.dispatcher.phase = .shutdown k := by
  cases h with
  | own _ _ h =>
      cases h with
      | beginShutdown hp => exact ⟨hp, hp⟩
  | pumpWait _ he => simp at he
  | pump _ _ h => cases h

theorem Change.drained {i : Nat} {isFirst : Bool} {l : Lifecycle} {returns : Bool}
    (h : Change c s mv (some (.drained i isFirst l returns)) s') (hreturns : returns = true) :
    s.dispatcher.lifecycle = .stopped ∨ isFirst = true ∧ s.dispatcher.lifecycle = .idle := by
  cases h with
  | beginCall => exact .inr ⟨rfl, of_decide_eq_true hreturns⟩
  | pollCall => exact .inl (of_decide_eq_true hreturns)
  | pumpWait _ he => simp at he
  | pump _ _ h => cases h
  | own _ _ h => cases h

theorem Run.isSettled (run : Run c s ms tr s') (hs : s.dispatcher.phase.isSettled = true) :
    s'.dispatcher.phase.isSettled = true := by
  rw [Phase.isSettled_iff] at hs ⊢
  exact run.stagesLeft_le.trans hs

/-- Without pumps no pump takes a turn. -/
theorem Change.pump?_eq_none {x : DispatchEvent} (h : Change c s mv (some x) s')
    (hp : s.dispatcher.pumps = []) : x.pump? = none := by
  generalize he : some x = e at h
  cases h with
  | pumpWait hi | pump hi | send hi | stopPump hi => simp [hp] at hi
  | own _ _ h =>
      cases h with
      | openPumps | observe | exhaust | joinPump => cases he
      | cancelDeliveries | joinDelivery | clear => cases he
      | _ =>
          cases he
          rfl
  | call | abandonCall | feed | finish => cases he
  | _ =>
      cases he
      rfl

section Account
variable (run : Run c (start consumers buffer startups shutdowns sources) ms tr s)
include run

theorem Run.hooks_end : hooksEnded tr <+: (hooksBegun tr).map Prod.fst ∧
    (hooksBegun tr).length ≤ (hooksEnded tr).length + 1 := by
  have hfst := run.course.hooksBegun_fst
  constructor
  · rw [hfst]
    exact List.prefix_append ..
  · have hlength := congrArg List.length hfst
    rw [List.length_map, List.length_append] at hlength
    have hle := s.dispatcher.phase.hookUnderWay_length_le s.inHook
    omega

/-- When no pump and no delivery is left, all of them are over. -/
theorem Run.settled (hs : s.dispatcher.phase.isSettled = true) :
    (∀ i < sources.length, PumpOver tr i) ∧ (∀ x ∈ madeIn tr, ∃ v, .ended x v ∈ tr) ∧
      s.dispatcher.pumps = [] := by
  have pumps := run.pumpBooks
  have deliveries := run.deliveryBooks
  have hnil : s.dispatcher.pumps = [] := by
    apply pumps.pumps_eq_nil
    cases hp : s.dispatcher.phase <;> simp_all
  refine ⟨fun i hi => ?_, fun x hx => ?_, hnil⟩
  · refine (pumps.live_or_over ?_ i hi).resolve_left ?_
    · cases hp : s.dispatcher.phase <;> simp_all
    · simp [Dispatcher.isPumping, hnil]
  · have hperm := deliveries.perm
    rw [(deliveries.settled hs).1, List.append_nil] at hperm
    obtain ⟨⟨_, v⟩, hend, rfl⟩ := List.mem_map.mp (hperm.subset hx)
    exact ⟨v, mem_endingsIn.mp hend⟩

theorem Run.lifecycleAccount (hn : sources ≠ []) :
    LifecycleAccount c startups shutdowns sources.length tr s where
  states := run.course.lifecycle_path
  hooks_begin := by
    rw [run.course.begun_eq]
    exact (hooks_prefix_all run.course.within).map hookInState
  hooks_end := run.hooks_end
  asked_after := by
    rintro tr₁ i r tr₂ rfl
    obtain ⟨_, s₁, _, _, _, first, move, _⟩ := run.move_at
    have hp := (change_of_move move).asked first.pumpBooks
    rw [first.course.ended_eq, standing, hp, Phase.hooksDone]
  shutdown_after := by
    rintro tr₁ k l tr₂ rfl
    obtain ⟨_, s₁, _, s₂, _, first, move, second⟩ := run.move_at
    obtain ⟨hp, hp₂⟩ := (change_of_move move).hookBegan
    obtain ⟨hpumps, hmade, -⟩ := first.settled (by rw [hp]; rfl)
    refine ⟨hpumps, ?_, ?_⟩
    · -- what has not been made by now is never made
      obtain ⟨-, -, hfan⟩ := (first.tail move).still (by rw [hp₂]; rfl) second
      rw [fanOutsIn_of_none tr₁ rfl, List.append_assoc, Option.toList_some,
        List.singleton_append] at hfan
      rw [madeIn, hfan]
      exact hmade
    · intro x hx
      obtain ⟨tr₃, tr₄, rfl⟩ := List.append_of_mem hx
      obtain ⟨_, s₃, _, _, _, between, move', _⟩ := second.move_at
      have hsettled := between.isSettled (by rw [hp₂]; rfl)
      have hnil := (((first.tail move).trans between).settled hsettled).2.2
      exact (change_of_move move').pump?_eq_none hnil
  drain_returns := by
    rintro tr₁ i isFirst l tr₂ rfl
    obtain ⟨_, s₁, _, _, _, first, move, _⟩ := run.move_at
    have hpath := first.course.lifecycle_path
    rcases (change_of_move move).drained rfl with hstopped | ⟨hfirst, hidle⟩
    · left
      rw [← mem_statesOf, hpath, hstopped]
      simp
    · right
      rw [hpath, hidle]
      exact ⟨hfirst, rfl⟩
  returned := by
    intro r hr
    obtain ⟨rfl, hp⟩ := run.of_result hn ((run.returns.returned_iff r).mp hr)
    have course := run.course
    rw [course.states_eq, course.begun_eq, course.ended_eq, standing, hp]
    simp
  can_return := fun hpanic => run.exists_returned hn (run.broken_eq_false rfl hpanic)
  panicked := by
    rintro tr₁ isStartup k tr₂ rfl
    constructor
    · intro r hr
      obtain ⟨-, hp⟩ := run.of_result hn ((run.returns.returned_iff r).mp hr)
      have hbroken := run.isBroken (List.mem_append_right _ List.mem_cons_self)
      have hwithin := run.course.within
      simp [standing, hp, Phase.Within, hbroken.inHook] at hwithin
    · intro i isFirst l hmem
      cases run.after_panic _ hmem

theorem Run.refusalAccount (hn : sources = []) : RefusalAccount c tr s := by
  subst hn
  have course := run.course
  have pumps := run.pumpBooks
  have hsources : s.dispatcher.sources = [] := List.length_eq_zero_iff.mp pumps.sources_length
  have hnot : .moved .running ∉ tr := by
    intro hmem
    obtain ⟨_, _, s₁, _, _, first, change⟩ := run.change_of_mem hmem
    have hnil : s₁.dispatcher.sources = [] :=
      List.length_eq_zero_iff.mp first.pumpBooks.sources_length
    cases change with
    | own _ _ h =>
        cases h with
        | start hp hne => exact hne hnil
    | pumpWait _ he => simp at he
    | pump _ _ h => cases h
  have hp : s.dispatcher.phase = .waiting := by
    rw [← mem_statesOf, course.states_eq] at hnot
    cases hp : s.dispatcher.phase <;> simp_all [standing]
  have hlifecycle : s.dispatcher.lifecycle = .idle :=
    course.lifecycle_eq.trans (congrArg Phase.lifecycle hp)
  have hh : s.inHook = false := by
    have hwithin := course.within
    rw [standing, hp] at hwithin
    exact hwithin
  refine ⟨⟨?_, hlifecycle⟩, ?_, ?_, ?_⟩
  · rw [course.lifecycle_path, hlifecycle]
    rfl
  · rw [course.begun_eq, standing, hp, hh]
    rfl
  · intro r hr
    have returns := run.returns
    have hresult := (returns.returned_iff r).mp hr
    cases r with
    | ok =>
        have hover := returns.ok_over hresult
        rw [hp] at hover
        cases hover
    | error err => rw [(returns.refused err hresult).1]
  · intro hr
    have hrun : s.dispatcher.run = .error .noIngestionSource :=
      Dispatcher.run_eq_error_iff.mpr ⟨hsources, rfl⟩
    have hmove : s.move c .own = some ({ s with result := some (.error .noIngestionSource) },
        some (.returned (.error .noIngestionSource))) := by
      simp [move, ownTurn, hh, hr, Dispatcher.next, hp, hrun, afterTurn]
    exact ⟨_, Run.single hmove⟩

end Account

/-- Every dispatcher with sources lives one life, and one without sources is refused. -/
theorem one_life (run : Run c (start consumers buffer startups shutdowns sources) ms tr s) :
    (sources ≠ [] → LifecycleAccount c startups shutdowns sources.length tr s) ∧
      (sources = [] → RefusalAccount c tr s) :=
  ⟨run.lifecycleAccount, run.refusalAccount⟩

/-- The dispatcher of kicks lives its life though its startup hook fails, and without its source it
is refused. -/
theorem kick_life :
    ∃ s, Run kicks (kickStart 1 ["a"]) (kickMoves .ok) (kickHistory .ok) s ∧
      LifecycleAccount kicks 1 1 1 (kickHistory .ok) s ∧
      RefusalAccount kicks [] (start kickConsumers 1 1 1 []) := by
  have run : Run kicks (kickStart 1 ["a"]) (kickMoves .ok) (kickHistory .ok) _ := Run.of_play rfl
  exact ⟨_, run, (one_life run).1 (by simp), (one_life .refl).2 rfl⟩

end Dispatching

end LogWarden
