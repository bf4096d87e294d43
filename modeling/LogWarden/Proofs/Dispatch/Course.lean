import LogWarden.Proofs.Dispatch.Moves

/-!
# The course of a dispatcher

What a history shows of states and hooks is told by the phase that the dispatcher is in, and the
other way round: which states it has entered, which hooks have ended, and which one is under way.
-/

namespace LogWarden

/-- A startup hook or a shutdown hook, with its number. -/
abbrev HookName := Bool × Nat

/-- The state that the dispatcher enters, if something shown is that. -/
@[simp] def DispatchEvent.state? : DispatchEvent → Option Lifecycle
  | .moved l => some l
  | _ => none

/-- The hook that begins and the state at that moment, if something shown is that. -/
@[simp] def DispatchEvent.hookBegun? : DispatchEvent → Option (HookName × Lifecycle)
  | .hookBegan isStartup hook l => some ((isStartup, hook), l)
  | _ => none

@[simp] def DispatchEvent.hookEnded? : DispatchEvent → Option HookName
  | .hookEnded isStartup hook _ => some (isStartup, hook)
  | _ => none

section Histories
variable (tr : List DispatchEvent)

/-- The states that a dispatcher has entered. -/
def statesOf : List Lifecycle := tr.filterMap DispatchEvent.state?

/-- The hooks that have begun. -/
def hooksBegun : List (HookName × Lifecycle) := tr.filterMap DispatchEvent.hookBegun?

/-- The hooks that have ended. -/
def hooksEnded : List HookName := tr.filterMap DispatchEvent.hookEnded?

end Histories

/-- The states that are entered on the way to a state. -/
@[simp] def Lifecycle.path : Lifecycle → List Lifecycle
  | .idle => []
  | .running => [.running]
  | .draining => [.running, .draining]
  | .stopped => [.running, .draining, .stopped]

/-- The first startup hooks or shutdown hooks, so many. -/
def hookNames (isStartup : Bool) (n : Nat) : List HookName :=
  (List.range n).map fun k => (isStartup, k)

/-- A hook with the state in which it is to run. -/
def hookInState (h : HookName) : HookName × Lifecycle :=
  (h, if h.1 then .running else .draining)

theorem hookNames_succ (isStartup : Bool) (n : Nat) :
    hookNames isStartup (n + 1) = hookNames isStartup n ++ [(isStartup, n)] := by
  simp [hookNames, List.range_succ]

theorem hookNames_prefix_of_le (isStartup : Bool) {n m : Nat} (h : n ≤ m) :
    hookNames isStartup n <+: hookNames isStartup m := by
  obtain ⟨k, rfl⟩ := Nat.exists_eq_add_of_le h
  rw [hookNames, hookNames, List.range_add, List.map_append]
  exact List.prefix_append ..

namespace Phase

/-- The state of a dispatcher in a phase. -/
@[simp] def lifecycle : Phase → Lifecycle
  | .waiting => .idle
  | .startup _ | .looping => .running
  | .stoppingPumps | .stoppingDeliveries | .shutdown _ => .draining
  | .over => .stopped

/-- How many stages a dispatcher in a phase has before it. -/
def stagesLeft : Phase → Nat
  | .waiting => 6
  | .startup _ => 5
  | .looping => 4
  | .stoppingPumps => 3
  | .stoppingDeliveries => 2
  | .shutdown _ => 1
  | .over => 0

/-- The hooks that have ended when a dispatcher with so many hooks is in a phase. -/
@[simp] def hooksDone (n m : Nat) : Phase → List HookName
  | .waiting => []
  | .startup k => hookNames true k
  | .looping | .stoppingPumps | .stoppingDeliveries => hookNames true n
  | .shutdown k => hookNames true n ++ hookNames false k
  | .over => hookNames true n ++ hookNames false m

/-- The hook that is under way, if one is. -/
@[simp] def hookUnderWay (p : Phase) (inHook : Bool) : List HookName :=
  if inHook then p.hook?.toList else []

/-- A dispatcher with so many hooks comes to a phase, and to a hook of it or to none. -/
def Within (n m : Nat) (inHook : Bool) : Phase → Prop
  | .startup k => if inHook then k < n else k ≤ n
  | .shutdown k => if inHook then k < m else k ≤ m
  | _ => inHook = false

end Phase

namespace Dispatching

/-- Where a dispatcher stands. -/
structure Standing where
  startupHooks : Nat
  shutdownHooks : Nat
  lifecycle : Lifecycle
  phase : Phase
  inHook : Bool

/-- Where a dispatcher stands with its states and hooks. -/
def standing (s : Dispatching) : Standing :=
  ⟨s.dispatcher.startupHooks, s.dispatcher.shutdownHooks, s.dispatcher.lifecycle,
    s.dispatcher.phase, s.inHook⟩

/-- A history agrees with where a dispatcher stands that has so many hooks. -/
structure Course (n m : Nat) (tr : List DispatchEvent) (t : Standing) : Prop where
  startupHooks_eq : t.startupHooks = n
  shutdownHooks_eq : t.shutdownHooks = m
  lifecycle_eq : t.lifecycle = t.phase.lifecycle
  states_eq : statesOf tr = t.phase.lifecycle.path
  ended_eq : hooksEnded tr = t.phase.hooksDone n m
  begun_eq : hooksBegun tr =
    (t.phase.hooksDone n m ++ t.phase.hookUnderWay t.inHook).map hookInState
  within : t.phase.Within n m t.inHook

/-- What is shown says nothing of states and hooks. -/
structure Quiet (e : Option DispatchEvent) : Prop where
  state : e.bind DispatchEvent.state? = none
  begun : e.bind DispatchEvent.hookBegun? = none
  ended : e.bind DispatchEvent.hookEnded? = none

variable {c : Classifier} {n m : Nat} {s s' : Dispatching} {mv : Move} {e : Option DispatchEvent}
variable {tr : List DispatchEvent} {t : Standing}

/-- What is shown in a step is what the two phases differ by. -/
theorem Course.step (k : Course n m tr t) {t' : Standing}
    (hn : t'.startupHooks = t.startupHooks) (hm : t'.shutdownHooks = t.shutdownHooks)
    (hl : t'.lifecycle = t'.phase.lifecycle)
    (hs : t'.phase.lifecycle.path =
      t.phase.lifecycle.path ++ (e.bind DispatchEvent.state?).toList)
    (hd : t'.phase.hooksDone n m =
      t.phase.hooksDone n m ++ (e.bind DispatchEvent.hookEnded?).toList)
    (hb : (t'.phase.hooksDone n m ++ t'.phase.hookUnderWay t'.inHook).map hookInState =
      (t.phase.hooksDone n m ++ t.phase.hookUnderWay t.inHook).map hookInState
        ++ (e.bind DispatchEvent.hookBegun?).toList)
    (hw : t'.phase.Within n m t'.inHook) : Course n m (tr ++ e.toList) t' where
  startupHooks_eq := hn.trans k.startupHooks_eq
  shutdownHooks_eq := hm.trans k.shutdownHooks_eq
  lifecycle_eq := hl
  states_eq := by rw [hs, ← k.states_eq, statesOf, filterMap_append_toList, statesOf]
  ended_eq := by rw [hd, ← k.ended_eq, hooksEnded, filterMap_append_toList, hooksEnded]
  begun_eq := by rw [hb, ← k.begun_eq, hooksBegun, filterMap_append_toList, hooksBegun]
  within := hw

theorem Course.quiet (k : Course n m tr t) (he : Quiet e) : Course n m (tr ++ e.toList) t := by
  refine k.step rfl rfl k.lifecycle_eq ?_ ?_ ?_ k.within
  · rw [he.state, Option.toList_none, List.append_nil]
  · rw [he.ended, Option.toList_none, List.append_nil]
  · rw [he.begun, Option.toList_none, List.append_nil]

theorem PumpChange.quiet {i : Nat} {p p' : Pump} (h : PumpChange c i p e p') : Quiet e := by
  cases h with
  | ask | read | lose | turn => exact ⟨rfl, rfl, rfl⟩

/-- A change of where a dispatcher stands, and what it shows. -/
inductive StandingChange (t : Standing) : Option DispatchEvent → Standing → Prop
  | start (hp : t.phase = .waiting) (hh : t.inHook = false) :
      StandingChange t (some (.moved .running))
        { t with lifecycle := .running, phase := .startup 0 }
  | begin {isStartup k} (hp : t.phase.hook? = some (isStartup, k)) (hh : t.inHook = false)
      (hk : k < if isStartup then t.startupHooks else t.shutdownHooks) :
      StandingChange t (some (.hookBegan isStartup k t.lifecycle)) { t with inHook := true }
  | endStartup {k} (hp : t.phase = .startup k) (hh : t.inHook = true) (r) :
      StandingChange t (some (.hookEnded true k r))
        { t with phase := .startup (k + 1), inHook := false }
  | loop {k} (hp : t.phase = .startup k) (hh : t.inHook = false) (hk : t.startupHooks ≤ k) :
      StandingChange t none { t with phase := .looping }
  | leave (hp : t.phase = .looping) (hh : t.inHook = false) :
      StandingChange t (some (.moved .draining))
        { t with lifecycle := .draining, phase := .stoppingPumps }
  | cancel (hp : t.phase = .stoppingPumps) (hh : t.inHook = false) :
      StandingChange t none { t with phase := .stoppingDeliveries }
  | clear (hp : t.phase = .stoppingDeliveries) (hh : t.inHook = false) :
      StandingChange t none { t with phase := .shutdown 0 }
  | endShutdown {k} (hp : t.phase = .shutdown k) (hh : t.inHook = true) (r) :
      StandingChange t (some (.hookEnded false k r))
        { t with phase := .shutdown (k + 1), inHook := false }
  | stop {k} (hp : t.phase = .shutdown k) (hh : t.inHook = false)
      (hk : t.shutdownHooks ≤ k) :
      StandingChange t (some (.moved .stopped)) { t with lifecycle := .stopped, phase := .over }

/-- A move changes where a dispatcher stands and shows that, or does neither. -/
theorem Change.standing (h : Change c s mv e s') :
    StandingChange s.standing e s'.standing ∨ s'.standing = s.standing ∧ Quiet e := by
  cases h with
  | pumpWait _ he =>
      refine .inr ⟨rfl, ?_⟩
      rcases he with rfl | ⟨rfl, _⟩ <;> exact ⟨rfl, rfl, rfl⟩
  | pump _ _ h => exact .inr ⟨rfl, h.quiet⟩
  | endStartup r hh _ hp => exact .inl (.endStartup hp hh r)
  | endShutdown r hh _ hp => exact .inl (.endShutdown hp hh r)
  | own hh _ h =>
      cases h with
      | start hp => exact .inl (.start hp hh)
      | beginStartup hp hk => exact .inl (.begin (congrArg Phase.hook? hp) hh hk)
      | beginShutdown hp hk => exact .inl (.begin (congrArg Phase.hook? hp) hh hk)
      | openPumps hp hk => exact .inl (.loop hp hh hk)
      | finish hp | drain hp | terminate hp => exact .inl (.leave hp hh)
      | cancelDeliveries hp => exact .inl (.cancel hp hh)
      | clear hp => exact .inl (.clear hp hh)
      | stop hp hk => exact .inl (.stop hp hh hk)
      | refuse | observe | deliver | exhaust | joinPump | joinDelivery | «return» =>
          exact .inr ⟨rfl, rfl, rfl, rfl⟩
  | _ => exact .inr ⟨rfl, rfl, rfl, rfl⟩

/-- No phase is come back to from a later one. -/
theorem StandingChange.stagesLeft_le {t' : Standing} (h : StandingChange t e t') :
    t'.phase.stagesLeft ≤ t.phase.stagesLeft := by
  cases h with
  | begin => exact Nat.le_refl _
  | start hp | endStartup hp | loop hp | leave hp =>
      rw [hp]
      simp [Phase.stagesLeft]
  | cancel hp | clear hp | endShutdown hp | stop hp =>
      rw [hp]
      simp [Phase.stagesLeft]

theorem Run.stagesLeft_le {ms : List Move} (run : Run c s ms tr s') :
    s'.dispatcher.phase.stagesLeft ≤ s.dispatcher.phase.stagesLeft := by
  induction run with
  | refl => exact Nat.le_refl _
  | tail _ h ih =>
      rcases (change_of_move h).standing with hchange | ⟨hsame, -⟩
      · exact Nat.le_trans hchange.stagesLeft_le ih
      · exact Nat.le_trans (Nat.le_of_eq (congrArg (·.phase.stagesLeft) hsame)) ih

theorem mem_statesOf {l : Lifecycle} : l ∈ statesOf tr ↔ .moved l ∈ tr := by
  rw [statesOf, List.mem_filterMap]
  constructor
  · rintro ⟨x, hx, hl⟩
    cases x <;> cases hl
    exact hx
  · intro h
    exact ⟨_, h, rfl⟩

theorem start_course (consumers : List Consumer) (buffer n m : Nat) (sources : List Source) :
    Course n m [] (start consumers buffer n m sources).standing :=
  ⟨rfl, rfl, rfl, rfl, rfl, rfl, rfl⟩

theorem Course.change (k : Course n m tr t) {t' : Standing} (h : StandingChange t e t') :
    Course n m (tr ++ e.toList) t' := by
  obtain ⟨_, _, lifecycle, phase, inHook⟩ := t
  obtain ⟨rfl, rfl, hl, -, -, -, hw⟩ := id k
  cases h with
  | start hp hh =>
      subst hp hh
      exact k.step rfl rfl rfl rfl rfl rfl (Nat.zero_le _)
  | begin hp hh hk =>
      subst hh
      cases phase with
      | startup j | shutdown j =>
          cases hp
          cases hl
          refine k.step rfl rfl rfl ?_ ?_ ?_ hk
          · simp
          · simp
          · simp [hookInState]
      | _ => cases hp
  | endStartup hp hh r =>
      subst hp hh
      refine k.step rfl rfl hl ?_ ?_ ?_ (Nat.succ_le_of_lt hw)
      · simp
      · simp [hookNames_succ]
      · simp [hookNames_succ]
  | @loop j hp hh hj =>
      subst hp hh
      obtain rfl : j = _ := Nat.le_antisymm hw hj
      refine k.step rfl rfl hl ?_ ?_ ?_ rfl <;> simp
  | leave hp hh | cancel hp hh =>
      subst hp hh
      refine k.step rfl rfl ?_ ?_ ?_ ?_ rfl <;> simp_all
  | clear hp hh =>
      subst hp hh
      refine k.step rfl rfl hl ?_ ?_ ?_ (Nat.zero_le _) <;> simp [hookNames]
  | endShutdown hp hh r =>
      subst hp hh
      refine k.step rfl rfl hl ?_ ?_ ?_ (Nat.succ_le_of_lt hw)
      · simp
      · simp [hookNames_succ]
      · simp [hookNames_succ]
  | @stop j hp hh hj =>
      subst hp hh
      obtain rfl : j = _ := Nat.le_antisymm hw hj
      refine k.step rfl rfl rfl ?_ ?_ ?_ rfl <;> simp

/-- What a history shows of states and hooks agrees with where the dispatcher stands. -/
theorem Run.course {consumers : List Consumer} {buffer : Nat} {sources : List Source}
    {ms : List Move} (run : Run c (start consumers buffer n m sources) ms tr s) :
    Course n m tr s.standing := by
  induction run with
  | refl => exact start_course consumers buffer n m sources
  | tail _ h ih =>
      rcases (change_of_move h).standing with hchange | ⟨hsame, hquiet⟩
      · exact ih.change hchange
      · exact hsame ▸ ih.quiet hquiet

theorem Course.lifecycle_path (k : Course n m tr s.standing) :
    statesOf tr = s.dispatcher.lifecycle.path :=
  k.states_eq.trans (congrArg Lifecycle.path k.lifecycle_eq.symm)

/-- A history agrees with what a dispatcher has returned: it has returned nothing before it is over,
unless it was refused for want of sources. -/
structure Returns (tr : List DispatchEvent) (s : Dispatching) : Prop where
  returned_iff : ∀ r, .returned r ∈ tr ↔ s.result = some r
  ok_over : s.result = some (.ok ()) → s.dispatcher.phase = .over
  refused : ∀ err, s.result = some (.error err) →
    err = .noIngestionSource ∧ s.dispatcher.phase = .waiting ∧ s.dispatcher.sources = []

namespace Returns

/-- A move that returns nothing. -/
theorem frame (k : Returns tr s) (hr : s'.result = s.result)
    (hp : s.result ≠ none → s'.dispatcher.phase = s.dispatcher.phase)
    (hs : s.dispatcher.sources = [] → s'.dispatcher.sources = [])
    (he : ∀ r, e ≠ some (.returned r)) : Returns (tr ++ e.toList) s' where
  returned_iff := fun r => by
    rw [List.mem_append, Option.mem_toList, hr, ← k.returned_iff r]
    exact or_iff_left (he r)
  ok_over := fun h => by
    rw [hr] at h
    rw [hp (by simp [h]), k.ok_over h]
  refused := fun err h => by
    rw [hr] at h
    obtain ⟨herr, hphase, hsources⟩ := k.refused err h
    exact ⟨herr, (hp (by simp [h])).trans hphase, hs hsources⟩

theorem of_return (k : Returns tr s) (hr : s.result = none) (r : Except ConfigError Unit)
    (hover : r = .ok () → s.dispatcher.phase = .over)
    (hrefused : ∀ err, r = .error err → err = .noIngestionSource ∧
      s.dispatcher.phase = .waiting ∧ s.dispatcher.sources = []) :
    Returns (tr ++ [.returned r]) { s with result := some r } where
  returned_iff := fun r' => by
    have hno : .returned r' ∉ tr := by simp [k.returned_iff, hr]
    simp [hno, eq_comm]
  ok_over := fun h => hover (Option.some.inj h)
  refused := fun err h => hrefused err (Option.some.inj h)

theorem change (k : Returns tr s) (h : Change c s mv e s') : Returns (tr ++ e.toList) s' := by
  cases h with
  | own hh hr h =>
      have hnone : s.result ≠ none → s'.dispatcher.phase = s.dispatcher.phase :=
        fun hne => absurd hr hne
      cases h with
      | refuse hp hs =>
          refine k.of_return hr _ (by rintro ⟨⟩) ?_
          rintro _ ⟨⟩
          exact ⟨rfl, hp, hs⟩
      | «return» hp => exact k.of_return hr _ (fun _ => hp) (by rintro _ ⟨⟩)
      | _ => exact k.frame rfl hnone id (by simp)
  | endStartup r hh _ hp | endShutdown r hh _ hp =>
      refine k.frame rfl (fun hne => ?_) id (by simp)
      cases hr : s.result with
      | none => exact absurd hr hne
      | some r =>
          cases r with
          | ok => simpa [hp] using k.ok_over hr
          | error err => simpa [hp] using (k.refused err hr).2.1
  | feed i fed | finish i =>
      refine k.frame rfl (fun _ => rfl) (fun hs => ?_) (by simp)
      simp [Dispatcher.modifySource, hs]
  | pumpWait _ he =>
      refine k.frame rfl (fun _ => rfl) id ?_
      rcases he with rfl | ⟨rfl, _⟩ <;> simp
  | pump _ _ h =>
      refine k.frame rfl (fun _ => rfl) id ?_
      cases h <;> simp
  | _ => exact k.frame rfl (fun _ => rfl) id (by simp)

end Returns

/-- What a history shows returned is what the dispatcher has returned. -/
theorem Run.returns {consumers : List Consumer} {buffer : Nat} {sources : List Source}
    {ms : List Move} (run : Run c (start consumers buffer n m sources) ms tr s) :
    Returns tr s := by
  induction run with
  | refl => exact ⟨by simp [start], by rintro ⟨⟩, by rintro _ ⟨⟩⟩
  | tail _ h ih => exact ih.change (change_of_move h)

end Dispatching

end LogWarden
