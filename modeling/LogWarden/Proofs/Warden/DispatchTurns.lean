import LogWarden.Proofs.Dispatch.Course
import LogWarden.Proofs.Dispatch.Deliveries
import LogWarden.Proofs.Warden.Holdings
import LogWarden.Warden.Run

/-!
# Turns of activities and moves of the dispatcher

A warden follows a run of a dispatcher if its dispatcher is what the run leads to and its activities
hold what they take themselves to hold. In the turn of an activity it goes on to follow a longer
run: a turn of the activity that dispatches is the dispatcher's own or is one of its hook, a turn of a
pump is that of the pump, an activity that drains makes a call and takes its turns, and scripts may
request a drain. All other activities leave the dispatcher alone.
-/

namespace LogWarden

/-- What a dispatcher is started with. -/
structure DispatchSetup where
  consumers : List Consumer
  buffer : Nat
  startupHooks : Nat
  shutdownHooks : Nat
  sources : List Source

/-- A dispatcher that nobody has started. -/
def DispatchSetup.start (u : DispatchSetup) : Dispatching :=
  .start u.consumers u.buffer u.startupHooks u.shutdownHooks u.sources

namespace Warden

open Dispatching (Run Change change_of_move)

/-- The run of a hook that is shown. -/
def hookRunOf (h : HookName × Lifecycle) : HookRun := ⟨h.1.1, h.1.2, h.2⟩

/-- Nothing is different that concerns the dispatcher. -/
structure Aside (w w' : Warden) : Prop where
  classifier_eq : w'.classifier = w.classifier
  dispatcher_eq : w'.dispatcher = w.dispatcher
  outcome_eq : w'.outcome = w.outcome
  hookRuns_eq : w'.hookRuns = w.hookRuns

/-- Further activities have begun, and nothing else is different that concerns the dispatcher. -/
structure Begins (ts : List Task) (w w' : Warden) : Prop extends Aside w w' where
  tasks_eq : w'.tasks = w.tasks ++ ts

/-- A warden has done to its dispatcher what a run shows that leads to some state. -/
structure Mirrors (u : DispatchSetup) (tr : List DispatchEvent) (s : Dispatching) (w : Warden) :
    Prop where
  run : ∃ ms, Run w.classifier u.start ms tr s
  dispatcher_eq : w.dispatcher = s.dispatcher
  outcome_eq : w.outcome = s.result.map fun r => r.mapError Error.config
  /-- The record of hooks may have been forgotten up to some moment. -/
  hookRuns_suffix : w.hookRuns.reverse <:+ (hooksBegun tr).map hookRunOf

/-- The activities of such a warden fit the dispatcher. -/
structure Follows (u : DispatchSetup) (tr : List DispatchEvent) (s : Dispatching)
    (call : Nat → Nat) (w : Warden) : Prop extends Mirrors u tr s w where
  activities : ActivitiesFit call s w.tasks
  roles : RolesFit s.dispatcher.inProgress w.tasks

/-- What becomes of a warden in the turn of an activity follows a longer run. The activity goes on
as another one, or it ends and has its role until that has been taken note of. -/
def Plays (u : DispatchSetup) (tr : List DispatchEvent) (t : Task) (w : Warden)
    (next : Option Activity) : Prop :=
  ∃ tr' s call, w.Mirrors u (tr ++ tr') s ∧ t ∈ w.tasks ∧
    RolesFit s.dispatcher.inProgress w.tasks ∧
    ActivitiesFit call s (w.tasks.filter (·.id ≠ t.id) ++
      (next.map fun a => { t with activity := a, begun := true }).toList)

/-- What a turn of an activity comes to follows a longer run. -/
def Step.Plays (u : DispatchSetup) (tr : List DispatchEvent) (t : Task) : Step → Prop
  | .goes w a => w.Plays u tr t (some a)
  | .ends w _ => w.Plays u tr t none
  | .waits => True

variable {u : DispatchSetup} {s s' : Dispatching} {call : Nat → Nat} {w w' : Warden}
variable {tr tr' : List DispatchEvent} {ts : List Task} {t : Task} {next : Option Activity}
variable {m : Move} {e : Option DispatchEvent}

namespace Begins

theorem refl (w : Warden) : w.Begins [] w :=
  ⟨⟨rfl, rfl, rfl, rfl⟩, (List.append_nil _).symm⟩

theorem spawn {role : Role} {a : Activity} (h : Begins ts (w.spawn role a) w') :
    Begins (⟨w.born, role, a, false⟩ :: ts) w w' :=
  ⟨⟨h.classifier_eq, h.dispatcher_eq, h.outcome_eq, h.hookRuns_eq⟩,
    h.tasks_eq.trans (List.append_assoc ..)⟩

end Begins

namespace Mirrors

theorem aside (k : Mirrors u tr s w) (h : w.Aside w') : Mirrors u tr s w' where
  run := h.classifier_eq ▸ k.run
  dispatcher_eq := h.dispatcher_eq.trans k.dispatcher_eq
  outcome_eq := h.outcome_eq.trans k.outcome_eq
  hookRuns_suffix := h.hookRuns_eq ▸ k.hookRuns_suffix

theorem notify (k : Mirrors u tr s w) (ns : List Notice) : Mirrors u tr s (w.notify ns) :=
  k.aside ⟨rfl, rfl, rfl, rfl⟩

/-- A warden has done what is one more move. -/
theorem move (k : Mirrors u tr s w) (h : s.move w.classifier m = some (s', e))
    (hc : w'.classifier = w.classifier) (hd : w'.dispatcher = s'.dispatcher)
    (ho : w'.outcome = s'.result.map fun r => r.mapError Error.config)
    (hr : w'.hookRuns = ((e.bind DispatchEvent.hookBegun?).map hookRunOf).toList ++ w.hookRuns) :
    Mirrors u (tr ++ e.toList) s' w' where
  run := by
    obtain ⟨ms, run⟩ := k.run
    rw [hc]
    exact ⟨_, run.tail h⟩
  dispatcher_eq := hd
  outcome_eq := ho
  hookRuns_suffix := by
    rw [hr, hooksBegun, filterMap_append_toList, List.map_append, List.reverse_append]
    have hsuffix := k.hookRuns_suffix
    cases e.bind DispatchEvent.hookBegun? with
    | none => simpa [hooksBegun] using hsuffix
    | some x =>
        obtain ⟨before, hbefore⟩ := hsuffix
        rw [hooksBegun] at hbefore
        exact ⟨before, by simp [← hbefore]⟩

/-- A drain is requested or not. -/
theorem drainIf (k : Mirrors u tr s w) (b : Bool) (hc : w'.classifier = w.classifier)
    (hd : w'.dispatcher = if b then w.dispatcher.requestDrain else w.dispatcher)
    (ho : w'.outcome = w.outcome) (hr : w'.hookRuns = w.hookRuns) :
    ∃ tr', Mirrors u (tr ++ tr')
      { s with dispatcher := if b then s.dispatcher.requestDrain else s.dispatcher } w' := by
  cases b with
  | false => exact ⟨[], by simpa using k.aside ⟨hc, hd, ho, hr⟩⟩
  | true =>
      rw [if_pos rfl, k.dispatcher_eq] at hd
      exact ⟨_, k.move (m := .requestDrain) rfl hc hd (ho.trans k.outcome_eq) hr⟩

/-- Deliveries in progress have different numbers. -/
theorem inProgress_nodup (k : Mirrors u tr s w) :
    (s.dispatcher.inProgress.map Delivery.id).Nodup := by
  obtain ⟨ms, run⟩ := k.run
  exact run.deliveryBooks.inProgress_nodup

/-- A dispatcher that is in a hook is at one. -/
theorem hookUnderWay (k : Mirrors u tr s w) (hin : s.inHook = true) (hb : s.broken = false) :
    ∃ x, s.hookUnderWay? = some x := by
  obtain ⟨ms, run⟩ := k.run
  have hwithin := run.course.within
  simp only [Dispatching.standing, hin] at hwithin
  simp only [Dispatching.hookUnderWay?_eq_some_iff, hin, hb, and_self, true_and]
  cases hp : s.dispatcher.phase with
  | startup hook => exact ⟨(true, hook), rfl⟩
  | shutdown hook => exact ⟨(false, hook), rfl⟩
  | _ =>
      rw [hp] at hwithin
      cases hwithin

/-- A delivery that is in progress can end, and it can be cancelled while the dispatcher waits for
that. -/
theorem endDelivery_move (k : Mirrors u tr s w) {x : Delivery} (hx : x ∈ s.dispatcher.inProgress)
    {v : Option Verdict} (hv : v = none → s.dispatcher.phase = .stoppingDeliveries) :
    ∃ m, s.move w.classifier m =
      some ({ s with dispatcher := s.dispatcher.deliveryEnded x v }, some (.ended x v)) := by
  have hfind : s.dispatcher.inProgress.find? (·.id == x.id) = some x := by
    cases hy : s.dispatcher.inProgress.find? (·.id == x.id) with
    | none => simpa using List.find?_eq_none.mp hy x hx
    | some y =>
        have hmem := List.mem_of_find?_eq_some hy
        have hid := Dispatching.id_eq_of_find? hy
        rw [List.inj_on_of_nodup_map k.inProgress_nodup hmem hx hid]
  cases v with
  | none =>
      refine ⟨.cancelDelivery x.id, ?_⟩
      simp [Dispatching.move, Dispatching.endDelivery, hv rfl, hfind]
  | some v =>
      refine ⟨.endDelivery x.id v, ?_⟩
      simp [Dispatching.move, Dispatching.endDelivery, hfind]

end Mirrors

namespace Follows

variable (k : Follows u tr s call w)
include k

theorem aside (h : w.Aside w') (htasks : w'.tasks = w.tasks) : Follows u tr s call w' :=
  ⟨Mirrors.aside k.toMirrors h, htasks ▸ k.activities, htasks ▸ k.roles⟩

/-! ### Activities that hold nothing -/

/-- Where an activity takes a turn that holds nothing before and after it. -/
theorem plays (ht : t ∈ w.tasks) (hm : Mirrors u (tr ++ tr') s' w') (hh : s'.inHook = s.inHook)
    (hr : s'.result = s.result) (hb : s'.broken = s.broken) (hc : s'.calls = s.calls)
    (hx : s'.dispatcher.inProgress = s.dispatcher.inProgress) (htasks : w'.tasks = w.tasks)
    (hnext : ∀ a ∈ next, ∀ i, a.hold? i = none) : w'.Plays u tr t next := by
  refine ⟨tr', s', call, hm, htasks ▸ ht, ?_, ?_⟩
  · rw [htasks, hx]
    exact k.roles
  · rw [htasks]
    refine k.activities.frame hh hr hb hc fun v hv => ?_
    rcases List.mem_append.mp hv with hv | hv
    · exact .inr (List.mem_of_mem_filter hv)
    · obtain ⟨a, ha, rfl⟩ := Option.map_eq_some_iff.mp (Option.mem_toList.mp hv)
      exact .inl (hnext a ha)

theorem plays_aside (ht : t ∈ w.tasks) (h : w.Aside w') (htasks : w'.tasks = w.tasks)
    (hnext : ∀ a ∈ next, ∀ i, a.hold? i = none) : w'.Plays u tr t next := by
  have hm : Mirrors u (tr ++ []) s w' := by
    rw [List.append_nil]
    exact k.toMirrors.aside h
  exact k.plays ht hm rfl rfl rfl rfl rfl htasks hnext

omit k in
theorem plays_ofTurn {σ α : Type} {f : σ → Activity} (hf : ∀ x i, (f x).hold? i = none)
    (g : α → Ended) (turn : Turn σ α)
    (h : ∀ next : Option Activity, (∀ a ∈ next, ∀ i, a.hold? i = none) → w'.Plays u tr t next) :
    Step.Plays u tr t (.ofTurn w' f g turn) := by
  cases turn with
  | goes x =>
      apply h
      rintro _ ⟨⟩
      exact hf x
  | waits => trivial
  | ends x =>
      apply h
      rintro _ ⟨⟩

/-! ### Pumps -/

omit k in
/-- A turn of a pump is a move of that pump. -/
theorem move_of_pumpNext {c : Classifier} {around : Surroundings} {now : Nanos} {i : Nat}
    {d : Dispatcher} {notices : List Notice}
    (h : s.dispatcher.pumpNext c around now i = some (d, notices)) :
    ∃ origins e, s.move c (.pump i around now) =
      some ({ s with dispatcher := d, origins }, e) := by
  cases hi : s.dispatcher.pumps[i]? with
  | none => simp [Dispatcher.pumpNext, hi] at h
  | some p =>
      simp only [Dispatching.move, Dispatching.pumpTurn, hi, Option.map_some, h]
      exact ⟨_, _, rfl⟩

omit k in
/-- A turn of a pump begins with no hook and ends no delivery. -/
theorem pump_quiet {c : Classifier} {around : Surroundings} {now : Nanos} {i : Nat}
    (h : Change c s (.pump i around now) e s') :
    e.bind DispatchEvent.hookBegun? = none ∧
      s'.dispatcher.inProgress = s.dispatcher.inProgress := by
  cases h with
  | pumpWait _ he => rcases he with rfl | ⟨rfl, _⟩ <;> exact ⟨rfl, rfl⟩
  | pump _ _ hchange => exact ⟨hchange.quiet.begun, rfl⟩
  | send | stopPump => exact ⟨rfl, rfl⟩

theorem plays_pump (ht : t ∈ w.tasks) (i : Nat) : (w.step (.pump i)).Plays u tr t := by
  simp only [step]
  split
  · rename_i d notices h
    rw [k.dispatcher_eq] at h
    obtain ⟨origins, e, hmove⟩ := move_of_pumpNext h
    have hquiet := pump_quiet (change_of_move hmove)
    have hm : Mirrors u (tr ++ e.toList) { s with dispatcher := d, origins }
        ({ w with dispatcher := d }.notify notices) := by
      refine k.toMirrors.move hmove rfl rfl k.outcome_eq ?_
      rw [hquiet.1]
      rfl
    split
    · exact k.plays ht hm rfl rfl rfl rfl hquiet.2 rfl (by rintro _ ⟨⟩ _; rfl)
    · exact k.plays ht hm rfl rfl rfl rfl hquiet.2 rfl (by rintro _ ⟨⟩)
  · trivial

/-! ### Calls to drain -/

/-- Where a call to drain takes a turn, after which nothing else may hold its number. -/
theorem plays_call (ht : t ∈ w.tasks) (hm : Mirrors u (tr ++ tr') s' w')
    (hh : s'.inHook = s.inHook) (hr : s'.result = s.result) (hb : s'.broken = s.broken)
    (hx : s'.dispatcher.inProgress = s.dispatcher.inProgress) (htasks : w'.tasks = w.tasks)
    {j : Nat} (hj : ∀ v ∈ w.tasks, v.id ≠ t.id → v.activity.hold? (call v.id) ≠ some (.call j))
    (hcalls : ∀ i, i ≠ j → s.calls[i]? = some (some .waiting) →
      s'.calls[i]? = some (some .waiting))
    (hnext : ∀ a ∈ next, a = .drain .waiting ∧ s'.calls[j]? = some (some .waiting)) :
    w'.Plays u tr t next := by
  refine ⟨tr', s', Function.update call t.id j, hm, htasks ▸ ht, ?_, ?_⟩
  · rw [htasks, hx]
    exact k.roles
  · refine k.activities.turn t.id (fun i hne => Function.update_of_ne hne ..) ?_ ?_
    · intro v hv hne
      refine (k.activities.fits v hv).frame (fun _ => ⟨hh, hr, hb⟩) fun hold => hcalls _ ?_
      rintro rfl
      exact hj v hv hne hold
    · intro v hv
      rcases List.mem_append.mp hv with hv | hv
      · obtain ⟨hv, hne⟩ := List.mem_filter.mp hv
        exact .inr (.inl ⟨htasks ▸ hv, of_decide_eq_true hne⟩)
      · obtain ⟨a, ha, rfl⟩ := Option.map_eq_some_iff.mp (Option.mem_toList.mp hv)
        obtain ⟨rfl, hwaits⟩ := hnext a ha
        refine .inr (.inr ⟨rfl, ?_, ?_⟩)
        · rw [Function.update_self]
          exact hwaits
        · rw [Function.update_self]
          exact hj

omit k in
/-- The first turn of a call to drain. -/
theorem move_call_fresh (c : Classifier) {i : Nat} (h : s.calls[i]? = some (some .fresh)) :
    s.move c (.callTurn i) = some ({ s with
        dispatcher := s.dispatcher.requestDrain
        calls := s.calls.set i (if s.dispatcher.lifecycle = .idle then none else some .waiting) },
      some (.drained i true s.dispatcher.lifecycle (s.dispatcher.lifecycle = .idle))) := by
  by_cases hidle : s.dispatcher.lifecycle = .idle <;>
    simp [Dispatching.move, Dispatching.callTurn, h, Drain.next, hidle]

omit k in
/-- The turn in which a call to drain returns that has waited. -/
theorem move_call_waiting (c : Classifier) {i : Nat} (h : s.calls[i]? = some (some .waiting))
    (hstopped : s.dispatcher.lifecycle = .stopped) :
    s.move c (.callTurn i) = some ({ s with calls := s.calls.set i none },
      some (.drained i false .stopped true)) := by
  simp [Dispatching.move, Dispatching.callTurn, h, Drain.next, hstopped]

/-- The first turn of an activity that drains: a call is made, under a number that no other has, and
takes its turn. -/
theorem plays_drain_fresh (ht : t ∈ w.tasks) : (w.step (.drain .fresh)).Plays u tr t := by
  have hcall : (s.calls ++ [some Drain.fresh])[s.calls.length]? = some (some .fresh) := by simp
  have hbegun : Mirrors u (tr ++ []) { s with calls := s.calls ++ [some .fresh] } w :=
    k.toMirrors.move (m := .call) rfl rfl k.dispatcher_eq k.outcome_eq rfl
  have hm : Mirrors u _ _ { w with dispatcher := w.dispatcher.requestDrain } :=
    hbegun.move (move_call_fresh w.classifier hcall) rfl
      (congrArg Dispatcher.requestDrain k.dispatcher_eq) k.outcome_eq rfl
  rw [List.append_nil] at hm
  have hnew : ∀ v ∈ w.tasks, v.id ≠ t.id →
      v.activity.hold? (call v.id) ≠ some (.call s.calls.length) := by
    intro v hv _ hold
    have hwaits := (k.activities.fits v hv).waits hold
    simp at hwaits
  have hcalls : ∀ (i : Nat) (x : Option Drain), i ≠ s.calls.length →
      s.calls[i]? = some (some .waiting) →
      ((s.calls ++ [some Drain.fresh]).set s.calls.length x)[i]? = some (some .waiting) := by
    intro i x hne hwaits
    have hlt := (List.getElem?_eq_some_iff.mp hwaits).1
    rw [List.getElem?_set_ne hne.symm, List.getElem?_append_left hlt]
    exact hwaits
  by_cases hidle : w.dispatcher.lifecycle = .idle
  · simp only [step, Drain.next, hidle, if_pos]
    exact k.plays_call ht hm rfl rfl rfl rfl rfl hnew (hcalls · _) (by rintro _ ⟨⟩)
  · simp only [step, Drain.next, hidle, if_false]
    refine k.plays_call ht hm rfl rfl rfl rfl rfl hnew (hcalls · _) ?_
    rintro _ ⟨⟩
    refine ⟨rfl, ?_⟩
    rw [k.dispatcher_eq] at hidle
    simp [hidle]

/-- A further turn of an activity that drains. -/
theorem plays_drain_waiting (ht : t ∈ w.tasks) (ha : t.activity = .drain .waiting) :
    (w.step (.drain .waiting)).Plays u tr t := by
  have hfits : s.calls[call t.id]? = some (some .waiting) := by
    have hfits := k.activities.fits t ht
    rwa [ha] at hfits
  by_cases hstopped : w.dispatcher.lifecycle = .stopped
  · have hm : Mirrors u _ _ w :=
      k.toMirrors.move (move_call_waiting w.classifier hfits (k.dispatcher_eq ▸ hstopped)) rfl
        k.dispatcher_eq k.outcome_eq rfl
    have hj : ∀ v ∈ w.tasks, v.id ≠ t.id →
        v.activity.hold? (call v.id) ≠ some (.call (call t.id)) := by
      intro v hv hne hold
      apply hne
      apply k.activities.apart v hv t ht
      · simp [hold]
      · rw [hold, ha]
        rfl
    simp only [step, Drain.next, hstopped, if_pos]
    refine k.plays_call ht hm rfl rfl rfl rfl rfl hj ?_ (by rintro _ ⟨⟩)
    intro i hne hwaits
    exact (List.getElem?_set_ne hne.symm).trans hwaits
  · simp only [step, Drain.next, hstopped, if_false]
    trivial

/-! ### The activity that dispatches -/

/-- Where the activity that dispatches takes a turn, which leaves calls to drain alone. -/
theorem plays_dispatch (ht : t ∈ w.tasks) {hook : Option Script}
    (hturns : t.activity = .dispatch hook) (hm : Mirrors u (tr ++ tr') s' w')
    (hc : s'.calls = s.calls) (ht' : t ∈ w'.tasks)
    (hroles : RolesFit s'.dispatcher.inProgress w'.tasks)
    (hnew : ∀ v ∈ w'.tasks, (∀ i, v.activity.hold? i = none) ∨ v ∈ w.tasks)
    (hnext : ∀ a ∈ next,
      ∃ hook, a = .dispatch hook ∧ s'.inHook = hook.isSome ∧ s'.result = none ∧
        s'.broken = false) :
    w'.Plays u tr t next := by
  have hother : ∀ v ∈ w.tasks, v.id ≠ t.id → v.activity.hold? (call v.id) ≠ some .turns := by
    intro v hv hne heq
    apply hne
    apply k.activities.apart v hv t ht
    · simp [heq]
    · rw [heq, hturns]
      rfl
  refine ⟨tr', s', call, hm, ht', hroles, ?_⟩
  refine k.activities.turn t.id (fun _ _ => rfl) ?_ ?_
  · intro v hv hne
    apply (k.activities.fits v hv).frame
    · exact fun hold => absurd hold (hother v hv hne)
    · exact fun _ hwaits => hc ▸ hwaits
  · intro v hv
    rcases List.mem_append.mp hv with hv | hv
    · obtain ⟨hv, hne⟩ := List.mem_filter.mp hv
      rcases hnew v hv with hfree | hold
      · exact .inl hfree
      · exact .inr (.inl ⟨hold, of_decide_eq_true hne⟩)
    · obtain ⟨a, ha, rfl⟩ := Option.map_eq_some_iff.mp (Option.mem_toList.mp hv)
      obtain ⟨hook, rfl, hfits⟩ := hnext a ha
      exact .inr (.inr ⟨rfl, hfits, hother⟩)

/-- The same if no activity begins and no delivery does. -/
theorem plays_still (ht : t ∈ w.tasks) {hook : Option Script}
    (hturns : t.activity = .dispatch hook) (hm : Mirrors u (tr ++ tr') s' w')
    (hc : s'.calls = s.calls) (hx : s'.dispatcher.inProgress = s.dispatcher.inProgress)
    (htasks : w'.tasks = w.tasks)
    (hnext : ∀ a ∈ next,
      ∃ hook, a = .dispatch hook ∧ s'.inHook = hook.isSome ∧ s'.result = none ∧
        s'.broken = false) :
    w'.Plays u tr t next := by
  refine k.plays_dispatch ht hturns hm hc (htasks ▸ ht) ?_ ?_ hnext
  · rw [hx, htasks]
    exact k.roles
  · rw [htasks]
    exact fun v hv => .inr hv

omit k in
/-- The activities that begin with deliveries hold nothing, and they serve different deliveries. -/
theorem deliver_begins (made : List Delivery) (hmade : (made.map Delivery.id).Nodup)
    (w : Warden) :
    ∃ ts, Begins ts w (w.deliver made) ∧ RolesFit made ts ∧
      ∀ t ∈ ts, ∀ i, t.activity.hold? i = none := by
  induction made generalizing w with
  | nil => exact ⟨[], .refl w, ⟨by simp, by simp⟩, by simp⟩
  | cons x rest ih =>
      have hrest := (List.nodup_cons.mp hmade).2
      rw [deliver, List.foldl_cons, ← deliver]
      split
      · rename_i conduct _
        obtain ⟨ts, hbegins, hroles, hfree⟩ :=
          ih hrest (w.spawn (.delivery x) (.consume conduct x.event))
        have hone : RolesFit [x] [⟨w.born, .delivery x, .consume conduct x.event, false⟩] :=
          ⟨by simp, by simp⟩
        refine ⟨_, hbegins.spawn, hone.append hroles hmade, ?_⟩
        intro t ht
        rcases List.mem_cons.mp ht with rfl | ht
        · exact fun _ => rfl
        · exact hfree t ht
      · obtain ⟨ts, hbegins, hroles, hfree⟩ := ih hrest w
        have hnone : RolesFit [x] [] := ⟨by simp, by simp⟩
        exact ⟨ts, hbegins, hnone.append hroles hmade, hfree⟩

omit k in
theorem startPumps_begins (w : Warden) :
    ∃ ts, Begins ts w w.startPumps ∧
      ∀ t ∈ ts, t.role = .background ∧ ∀ i, t.activity.hold? i = none := by
  rw [startPumps]
  generalize List.range _ = pumps
  induction pumps generalizing w with
  | nil => exact ⟨[], .refl w, by simp⟩
  | cons i rest ih =>
      obtain ⟨ts, hbegins, hnew⟩ := ih (w.spawn .background (.pump i))
      refine ⟨_, hbegins.spawn, ?_⟩
      intro t ht
      rcases List.mem_cons.mp ht with rfl | ht
      · exact ⟨rfl, fun _ => rfl⟩
      · exact hnew t ht

omit k in
/-- A turn of the dispatcher leaves calls to drain alone, and ends no delivery. -/
theorem own_frame {c : Classifier} (h : Change c s .own e s') :
    s'.calls = s.calls ∧ s'.dispatcher.inProgress =
      s.dispatcher.inProgress ++ (e.bind DispatchEvent.fanOut?).elim [] Prod.snd := by
  cases h with
  | own _ _ h =>
      cases h with
      | deliver => exact ⟨rfl, rfl⟩
      | _ => exact ⟨rfl, (List.append_nil _).symm⟩

/-- An activity that dispatches and is not in a hook makes the move of the dispatcher. -/
theorem own_move (ht : t ∈ w.tasks) (ha : t.activity = .dispatch none) :
    s.move w.classifier .own = s.afterTurn w.dispatcher.next := by
  have hfits := k.activities.fits t ht
  rw [ha] at hfits
  obtain ⟨hin, hresult, -⟩ : s.inHook = false ∧ s.result = none ∧ s.broken = false := hfits
  rw [k.dispatcher_eq]
  simp [Dispatching.move, Dispatching.ownTurn, hin, hresult]

/-- A turn of the activity that dispatches, outside of hooks. -/
theorem plays_own (ht : t ∈ w.tasks) (ha : t.activity = .dispatch none) :
    (w.stepDispatch none).Plays u tr t := by
  obtain ⟨hin, hresult, hb⟩ : s.inHook = false ∧ s.result = none ∧ s.broken = false := by
    have hfits := k.activities.fits t ht
    rwa [ha] at hfits
  have hmove := k.own_move ht ha
  generalize h : w.dispatcher.next = turn at hmove
  cases turn with
  | refused err =>
      have hm : Mirrors u _ _ { w with outcome := some (.error (.config err)) } :=
        k.toMirrors.move hmove rfl k.dispatcher_eq rfl rfl
      simp only [stepDispatch, h]
      exact k.plays_still ht ha hm rfl rfl rfl (by rintro _ ⟨⟩)
  | begins isStartup hook =>
      have hm : Mirrors u _ _
          { w with hookRuns := ⟨isStartup, hook, w.dispatcher.lifecycle⟩ :: w.hookRuns } :=
        k.toMirrors.move hmove rfl k.dispatcher_eq k.outcome_eq (by rw [k.dispatcher_eq]; rfl)
      simp only [stepDispatch, h]
      refine k.plays_still ht ha hm rfl rfl rfl ?_
      rintro _ ⟨⟩
      exact ⟨_, rfl, rfl, hresult, hb⟩
  | opens d =>
      have hx := (own_frame (change_of_move hmove)).2.trans (List.append_nil _)
      have hm : Mirrors u _ _ { w with dispatcher := d } :=
        k.toMirrors.move hmove rfl rfl k.outcome_eq rfl
      obtain ⟨ts, hbegins, hnew⟩ := startPumps_begins { w with dispatcher := d }
      have ht' : t ∈ _ := hbegins.tasks_eq ▸ List.mem_append_left ts ht
      simp only [stepDispatch, h]
      refine k.plays_dispatch ht ha (hm.aside hbegins.toAside) rfl ht' ?_ ?_ ?_
      · rw [hx, hbegins.tasks_eq]
        apply k.roles.frame
        intro v hv x hrole
        rcases List.mem_append.mp hv with hv | hv
        · exact ⟨v, hv, rfl, hrole⟩
        · rw [(hnew v hv).1] at hrole
          cases hrole
      · intro v hv
        rw [hbegins.tasks_eq] at hv
        rcases List.mem_append.mp hv with hv | hv
        · exact .inr hv
        · exact .inl (hnew v hv).2
      · rintro _ ⟨⟩
        exact ⟨_, rfl, hin, hresult, hb⟩
  | delivers d x made =>
      have hx := (own_frame (change_of_move hmove)).2
      have hm : Mirrors u _ _ { w with dispatcher := d } :=
        k.toMirrors.move hmove rfl rfl k.outcome_eq rfl
      -- the new deliveries differ from those in progress and from one another
      have hnodup := hm.inProgress_nodup
      rw [hx] at hnodup
      have hmade := hnodup
      rw [List.map_append] at hmade
      obtain ⟨ts, hbegins, hroles, hfree⟩ :=
        deliver_begins made (List.nodup_append.mp hmade).2.1 { w with dispatcher := d }
      have ht' : t ∈ _ := hbegins.tasks_eq ▸ List.mem_append_left ts ht
      simp only [stepDispatch, h]
      refine k.plays_dispatch ht ha (hm.aside hbegins.toAside) rfl ht' ?_ ?_ ?_
      · rw [hx, hbegins.tasks_eq]
        exact k.roles.append hroles hnodup
      · intro v hv
        rw [hbegins.tasks_eq] at hv
        rcases List.mem_append.mp hv with hv | hv
        · exact .inr hv
        · exact .inl (hfree v hv)
      · rintro _ ⟨⟩
        exact ⟨_, rfl, hin, hresult, hb⟩
  | enters d notices | goes d notices =>
      have hx := (own_frame (change_of_move hmove)).2.trans (List.append_nil _)
      have hm : Mirrors u _ _ ({ w with dispatcher := d }.notify notices) :=
        k.toMirrors.move hmove rfl rfl k.outcome_eq rfl
      simp only [stepDispatch, h]
      refine k.plays_still ht ha hm rfl hx rfl ?_
      rintro _ ⟨⟩
      exact ⟨_, rfl, hin, hresult, hb⟩
  | waits =>
      simp only [stepDispatch, h]
      trivial
  | «over» =>
      have hm : Mirrors u _ _ { w with outcome := some (.ok ()) } :=
        k.toMirrors.move hmove rfl k.dispatcher_eq rfl rfl
      simp only [stepDispatch, h]
      exact k.plays_still ht ha hm rfl rfl rfl (by rintro _ ⟨⟩)

/-- Where the hook ends that the activity that dispatches is in, after what it has done last. -/
theorem plays_hookEnd (ht : t ∈ w.tasks) {hook : Script} (ha : t.activity = .dispatch (some hook))
    {d : Dispatcher} (hx : d.inProgress = s.dispatcher.inProgress) {w₁ : Warden}
    (hm : Mirrors u (tr ++ tr') { s with dispatcher := d } w₁) (r : Except HandlerError Unit)
    (hc : w'.classifier = w₁.classifier) (hd : w'.dispatcher = (w₁.dispatcher.hookEnded r).1)
    (ho : w'.outcome = w₁.outcome) (hr : w'.hookRuns = w₁.hookRuns)
    (htasks : w'.tasks = w.tasks) : w'.Plays u tr t (some (.dispatch none)) := by
  obtain ⟨hin, hresult, hb⟩ : s.inHook = true ∧ s.result = none ∧ s.broken = false := by
    have hfits := k.activities.fits t ht
    rwa [ha] at hfits
  obtain ⟨⟨isStartup, number⟩, hnumber⟩ := hm.hookUnderWay hin hb
  have hmove : ({ s with dispatcher := d } : Dispatching).move w₁.classifier (.endHook r) =
      some ({ s with dispatcher := (d.hookEnded r).1, inHook := false },
        some (.hookEnded isStartup number r)) :=
    Option.map_eq_some_iff.mpr ⟨_, hnumber, rfl⟩
  rw [hm.dispatcher_eq] at hd
  have hm' := hm.move hmove hc hd (ho.trans hm.outcome_eq) hr
  rw [List.append_assoc] at hm'
  have hx' : (d.hookEnded r).1.inProgress = d.inProgress := by
    unfold Dispatcher.hookEnded
    split <;> rfl
  refine k.plays_still ht ha hm' rfl (hx'.trans hx) htasks ?_
  rintro _ ⟨⟩
  exact ⟨none, rfl, rfl, hresult, hb⟩

/-- Where the hook panics that the activity that dispatches is in, after what it has done last. The
activity is over. -/
theorem plays_hookPanic (ht : t ∈ w.tasks) {hook : Script}
    (ha : t.activity = .dispatch (some hook)) {d : Dispatcher}
    (hx : d.inProgress = s.dispatcher.inProgress)
    (hm : Mirrors u (tr ++ tr') { s with dispatcher := d } w') (htasks : w'.tasks = w.tasks) :
    w'.Plays u tr t none := by
  obtain ⟨hin, -, hb⟩ : s.inHook = true ∧ s.result = none ∧ s.broken = false := by
    have hfits := k.activities.fits t ht
    rwa [ha] at hfits
  obtain ⟨⟨isStartup, number⟩, hnumber⟩ := hm.hookUnderWay hin hb
  have hmove : ({ s with dispatcher := d } : Dispatching).move w'.classifier .panicHook =
      some ({ s with dispatcher := d, broken := true }, some (.hookPanicked isStartup number)) :=
    Option.map_eq_some_iff.mpr ⟨_, hnumber, rfl⟩
  have hm' := hm.move hmove rfl hm.dispatcher_eq hm.outcome_eq rfl
  rw [List.append_assoc] at hm'
  exact k.plays_still ht ha hm' rfl hx htasks (by rintro _ ⟨⟩)

/-- A turn of the activity that dispatches, in a hook. -/
theorem plays_hook (ht : t ∈ w.tasks) {hook : Script}
    (ha : t.activity = .dispatch (some hook)) : (w.stepDispatch (some hook)).Plays u tr t := by
  obtain ⟨hin, hresult, hb⟩ : s.inHook = true ∧ s.result = none ∧ s.broken = false := by
    have hfits := k.activities.fits t ht
    rwa [ha] at hfits
  simp only [stepDispatch]
  generalize hook.next w.queue w.now = turn
  obtain ⟨tr', hm⟩ : ∃ tr', Mirrors u (tr ++ tr') _ { w with
      queue := turn.queue
      dispatcher := if turn.drains then w.dispatcher.requestDrain else w.dispatcher } :=
    k.toMirrors.drainIf turn.drains rfl rfl rfl rfl
  have hx : (if turn.drains then s.dispatcher.requestDrain else s.dispatcher).inProgress =
      s.dispatcher.inProgress := by
    split <;> rfl
  split
  · rename_i script _
    refine k.plays_still ht ha (hm.notify turn.notices) rfl hx rfl ?_
    rintro _ ⟨⟩
    exact ⟨some script, rfl, hin, hresult, hb⟩
  · trivial
  · exact k.plays_hookPanic ht ha hx hm rfl
  · exact k.plays_hookEnd ht ha hx hm _ rfl rfl rfl rfl rfl

/-! ### Any activity -/

theorem plays_consume (ht : t ∈ w.tasks) (conduct : Conduct) (x : Event) :
    (w.stepConsume x conduct).Plays u tr t := by
  cases conduct with
  | script => exact k.plays_aside ht ⟨rfl, rfl, rfl, rfl⟩ rfl (by rintro _ ⟨⟩ _; rfl)
  | trackChannel => exact k.plays_aside ht ⟨rfl, rfl, rfl, rfl⟩ rfl (by rintro _ ⟨⟩)
  | guardIdling =>
      simp only [stepConsume]
      split
      · exact k.plays_aside ht ⟨rfl, rfl, rfl, rfl⟩ rfl (by rintro _ ⟨⟩ _; rfl)
      · exact k.plays_aside ht ⟨rfl, rfl, rfl, rfl⟩ rfl (by rintro _ ⟨⟩)
  | fireTriggers =>
      simp only [stepConsume]
      split
      · exact k.plays_aside ht ⟨rfl, rfl, rfl, rfl⟩ rfl (by rintro _ ⟨⟩ _; rfl)
      · exact k.plays_aside ht ⟨rfl, rfl, rfl, rfl⟩ rfl (by rintro _ ⟨⟩)

theorem plays_script (ht : t ∈ w.tasks) (x : Script) : (w.step (.script x)).Plays u tr t := by
  refine plays_ofTurn (fun _ _ => rfl) _ _ fun next hnext => ?_
  generalize x.next w.queue w.now = turn
  obtain ⟨tr', hm⟩ : ∃ tr', Mirrors u (tr ++ tr') _ { w with
      queue := turn.queue
      dispatcher := if turn.drains then w.dispatcher.requestDrain else w.dispatcher } :=
    k.toMirrors.drainIf turn.drains rfl rfl rfl rfl
  refine k.plays ht (hm.notify turn.notices) rfl rfl rfl rfl ?_ rfl hnext
  dsimp only
  split <;> rfl

/-- A turn of an activity is made of moves of the dispatcher. -/
theorem plays_step (ht : t ∈ w.tasks) : (w.step t.activity).Plays u tr t := by
  cases ha : t.activity with
  | worker =>
      simp only [step]
      split
      · exact k.plays_aside ht ⟨rfl, rfl, rfl, rfl⟩ rfl (by rintro _ ⟨⟩ _; rfl)
      · trivial
  | pump i => exact k.plays_pump ht i
  | dispatch hook =>
      cases hook with
      | none => exact k.plays_own ht ha
      | some hook => exact k.plays_hook ht ha
  | consume conduct x => exact k.plays_consume ht conduct x
  | script x => exact k.plays_script ht x
  | drain d =>
      cases d with
      | fresh => exact k.plays_drain_fresh ht
      | waiting => exact k.plays_drain_waiting ht ha
  | evasion | reaction | ticket | chain | question | echo | shutdown =>
      refine plays_ofTurn (fun _ _ => rfl) _ _ fun next hnext => ?_
      exact k.plays_aside ht ⟨rfl, rfl, rfl, rfl⟩ rfl hnext

end Follows

end Warden

end LogWarden
