import LogWarden.Program.Launch
import LogWarden.Proofs.Dispatch.Lifecycle
import LogWarden.Proofs.Warden.DispatchTurns
import LogWarden.Proofs.Warden.Invariant

/-!
# What a warden does to its dispatcher

Whatever goes on in a warden that has begun to dispatch, what becomes of its dispatcher is a run of
moves. So what holds after every run of a dispatcher holds of the program at any time.
-/

namespace LogWarden.Warden

/-- A warden follows a run that shows some history, and possibly more. -/
def Continues (u : DispatchSetup) (tr : List DispatchEvent) (w : Warden) : Prop :=
  ∃ tr' s call, Follows u (tr ++ tr') s call w

variable {u : DispatchSetup} {s : Dispatching} {call : Nat → Nat} {w w' : Warden}
variable {tr tr' : List DispatchEvent} {t : Task}

/-! ### The end of an activity -/

/-- Where the delivery ends that an activity serves which is over. -/
theorem Mirrors.finish (k : Mirrors u (tr ++ tr') s w) (ht : t ∈ w.tasks)
    (hroles : RolesFit s.dispatcher.inProgress w.tasks)
    (hactivities : ActivitiesFit call s (w.tasks.filter (·.id ≠ t.id))) {x : Delivery}
    (hx : t.role = .delivery x) {v : Option Verdict}
    (hv : v = none → s.dispatcher.phase = .stoppingDeliveries)
    (hc : w'.classifier = w.classifier) (hd : w'.dispatcher = w.dispatcher.deliveryEnded x v)
    (ho : w'.outcome = w.outcome) (hr : w'.hookRuns = w.hookRuns)
    (htasks : w'.tasks = w.tasks.filter (·.id ≠ t.id)) : w'.Continues u tr := by
  obtain ⟨m, hmove⟩ := k.endDelivery_move (hroles.mem t ht x hx) hv
  rw [k.dispatcher_eq] at hd
  have hm := k.move hmove hc hd (ho.trans k.outcome_eq) hr
  rw [List.append_assoc] at hm
  refine ⟨_, _, call, hm, ?_, ?_⟩
  · rw [htasks]
    exact hactivities.frame rfl rfl rfl rfl fun v hv => .inr hv
  · rw [htasks]
    exact hroles.finish ht hx

/-- Where an activity has ended from which nothing follows for the dispatcher. -/
theorem Mirrors.leave (k : Mirrors u (tr ++ tr') s w)
    (hroles : RolesFit s.dispatcher.inProgress w.tasks)
    (hactivities : ActivitiesFit call s (w.tasks.filter (·.id ≠ t.id))) (h : w.Aside w')
    (htasks : w'.tasks = w.tasks.filter (·.id ≠ t.id)) : w'.Continues u tr := by
  refine ⟨tr', s, call, k.aside h, ?_, ?_⟩
  · rw [htasks]
    exact hactivities
  · rw [htasks]
    exact hroles.frame fun v hv x hx => ⟨v, List.mem_of_mem_filter hv, rfl, hx⟩

/-- Where an activity ends, what follows from that is made of moves of the dispatcher. -/
theorem Plays.conclude (h : w.Plays u tr t none) (rest : List Nat) (x : Ended) :
    ({ w with tasks := w.tasks.filter (·.id ≠ t.id), ready := rest }.conclude t
      x).wake.Continues u tr := by
  obtain ⟨tr', s, call, hm, ht, hroles, hactivities⟩ := h
  rw [Option.map_none, Option.toList_none, List.append_nil] at hactivities
  unfold Warden.conclude
  split
  · exact hm.leave hroles hactivities ⟨rfl, rfl, rfl, rfl⟩ rfl
  · exact hm.leave hroles hactivities ⟨rfl, rfl, rfl, rfl⟩ rfl
  · rename_i y hy
    split
    · exact hm.finish ht hroles hactivities hy (by rintro ⟨⟩) rfl rfl rfl rfl rfl
    · exact hm.leave hroles hactivities ⟨rfl, rfl, rfl, rfl⟩ rfl

/-- Where an activity goes on as another one. -/
theorem Plays.goOn {a : Activity} (h : w.Plays u tr t (some a)) :
    Continues u tr { w with tasks := w.tasks.filter (·.id ≠ t.id) ++
      [{ t with activity := a, begun := true }] } := by
  obtain ⟨tr', s, call, hm, ht, hroles, hactivities⟩ := h
  refine ⟨tr', s, call, hm.aside ⟨rfl, rfl, rfl, rfl⟩, hactivities, ?_⟩
  apply hroles.frame
  intro v hv x hx
  rcases List.mem_append.mp hv with hv | hv
  · exact ⟨v, List.mem_of_mem_filter hv, rfl, hx⟩
  · obtain rfl := List.mem_singleton.mp hv
    exact ⟨t, ht, rfl, hx⟩

theorem cancelled_eq_some_iff {x : Delivery} :
    w.cancelled? t = some x ↔
      t.role = .delivery x ∧ w.dispatcher.phase = .stoppingDeliveries := by
  unfold cancelled?
  split
  · rename_i y hy
    simp [hy, and_comm]
  · rename_i hne
    constructor
    · rintro ⟨⟩
    · exact fun h => absurd h.1 (hne x)

/-! ### Turns of a warden -/

namespace Follows

variable (k : Follows u tr s call w)
include k

theorem continues_aside (h : w.Aside w') (htasks : w'.tasks = w.tasks) : w'.Continues u tr := by
  refine ⟨[], s, call, ?_⟩
  rw [List.append_nil]
  exact k.aside h htasks

/-- Where an activity ends that has been cancelled. -/
theorem cancel (ht : t ∈ w.tasks) {x : Delivery} (hx : w.cancelled? t = some x)
    (rest : List Nat) :
    ({ w with tasks := w.tasks.filter (·.id ≠ t.id), ready := rest }.cancel t
      x).wake.Continues u tr := by
  obtain ⟨hrole, hphase⟩ := cancelled_eq_some_iff.mp hx
  rw [k.dispatcher_eq] at hphase
  have hm : Mirrors u (tr ++ []) s w := by
    rw [List.append_nil]
    exact k.toMirrors
  have hactivities : ActivitiesFit call s (w.tasks.filter (·.id ≠ t.id)) :=
    k.activities.frame rfl rfl rfl rfl fun v hv => .inr (List.mem_of_mem_filter hv)
  exact hm.finish ht k.roles hactivities hrole (fun _ => hphase) rfl rfl rfl rfl rfl

omit k in
theorem begin_tasks (w : Warden) (t : Task) : (w.begin t).tasks = w.tasks := by
  unfold Warden.begin
  split
  · split <;> rfl
  · rfl

theorem begin (t : Task) : Follows u tr s call (w.begin t) := by
  unfold Warden.begin
  split
  · split
    · exact k
    · exact k.aside ⟨rfl, rfl, rfl, rfl⟩ rfl
  · exact k

/-- A turn of a warden is made of moves of its dispatcher. -/
theorem turn (h : w.turn = some w') : w'.Continues u tr := by
  unfold Warden.turn at h
  split at h
  · cases h
  · rename_i id rest _
    split at h
    · obtain rfl := Option.some.inj h
      exact k.continues_aside ⟨rfl, rfl, rfl, rfl⟩ rfl
    · rename_i t hfind
      have ht : t ∈ w.tasks := List.mem_of_find?_eq_some hfind
      obtain rfl : t.id = id := by simpa using List.find?_some hfind
      split at h
      · rename_i x hcancelled
        obtain rfl := Option.some.inj h
        exact k.cancel ht hcancelled rest
      · have hstep := (k.begin t).plays_step ((begin_tasks w t).symm ▸ ht)
        split at h <;> rename_i heq <;> rw [heq] at hstep <;> obtain rfl := Option.some.inj h
        · exact k.continues_aside ⟨rfl, rfl, rfl, rfl⟩ rfl
        · exact hstep.goOn
        · exact hstep.conclude rest _

end Follows

/-- Whatever goes on in a warden is made of moves of its dispatcher. -/
theorem continues_invariant (u : DispatchSetup) (tr : List DispatchEvent) :
    Invariant (Continues u tr) where
  turn := by
    rintro w w' ⟨tr₁, s, call, k⟩ h
    obtain ⟨tr₂, s₂, call₂, k₂⟩ := k.turn h
    rw [List.append_assoc] at k₂
    exact ⟨tr₁ ++ tr₂, s₂, call₂, k₂⟩
  between := by
    rintro w ⟨tr', s, call, k⟩ now surroundings ready
    exact ⟨tr', s, call, k.aside ⟨rfl, rfl, rfl, rfl⟩ rfl⟩

/-- A warden begins to dispatch. -/
theorem spawn_continues (hd : w.dispatcher = u.start.dispatcher) (ho : w.outcome = none)
    (hr : w.hookRuns = [])
    (hfree : ∀ t ∈ w.tasks, t.role = .background ∧ ∀ i, t.activity.hold? i = none) :
    (w.spawn .background (.dispatch none)).Continues u [] := by
  have htasks : ∀ t ∈ (w.spawn .background (.dispatch none)).tasks,
      t.role = .background ∧ (t.id = w.born ∧ t.activity = .dispatch none ∨
        ∀ i, t.activity.hold? i = none) := by
    intro t ht
    rcases List.mem_append.mp ht with ht | ht
    · exact ⟨(hfree t ht).1, .inr (hfree t ht).2⟩
    · obtain rfl := List.mem_singleton.mp ht
      exact ⟨rfl, .inl ⟨rfl, rfl⟩⟩
  refine ⟨[], u.start, id, ⟨⟨[], .refl⟩, hd, ho, ?_⟩, ⟨?_, ?_⟩, ⟨?_, ?_⟩⟩
  · have hnil : (w.spawn .background (.dispatch none)).hookRuns = [] := hr
    rw [hnil]
    exact List.nil_suffix
  · intro t ht
    rcases (htasks t ht).2 with ⟨-, ha⟩ | hfree
    · rw [ha]
      exact ⟨rfl, rfl, rfl⟩
    · exact Activity.fits_of_hold_eq_none (hfree _)
  · intro t ht v hv hne heq
    rcases (htasks t ht).2 with ⟨hid, -⟩ | hfree
    · rcases (htasks v hv).2 with ⟨hid', -⟩ | hfree
      · exact hid.trans hid'.symm
      · exact absurd (heq.trans (hfree _)) hne
    · exact absurd (hfree _) hne
  · intro t ht x hx
    rw [(htasks t ht).1] at hx
    cases hx
  · intro t ht v hv x y hx
    rw [(htasks t ht).1] at hx
    cases hx

/-! ### What follows for a warden -/

namespace Continues

variable (h : w.Continues u tr)
include h

/-- The hooks that a warden has run, as far as it knows: each once, in order and in its state. -/
theorem hookRuns_sublist :
    w.hookRuns.reverse.Sublist (((hookNames true u.startupHooks ++
      hookNames false u.shutdownHooks).map hookInState).map hookRunOf) := by
  obtain ⟨tr', s, call, k⟩ := h
  obtain ⟨ms, run⟩ := k.run
  have hfirst := Dispatching.hooks_prefix_all run.course.within
  have hsuffix := k.hookRuns_suffix
  rw [run.course.begun_eq] at hsuffix
  exact hsuffix.sublist.trans ((hfirst.map hookInState).map hookRunOf).sublist

/-- A warden whose dispatcher has sources ends with no error, and then nothing is left. -/
theorem of_outcome (hn : u.sources ≠ []) {r : Except Error Unit} (hr : w.outcome = some r) :
    r = .ok () ∧ w.dispatcher.lifecycle = .stopped ∧ w.dispatcher.inProgress = [] := by
  obtain ⟨tr', s, call, k⟩ := h
  obtain ⟨ms, run⟩ := k.run
  rw [k.outcome_eq, Option.map_eq_some_iff] at hr
  obtain ⟨r', hresult, rfl⟩ := hr
  obtain ⟨rfl, hover⟩ := run.of_result hn hresult
  have hlifecycle := run.course.lifecycle_eq
  rw [Dispatching.standing, hover] at hlifecycle
  have hsettled := run.deliveryBooks.settled (by rw [hover]; rfl)
  rw [k.dispatcher_eq]
  exact ⟨rfl, hlifecycle, hsettled.1⟩

end Continues

section Program

variable {c : Config} {table : RuleTable} {seed : Nat} (h : ofSettings c table seed = .ok w)
include h

/-- The program's warden begins to dispatch from one source, with a hook of each kind. -/
theorem ofSettings_continues :
    ∃ consumers source,
      w.Continues ⟨consumers, c.scheduler.eventBuffer, 1, 1, [source]⟩ [] := by
  simp only [ofSettings, bind, Except.bind, pure, Except.pure] at h
  split at h
  · cases h
  · split at h
    · cases h
    · rename_i source _
      cases h
      refine ⟨_, source, spawn_continues rfl rfl rfl ?_⟩
      intro t ht
      obtain rfl := List.mem_singleton.mp ht
      exact ⟨rfl, fun _ => rfl⟩

/-- However long the program goes on, it has run its startup hook and then its shutdown hook, each
at most once and in its state, and it ends only when its dispatcher has stopped with no delivery
left. -/
theorem passUntilOver_lives (around : Warden → Surroundings) (n : Nat) :
    (w.passUntilOver around n).hookRuns.reverse.Sublist
        [⟨true, 0, .running⟩, ⟨false, 0, .draining⟩] ∧
      ∀ r, (w.passUntilOver around n).outcome = some r →
        r = .ok () ∧ (w.passUntilOver around n).dispatcher.lifecycle = .stopped ∧
          (w.passUntilOver around n).dispatcher.inProgress = [] := by
  obtain ⟨consumers, source, hstart⟩ := ofSettings_continues h
  have hw := (continues_invariant _ []).passUntilOver hstart around n
  exact ⟨hw.hookRuns_sublist, fun r hr => hw.of_outcome (List.cons_ne_nil source []) hr⟩

end Program

end LogWarden.Warden
