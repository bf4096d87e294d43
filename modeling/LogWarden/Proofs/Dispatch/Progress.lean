import Mathlib.Data.Prod.Lex
import LogWarden.Proofs.Dispatch.Course
import LogWarden.Proofs.Dispatch.Deliveries
import LogWarden.Proofs.Dispatch.Pumps

/-!
# That a dispatcher can be brought to its end

After a request to drain, there is always a move that brings a dispatcher closer to its end: a turn
of its own, the end of the hook that it is in, the stop of a pump or the end of a cancelled delivery.
What a hook returns makes no difference.
-/

namespace LogWarden

theorem countP_set_add {α : Type} (f : α → Bool) {xs : List α} {i : Nat} {x : α} (y : α)
    (h : xs[i]? = some x) :
    (xs.set i y).countP f + (if f x then 1 else 0) = xs.countP f + if f y then 1 else 0 := by
  induction xs generalizing i with
  | nil => simp at h
  | cons z xs ih =>
      cases i with
      | zero =>
          obtain rfl : z = x := by simpa using h
          rw [List.set_cons_zero, List.countP_cons, List.countP_cons]
          omega
      | succ i =>
          have hrest := ih (by simpa using h)
          rw [List.set_cons_succ, List.countP_cons, List.countP_cons]
          omega

theorem modify_eq_set {α : Type} (f : α → α) {xs : List α} {i : Nat} {x : α}
    (h : xs[i]? = some x) : xs.modify i f = xs.set i (f x) := by
  rw [List.modify_eq_set_getElem?, h]
  rfl

/-- How many moves there are until note is taken that all pumps are over. -/
def pumpTurns (pumps : List Pump) : Nat := 2 * pumps.countP Pump.isLive + pumps.countP Pump.isOver

theorem pumpTurns_stop_lt {pumps : List Pump} {i : Nat} {p : Pump} (hi : pumps[i]? = some p)
    (hp : p.isLive = true) : pumpTurns (pumps.set i p.stop) < pumpTurns pumps := by
  have hlive := countP_set_add Pump.isLive p.stop hi
  have hover := countP_set_add Pump.isOver p.stop hi
  have hstop : p.stop.isLive = false ∧ p.stop.isOver = true := ⟨rfl, rfl⟩
  have hp' : p.isOver = false := by
    by_contra hne
    simp [Pump.isLive_eq_false (eq_true_of_ne_false hne)] at hp
  simp only [hp, hp', hstop, Bool.false_eq_true, if_true, if_false] at hlive hover
  unfold pumpTurns
  omega

theorem pumpTurns_join_lt {pumps : List Pump} {i : Nat} {p : Pump} (hi : pumps[i]? = some p)
    (hp : p.isOver = true) : pumpTurns (pumps.set i p.join) < pumpTurns pumps := by
  have hlive := countP_set_add Pump.isLive p.join hi
  have hover := countP_set_add Pump.isOver p.join hi
  have hjoin : p.join.isLive = false ∧ p.join.isOver = false := ⟨rfl, rfl⟩
  simp only [hp, Pump.isLive_eq_false hp, hjoin, Bool.false_eq_true, if_true,
    if_false] at hlive hover
  unfold pumpTurns
  omega

namespace Dispatching

/-- How many moves a dispatcher that is to drain has left in its stage. -/
def turnsInStage (s : Dispatching) : Nat :=
  match s.dispatcher.phase with
  | .startup k => 2 * (s.dispatcher.startupHooks - k) + if s.inHook then 0 else 1
  | .stoppingPumps => pumpTurns s.dispatcher.pumps
  | .stoppingDeliveries => 2 * s.dispatcher.inProgress.length + s.dispatcher.ended.length
  | .shutdown k => 2 * (s.dispatcher.shutdownHooks - k) + if s.inHook then 0 else 1
  | .over => if s.result.isSome then 0 else 1
  | .waiting | .looping => 0

/-- How far a dispatcher that is to drain is from its end. -/
def distance (s : Dispatching) : Nat ×ₗ Nat :=
  toLex (s.dispatcher.phase.stagesLeft, s.turnsInStage)

variable {c : Classifier} {s s' : Dispatching} {mv : Move} {e : Option DispatchEvent}
variable {results : HookName → Except HandlerError Unit} {n m : Nat}

theorem distance_lt_of_stage (h : s'.dispatcher.phase.stagesLeft < s.dispatcher.phase.stagesLeft) :
    s'.distance < s.distance :=
  Prod.Lex.toLex_lt_toLex.mpr (.inl h)

theorem distance_lt_of_turns (hp : s'.dispatcher.phase.stagesLeft = s.dispatcher.phase.stagesLeft)
    (h : s'.turnsInStage < s.turnsInStage) : s'.distance < s.distance :=
  Prod.Lex.toLex_lt_toLex.mpr (.inr ⟨hp, h⟩)

/-- A move that brings a dispatcher closer to its end, where hooks return certain results and none
panics. -/
def Advances (c : Classifier) (results : HookName → Except HandlerError Unit)
    (s : Dispatching) : Prop :=
  ∃ mv s' e, s.move c mv = some (s', e) ∧ s'.distance < s.distance ∧ s'.broken = s.broken ∧
    ∀ isStartup k r, e = some (.hookEnded isStartup k r) → r = results (isStartup, k)

theorem OwnChange.not_hookEnded (h : OwnChange s e s') (isStartup : Bool) (k : Nat)
    (r : Except HandlerError Unit) : e ≠ some (.hookEnded isStartup k r) := by
  cases h <;> simp

theorem OwnChange.broken_eq (h : OwnChange s e s') : s'.broken = s.broken := by
  cases h <;> rfl

theorem endHook_advances {isStartup : Bool} {k : Nat} (hh : s.inHook = true)
    (hb : s.broken = false) (hp : s.dispatcher.phase.hook? = some (isStartup, k))
    (hd : distance { s with
      dispatcher := (s.dispatcher.hookEnded (results (isStartup, k))).1
      inHook := false } < s.distance) : Advances c results s := by
  refine ⟨.endHook (results (isStartup, k)), _,
    some (.hookEnded isStartup k (results (isStartup, k))), ?_, hd, rfl, ?_⟩
  · rw [move, endHook, hookUnderWay?_eq_some_iff.mpr ⟨⟨hh, hb⟩, hp⟩]
    rfl
  · rintro _ _ _ ⟨⟩
    rfl

section Stages
variable (hh : s.inHook = false) (hr : s.result = none)
include hh hr

theorem own_advances {t : Dispatcher.DispatcherTurn} (ht : s.dispatcher.next = t)
    (ha : s.afterTurn t = some (s', e)) (hd : s'.distance < s.distance) :
    Advances c results s := by
  have hmove : s.move c .own = some (s', e) := by simp [move, ownTurn, hh, hr, ht, ha]
  have hown : OwnChange s e s' := ownChange_of_afterTurn (ht ▸ ha)
  exact ⟨.own, s', e, hmove, hd, hown.broken_eq, fun _ _ _ he =>
    absurd he (hown.not_hookEnded _ _ _)⟩

theorem waiting_advances (hp : s.dispatcher.phase = .waiting) (hs : s.dispatcher.sources ≠ []) :
    Advances c results s := by
  have hnext : s.dispatcher.next =
      .enters { s.dispatcher with lifecycle := .running, phase := .startup 0 } [] := by
    simp only [Dispatcher.next, hp, Dispatcher.run_eq_ok_iff.mpr ⟨hs, rfl⟩]
  refine own_advances hh hr hnext rfl (distance_lt_of_stage ?_)
  rw [hp]
  exact Nat.lt_succ_self 5

theorem startup_advances {k : Nat} (hp : s.dispatcher.phase = .startup k) :
    Advances c results s := by
  by_cases hk : k < s.dispatcher.startupHooks
  · have hnext : s.dispatcher.next = .begins true k := by simp [Dispatcher.next, hp, hk]
    refine own_advances hh hr hnext rfl (distance_lt_of_turns rfl ?_)
    simp [turnsInStage, hp, hh]
  · have hnext : s.dispatcher.next = .opens s.dispatcher.openPumps := by
      simp [Dispatcher.next, hp, hk]
    refine own_advances hh hr hnext rfl (distance_lt_of_stage ?_)
    rw [hp]
    exact Nat.lt_succ_self 4

theorem shutdown_advances {k : Nat} (hp : s.dispatcher.phase = .shutdown k) :
    Advances c results s := by
  by_cases hk : k < s.dispatcher.shutdownHooks
  · have hnext : s.dispatcher.next = .begins false k := by simp [Dispatcher.next, hp, hk]
    refine own_advances hh hr hnext rfl (distance_lt_of_turns rfl ?_)
    simp [turnsInStage, hp, hh]
  · have hnext : s.dispatcher.next = .enters s.dispatcher.stop [] := by
      simp [Dispatcher.next, hp, hk]
    refine own_advances hh hr hnext rfl (distance_lt_of_stage ?_)
    rw [hp]
    exact Nat.lt_succ_self 0

theorem looping_advances (hp : s.dispatcher.phase = .looping)
    (hd : s.dispatcher.drainRequested = true) : Advances c results s := by
  have hnext : s.dispatcher.next = .enters s.dispatcher.leave [] := by
    simp [Dispatcher.next, hp, Dispatcher.loopNext, hd]
  refine own_advances hh hr hnext rfl (distance_lt_of_stage ?_)
  rw [hp]
  exact Nat.lt_succ_self 3

/-- A pump is stopped, or note is taken that it is over, until none is left. -/
theorem stoppingPumps_advances (hp : s.dispatcher.phase = .stoppingPumps) :
    Advances c results s := by
  have hnext : s.dispatcher.next = s.dispatcher.joinPump := by simp only [Dispatcher.next, hp]
  cases hover : s.dispatcher.pumps.findIdx? Pump.isOver with
  | some i =>
      obtain ⟨hlt, hi, _⟩ := List.findIdx?_eq_some_iff_getElem.mp hover
      simp only [Dispatcher.joinPump, hover] at hnext
      refine own_advances hh hr hnext rfl (distance_lt_of_turns rfl ?_)
      simp only [turnsInStage, hp, modify_eq_set _ (List.getElem?_eq_getElem hlt)]
      exact pumpTurns_join_lt (List.getElem?_eq_getElem hlt) hi
  | none =>
      by_cases hlive : s.dispatcher.pumps.any Pump.isLive
      · obtain ⟨p, hmem, hpl⟩ := List.any_eq_true.mp hlive
        obtain ⟨i, hi⟩ := List.getElem?_of_mem hmem
        refine ⟨.pump i ⟨.absent, .refusing⟩ 0, { s with
          dispatcher := { s.dispatcher with pumps := s.dispatcher.pumps.set i p.stop } },
          some (.pumpStopped i), ?_, distance_lt_of_turns rfl ?_, rfl, by simp⟩
        · simp [move, pumpTurn, Dispatcher.pumpNext, hi, hp, hpl]
        · simp only [turnsInStage, hp]
          exact pumpTurns_stop_lt hi hpl
      · simp only [Dispatcher.joinPump, hover, if_neg hlive] at hnext
        refine own_advances hh hr hnext rfl (distance_lt_of_stage ?_)
        rw [hp]
        exact Nat.lt_succ_self 2

/-- A delivery is cancelled, or it is looked at, until none is left. -/
theorem stoppingDeliveries_advances (hp : s.dispatcher.phase = .stoppingDeliveries) :
    Advances c results s := by
  have hnext : s.dispatcher.next = s.dispatcher.joinDelivery := by simp only [Dispatcher.next, hp]
  cases he : s.dispatcher.ended with
  | cons y ys =>
      obtain ⟨x, v⟩ := y
      simp only [Dispatcher.joinDelivery, he] at hnext
      refine own_advances hh hr hnext rfl (distance_lt_of_turns rfl ?_)
      simp [turnsInStage, hp, he, Dispatcher.observe]
  | nil =>
      cases hx : s.dispatcher.inProgress with
      | nil =>
          simp only [Dispatcher.joinDelivery, he, hx, List.isEmpty_nil, if_true] at hnext
          refine own_advances hh hr hnext rfl (distance_lt_of_stage ?_)
          rw [hp]
          exact Nat.lt_succ_self 1
      | cons x xs =>
          refine ⟨.cancelDelivery x.id, { s with dispatcher := s.dispatcher.deliveryEnded x none },
            some (.ended x none), ?_, distance_lt_of_turns rfl ?_, rfl, by simp⟩
          · simp [move, endDelivery, hp, hx]
          · have hle := List.length_filter_le (fun y => decide (y.id ≠ x.id)) xs
            simp [turnsInStage, hp, he, hx, Dispatcher.deliveryEnded] at hle ⊢
            omega

theorem over_advances (hp : s.dispatcher.phase = .over) : Advances c results s := by
  have hnext : s.dispatcher.next = .over := by simp only [Dispatcher.next, hp]
  refine own_advances hh hr hnext rfl (distance_lt_of_turns rfl ?_)
  simp [turnsInStage, hp, hr]

end Stages

theorem hook_advances (hw : s.dispatcher.phase.Within s.dispatcher.startupHooks
    s.dispatcher.shutdownHooks s.inHook) (hh : s.inHook = true) (hb : s.broken = false) :
    Advances c results s := by
  cases hp : s.dispatcher.phase with
  | startup k =>
      rw [hp, hh] at hw
      have hk : k < s.dispatcher.startupHooks := hw
      refine endHook_advances hh hb (congrArg Phase.hook? hp) (distance_lt_of_turns ?_ ?_)
      · simp [Dispatcher.hookEnded, hp, Phase.stagesLeft]
      · simp [turnsInStage, Dispatcher.hookEnded, hp, hh]
        omega
  | shutdown k =>
      rw [hp, hh] at hw
      have hk : k < s.dispatcher.shutdownHooks := hw
      refine endHook_advances hh hb (congrArg Phase.hook? hp) (distance_lt_of_turns ?_ ?_)
      · simp [Dispatcher.hookEnded, hp, Phase.stagesLeft]
      · simp [turnsInStage, Dispatcher.hookEnded, hp, hh]
        omega
  | waiting | looping | stoppingPumps | stoppingDeliveries | «over» =>
      rw [hp, hh] at hw
      cases hw

/-- After a request to drain, some move brings the dispatcher closer to its end unless a hook has
panicked. -/
theorem advances (results : HookName → Except HandlerError Unit)
    (hw : s.dispatcher.phase.Within s.dispatcher.startupHooks
      s.dispatcher.shutdownHooks s.inHook) (hr : s.result = none) (hb : s.broken = false)
    (hs : s.dispatcher.sources ≠ []) (hd : s.dispatcher.drainRequested = true) :
    Advances c results s := by
  cases hh : s.inHook with
  | true => exact hook_advances hw hh hb
  | false =>
      cases hp : s.dispatcher.phase with
      | waiting => exact waiting_advances hh hr hp hs
      | startup k => exact startup_advances hh hr hp
      | looping => exact looping_advances hh hr hp hd
      | stoppingPumps => exact stoppingPumps_advances hh hr hp
      | stoppingDeliveries => exact stoppingDeliveries_advances hh hr hp
      | shutdown k => exact shutdown_advances hh hr hp
      | «over» => exact over_advances hh hr hp

/-- A request to drain is not taken back. -/
theorem Change.drainRequested (h : Change c s mv e s')
    (hd : s.dispatcher.drainRequested = true) : s'.dispatcher.drainRequested = true := by
  cases h with
  | own _ _ h =>
      cases h with
      | finish | drain | terminate => rfl
      | _ => exact hd
  | requestDrain | beginCall => rfl
  | _ => exact hd

variable {consumers : List Consumer} {buffer startups shutdowns : Nat} {sources : List Source}
variable {ms : List Move} {tr : List DispatchEvent}

/-- A dispatcher with sources returns no error, and not before it is over. -/
theorem Run.of_result (run : Run c (start consumers buffer startups shutdowns sources) ms tr s)
    (hn : sources ≠ []) {r : Except ConfigError Unit} (hr : s.result = some r) :
    r = .ok () ∧ s.dispatcher.phase = .over := by
  have returns := run.returns
  cases r with
  | ok => exact ⟨rfl, returns.ok_over hr⟩
  | error err =>
      have hlength := run.pumpBooks.sources_length
      rw [(returns.refused err hr).2.2] at hlength
      exact absurd (List.length_eq_zero_iff.mp hlength.symm) hn

/-- All hooks that end in a history return what they are said to return. -/
def HooksReturn (results : HookName → Except HandlerError Unit) (tr : List DispatchEvent) : Prop :=
  ∀ isStartup k r, .hookEnded isStartup k r ∈ tr → r = results (isStartup, k)

theorem Run.exists_returned_of_drain
    (run : Run c (start consumers buffer startups shutdowns sources) ms tr s)
    (hn : sources ≠ []) (hb : s.broken = false) (results : HookName → Except HandlerError Unit)
    (hd : s.dispatcher.drainRequested = true) :
    ∃ ms' tr' s', Run c s ms' tr' s' ∧ s'.result.isSome = true ∧ HooksReturn results tr' := by
  induction hdist : s.distance using WellFoundedLT.induction generalizing s ms tr with
  | ind x ih =>
      subst hdist
      cases hr : s.result with
      | some r => exact ⟨[], [], s, .refl, by rw [hr]; rfl, by simp [HooksReturn]⟩
      | none =>
          have course := run.course
          have hw : s.dispatcher.phase.Within s.dispatcher.startupHooks
              s.dispatcher.shutdownHooks s.inHook := by
            have hwithin := course.within
            rw [← course.startupHooks_eq, ← course.shutdownHooks_eq] at hwithin
            exact hwithin
          have hs : s.dispatcher.sources ≠ [] := by
            rw [← List.length_pos_iff, run.pumpBooks.sources_length]
            exact List.length_pos_iff.mpr hn
          obtain ⟨mv, s₁, e, hmove, hlt, hb₁, hresult⟩ := advances results hw hr hb hs hd
          obtain ⟨ms', tr', s', rest, hreturned, hresults⟩ :=
            ih s₁.distance hlt (run.tail hmove) (hb₁.trans hb)
              ((change_of_move hmove).drainRequested hd) rfl
          refine ⟨[mv] ++ ms', e.toList ++ tr', s', (Run.single hmove).trans rest, hreturned, ?_⟩
          intro isStartup k r hmem
          rcases List.mem_append.mp hmem with hmem | hmem
          · exact hresult _ _ _ (Option.mem_toList.mp hmem)
          · exact hresults _ _ _ hmem

/-- A dispatcher with sources none of whose hooks has panicked can be brought to return, whatever its
hooks return. -/
theorem Run.exists_returned
    (run : Run c (start consumers buffer startups shutdowns sources) ms tr s)
    (hn : sources ≠ []) (hb : s.broken = false) (results : HookName → Except HandlerError Unit) :
    ∃ ms' tr' s', Run c s ms' tr' s' ∧ s'.result = some (.ok ()) ∧ HooksReturn results tr' := by
  have hmove : s.move c .requestDrain =
      some ({ s with dispatcher := s.dispatcher.requestDrain }, some .drainRequested) := rfl
  obtain ⟨ms', tr', s', rest, hreturned, hresults⟩ :=
    (run.tail hmove).exists_returned_of_drain hn hb results rfl
  refine ⟨_, _, s', (Run.single hmove).trans rest, ?_, ?_⟩
  · obtain ⟨r, hr⟩ := Option.isSome_iff_exists.mp hreturned
    obtain ⟨rfl, -⟩ := ((run.tail hmove).trans rest).of_result hn hr
    exact hr
  · intro isStartup k r hmem
    exact hresults _ _ _ (by simpa using hmem)

end Dispatching

end LogWarden
