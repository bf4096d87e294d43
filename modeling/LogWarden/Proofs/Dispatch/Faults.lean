import LogWarden.Proofs.Dispatch.Lifecycle

/-!
# What a failing consumer changes

Two runs in which the same moves are made, except that some deliveries end well in the one and badly
in the other, go through states that differ only in the verdicts that are yet to be looked at. So
they show the same, but for these verdicts. A delivery that ends with the wish to terminate is no
such delivery.
-/

namespace LogWarden

/-- The hook that ends and what it returns, unless it panics, if something shown is that. -/
def DispatchEvent.hookResult? :
    DispatchEvent → Option (HookName × Option (Except HandlerError Unit))
  | .hookEnded isStartup hook r => some ((isStartup, hook), some r)
  | .hookPanicked isStartup hook => some ((isStartup, hook), none)
  | _ => none

/-- A delivery has ended badly, but not with the wish to terminate. -/
inductive Verdict.IsFault : Verdict → Prop
  | failed {e : HandlerError} (h : ∀ reason, e ≠ .terminate reason) : IsFault (.failed e)
  | panicked : IsFault .panicked

theorem Verdict.IsFault.terminates?_eq_none {v : Verdict} (h : v.IsFault) :
    v.terminates? = none := by
  cases h with
  | @failed e h =>
      cases e with
      | terminate reason => exact absurd rfl (h reason)
      | _ => rfl
  | panicked => rfl

/-- The same move, or the end of one of the faulty deliveries, which is good in the one run and bad
in the other. -/
inductive MoveAlike (faulty : List Nat) : Move → Move → Prop
  | same (mv : Move) : MoveAlike faulty mv mv
  | fault {id : Nat} {v : Verdict} (hid : id ∈ faulty) (hv : v.IsFault) :
      MoveAlike faulty (.endDelivery id .ok) (.endDelivery id v)

/-- The same end of a delivery, or that of a faulty one. -/
inductive EndingAlike (faulty : List Nat) :
    Delivery × Option Verdict → Delivery × Option Verdict → Prop
  | same (x : Delivery × Option Verdict) : EndingAlike faulty x x
  | fault {x : Delivery} {v : Verdict} (hx : x.id ∈ faulty) (hv : v.IsFault) :
      EndingAlike faulty (x, some .ok) (x, some v)

/-- The same thing shown, or the end of a faulty delivery. -/
inductive EventAlike (faulty : List Nat) : DispatchEvent → DispatchEvent → Prop
  | same (e : DispatchEvent) : EventAlike faulty e e
  | fault {x : Delivery} {v : Verdict} (hx : x.id ∈ faulty) (hv : v.IsFault) :
      EventAlike faulty (.ended x (some .ok)) (.ended x (some v))

/-- The same dispatcher, but for the verdicts of faulty deliveries that are yet to be looked at. -/
inductive DispatcherAlike (faulty : List Nat) (d : Dispatcher) : Dispatcher → Prop
  | intro {ended : List (Delivery × Option Verdict)}
      (h : List.Forall₂ (EndingAlike faulty) d.ended ended) :
      DispatcherAlike faulty d { d with ended }

namespace Dispatching

/-- The same, but for the verdicts of faulty deliveries that are yet to be looked at. -/
inductive Alike (faulty : List Nat) (s : Dispatching) : Dispatching → Prop
  | intro {dispatcher : Dispatcher} (h : DispatcherAlike faulty s.dispatcher dispatcher) :
      Alike faulty s { s with dispatcher }

end Dispatching

section Alike
variable {faulty : List Nat} {d d' : Dispatcher}

theorem EndingAlike.terminates?_eq {x x' : Delivery} {v v' : Option Verdict}
    (h : EndingAlike faulty (x, v) (x', v')) :
    x' = x ∧ v'.bind Verdict.terminates? = v.bind Verdict.terminates? := by
  cases h with
  | same => exact ⟨rfl, rfl⟩
  | fault hx hv => exact ⟨rfl, hv.terminates?_eq_none⟩

theorem EndingAlike.refl_list (xs : List (Delivery × Option Verdict)) :
    List.Forall₂ (EndingAlike faulty) xs xs :=
  List.forall₂_same.mpr fun x _ => .same x

/-- What a turn of the dispatcher comes to, but for the verdicts of faulty deliveries and for
notices. -/
inductive TurnAlike (faulty : List Nat) :
    Dispatcher.DispatcherTurn → Dispatcher.DispatcherTurn → Prop
  | refused (e : ConfigError) : TurnAlike faulty (.refused e) (.refused e)
  | begins (isStartup : Bool) (hook : Nat) :
      TurnAlike faulty (.begins isStartup hook) (.begins isStartup hook)
  | opens {d d' : Dispatcher} (h : DispatcherAlike faulty d d') :
      TurnAlike faulty (.opens d) (.opens d')
  | delivers {d d' : Dispatcher} (h : DispatcherAlike faulty d d') (e : Event)
      (made : List Delivery) : TurnAlike faulty (.delivers d e made) (.delivers d' e made)
  | enters {d d' : Dispatcher} (h : DispatcherAlike faulty d d') (notices notices' : List Notice) :
      TurnAlike faulty (.enters d notices) (.enters d' notices')
  | goes {d d' : Dispatcher} (h : DispatcherAlike faulty d d') (notices notices' : List Notice) :
      TurnAlike faulty (.goes d notices) (.goes d' notices')
  | waits : TurnAlike faulty .waits .waits
  | «over» : TurnAlike faulty .over .over

theorem DispatcherAlike.refl (d : Dispatcher) : DispatcherAlike faulty d d :=
  .intro (EndingAlike.refl_list d.ended)

theorem TurnAlike.refl (t : Dispatcher.DispatcherTurn) : TurnAlike faulty t t := by
  cases t with
  | refused e => exact .refused e
  | begins isStartup hook => exact .begins isStartup hook
  | opens d => exact .opens (.refl d)
  | delivers d e made => exact .delivers (.refl d) e made
  | enters d notices => exact .enters (.refl d) notices notices
  | goes d notices => exact .goes (.refl d) notices notices
  | waits => exact .waits
  | «over» => exact .over

namespace DispatcherAlike

variable (h : DispatcherAlike faulty d d')
include h

theorem eq_of_nil (he : d.ended = []) : d' = d := by
  obtain @⟨ended, h⟩ := h
  obtain rfl : ended = [] := by simpa [he] using h
  simp only [← he]

/-- What has ended can be taken apart in both runs. -/
theorem eq_observe {x : Delivery} {v : Option Verdict} {rest : List (Delivery × Option Verdict)}
    (he : d.ended = (x, v) :: rest) : ∃ v' rest', d'.ended = (x, v') :: rest' ∧
      v'.bind Verdict.terminates? = v.bind Verdict.terminates? ∧
      DispatcherAlike faulty (d.observe x rest) (d'.observe x rest') := by
  obtain @⟨ended, h⟩ := h
  rw [he] at h
  cases h with
  | @cons _ y' _ rest' hy hrest =>
      obtain ⟨x', v'⟩ := y'
      obtain ⟨rfl, hv⟩ := hy.terminates?_eq
      exact ⟨v', rest', rfl, hv, .intro (d := d.observe x' rest) hrest⟩

theorem leave : DispatcherAlike faulty d.leave d'.leave := by
  obtain ⟨h⟩ := h
  exact .intro (d := d.leave) h

theorem loopNext : TurnAlike faulty d.loopNext d'.loopNext := by
  cases he : d.ended with
  | nil =>
      obtain rfl := h.eq_of_nil he
      exact .refl _
  | cons y ys =>
      obtain ⟨x, v⟩ := y
      obtain ⟨v', ys', he', hv, hobserve⟩ := h.eq_observe he
      have hdrain : d'.drainRequested = d.drainRequested := by
        obtain ⟨h⟩ := h
        rfl
      simp only [Dispatcher.loopNext, he, he', hv, hdrain, List.isEmpty_cons, Bool.and_false]
      cases d.drainRequested with
      | true => exact .enters h.leave _ _
      | false =>
          cases v.bind Verdict.terminates? with
          | none => exact .goes hobserve _ _
          | some reason => exact .enters hobserve.leave _ _

theorem joinDelivery : TurnAlike faulty d.joinDelivery d'.joinDelivery := by
  cases he : d.ended with
  | nil =>
      obtain rfl := h.eq_of_nil he
      exact .refl _
  | cons y ys =>
      obtain ⟨x, v⟩ := y
      obtain ⟨v', ys', he', -, hobserve⟩ := h.eq_observe he
      simp only [Dispatcher.joinDelivery, he, he']
      exact .goes hobserve _ _

theorem joinPump : TurnAlike faulty d.joinPump d'.joinPump := by
  obtain ⟨h⟩ := h
  unfold Dispatcher.joinPump
  cases d.pumps.findIdx? Pump.isOver with
  | some i => exact .goes (.intro (d := { d with pumps := d.pumps.modify i Pump.join }) h) _ _
  | none =>
      simp only
      split_ifs
      · exact .waits
      · exact .goes (.intro (d := { d with phase := .stoppingDeliveries, pumps := [] }) h) _ _

theorem next : TurnAlike faulty d.next d'.next := by
  have hloop := h.loopNext
  have hpumps := h.joinPump
  have hdeliveries := h.joinDelivery
  obtain @⟨ended, h⟩ := h
  cases hp : d.phase with
  | waiting =>
      simp only [Dispatcher.next, hp, Dispatcher.run]
      split_ifs
      · exact .refused _
      · exact .enters (.intro (d := { d with lifecycle := .running, phase := .startup 0 }) h) _ _
  | startup hook =>
      simp only [Dispatcher.next, hp]
      split_ifs
      · exact .begins true hook
      · exact .opens (.intro (d := d.openPumps) h)
  | looping => simpa only [Dispatcher.next, hp] using hloop
  | stoppingPumps => simpa only [Dispatcher.next, hp] using hpumps
  | stoppingDeliveries => simpa only [Dispatcher.next, hp] using hdeliveries
  | shutdown hook =>
      simp only [Dispatcher.next, hp]
      split_ifs
      · exact .begins false hook
      · exact .enters (.intro (d := d.stop) h) _ _
  | «over» =>
      simp only [Dispatcher.next, hp]
      exact .over

end DispatcherAlike

end Alike

namespace Dispatching

variable {faulty : List Nat} {c : Classifier} {s s' s₁ : Dispatching} {mv mv' : Move}
variable {e : Option DispatchEvent}

theorem eventAlike_toList (e : Option DispatchEvent) :
    List.Forall₂ (EventAlike faulty) e.toList e.toList :=
  List.forall₂_same.mpr fun x _ => .same x

namespace Alike

variable (h : Alike faulty s s')
include h

theorem afterTurn {t t' : Dispatcher.DispatcherTurn} (ht : TurnAlike faulty t t')
    (ha : s.afterTurn t = some (s₁, e)) :
    ∃ s₁', s'.afterTurn t' = some (s₁', e) ∧ Alike faulty s₁ s₁' := by
  obtain @⟨dispatcher, h⟩ := h
  cases ht with
  | refused err =>
      cases ha
      exact ⟨_, rfl, .intro (s := { s with result := some (.error err) }) h⟩
  | begins isStartup hook =>
      cases ha
      obtain @⟨ended, h⟩ := h
      exact ⟨_, rfl, .intro (s := { s with inHook := true }) (.intro h)⟩
  | @opens d d' hd =>
      cases ha
      exact ⟨_, rfl, .intro (s := { s with dispatcher := d }) hd⟩
  | @delivers d d' hd e made =>
      cases ha
      exact ⟨_, rfl, .intro (s := { s with dispatcher := d, origins := s.origins.tail }) hd⟩
  | @enters d d' hd =>
      cases ha
      obtain @⟨ended, hd⟩ := hd
      exact ⟨_, rfl, .intro (s := { s with dispatcher := d }) (.intro hd)⟩
  | @goes d d' hd =>
      cases ha
      exact ⟨_, rfl, .intro (s := { s with dispatcher := d }) hd⟩
  | waits => cases ha
  | «over» =>
      cases ha
      exact ⟨_, rfl, .intro (s := { s with result := some (.ok ()) }) h⟩

theorem ownTurn (hmove : s.ownTurn = some (s₁, e)) :
    ∃ s₁', s'.ownTurn = some (s₁', e) ∧ Alike faulty s₁ s₁' := by
  have halike := h
  obtain @⟨dispatcher, h⟩ := h
  unfold Dispatching.ownTurn at hmove ⊢
  by_cases hbusy : s.inHook || s.result.isSome
  · rw [if_pos hbusy] at hmove
    cases hmove
  · rw [if_neg hbusy] at hmove ⊢
    exact halike.afterTurn h.next hmove

/-- The end of a delivery in both runs. -/
theorem endDelivery {id : Nat} {v v' : Option Verdict}
    (hv : ∀ x : Delivery, x.id = id → EndingAlike faulty (x, v) (x, v') ∧
      EventAlike faulty (.ended x v) (.ended x v'))
    (hmove : s.endDelivery id v = some (s₁, e)) :
    ∃ s₁' e', s'.endDelivery id v' = some (s₁', e') ∧ Alike faulty s₁ s₁' ∧
      List.Forall₂ (EventAlike faulty) e.toList e'.toList := by
  obtain ⟨x, hx, rfl, rfl⟩ := endDelivery_eq_some_iff.mp hmove
  obtain ⟨hending, hevent⟩ := hv x (id_eq_of_find? hx)
  obtain @⟨_, @⟨ended, h⟩⟩ := h
  refine ⟨_, _, endDelivery_eq_some_iff.mpr ⟨x, hx, rfl, rfl⟩, ?_, .cons hevent .nil⟩
  refine .intro (s := { s with dispatcher := s.dispatcher.deliveryEnded x v }) ?_
  exact .intro (d := s.dispatcher.deliveryEnded x v) (List.rel_append h (.cons hending .nil))

theorem callTurn {i : Nat} (hmove : s.callTurn i = some (s₁, e)) :
    ∃ s₁', s'.callTurn i = some (s₁', e) ∧ Alike faulty s₁ s₁' := by
  obtain @⟨_, @⟨ended, h⟩⟩ := h
  unfold Dispatching.callTurn at hmove ⊢
  cases hi : s.calls[i]? with
  | none => simp [hi] at hmove
  | some call =>
      cases call with
      | none => simp [hi] at hmove
      | some call =>
          cases call with
          | fresh =>
              simp only [hi, Drain.next] at hmove ⊢
              split_ifs at hmove ⊢ <;> cases hmove <;> exact ⟨_, rfl, .intro (.intro h)⟩
          | waiting =>
              simp only [hi, Drain.next] at hmove ⊢
              split_ifs at hmove ⊢ <;> cases hmove <;> exact ⟨_, rfl, .intro (.intro h)⟩

theorem pumpTurn {i : Nat} {around : Surroundings} {now : Nanos}
    (hmove : s.pumpTurn c i around now = some (s₁, e)) :
    ∃ s₁', s'.pumpTurn c i around now = some (s₁', e) ∧ Alike faulty s₁ s₁' := by
  obtain @⟨_, @⟨ended, h⟩⟩ := h
  have hroom : ({ s.dispatcher with ended } : Dispatcher).hasRoom = s.dispatcher.hasRoom := rfl
  obtain ⟨p, hi, hp⟩ := Option.map_eq_some_iff.mp hmove
  simp only [Dispatching.pumpTurn, Dispatcher.pumpNext, hi, hroom, Option.map_some,
    Option.bind_eq_bind, Option.bind_some, Option.pure_def] at hp ⊢
  by_cases hphase : s.dispatcher.phase = .stoppingPumps
  · simp only [if_pos hphase] at hp ⊢
    cases hl : p.isLive with
    | true | false =>
        rw [hl] at hp
        cases hp
        exact ⟨_, rfl, .intro (.intro h)⟩
  · simp only [if_neg hphase] at hp ⊢
    cases hnext : p.next c around now s.dispatcher.hasRoom with
    | none | some x =>
        rw [hnext] at hp
        cases hp
        exact ⟨_, rfl, .intro (.intro h)⟩

theorem endHook {r : Except HandlerError Unit} (hmove : s.endHook r = some (s₁, e)) :
    ∃ s₁', s'.endHook r = some (s₁', e) ∧ Alike faulty s₁ s₁' := by
  obtain @⟨_, @⟨ended, h⟩⟩ := h
  obtain ⟨x, hx, heq⟩ := Option.map_eq_some_iff.mp hmove
  obtain ⟨rfl, rfl⟩ := Prod.mk.inj heq
  refine ⟨_, Option.map_eq_some_iff.mpr ⟨x, hx, rfl⟩, ?_⟩
  obtain ⟨-, hp⟩ := hookUnderWay?_eq_some_iff.mp hx
  cases hphase : s.dispatcher.phase with
  | startup k | shutdown k =>
      simp only [Dispatcher.hookEnded, hphase]
      exact .intro (.intro h)
  | waiting | looping | stoppingPumps | stoppingDeliveries | «over» => simp [hphase] at hp

theorem panicHook (hmove : s.panicHook = some (s₁, e)) :
    ∃ s₁', s'.panicHook = some (s₁', e) ∧ Alike faulty s₁ s₁' := by
  obtain @⟨_, @⟨ended, h⟩⟩ := h
  obtain ⟨x, hx, heq⟩ := Option.map_eq_some_iff.mp hmove
  obtain ⟨rfl, rfl⟩ := Prod.mk.inj heq
  exact ⟨_, Option.map_eq_some_iff.mpr ⟨x, hx, rfl⟩, .intro (.intro h)⟩

/-- A move that is possible in the one run is possible in the other, and shows the same. -/
theorem move_same (hmove : s.move c mv = some (s₁, e)) :
    ∃ s₁' e', s'.move c mv = some (s₁', e') ∧ Alike faulty s₁ s₁' ∧
      List.Forall₂ (EventAlike faulty) e.toList e'.toList := by
  have hsame : (∃ s₁', s'.move c mv = some (s₁', e) ∧ Alike faulty s₁ s₁') →
      ∃ s₁' e', s'.move c mv = some (s₁', e') ∧ Alike faulty s₁ s₁' ∧
        List.Forall₂ (EventAlike faulty) e.toList e'.toList :=
    fun ⟨s₁', hmove', halike⟩ => ⟨s₁', e, hmove', halike, eventAlike_toList e⟩
  cases mv with
  | own => exact hsame (h.ownTurn hmove)
  | callTurn i => exact hsame (h.callTurn hmove)
  | pump i around now => exact hsame (h.pumpTurn hmove)
  | endHook r => exact hsame (h.endHook hmove)
  | panicHook => exact hsame (h.panicHook hmove)
  | endDelivery id v => exact h.endDelivery (fun x _ => ⟨.same _, .same _⟩) hmove
  | cancelDelivery id =>
      simp only [Dispatching.move, Option.ite_none_right_eq_some] at hmove
      obtain ⟨s₁', e', hmove', halike⟩ :=
        h.endDelivery (fun x _ => ⟨.same _, .same _⟩) hmove.2
      refine ⟨s₁', e', ?_, halike⟩
      obtain @⟨_, @⟨ended, h⟩⟩ := h
      simp only [Dispatching.move, Option.ite_none_right_eq_some]
      exact ⟨hmove.1, hmove'⟩
  | requestDrain =>
      obtain @⟨_, @⟨ended, h⟩⟩ := h
      cases hmove
      exact hsame ⟨_, rfl, .intro (.intro (d := s.dispatcher.requestDrain) h)⟩
  | feed i fed =>
      obtain @⟨_, @⟨ended, h⟩⟩ := h
      cases hmove
      exact hsame ⟨_, rfl, .intro (.intro (d := s.dispatcher.modifySource i _) h)⟩
  | finish i =>
      obtain @⟨_, @⟨ended, h⟩⟩ := h
      cases hmove
      exact hsame ⟨_, rfl, .intro (.intro (d := s.dispatcher.modifySource i _) h)⟩
  | call | abandonCall i =>
      obtain @⟨_, @⟨ended, h⟩⟩ := h
      cases hmove
      exact hsame ⟨_, rfl, .intro (.intro h)⟩

theorem move (hm : MoveAlike faulty mv mv') (hmove : s.move c mv = some (s₁, e)) :
    ∃ s₁' e', s'.move c mv' = some (s₁', e') ∧ Alike faulty s₁ s₁' ∧
      List.Forall₂ (EventAlike faulty) e.toList e'.toList := by
  cases hm with
  | same => exact h.move_same hmove
  | fault hid hv =>
      refine h.endDelivery (fun x hx => ?_) hmove
      rw [← hx] at hid
      exact ⟨.fault hid hv, .fault hid hv⟩

end Alike

variable {s₀ : Dispatching} {ms ms' : List Move} {tr tr' : List DispatchEvent}

theorem Alike.refl (s : Dispatching) : Alike faulty s s := .intro (.refl s.dispatcher)

theorem Alike.play (h : Alike faulty s₀ s') (hms : List.Forall₂ (MoveAlike faulty) ms ms')
    (hplay : s₀.play c ms = some (s, tr)) :
    ∃ s₁ tr', s'.play c ms' = some (s₁, tr') ∧ Alike faulty s s₁ ∧
      List.Forall₂ (EventAlike faulty) tr tr' := by
  induction hms generalizing s₀ s' tr with
  | nil =>
      cases hplay
      exact ⟨s', [], rfl, h, .nil⟩
  | cons hm _ ih =>
      simp only [Dispatching.play, Option.bind_eq_bind, Option.bind_eq_some_iff, Option.pure_def,
        Option.some.injEq, Prod.mk.injEq] at hplay
      obtain ⟨⟨s₁, e⟩, hmove, ⟨s₂, tr₂⟩, hplay, rfl, rfl⟩ := hplay
      obtain ⟨s₁', e', hmove', halike, hevents⟩ := h.move hm hmove
      obtain ⟨s₂', tr₂', hplay', halike', hevents'⟩ := ih halike hplay
      refine ⟨s₂', e'.toList ++ tr₂', ?_, halike', List.rel_append hevents hevents'⟩
      simp [Dispatching.play, hmove', hplay']

/-- What is seen of two histories alike is the same, unless it is the verdict of a faulty
delivery. -/
theorem filterMap_eq_of_alike {α : Type} {f : DispatchEvent → Option α}
    (h : List.Forall₂ (EventAlike faulty) tr tr')
    (hf : ∀ (x : Delivery) (v : Verdict), x.id ∈ faulty →
      f (.ended x (some v)) = f (.ended x (some .ok))) : tr'.filterMap f = tr.filterMap f := by
  induction h with
  | nil => rfl
  | cons he _ ih =>
      rw [List.filterMap_cons, List.filterMap_cons, ih]
      cases he with
      | same => rfl
      | @fault x v hx hv => rw [hf x v hx]

/-- Two runs are the same but for the verdicts of faulty deliveries. -/
structure FaultsIsolated (faulty : List Nat) (tr tr' : List DispatchEvent)
    (s s' : Dispatching) : Prop where
  /-- The same events are delivered to the same consumers, in the same order. -/
  deliveries : fanOutsIn tr' = fanOutsIn tr
  /-- The same deliveries end, in the same order, and those that are not faulty end the same way. -/
  ends : (endingsIn tr').map Prod.fst = (endingsIn tr).map Prod.fst
  outcomes : (endingsIn tr').filter (fun x => x.1.id ∉ faulty) =
    (endingsIn tr).filter (fun x => x.1.id ∉ faulty)
  states : statesOf tr' = statesOf tr
  hooks : hooksBegun tr' = hooksBegun tr
  hook_results : tr'.filterMap DispatchEvent.hookResult? = tr.filterMap DispatchEvent.hookResult?
  result : s'.result = s.result
  /-- The histories go together step by step. -/
  histories : List.Forall₂ (EventAlike faulty) tr tr'

theorem FaultsIsolated.of_alike (h : List.Forall₂ (EventAlike faulty) tr tr')
    (hs : Alike faulty s s') : FaultsIsolated faulty tr tr' s s' where
  deliveries := filterMap_eq_of_alike h fun _ _ _ => rfl
  ends := by
    rw [endingsIn, endingsIn, List.map_filterMap, List.map_filterMap]
    exact filterMap_eq_of_alike h fun _ _ _ => rfl
  outcomes := by
    rw [endingsIn, endingsIn, List.filter_filterMap, List.filter_filterMap]
    exact filterMap_eq_of_alike h fun x v hx => by simp [Option.filter, hx]
  states := filterMap_eq_of_alike h fun _ _ _ => rfl
  hooks := filterMap_eq_of_alike h fun _ _ _ => rfl
  hook_results := filterMap_eq_of_alike h fun _ _ _ => rfl
  result := by
    cases hs
    rfl
  histories := h

/-- When some deliveries that end well in one run end badly in another one, at the same moments, but
without the wish to terminate, the other run is possible and differs in nothing but their
verdicts. -/
theorem faults_isolated (run : Run c s₀ ms tr s)
    (hms : List.Forall₂ (MoveAlike faulty) ms ms') :
    (∃ tr' s', Run c s₀ ms' tr' s') ∧
      ∀ {tr' : List DispatchEvent} {s' : Dispatching}, Run c s₀ ms' tr' s' →
        FaultsIsolated faulty tr tr' s s' := by
  obtain ⟨s₁, tr₁, hplay, halike, hevents⟩ := (Alike.refl s₀).play hms run.play_eq
  have run₁ := Run.of_play hplay
  refine ⟨⟨tr₁, s₁, run₁⟩, fun run' => ?_⟩
  obtain ⟨rfl, rfl⟩ := run₁.unique run'
  exact .of_alike hevents halike

/-- A handler that panics changes nothing but its own verdict. -/
theorem kick_panic_isolated :
    ∃ s s', Run kicks (kickStart 1 ["a"]) (kickMoves .ok) (kickHistory .ok) s ∧
      Run kicks (kickStart 1 ["a"]) (kickMoves .panicked) (kickHistory .panicked) s' ∧
      FaultsIsolated [1] (kickHistory .ok) (kickHistory .panicked) s s' := by
  have run : Run kicks (kickStart 1 ["a"]) (kickMoves .ok) (kickHistory .ok) _ := Run.of_play rfl
  have run' : Run kicks (kickStart 1 ["a"]) (kickMoves .panicked) (kickHistory .panicked) _ :=
    Run.of_play rfl
  have hsame : ∀ ms : List Move, List.Forall₂ (MoveAlike [1]) ms ms :=
    fun ms => List.forall₂_same.mpr fun mv _ => .same mv
  have hms : List.Forall₂ (MoveAlike [1]) (kickMoves .ok) (kickMoves .panicked) :=
    List.rel_append (List.rel_append (hsame openingMoves)
      (.cons (.same _) (.cons (.fault (by simp) .panicked) .nil))) (hsame closingMoves)
  exact ⟨_, _, run, run', (faults_isolated run hms).2 run'⟩

end Dispatching

end LogWarden
