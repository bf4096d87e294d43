import LogWarden.Proofs.Dispatch.Hooks

/-!
# When the loop is left

The loop is left after a stop signal, which is a request to drain or a delivery that ends with the
wish to terminate, or when all sources have ended and no delivery is in progress. No event is
delivered after a stop signal, even if the loop has not been left yet: a request to drain and the
ends of deliveries are looked at before the next event. No outcome of a hook stops the loop, because
none comes while the loop runs; a startup hook that panics keeps the loop from beginning.
-/

namespace LogWarden

/-- Whether something shown asks the dispatcher to stop. -/
@[simp] def DispatchEvent.stops : DispatchEvent → Bool
  | .drainRequested => true
  | .drained _ isFirst _ _ => isFirst
  | .ended _ (some (.failed (.terminate _))) => true
  | _ => false

/-- A dispatcher has been asked to stop. -/
def StopSignalled (tr : List DispatchEvent) : Prop := ∃ x ∈ tr, x.stops = true

/-- Whether a delivery has ended with the wish to terminate. -/
def terminates (v : Option Verdict) : Bool := (v.bind Verdict.terminates?).isSome

theorem StopSignalled.append {tr : List DispatchEvent} (h : StopSignalled tr)
    (tr' : List DispatchEvent) : StopSignalled (tr ++ tr') := by
  obtain ⟨x, hx, hstops⟩ := h
  exact ⟨x, List.mem_append_left _ hx, hstops⟩

theorem ended_stops (x : Delivery) (v : Option Verdict) :
    (DispatchEvent.ended x v).stops = terminates v := by
  cases v with
  | none => rfl
  | some v =>
      cases v with
      | ok | panicked => rfl
      | failed err => cases err <;> rfl

theorem mem_endingsIn {tr : List DispatchEvent} {x : Delivery} {v : Option Verdict} :
    (x, v) ∈ endingsIn tr ↔ .ended x v ∈ tr := by
  rw [endingsIn, List.mem_filterMap]
  constructor
  · rintro ⟨e, he, hx⟩
    cases e <;> simp at hx
    obtain ⟨rfl, rfl⟩ := hx
    exact he
  · intro h
    exact ⟨_, h, rfl⟩

namespace Dispatching

/-- A history agrees with what will make the dispatcher leave its loop. -/
structure SignalBooks (tr : List DispatchEvent) (d : Dispatcher) : Prop where
  requested : d.drainRequested = true → d.phase.hasLeftLoop = false → StopSignalled tr
  /-- A signal is not forgotten: it is a request, or the end of a delivery that is yet to be looked
  at. -/
  kept : StopSignalled tr → d.drainRequested = true ∨
    ∃ y ∈ d.ended, terminates y.2 = true
  left : d.phase.hasLeftLoop = true → d.drainRequested = true
  /-- When the pumps have been found to be over, no event waits. -/
  exhausted : d.phase.hasLeftLoop = false → d.ingesting = false →
    d.phase = .looping ∧ d.buffer = [] ∧ ∀ j, d.isPumping j = false

variable {consumers : List Consumer} {c : Classifier} {s s' : Dispatching} {mv : Move}
variable {tr : List DispatchEvent} {d d' : Dispatcher} {e : Option DispatchEvent}

namespace SignalBooks

/-- A move that is no signal. -/
theorem frame (k : SignalBooks tr d) (hr : d'.drainRequested = d.drainRequested)
    (hk : ∀ y ∈ d.ended, terminates y.2 = true → y ∈ d'.ended)
    (hl : d'.phase.hasLeftLoop = d.phase.hasLeftLoop)
    (hx : d'.phase.hasLeftLoop = false → d'.ingesting = false →
      d'.phase = .looping ∧ d'.buffer = [] ∧ ∀ j, d'.isPumping j = false)
    (he : ∀ x, e = some x → x.stops = false) : SignalBooks (tr ++ e.toList) d' where
  requested := fun h hleft => by
    rw [hr] at h
    rw [hl] at hleft
    exact (k.requested h hleft).append _
  kept := by
    rintro ⟨x, hmem, hstops⟩
    rcases List.mem_append.mp hmem with hmem | hmem
    · rw [hr]
      refine (k.kept ⟨x, hmem, hstops⟩).imp_right ?_
      rintro ⟨y, hy, hterminates⟩
      exact ⟨y, hk y hy hterminates, hterminates⟩
    · have hquiet := he x (Option.mem_toList.mp hmem)
      rw [hquiet] at hstops
      cases hstops
  left := fun h => by
    rw [hl] at h
    rw [hr, k.left h]
  exhausted := hx

/-- A signal. -/
theorem signal (k : SignalBooks tr d) {x : DispatchEvent} (hx : x.stops = true)
    (hk : d'.drainRequested = true ∨
      ∃ y ∈ d'.ended, terminates y.2 = true)
    (hr : d.drainRequested = true → d'.drainRequested = true) (hp : d'.phase = d.phase)
    (hi : d'.ingesting = d.ingesting) (hb : d'.buffer = d.buffer)
    (hps : ∀ j, d'.isPumping j = d.isPumping j) :
    SignalBooks (tr ++ [x]) d' where
  requested := fun _ _ => ⟨x, by simp, hx⟩
  kept := fun _ => hk
  left := fun h => hr (k.left (hp ▸ h))
  exhausted := by
    simp only [hp, hi, hb, hps]
    exact k.exhausted

/-- While a pump has more to do, events may come. -/
theorem ingesting_of_isLive (k : SignalBooks tr d) (hl : d.phase.hasLeftLoop = false) {i : Nat}
    {p : Pump} (hi : d.pumps[i]? = some p) (hp : p.isLive = true) : d.ingesting = true := by
  by_contra hing
  have hdead := (k.exhausted hl (Bool.eq_false_iff.mpr hing)).2.2 i
  rw [Dispatcher.isPumping_of_getElem? hi, hp] at hdead
  cases hdead

theorem ingesting_of_startup (k : SignalBooks tr d) {hook : Nat} (hp : d.phase = .startup hook) :
    d.ingesting = true := by
  by_contra hing
  have hphase := (k.exhausted (by rw [hp]; rfl) (Bool.eq_false_iff.mpr hing)).1
  rw [hp] at hphase
  cases hphase

/-- Behind the loop all signals count as requests. -/
theorem of_left (hl : d.phase.hasLeftLoop = true) (hr : d.drainRequested = true) :
    SignalBooks tr d where
  requested := fun _ h => absurd hl (Bool.eq_false_iff.mp h)
  kept := fun _ => .inl hr
  left := fun _ => hr
  exhausted := fun h => absurd hl (Bool.eq_false_iff.mp h)

theorem own (k : SignalBooks tr s.dispatcher) (h : OwnChange s e s') :
    SignalBooks (tr ++ e.toList) s'.dispatcher := by
  have hkept : ∀ y ∈ s.dispatcher.ended, terminates y.2 = true →
      y ∈ s.dispatcher.ended := fun _ h _ => h
  cases h with
  | start hp =>
      refine k.frame rfl hkept (by rw [hp]; rfl) (fun _ hing => ?_) (by simp)
      have hphase := (k.exhausted (by rw [hp]; rfl) hing).1
      rw [hp] at hphase
      cases hphase
  | openPumps hp =>
      refine k.frame rfl hkept (by rw [hp]; rfl) (fun _ hing => ?_) (by simp)
      exact absurd (k.ingesting_of_startup hp) (Bool.eq_false_iff.mp hing)
  | finish | drain | terminate => exact of_left rfl rfl
  | observe hp he hv =>
      refine k.frame rfl (fun y hy hterminates => ?_) rfl k.exhausted (by simp)
      rw [he] at hy
      rcases List.mem_cons.mp hy with rfl | hy
      · simp [terminates, hv] at hterminates
      · exact hy
  | deliver hp hd he hb =>
      refine k.frame rfl hkept rfl (fun hl hi => ?_) (by simp)
      have hempty := (k.exhausted hl hi).2.1
      simp [hb] at hempty
  | exhaust hp hb hl =>
      exact k.frame rfl hkept rfl (fun _ _ => ⟨hp, hb, Dispatcher.isPumping_eq_false hl⟩) (by simp)
  | joinPump hp | cancelDeliveries hp | clear hp =>
      exact of_left (by simp [hp]) (k.left (by rw [hp]; rfl))
  | joinDelivery hp =>
      exact of_left (by simp [hp, Dispatcher.observe]) (k.left (by rw [hp]; rfl))
  | stop hp => exact of_left rfl (k.left (by rw [hp]; rfl))
  | refuse | beginStartup | beginShutdown | «return» =>
      exact k.frame rfl hkept rfl k.exhausted (by simp)

theorem change (k : SignalBooks tr s.dispatcher) (h : Change c s mv e s') :
    SignalBooks (tr ++ e.toList) s'.dispatcher := by
  have hkept : ∀ y ∈ s.dispatcher.ended, terminates y.2 = true →
      y ∈ s.dispatcher.ended := fun _ h _ => h
  cases h with
  | own _ _ h => exact k.own h
  | requestDrain | beginCall =>
      exact k.signal rfl (.inl rfl) (fun _ => rfl) rfl rfl rfl fun _ => rfl
  | @endDelivery x v hx =>
      cases hv : terminates (some v) with
      | true =>
          refine k.signal ((ended_stops x v).trans hv) (.inr ⟨(x, some v), ?_, hv⟩) id rfl rfl rfl
            fun _ => rfl
          simp [Dispatcher.deliveryEnded]
      | false =>
          refine k.frame rfl (fun y hy _ => List.mem_append_left _ hy) rfl k.exhausted ?_
          rintro _ ⟨⟩
          rw [ended_stops, hv]
  | cancelDelivery hp =>
      exact k.frame rfl (fun y hy _ => List.mem_append_left _ hy) rfl k.exhausted (by simp)
  | feed i fed | finish i =>
      refine k.frame rfl hkept rfl (fun hl hi => ?_) (by simp)
      obtain ⟨hphase, hbuffer, hdead⟩ := k.exhausted hl hi
      exact ⟨hphase, hbuffer, fun j => (Dispatcher.isPumping_modifySource _ j).trans (hdead j)⟩
  | pumpWait _ he =>
      refine k.frame rfl hkept rfl k.exhausted ?_
      rcases he with rfl | ⟨rfl, _⟩ <;> simp
  | pump hi _ h =>
      refine k.frame rfl hkept rfl (fun hl hing => ?_) ?_
      · exact absurd (k.ingesting_of_isLive hl hi h.isLive) (Bool.eq_false_iff.mp hing)
      · cases h <;> simp
  | send hi hp hs =>
      refine k.frame rfl hkept rfl (fun hl hing => ?_) (by simp)
      have hlive := Pump.isLive_of_sending hs
      exact absurd (k.ingesting_of_isLive hl hi hlive) (Bool.eq_false_iff.mp hing)
  | stopPump hi hp => exact of_left (by simp [hp]) (k.left (by simp [hp]))
  | endStartup r hh _ hp =>
      refine k.frame rfl hkept (by rw [hp]; rfl) (fun _ hing => ?_) (by simp)
      exact absurd (k.ingesting_of_startup hp) (Bool.eq_false_iff.mp hing)
  | endShutdown r hh _ hp => exact of_left rfl (k.left (by simp [hp]))
  | _ => exact k.frame rfl hkept rfl k.exhausted (by simp)

end SignalBooks

/-- What a history shows of stop signals agrees with the dispatcher. -/
theorem Run.signalBooks {buffer startups shutdowns : Nat} {sources : List Source}
    {ms : List Move} (run : Run c (start consumers buffer startups shutdowns sources) ms tr s) :
    SignalBooks tr s.dispatcher := by
  induction run with
  | refl => exact ⟨by rintro ⟨⟩, by rintro ⟨_, ⟨⟩, _⟩, by rintro ⟨⟩, by rintro _ ⟨⟩⟩
  | tail _ h ih => exact ih.change (change_of_move h)

/-- Why the loop is left. -/
theorem Change.leaves (h : Change c s mv (some (.moved .draining)) s') :
    s.dispatcher.phase = .looping ∧ s'.dispatcher.phase = .stoppingPumps ∧
      (s.dispatcher.drainRequested = true ∨ (∃ y ∈ s.dispatcher.ended, terminates y.2 = true) ∨
        s.dispatcher.ingesting = false ∧ s.dispatcher.inProgress = [] ∧
          s.dispatcher.ended = []) := by
  cases h with
  | own _ _ h =>
      cases h with
      | finish hp hi hx he => exact ⟨hp, rfl, .inr (.inr ⟨hi, hx, he⟩)⟩
      | drain hp hd => exact ⟨hp, rfl, .inl hd⟩
      | terminate hp he hv =>
          refine ⟨hp, rfl, .inr (.inl ⟨_, he ▸ List.mem_cons_self, ?_⟩)⟩
          simp [terminates, hv]
  | pumpWait _ he => simp at he
  | pump _ _ h => cases h

/-- An event is delivered only when nothing that has ended is left to be looked at. -/
theorem Change.delivers {i : Nat} {e : Event} {made : List Delivery}
    (h : Change c s mv (some (.delivered i e made)) s') :
    s.dispatcher.drainRequested = false ∧ s.dispatcher.ended = [] := by
  cases h with
  | own _ _ h =>
      cases h with
      | deliver hp hd he => exact ⟨hd, he⟩
  | pumpWait _ he => simp at he
  | pump _ _ h => cases h

theorem SignalBooks.not_delivers (k : SignalBooks tr s.dispatcher) (hs : StopSignalled tr)
    {i : Nat} {e : Event} {made : List Delivery} :
    ¬ Change c s mv (some (.delivered i e made)) s' := by
  intro h
  obtain ⟨hdrain, hended⟩ := h.delivers
  rcases k.kept hs with hrequested | ⟨y, hy, _⟩
  · simp [hdrain] at hrequested
  · simp [hended] at hy

/-- Without a signal, the loop is left when nothing is under way. -/
theorem Change.leaves_unsignalled (h : Change c s mv (some (.moved .draining)) s')
    (deliveries : DeliveryBooks consumers tr s.dispatcher) (signals : SignalBooks tr s.dispatcher)
    (hs : ¬ StopSignalled tr) : s.dispatcher.inProgress = [] ∧ s.dispatcher.buffer = [] ∧
      ∀ j, s.dispatcher.isPumping j = false := by
  obtain ⟨hp, -, hd | ⟨y, hy, hterminates⟩ | ⟨hing, hx, -⟩⟩ := h.leaves
  · exact absurd (signals.requested hd (by rw [hp]; rfl)) hs
  · have hmem := mem_endingsIn.mp (deliveries.ended_suffix.subset hy)
    exact absurd ⟨_, hmem, (ended_stops _ _).trans hterminates⟩ hs
  · exact ⟨hx, (signals.exhausted (by rw [hp]; rfl) hing).2⟩

/-- Without a signal, there is a last reading of each source and a verdict of each delivery. -/
theorem Change.lost_and_ended {n : Nat} (h : Change c s mv (some (.moved .draining)) s')
    (pumps : PumpBooks n tr s.dispatcher) (deliveries : DeliveryBooks consumers tr s.dispatcher)
    (signals : SignalBooks tr s.dispatcher) (hs : ¬ StopSignalled tr) :
    (∀ i < n, SourceLost tr i) ∧ ∀ x ∈ madeIn tr, ∃ v, .ended x (some v) ∈ tr := by
  obtain ⟨hp, -⟩ := h.leaves
  obtain ⟨hx, -, hdead⟩ := h.leaves_unsignalled deliveries signals hs
  constructor
  · intro i hi
    rcases pumps.live_or_over (by rw [hp]; rfl) i hi with hlive | hlost | hstopped
    · simp [hdead] at hlive
    · exact hlost
    · exact absurd hstopped (pumps.stopped (by rw [hp]; rfl) i)
  · intro x hmade
    have hperm := deliveries.perm
    rw [hx, List.append_nil] at hperm
    obtain ⟨⟨_, v⟩, hend, rfl⟩ := List.mem_map.mp (hperm.subset hmade)
    cases v with
    | none => exact absurd hend (deliveries.uncancelled (by rw [hp]; rfl) _)
    | some v => exact ⟨v, mem_endingsIn.mp hend⟩

section Progress
variable {e : Event} {rest : List Event}

/-- The dispatcher looks at all deliveries that have ended, and then delivers the next event. -/
theorem exists_run_delivers (hh : s.inHook = false) (hr : s.result = none)
    (hp : s.dispatcher.phase = .looping) (hi : s.dispatcher.ingesting = true)
    (hd : s.dispatcher.drainRequested = false)
    (he : ∀ y ∈ s.dispatcher.ended, terminates y.2 = false)
    (hb : s.dispatcher.buffer = e :: rest) :
    ∃ turns s', Run c s (List.replicate turns .own)
      [.delivered (s.origins.headD 0) e (s.dispatcher.deliveriesOf e)] s' := by
  generalize hended : s.dispatcher.ended = ended at he
  induction ended generalizing s with
  | nil =>
      have hmove : s.move c .own = some
          ({ s with dispatcher := s.dispatcher.fanOut e rest, origins := s.origins.tail },
            some (.delivered (s.origins.headD 0) e (s.dispatcher.deliveriesOf e))) := by
        simp [move, ownTurn, hh, hr, Dispatcher.next, hp, Dispatcher.loopNext, hi, hd, hended, hb,
          afterTurn]
      exact ⟨1, _, Run.single hmove⟩
  | cons y ys ih =>
      obtain ⟨x, v⟩ := y
      have hv : v.bind Verdict.terminates? = none := by
        simpa [terminates] using he (x, v) List.mem_cons_self
      have hmove : s.move c .own =
          some ({ s with dispatcher := s.dispatcher.observe x ys }, none) := by
        simp [move, ownTurn, hh, hr, Dispatcher.next, hp, Dispatcher.loopNext, hi, hd, hended, hv,
          afterTurn]
      obtain ⟨turns, s', hrun⟩ := ih (s := { s with dispatcher := s.dispatcher.observe x ys })
        hh hr hp hi hd hb rfl fun y hy => he y (List.mem_cons_of_mem _ hy)
      exact ⟨turns + 1, s', (Run.single hmove).trans hrun⟩

end Progress

/-- What makes a dispatcher with so many sources stop delivering events, and what does not. -/
structure StopAccount (c : Classifier) (n : Nat) (tr : List DispatchEvent) (s : Dispatching) :
    Prop where
  /-- No event is delivered after a stop signal. -/
  none_after : ∀ tr₁ x tr₂, tr = tr₁ ++ x :: tr₂ → x.stops = true →
    ∀ i e made, .delivered i e made ∉ tr₂
  /-- The loop is left after a stop signal, or when all sources have given their last reading and
  all deliveries have ended. -/
  cause : ∀ tr₁ tr₂, tr = tr₁ ++ .moved .draining :: tr₂ → StopSignalled tr₁ ∨
    (∀ i < n, SourceLost tr₁ i) ∧ ∀ x ∈ madeIn tr₁, ∃ v, .ended x (some v) ∈ tr₁
  /-- Unless there was a stop signal, the dispatcher goes on to deliver the events that wait. -/
  goes_on : ¬ StopSignalled tr → s.dispatcher.phase = .looping →
    ∀ e rest, s.dispatcher.buffer = e :: rest → ∃ turns s', Run c s (List.replicate turns .own)
      [.delivered (s.origins.headD 0) e (s.dispatcher.deliveriesOf e)] s'
  /-- Startup hooks begin, return and panic before the loop begins. -/
  startup_before : ∀ tr₁ x tr₂, tr = tr₁ ++ x :: tr₂ → x.ofHook? = some true →
    .moved .draining ∉ tr₁ ∧ ∀ i e made, .delivered i e made ∉ tr₁
  /-- Shutdown hooks begin, return and panic when the loop has been left, and nothing is delivered
  after that. -/
  shutdown_behind : ∀ tr₁ x tr₂, tr = tr₁ ++ x :: tr₂ → x.ofHook? = some false →
    .moved .draining ∈ tr₁ ∧ ∀ i e made, .delivered i e made ∉ tr₂
  /-- While the loop runs, no hook is under way and none has panicked. -/
  looping : s.dispatcher.phase = .looping →
    s.inHook = false ∧ ∀ isStartup hook, .hookPanicked isStartup hook ∉ tr
  /-- What a hook returns makes no difference to what becomes of the dispatcher. -/
  hook_returns : ∀ r, (s.move c (.endHook r)).map Prod.fst =
    (s.move c (.endHook (.ok ()))).map Prod.fst
  /-- A hook that panics ends the dispatcher: after that nothing is shown but requests to drain and
  calls to drain that do not return, so the loop neither begins nor is left. -/
  panicked : ∀ tr₁ isStartup hook tr₂, tr = tr₁ ++ .hookPanicked isStartup hook :: tr₂ →
    ∀ x ∈ tr₂, x.isDrain = true

variable {buffer startups shutdowns : Nat} {sources : List Source} {ms : List Move}

/-- A dispatcher stops delivering events at the first stop signal, and for nothing else while a
source or a delivery is left. -/
theorem delivery_stops (run : Run c (start consumers buffer startups shutdowns sources) ms tr s) :
    StopAccount c sources.length tr s where
  none_after := by
    rintro tr₁ x tr₂ rfl hx i e made hmem
    obtain ⟨tr₃, tr₄, rfl⟩ := List.append_of_mem hmem
    rw [← List.cons_append, ← List.append_assoc] at run
    obtain ⟨_, s₁, _, _, _, first, move, _⟩ := run.move_at
    exact first.signalBooks.not_delivers ⟨x, by simp, hx⟩ (change_of_move move)
  cause := by
    rintro tr₁ tr₂ rfl
    obtain ⟨_, s₁, _, _, _, first, move, _⟩ := run.move_at
    by_cases hs : StopSignalled tr₁
    · exact .inl hs
    · exact .inr ((change_of_move move).lost_and_ended first.pumpBooks first.deliveryBooks
        first.signalBooks hs)
  goes_on := by
    intro hs hp e rest hb
    have signals := run.signalBooks
    have hleft : s.dispatcher.phase.hasLeftLoop = false := by rw [hp]; rfl
    have hh : s.inHook = false := by simpa [Phase.Within, standing, hp] using run.course.within
    have hr : s.result = none := by
      have returns := run.returns
      cases hr : s.result with
      | none => rfl
      | some r =>
          cases r with
          | ok => simp [returns.ok_over hr] at hp
          | error err => simp [(returns.refused err hr).2.1] at hp
    refine exists_run_delivers hh hr hp ?_ ?_ ?_ hb
    · by_contra hing
      have hempty := (signals.exhausted hleft (Bool.eq_false_iff.mpr hing)).2.1
      simp [hb] at hempty
    · by_contra hd
      exact hs (signals.requested (eq_true_of_ne_false hd) hleft)
    · intro y hy
      by_contra hterminates
      have hmem := mem_endingsIn.mp (run.deliveryBooks.ended_suffix.subset hy)
      exact hs ⟨_, hmem, (ended_stops _ _).trans (eq_true_of_ne_false hterminates)⟩
  startup_before := by
    rintro tr₁ x tr₂ rfl hx
    exact run.startup_hook_before hx
  shutdown_behind := by
    rintro tr₁ x tr₂ rfl hx
    exact run.shutdown_hook_behind hx
  looping := by
    intro hp
    have hh : s.inHook = false := by simpa [Phase.Within, standing, hp] using run.course.within
    refine ⟨hh, fun isStartup hook hmem => ?_⟩
    simp [(run.isBroken hmem).inHook] at hh
  hook_returns := fun r => endHook_fst s r (.ok ())
  panicked := by
    rintro tr₁ isStartup hook tr₂ rfl
    exact run.after_panic

/-- Moves in which a second kick comes to wait, and then the first consumer wishes to terminate. -/
def kickStopMoves : List Move :=
  openingMoves ++
    [kickPump, kickPump, kickPump, .endDelivery 0 (.failed (.terminate "kicked")), .own]

/-- The history of these moves. -/
def kickStopHistory : List DispatchEvent :=
  kickOpening ++ [.asked 0 (some (.line "b")), .sent 0 kick,
    .ended ⟨0, 0, "watch", kick⟩ (some (.failed (.terminate "kicked"))), .moved .draining]

/-- The startup hook panics, and then somebody drains. -/
def kickPanicMoves : List Move := [.own, .own, .panicHook, .requestDrain, .call, .callTurn 0]

/-- The history of these moves. -/
def kickPanicHistory : List DispatchEvent :=
  [.moved .running, .hookBegan true 0 .running, .hookPanicked true 0, .drainRequested,
    .drained 0 true .running false]

/-- A consumer that wishes to terminate stops the delivery of an event that waits, and a startup hook
that panics leaves a dispatcher that delivers nothing. -/
theorem kick_stopped :
    (∃ s, Run kicks (kickStart 1 ["a", "b"]) kickStopMoves kickStopHistory s ∧
      StopSignalled kickStopHistory ∧ StopAccount kicks 1 kickStopHistory s) ∧
    ∃ s, Run kicks (kickStart 1 ["a", "b"]) kickPanicMoves kickPanicHistory s ∧
      StopAccount kicks 1 kickPanicHistory s := by
  have run : Run kicks (kickStart 1 ["a", "b"]) kickStopMoves kickStopHistory _ := Run.of_play rfl
  have hmem : .ended ⟨0, 0, "watch", kick⟩ (some (.failed (.terminate "kicked"))) ∈
      kickStopHistory := by simp [kickStopHistory]
  have panic : Run kicks (kickStart 1 ["a", "b"]) kickPanicMoves kickPanicHistory _ :=
    Run.of_play rfl
  exact ⟨⟨_, run, ⟨_, hmem, rfl⟩, delivery_stops run⟩, _, panic, delivery_stops panic⟩

end Dispatching

end LogWarden
