import LogWarden.Proofs.Dispatch.Signals

/-!
# From lines to deliveries

The events of a source are handed on, and leave the buffer, in the order in which its lines give
them. Until the loop is left, none is missing: what has not left the buffer is in it, or its pump is
about to hand it on. A run that ends by itself has therefore delivered all events of all lines, in
an order that is fixed for each source and for nothing else.
-/

namespace LogWarden

/-- A line with the source that it was read from, if something shown is that. -/
@[simp] def DispatchEvent.line? : DispatchEvent → Option (Nat × String)
  | .asked i (some (.line line)) => some (i, line)
  | _ => none

/-- An event with the pump that handed it on, if something shown is that. -/
@[simp] def DispatchEvent.sent? : DispatchEvent → Option (Nat × Event)
  | .sent i e => some (i, e)
  | _ => none

/-- What belongs to a source. -/
def fromSource {α : Type} (i : Nat) (xs : List (Nat × α)) : List α :=
  xs.filterMap fun x => if x.1 = i then some x.2 else none

section Histories
variable (c : Classifier) (i : Nat) (tr : List DispatchEvent)

/-- The lines that have been read. -/
def linesIn : List (Nat × String) := tr.filterMap DispatchEvent.line?

/-- The events that have been handed on. -/
def sentIn : List (Nat × Event) := tr.filterMap DispatchEvent.sent?

/-- The events that have left the buffer. -/
def deliveredIn : List (Nat × Event) := (fanOutsIn tr).map Prod.fst

/-- The lines that a source has given. -/
def linesFrom : List String := fromSource i (linesIn tr)

/-- The events of the lines that a source has given. -/
def eventsFrom : List Event := (linesFrom i tr).flatMap c.classify

/-- The events of a source that have been delivered. -/
def deliveredFrom : List Event := fromSource i (deliveredIn tr)

end Histories

/-- The events that a pump has yet to hand on. -/
def Pump.pending (p : Pump) : List Event :=
  match p.state with
  | .sending events => events
  | _ => []

/-- The events that the pump at a position has yet to hand on. -/
def Dispatcher.pendingAt (d : Dispatcher) (i : Nat) : List Event := d.pumps[i]?.elim [] Pump.pending

theorem fromSource_append {α : Type} (i : Nat) (xs ys : List (Nat × α)) :
    fromSource i (xs ++ ys) = fromSource i xs ++ fromSource i ys :=
  List.filterMap_append

theorem fromSource_singleton {α : Type} (i j : Nat) (x : α) :
    fromSource i [(j, x)] = if j = i then [x] else [] := by
  by_cases h : j = i <;> simp [fromSource, h]

theorem Dispatcher.pendingAt_set {d d' : Dispatcher} {i : Nat} {p p' : Pump}
    (hi : d.pumps[i]? = some p) (h : d'.pumps = d.pumps.set i p') (j : Nat) :
    d'.pendingAt j = if i = j then p'.pending else d.pendingAt j := by
  obtain ⟨hlt, _⟩ := List.getElem?_eq_some_iff.mp hi
  by_cases hij : i = j
  · subst hij
    simp [pendingAt, h, hlt]
  · simp only [pendingAt, h, List.getElem?_set_ne hij, if_neg hij]

theorem Dispatcher.pendingAt_of_getElem? {d : Dispatcher} {i : Nat} {p : Pump}
    (h : d.pumps[i]? = some p) : d.pendingAt i = p.pending := by
  simp [pendingAt, h]

theorem Dispatcher.pendingAt_modifySource (d : Dispatcher) (i : Nat) (f : Source → Source)
    (j : Nat) : (d.modifySource i f).pendingAt j = d.pendingAt j := by
  rw [pendingAt, pendingAt, modifySource, List.getElem?_modify]
  cases d.pumps[j]? with
  | none => rfl
  | some p => by_cases hij : i = j <;> simp [hij, Pump.pending]

/-- A pump that has no more to do has nothing to hand on. -/
theorem Dispatcher.pendingAt_eq_nil {d : Dispatcher} {i : Nat} (h : d.isPumping i = false) :
    d.pendingAt i = [] := by
  cases hi : d.pumps[i]? with
  | none => simp [pendingAt, hi]
  | some p =>
      rw [isPumping_of_getElem? hi] at h
      rw [pendingAt_of_getElem? hi, Pump.pending]
      split
      · next hs => simp [Pump.isLive_of_sending hs] at h
      · rfl

namespace Dispatching

/-- A history agrees with the events that are under way in the loop. -/
structure Flow (c : Classifier) (tr : List DispatchEvent) (s : Dispatching) : Prop where
  origins_length : s.origins.length = s.dispatcher.buffer.length
  /-- What has been handed on has left the buffer or is in it. -/
  buffered : sentIn tr = deliveredIn tr ++ s.origins.zip s.dispatcher.buffer
  /-- What a source has given has been handed on or is about to be. -/
  pending : ∀ i, eventsFrom c i tr = fromSource i (sentIn tr) ++ s.dispatcher.pendingAt i

variable {consumers : List Consumer} {c : Classifier} {s s' : Dispatching} {mv : Move}
variable {tr : List DispatchEvent} {e : Option DispatchEvent} {n : Nat}

section Views
variable (tr)

theorem linesIn_of_none (h : e.bind DispatchEvent.line? = none) :
    linesIn (tr ++ e.toList) = linesIn tr := by
  rw [linesIn, filterMap_append_toList, h, Option.toList_none, List.append_nil, linesIn]

theorem sentIn_of_none (h : e.bind DispatchEvent.sent? = none) :
    sentIn (tr ++ e.toList) = sentIn tr := by
  rw [sentIn, filterMap_append_toList, h, Option.toList_none, List.append_nil, sentIn]

theorem deliveredIn_of_none (h : e.bind DispatchEvent.fanOut? = none) :
    deliveredIn (tr ++ e.toList) = deliveredIn tr := by
  rw [deliveredIn, fanOutsIn_of_none tr h, deliveredIn]

theorem eventsFrom_of_none (h : e.bind DispatchEvent.line? = none) (c : Classifier) (i : Nat) :
    eventsFrom c i (tr ++ e.toList) = eventsFrom c i tr := by
  rw [eventsFrom, linesFrom, linesIn_of_none tr h, eventsFrom, linesFrom]

end Views

/-- What is shown says nothing of lines and events. -/
structure Still (e : Option DispatchEvent) : Prop where
  line : e.bind DispatchEvent.line? = none
  sent : e.bind DispatchEvent.sent? = none
  fanOut : e.bind DispatchEvent.fanOut? = none

/-- A pump that has handed on all it had gets a new line, or nothing comes of its turn. -/
theorem PumpChange.pending_eq {i : Nat} {p p' : Pump} (h : PumpChange c i p e p') :
    p.pending = [] ∧ (Still e ∧ p'.pending = [] ∨
      ∃ line, e = some (.asked i (some (.line line))) ∧ p'.pending = c.classify line) := by
  cases h with
  | ask hs => exact ⟨by simp [Pump.pending, hs], .inl ⟨⟨rfl, rfl, rfl⟩, rfl⟩⟩
  | read hs source line => exact ⟨by simp [Pump.pending, hs], .inr ⟨line, rfl, rfl⟩⟩
  | @lose hs source r hr state hstate =>
      refine ⟨by simp [Pump.pending, hs], .inl ⟨?_, ?_⟩⟩
      · cases r with
        | line => cases hr
        | ended | failed | broken => exact ⟨rfl, rfl, rfl⟩
      · rcases hstate with rfl | rfl <;> rfl
  | turn hs => exact ⟨by simp [Pump.pending, hs], .inl ⟨⟨rfl, rfl, rfl⟩, rfl⟩⟩

namespace Flow

/-- A move that leaves lines and events alone. -/
theorem frame (k : Flow c tr s) (he : Still e) (ho : s'.origins = s.origins)
    (hb : s'.dispatcher.buffer = s.dispatcher.buffer)
    (hp : ∀ j, s'.dispatcher.pendingAt j = s.dispatcher.pendingAt j) :
    Flow c (tr ++ e.toList) s' where
  origins_length := by rw [ho, hb, k.origins_length]
  buffered := by
    rw [sentIn_of_none tr he.sent, deliveredIn_of_none tr he.fanOut, ho, hb, k.buffered]
  pending := fun i => by
    rw [eventsFrom_of_none tr he.line, sentIn_of_none tr he.sent, hp, k.pending]

theorem pump {i : Nat} {p p' : Pump} (k : Flow c tr s) (hi : s.dispatcher.pumps[i]? = some p)
    (h : PumpChange c i p e p') :
    Flow c (tr ++ e.toList)
      { s with dispatcher := { s.dispatcher with pumps := s.dispatcher.pumps.set i p' } } := by
  have hset : ∀ j,
      ({ s.dispatcher with pumps := s.dispatcher.pumps.set i p' } : Dispatcher).pendingAt j =
        if i = j then p'.pending else s.dispatcher.pendingAt j :=
    Dispatcher.pendingAt_set hi rfl
  obtain ⟨hp, ⟨hstill, hp'⟩ | ⟨line, rfl, hp'⟩⟩ := h.pending_eq
  · refine k.frame hstill rfl rfl fun j => ?_
    rw [hset]
    split
    · next hij => rw [← hij, Dispatcher.pendingAt_of_getElem? hi, hp, hp']
    · rfl
  · have hsent := sentIn_of_none (e := some (.asked i (some (.line line)))) tr rfl
    constructor
    · exact k.origins_length
    · rw [hsent, deliveredIn_of_none tr rfl]
      exact k.buffered
    · intro j
      have hevents : eventsFrom c j (tr ++ [.asked i (some (.line line))]) =
          eventsFrom c j tr ++ if i = j then c.classify line else [] := by
        rw [eventsFrom, linesFrom, linesIn, List.filterMap_append, fromSource_append,
          List.flatMap_append]
        congr 1
        by_cases hij : i = j <;> simp [fromSource, hij]
      rw [hsent, Option.toList_some, hevents, k.pending, hset]
      by_cases hij : i = j
      · rw [if_pos hij, if_pos hij, ← hij, Dispatcher.pendingAt_of_getElem? hi, hp, hp',
          List.append_nil]
      · rw [if_neg hij, if_neg hij, List.append_nil]

theorem send {i : Nat} {p : Pump} {e : Event} {rest : List Event} (k : Flow c tr s)
    (hi : s.dispatcher.pumps[i]? = some p) (hs : p.state = .sending (e :: rest)) :
    Flow c (tr ++ [.sent i e])
      { s with
        dispatcher := { s.dispatcher with
          pumps := s.dispatcher.pumps.set i { p with state := .sending rest }
          buffer := s.dispatcher.buffer ++ [e] }
        origins := s.origins ++ [i] } := by
  have hset : ∀ j, Dispatcher.pendingAt { s.dispatcher with
      pumps := s.dispatcher.pumps.set i { p with state := .sending rest }
      buffer := s.dispatcher.buffer ++ [e] } j =
        if i = j then Pump.pending { p with state := .sending rest }
        else s.dispatcher.pendingAt j :=
    Dispatcher.pendingAt_set hi rfl
  have hsent : sentIn (tr ++ [.sent i e]) = sentIn tr ++ [(i, e)] := by simp [sentIn]
  have hdelivered := deliveredIn_of_none (e := some (.sent i e)) tr rfl
  constructor
  · simp [k.origins_length]
  · rw [Option.toList_some] at hdelivered
    rw [hsent, hdelivered, List.zip_append k.origins_length, k.buffered, List.append_assoc]
    rfl
  · intro j
    have hevents := eventsFrom_of_none (e := some (.sent i e)) tr rfl c j
    rw [Option.toList_some] at hevents
    rw [hevents, hsent, fromSource_append, fromSource_singleton, k.pending, hset]
    by_cases hij : i = j
    · subst hij
      simp [Dispatcher.pendingAt_of_getElem? hi, Pump.pending, hs]
    · simp [hij]

theorem deliver {e : Event} {rest : List Event} (k : Flow c tr s)
    (hb : s.dispatcher.buffer = e :: rest) (made : List Delivery) :
    Flow c (tr ++ [.delivered (s.origins.headD 0) e made])
      { s with dispatcher := s.dispatcher.fanOut e rest, origins := s.origins.tail } := by
  have hlength := k.origins_length
  have hbuffered := k.buffered
  rw [hb] at hlength hbuffered
  obtain ⟨i, origins, horigins⟩ := List.exists_cons_of_length_eq_add_one hlength
  rw [horigins] at hlength hbuffered
  have hsent := sentIn_of_none (e := some (.delivered (s.origins.headD 0) e made)) tr rfl
  have hdelivered : deliveredIn (tr ++ [.delivered (s.origins.headD 0) e made]) =
      deliveredIn tr ++ [(i, e)] := by simp [deliveredIn, fanOutsIn, horigins]
  rw [Option.toList_some] at hsent
  constructor
  · simpa [horigins, Dispatcher.fanOut] using hlength
  · rw [hsent, hbuffered, hdelivered, List.append_assoc, horigins]
    rfl
  · intro j
    have hevents :=
      eventsFrom_of_none (e := some (.delivered (s.origins.headD 0) e made)) tr rfl c j
    rw [Option.toList_some] at hevents
    rw [hevents, hsent]
    exact k.pending j

theorem own (k : Flow c tr s) (pumps : PumpBooks n tr s.dispatcher) (h : OwnChange s e s')
    (hl : s'.dispatcher.phase.hasLeftLoop = false) : Flow c (tr ++ e.toList) s' := by
  cases h with
  | deliver hp hd he hb => exact k.deliver hb _
  | openPumps hp =>
      have hnil : s.dispatcher.pumps = [] := pumps.pumps_eq_nil (by rw [hp]; rfl)
      refine k.frame ⟨rfl, rfl, rfl⟩ rfl rfl fun j => ?_
      rw [Dispatcher.pendingAt, Dispatcher.pendingAt, hnil, Dispatcher.openPumps,
        List.getElem?_map]
      cases s.dispatcher.sources[j]? <;> rfl
  | finish | drain | terminate | cancelDeliveries | clear | stop => cases hl
  | joinPump hp => simp [hp] at hl
  | _ => exact k.frame ⟨rfl, rfl, rfl⟩ rfl rfl fun _ => rfl

theorem change (k : Flow c tr s) (pumps : PumpBooks n tr s.dispatcher) (h : Change c s mv e s')
    (hl : s'.dispatcher.phase.hasLeftLoop = false) : Flow c (tr ++ e.toList) s' := by
  cases h with
  | own _ _ h => exact k.own pumps h hl
  | pump hi _ h => exact k.pump hi h
  | send hi _ hs => exact k.send hi hs
  | stopPump hi hp => simp [hp] at hl
  | pumpWait _ he =>
      refine k.frame ?_ rfl rfl fun _ => rfl
      rcases he with rfl | ⟨rfl, _⟩ <;> exact ⟨rfl, rfl, rfl⟩
  | feed i fed | finish i =>
      exact k.frame ⟨rfl, rfl, rfl⟩ rfl rfl (Dispatcher.pendingAt_modifySource _ _ _)
  | _ => exact k.frame ⟨rfl, rfl, rfl⟩ rfl rfl fun _ => rfl

end Flow

/-- What leaves the buffer, and what is handed on, comes in the order in which the sources give
it. -/
structure InOrder (c : Classifier) (tr : List DispatchEvent) : Prop where
  buffer : deliveredIn tr <+: sentIn tr
  pumps : ∀ i, fromSource i (sentIn tr) <+: eventsFrom c i tr

theorem Flow.inOrder (k : Flow c tr s) : InOrder c tr where
  buffer := ⟨_, k.buffered.symm⟩
  pumps := fun i => ⟨_, (k.pending i).symm⟩

theorem StandingChange.hasLeftLoop {t t' : Standing} (h : StandingChange t e t')
    (hl : t.phase.hasLeftLoop = true) : t'.phase.hasLeftLoop = true := by
  cases h with
  | start hp | endStartup hp | loop hp | leave hp =>
      rw [hp] at hl
      cases hl
  | begin => exact hl
  | cancel | clear | endShutdown | stop => rfl

/-- The loop is not entered again. -/
theorem Change.hasLeftLoop (h : Change c s mv e s')
    (hl : s.dispatcher.phase.hasLeftLoop = true) : s'.dispatcher.phase.hasLeftLoop = true := by
  rcases h.standing with hchange | ⟨hsame, -⟩
  · exact hchange.hasLeftLoop hl
  · have hphase : s'.dispatcher.phase = s.dispatcher.phase := congrArg Standing.phase hsame
    rw [hphase, hl]

/-- Behind the loop no line is read, and no event is handed on or delivered. -/
theorem Change.still (h : Change c s mv e s') (pumps : PumpBooks n tr s.dispatcher)
    (hl : s'.dispatcher.phase.hasLeftLoop = true) : Still e := by
  cases h with
  | own _ _ h =>
      cases h with
      | deliver hp => simp [hp, Dispatcher.fanOut] at hl
      | _ => exact ⟨rfl, rfl, rfl⟩
  | pump hi hp | send hi hp =>
      rw [pumps.looping hi hp] at hl
      cases hl
  | pumpWait _ he => rcases he with rfl | ⟨rfl, _⟩ <;> exact ⟨rfl, rfl, rfl⟩
  | _ => exact ⟨rfl, rfl, rfl⟩

theorem InOrder.append (k : InOrder c tr) (he : Still e) : InOrder c (tr ++ e.toList) where
  buffer := by
    rw [deliveredIn_of_none tr he.fanOut, sentIn_of_none tr he.sent]
    exact k.buffer
  pumps := fun i => by
    rw [sentIn_of_none tr he.sent, eventsFrom_of_none tr he.line]
    exact k.pumps i

variable {buffer startups shutdowns : Nat} {sources : List Source} {ms ms' : List Move}
variable {tr' tr₁ tr₂ : List DispatchEvent}

theorem Run.flow (run : Run c (start consumers buffer startups shutdowns sources) ms tr s) :
    InOrder c tr ∧ (s.dispatcher.phase.hasLeftLoop = false → Flow c tr s) := by
  induction run with
  | refl =>
      have hstart : Flow c [] (start consumers buffer startups shutdowns sources) :=
        ⟨rfl, rfl, fun _ => rfl⟩
      exact ⟨hstart.inOrder, fun _ => hstart⟩
  | @tail ms m tr e s₁ s₂ run h ih =>
      have change := change_of_move h
      cases hl : s₂.dispatcher.phase.hasLeftLoop with
      | false =>
          have hl₁ : s₁.dispatcher.phase.hasLeftLoop = false := by
            by_contra hne
            exact absurd (change.hasLeftLoop (eq_true_of_ne_false hne)) (Bool.eq_false_iff.mp hl)
          have flow := (ih.2 hl₁).change run.pumpBooks change hl
          exact ⟨flow.inOrder, fun _ => flow⟩
      | true => exact ⟨ih.1.append (change.still run.pumpBooks hl), by rintro ⟨⟩⟩

/-- Once the loop has been left, no line is read and no event is delivered. -/
theorem Run.still (first : Run c (start consumers buffer startups shutdowns sources) ms tr s)
    (hl : s.dispatcher.phase.hasLeftLoop = true) (second : Run c s ms' tr' s') :
    s'.dispatcher.phase.hasLeftLoop = true ∧ linesIn (tr ++ tr') = linesIn tr ∧
      fanOutsIn (tr ++ tr') = fanOutsIn tr := by
  induction second with
  | refl => exact ⟨hl, by rw [List.append_nil], by rw [List.append_nil]⟩
  | @tail ms' m tr' e s₁ s₂ second h ih =>
      obtain ⟨hl₁, hlines, hfan⟩ := ih
      have change := change_of_move h
      have hl₂ := change.hasLeftLoop hl₁
      have hstill := change.still (first.trans second).pumpBooks hl₂
      refine ⟨hl₂, ?_, ?_⟩
      · rw [← List.append_assoc, linesIn_of_none _ hstill.line, hlines]
      · rw [← List.append_assoc, fanOutsIn_of_none _ hstill.fanOut, hfan]

end Dispatching

end LogWarden
