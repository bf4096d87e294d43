import LogWarden.Proofs.Dispatch.Moves

/-!
# When the pumps are over

There are pumps from the end of the startup hooks until the dispatcher has seen all of them end. A
pump is over when its source gives nothing more, or when it is stopped; a pump is stopped only after
the dispatcher has left its loop.
-/

namespace LogWarden

namespace Phase

/-- Whether a dispatcher in a phase has pumps. -/
@[simp] def hasPumps : Phase → Bool
  | .looping | .stoppingPumps => true
  | _ => false

/-- Whether the pumps have started when a dispatcher is in a phase. -/
@[simp] def isOpened : Phase → Bool
  | .waiting | .startup _ => false
  | _ => true

/-- Whether the loop has been left when a dispatcher is in a phase. -/
@[simp] def hasLeftLoop : Phase → Bool
  | .waiting | .startup _ | .looping => false
  | _ => true

end Phase

/-- A source has given its last reading. -/
def SourceLost (tr : List DispatchEvent) (i : Nat) : Prop :=
  ∃ r, r.isLast = true ∧ .asked i (some r) ∈ tr

/-- A pump is over: its source has given its last reading, or it was stopped. -/
def PumpOver (tr : List DispatchEvent) (i : Nat) : Prop :=
  SourceLost tr i ∨ .pumpStopped i ∈ tr

section Pumps
variable {tr : List DispatchEvent} {i j : Nat} {p p' : Pump} {d d' : Dispatcher}

theorem PumpOver.append (h : PumpOver tr i) (tr' : List DispatchEvent) :
    PumpOver (tr ++ tr') i := by
  rcases h with ⟨r, hr, hmem⟩ | hmem
  · exact .inl ⟨r, hr, List.mem_append_left _ hmem⟩
  · exact .inr (List.mem_append_left _ hmem)

theorem Pump.isLive_eq_false (h : p.isOver = true) : p.isLive = false := by
  obtain ⟨_, _, state⟩ := p
  cases state with
  | asking | sending => cases h
  | ended | broken | joined => rfl

theorem Pump.isLive_of_asking (h : p.state = .asking) : p.isLive = true := by
  simp [isLive, h]

theorem Pump.isLive_of_sending {events : List Event} (h : p.state = .sending events) :
    p.isLive = true := by
  simp [isLive, h]

theorem Pump.isLive_join (p : Pump) : p.join.isLive = false := rfl

theorem Dispatcher.isPumping_of_getElem? (h : d.pumps[i]? = some p) :
    d.isPumping i = p.isLive := by
  simp [isPumping, h]

theorem Dispatcher.isPumping_eq_false (h : d.pumps.any Pump.isLive = false) (i : Nat) :
    d.isPumping i = false := by
  cases hi : d.pumps[i]? with
  | none => simp [isPumping, hi]
  | some p =>
      rw [isPumping_of_getElem? hi]
      exact Bool.eq_false_iff.mpr (List.any_eq_false.mp h p (List.mem_of_getElem? hi))

/-- The turn of one pump leaves the others alone. -/
theorem Dispatcher.isPumping_set (hi : d.pumps[i]? = some p) (h : d'.pumps = d.pumps.set i p')
    (j : Nat) : d'.isPumping j = if i = j then p'.isLive else d.isPumping j := by
  obtain ⟨hlt, _⟩ := List.getElem?_eq_some_iff.mp hi
  by_cases hij : i = j
  · subst hij
    simp [isPumping, h, hlt]
  · simp only [isPumping, h, List.getElem?_set_ne hij, if_neg hij]

/-- A change of the pump at a position that leaves open whether it has more to do. -/
theorem Dispatcher.isPumping_modify {f : Pump → Pump}
    (hf : ∀ p, d.pumps[i]? = some p → (f p).isLive = p.isLive)
    (h : d'.pumps = d.pumps.modify i f) (j : Nat) : d'.isPumping j = d.isPumping j := by
  rw [isPumping, isPumping, h, List.getElem?_modify]
  cases hj : d.pumps[j]? with
  | none => rfl
  | some p =>
      by_cases hij : i = j
      · subst hij
        simpa using hf p hj
      · simp [hij]

/-- To take note that a pump is over changes no pump that has more to do. -/
theorem Dispatcher.isPumping_join (h : d.pumps.findIdx? Pump.isOver = some i) (j : Nat) :
    { d with pumps := d.pumps.modify i Pump.join }.isPumping j = d.isPumping j := by
  obtain ⟨hi, hover, _⟩ := List.findIdx?_eq_some_iff_getElem.mp h
  refine isPumping_modify (i := i) (fun p hp => ?_) rfl j
  obtain ⟨_, rfl⟩ := List.getElem?_eq_some_iff.mp hp
  rw [Pump.isLive_eq_false hover, Pump.isLive_join]

theorem Dispatcher.isPumping_modifySource (f : Source → Source) (j : Nat) :
    (d.modifySource i f).isPumping j = d.isPumping j :=
  isPumping_modify (f := fun p => { p with source := f p.source }) (fun _ _ => rfl) rfl j

end Pumps

namespace Dispatching

/-- A history of a dispatcher with so many sources agrees with its pumps. -/
structure PumpBooks (n : Nat) (tr : List DispatchEvent) (d : Dispatcher) : Prop where
  sources_length : d.sources.length = n
  pumps_length : d.pumps.length = if d.phase.hasPumps then n else 0
  live_or_over : d.phase.isOpened = true → ∀ i < n, d.isPumping i = true ∨ PumpOver tr i
  /-- No pump is stopped before the loop has been left. -/
  stopped : d.phase.hasLeftLoop = false → ∀ i, .pumpStopped i ∉ tr

variable {c : Classifier} {n : Nat} {s s' : Dispatching} {d d' : Dispatcher} {mv : Move}
variable {e : Option DispatchEvent} {tr : List DispatchEvent} {i : Nat} {p p' : Pump}

theorem PumpBooks.pumps_eq_nil (k : PumpBooks n tr d) (h : d.phase.hasPumps = false) :
    d.pumps = [] := by
  rw [← List.length_eq_zero_iff, k.pumps_length, h]
  rfl

theorem PumpBooks.lt_of_getElem? (k : PumpBooks n tr d) (hi : d.pumps[i]? = some p) :
    d.phase.hasPumps = true ∧ i < n := by
  obtain ⟨hlt, _⟩ := List.getElem?_eq_some_iff.mp hi
  rw [k.pumps_length] at hlt
  split at hlt
  · next h => exact ⟨h, hlt⟩
  · exact absurd hlt (Nat.not_lt_zero i)

/-- A pump that has not been told to stop is one of a dispatcher in its loop. -/
theorem PumpBooks.looping (k : PumpBooks n tr d) (hi : d.pumps[i]? = some p)
    (hp : d.phase ≠ .stoppingPumps) : d.phase = .looping := by
  obtain ⟨h, -⟩ := k.lt_of_getElem? hi
  cases hphase : d.phase with
  | looping => rfl
  | stoppingPumps => exact absurd hphase hp
  | waiting | startup | stoppingDeliveries | shutdown | «over» =>
      rw [hphase] at h
      cases h

/-- Pumps that stay as they are. -/
theorem PumpBooks.frame (k : PumpBooks n tr d) (hs : d'.sources.length = d.sources.length)
    (hps : d'.pumps.length = d.pumps.length) (hp : ∀ j, d'.isPumping j = d.isPumping j)
    (hh : d'.phase.hasPumps = d.phase.hasPumps) (ho : d'.phase.isOpened = d.phase.isOpened)
    (hl : d'.phase.hasLeftLoop = false → d.phase.hasLeftLoop = false)
    (he : ∀ i, e ≠ some (.pumpStopped i)) : PumpBooks n (tr ++ e.toList) d' where
  sources_length := hs.trans k.sources_length
  pumps_length := by rw [hps, hh, k.pumps_length]
  live_or_over := fun hopen j hj => by
    rw [hp]
    exact (k.live_or_over (ho ▸ hopen) j hj).imp_right (·.append _)
  stopped := fun hleft j hmem => by
    rcases List.mem_append.mp hmem with hmem | hmem
    · exact k.stopped (hl hleft) j hmem
    · exact he j (Option.mem_toList.mp hmem)

/-- The turn of one pump, which is over behind it only if that is shown. -/
theorem PumpBooks.set (k : PumpBooks n tr d) (hi : d.pumps[i]? = some p)
    (hs : d'.sources = d.sources) (hps : d'.pumps = d.pumps.set i p') (hph : d'.phase = d.phase)
    (hp : p'.isLive = true ∨ PumpOver e.toList i)
    (he : ∀ j, e = some (.pumpStopped j) → d.phase.hasLeftLoop = true) :
    PumpBooks n (tr ++ e.toList) d' where
  sources_length := by rw [hs, k.sources_length]
  pumps_length := by rw [hps, hph, List.length_set, k.pumps_length]
  live_or_over := fun hopen j hj => by
    rw [Dispatcher.isPumping_set hi hps]
    split
    · next hij =>
        subst hij
        refine hp.imp_right ?_
        rintro (⟨r, hr, hmem⟩ | hmem)
        · exact .inl ⟨r, hr, List.mem_append_right _ hmem⟩
        · exact .inr (List.mem_append_right _ hmem)
    · exact (k.live_or_over (hph ▸ hopen) j hj).imp_right (·.append _)
  stopped := fun hleft j hmem => by
    rw [hph] at hleft
    rcases List.mem_append.mp hmem with hmem | hmem
    · exact k.stopped hleft j hmem
    · exact absurd (he j (Option.mem_toList.mp hmem)) (Bool.eq_false_iff.mp hleft)

theorem PumpChange.live_or_over (h : PumpChange c i p e p') :
    p'.isLive = true ∨ PumpOver e.toList i := by
  cases h with
  | ask | read | turn => exact .inl rfl
  | lose hs source hr => exact .inr (.inl ⟨_, hr, by simp⟩)

theorem PumpChange.isLive (h : PumpChange c i p e p') : p.isLive = true := by
  cases h with
  | ask hs | read hs | lose hs => exact Pump.isLive_of_asking hs
  | turn hs => exact Pump.isLive_of_sending hs

theorem PumpChange.ne_stopped (h : PumpChange c i p e p') (j : Nat) :
    e ≠ some (.pumpStopped j) := by
  cases h <;> simp

theorem PumpBooks.own (k : PumpBooks n tr s.dispatcher) (h : OwnChange s e s') :
    PumpBooks n (tr ++ e.toList) s'.dispatcher := by
  cases h with
  | start hp =>
      exact k.frame rfl rfl (fun _ => rfl) (by simp [hp]) (by simp [hp]) (by simp [hp]) (by simp)
  | @openPumps m hp =>
      have hlength := k.sources_length
      constructor
      · exact hlength
      · simpa [Dispatcher.openPumps] using hlength
      · intro _ j hj
        left
        simp [Dispatcher.isPumping, Dispatcher.openPumps, hlength, hj, Pump.start, Pump.isLive]
      · have hstop := k.stopped (by simp [hp])
        simpa using fun _ => hstop
  | finish hp | drain hp | terminate hp =>
      exact k.frame rfl rfl (fun _ => rfl) (by simp [hp, Dispatcher.leave])
        (by simp [hp, Dispatcher.leave]) (by simp [hp]) (by simp)
  | joinPump hp hi =>
      exact k.frame rfl (List.length_modify ..) (Dispatcher.isPumping_join hi) rfl rfl id (by simp)
  | cancelDeliveries hp hl =>
      have hnone := Dispatcher.isPumping_eq_false hl
      constructor
      · exact k.sources_length
      · rfl
      · intro _ j hj
        refine (k.live_or_over (by simp [hp]) j hj).imp (fun hlive => ?_) (·.append _)
        simp [hnone] at hlive
      · simp
  | clear hp =>
      exact k.frame rfl rfl (fun _ => rfl) (by simp [hp]) (by simp [hp]) (by simp [hp]) (by simp)
  | stop hp =>
      exact k.frame rfl rfl (fun _ => rfl) (by rw [hp]; rfl) (by rw [hp]; rfl) (by rintro ⟨⟩)
        (by simp)
  | _ => exact k.frame rfl rfl (fun _ => rfl) rfl rfl id (by simp)

theorem PumpBooks.change (k : PumpBooks n tr s.dispatcher) (h : Change c s mv e s') :
    PumpBooks n (tr ++ e.toList) s'.dispatcher := by
  cases h with
  | feed i fed | finish i =>
      refine k.frame (List.length_modify ..) (List.length_modify ..)
        (Dispatcher.isPumping_modifySource _) rfl rfl id (by simp)
  | pumpWait _ he =>
      refine k.frame rfl rfl (fun _ => rfl) rfl rfl id ?_
      rcases he with rfl | ⟨rfl, _⟩ <;> simp
  | pump hi _ h =>
      exact k.set hi rfl rfl rfl h.live_or_over fun j hj => absurd hj (h.ne_stopped j)
  | send hi => exact k.set hi rfl rfl rfl (.inl rfl) (by simp)
  | stopPump hi hp =>
      exact k.set hi rfl rfl rfl (.inr (.inr (by simp))) fun _ _ => by simp [hp]
  | own _ _ h => exact k.own h
  | endStartup r hh _ hp | endShutdown r hh _ hp =>
      exact k.frame rfl rfl (fun _ => rfl) (by simp [hp]) (by simp [hp]) (by simp [hp]) (by simp)
  | _ => exact k.frame rfl rfl (fun _ => rfl) rfl rfl id (by simp)

/-- What a history shows of the pumps agrees with the pumps. -/
theorem Run.pumpBooks {consumers : List Consumer} {buffer startups shutdowns : Nat}
    {sources : List Source} {ms : List Move}
    (run : Run c (start consumers buffer startups shutdowns sources) ms tr s) :
    PumpBooks sources.length tr s.dispatcher := by
  induction run with
  | refl => exact ⟨rfl, rfl, by simp [start, Dispatcher.start], by simp⟩
  | tail _ h ih => exact ih.change (change_of_move h)

end Dispatching

end LogWarden
