import LogWarden.Proofs.Channel.Notes
import LogWarden.Proofs.Probe.Guards

/-!
# The guards of the calls for a channel

A call has the guard of its probe as long as it is under way, and the guard has the echo that is
noted of the call.
-/

namespace LogWarden

/-- The probe of a call that is under way, with its echo. -/
def CallNote.guard? (k : CallNote) : Option (String × Option String) :=
  if k.isOver then none else some (k.id, k.echo)

namespace Notes

/-- The probes of the calls that are under way, with their echoes. -/
def live (b : Notes) : List (String × Option String) := b.calls.filterMap CallNote.guard?

/-- Whether what is shown next keeps the probes of the calls apart: a call that begins has an
identifier of its own, and no message is the echo of two probes for which calls wait. -/
def KeepsApart (b : Notes) : TrackerEvent → Prop
  | .asked _ id => ∀ k ∈ b.calls, k.isOver = false → k.id ≠ id
  | .heard _ content =>
    ∀ k ∈ b.calls, ∀ k' ∈ b.calls, k.isWaiting → k'.isWaiting →
      isEcho content k.id → isEcho content k'.id → k.id = k'.id
  | .typed _ | .answered .. | .dropped _ | .clock _ => True

/-- Whether the probes of the calls are kept apart in all that is shown. -/
def KeptApart (b : Notes) : List TrackerEvent → Prop
  | [] => True
  | e :: rest => b.KeepsApart e ∧ (b.after e).KeptApart rest

instance (b : Notes) : DecidablePred b.KeepsApart
  | .asked _ id => inferInstanceAs (Decidable (∀ k ∈ b.calls, k.isOver = false → k.id ≠ id))
  | .heard _ content =>
    inferInstanceAs (Decidable (∀ k ∈ b.calls, ∀ k' ∈ b.calls, k.isWaiting → k'.isWaiting →
      isEcho content k.id → isEcho content k'.id → k.id = k'.id))
  | .typed _ | .answered .. | .dropped _ | .clock _ => .isTrue trivial

instance decidableKeptApart : (b : Notes) → DecidablePred b.KeptApart
  | _, [] => .isTrue trivial
  | b, e :: rest => @instDecidableAnd _ _ _ (decidableKeptApart (b.after e) rest)

/-- The guards of the calls are those that live. -/
structure Guards (b : Notes) (s : Asking) : Prop extends b.Fits s where
  guards : s.tracker.probes.Guards b.live

end Notes

namespace CallNote

variable {calls : List CallNote} {n : ℕ} {k : CallNote} {id : String} {echo : Option String}

@[simp] theorem guard?_eq_some :
    k.guard? = some (id, echo) ↔ k.isOver = false ∧ k.id = id ∧ k.echo = echo := by
  unfold guard?
  split <;> simp_all

@[simp] theorem guard?_finish : k.finish.guard? = none := rfl

theorem guard?_hear {channel content : String} :
    (k.hear channel content).guard? = k.guard?.map (Probes.receive (isEcho content) channel) := by
  obtain ⟨id, echo, wait, isOver⟩ := k
  cases isOver with
  | true => simp [hear, guard?, isWaiting]
  | false =>
      cases echo with
      | some v => simp [hear, guard?, isWaiting, Probes.receive]
      | none => cases h : isEcho content id <;> simp [hear, guard?, isWaiting, Probes.receive, h]

/-- With the end of a call its guard goes, and no other one. -/
theorem filterMap_modify_finish (hdistinct : ((calls.filterMap guard?).map (·.1)).Nodup)
    (hk : calls[n]? = some k) (hover : k.isOver = false) :
    (calls.modify n finish).filterMap guard? =
      (calls.filterMap guard?).filter (·.1 != k.id) := by
  have hguard : k.guard? = some (k.id, k.echo) := by simp [hover]
  exact filterMap_modify_eq_filter hdistinct hk hguard fun _ => rfl

end CallNote

namespace Notes

variable {s s' : Asking} {b : Notes} {tr tr' : List TrackerEvent} {n : ℕ} {k : CallNote}

theorem keptApart_append :
    b.KeptApart (tr ++ tr') ↔ b.KeptApart tr ∧ (b.afterAll tr).KeptApart tr' := by
  induction tr generalizing b with
  | nil => simp [KeptApart]
  | cons e rest ih => simp [KeptApart, ih, and_assoc]

theorem mem_live {id : String} {echo : Option String} :
    (id, echo) ∈ b.live ↔ ∃ k ∈ b.calls, k.isOver = false ∧ k.id = id ∧ k.echo = echo := by
  simp [live]

/-- Calls that are under way at once have different identifiers. -/
theorem index_unique {n' : ℕ} {k' : CallNote} (hdistinct : (b.live.map (·.1)).Nodup)
    (hk : b.calls[n]? = some k) (hk' : b.calls[n']? = some k') (hover : k.isOver = false)
    (hover' : k'.isOver = false) (hid : k.id = k'.id) : n = n' := by
  rw [List.Nodup, List.pairwise_map, live, List.pairwise_filterMap] at hdistinct
  have hlt : ∀ {i j : ℕ} {l l' : CallNote}, b.calls[i]? = some l → b.calls[j]? = some l' →
      l.isOver = false → l'.isOver = false → l.id = l'.id → ¬i < j := by
    intro i j l l' hl hl' hlover hlover' hlid hij
    obtain ⟨hi, rfl⟩ := List.getElem?_eq_some_iff.mp hl
    obtain ⟨hj, rfl⟩ := List.getElem?_eq_some_iff.mp hl'
    have hne := List.pairwise_iff_getElem.mp hdistinct i j hi hj hij
    exact hne (b.calls[i].id, b.calls[i].echo) (by simp [hlover])
      (b.calls[j].id, b.calls[j].echo) (by simp [hlover']) hlid
  have hnot := hlt hk hk' hover hover' hid
  have hnot' := hlt hk' hk hover' hover hid.symm
  omega

theorem live_heard {channel content : String} :
    (b.after (.heard channel content)).live =
      b.live.map (Probes.receive (isEcho content) channel) := by
  simp [live, after, List.filterMap_map, List.map_filterMap, CallNote.guard?_hear]

theorem live_asked {id : String} : (b.after (.asked n id)).live = b.live ++ [(id, none)] := by
  simp [live, after, List.filterMap_append, CallNote.start, CallNote.guard?]

theorem live_typed : (b.after (.typed n)).live = b.live :=
  filterMap_modify_of_eq fun _ => rfl

/-- A call that ends drops its guard. -/
theorem guards_finish {p : Probes String} (h : p.Guards b.live) (hk : b.calls[n]? = some k)
    (hover : k.isOver = false) :
    (p.drop k.id).Guards ((b.calls.modify n .finish).filterMap CallNote.guard?) := by
  rw [CallNote.filterMap_modify_finish h.nodup hk hover]
  exact h.drop k.id

namespace Guards

theorem start (user : String) (limit : Nanos) (q : Queue) :
    Notes.start.Guards (.start user limit q) :=
  ⟨.start user limit q, .empty⟩

theorem release (h : b.Guards s) {c : ChannelCall} (hc : s.calls[n]? = some c) {id : String}
    (hid : c.id? = some id) :
    (s.release id).probes.Guards ((b.calls.modify n .finish).filterMap CallNote.guard?) := by
  obtain ⟨k, hk, hfit⟩ := h.note hc
  cases hfit with
  | typing | listening =>
      obtain rfl := Option.some.inj hid
      exact guards_finish h.guards hk rfl
  | answered | dropped => cases hid

theorem register (h : b.Guards s) {id : String} (hapart : b.KeepsApart (.asked n id)) :
    (s.tracker.probes.register id).Guards (b.after (.asked n id)).live := by
  rw [live_asked]
  refine h.guards.register fun hmem => ?_
  obtain ⟨⟨_, echo⟩, hlive, rfl⟩ := List.mem_map.mp hmem
  obtain ⟨k, hk, hover, hid, -⟩ := mem_live.mp hlive
  exact hapart k hk hover hid

/-- The guard of a call that is under way has the echo that is noted. -/
theorem value_eq_echo (h : b.Guards s) (hk : b.calls[n]? = some k) (hover : k.isOver = false) :
    s.tracker.probes.value? k.id = k.echo := by
  have hlive : (k.id, k.echo) ∈ b.live := mem_live.mpr ⟨k, List.mem_of_getElem? hk, hover, rfl, rfl⟩
  cases hvalue : s.tracker.probes.value? k.id with
  | some v => exact h.guards.unique ((h.guards.value k.id v).mp hvalue) hlive
  | none =>
      cases hecho : k.echo with
      | none => rfl
      | some v =>
          rw [hecho] at hlive
          exact absurd ((h.guards.value k.id v).mpr hlive) (by simp [hvalue])

theorem exists_waiting (h : b.Guards s) {id : String} (hid : id ∈ s.tracker.probes.pending) :
    ∃ k ∈ b.calls, k.isWaiting ∧ k.id = id := by
  obtain ⟨k, hk, hover, rfl, hecho⟩ := mem_live.mp (h.guards.mem_pending.mp hid)
  exact ⟨k, hk, by simp [CallNote.isWaiting, hover, hecho], rfl⟩

theorem hear (h : b.Guards s) {channel content : String}
    (hapart : b.KeepsApart (.heard channel content)) :
    (s.tracker.probes.resolveWhere (isEcho content) channel).2.Guards
      (b.after (.heard channel content)).live := by
  rw [live_heard]
  refine h.guards.resolveWhere (fun id hid id' hid' hecho hecho' => ?_) channel
  obtain ⟨k, hk, hwait, rfl⟩ := h.exists_waiting hid
  obtain ⟨k', hk', hwait', rfl⟩ := h.exists_waiting hid'
  exact hapart k hk k' hk' hwait hwait' hecho hecho'

theorem change (h : b.Guards s) (c : s.Change tr s') (hapart : b.KeptApart tr) :
    (b.afterAll tr).Guards s' := by
  refine ⟨h.toFits.change c, ?_⟩
  cases c with
  | quiet => exact h.guards
  | heard channel content => exact h.hear hapart.1
  | asked id => exact h.register hapart.1
  | refused id =>
      have hlen : b.calls.length = s.calls.length := h.calls.length_eq
      exact guards_finish (h.register hapart.1) (k := .start id) (by simp [after, ← hlen]) rfl
  | typed hc =>
      rw [afterAll_cons, afterAll_nil, live_typed]
      exact h.guards
  | unsent hc => exact h.release hc rfl
  | echoed hc => exact h.release hc rfl
  | expired hc => exact h.release hc rfl
  | dropped hc hid => exact h.release hc hid
  | clock => exact h.guards

theorem run (h : b.Guards s) {moves : List TrackerMove} (hapart : b.KeptApart (s.history moves)) :
    (b.afterAll (s.history moves)).Guards (s.run moves) := by
  induction moves generalizing b s with
  | nil => exact h
  | cons m rest ih =>
      rw [Asking.history_cons, keptApart_append] at hapart
      rw [Asking.history_cons, afterAll_append]
      exact ih (h.change (s.step_change m) hapart.1) hapart.2

/-- What the calls wait for is pending, and nothing else. -/
theorem pending_eq (h : b.Guards s) :
    s.tracker.probes.pending = (b.calls.filter (·.isWaiting)).map (·.id) := by
  rw [h.guards.pending, live]
  induction b.calls with
  | nil => rfl
  | cons k rest ih =>
      obtain ⟨id, echo, wait, isOver⟩ := k
      cases isOver <;> cases echo <;> simp [CallNote.guard?, CallNote.isWaiting, ih]

end Guards

end Notes

end LogWarden
