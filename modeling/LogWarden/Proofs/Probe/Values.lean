import Mathlib.Data.List.Basic
import LogWarden.Proofs.Probe.Waiting

/-!
# What guards wait for

In every run, pending are the probes of the guards that live and to which no value was sent. A value
that is sent reaches the one guard of its probe, no matter whether the guard waits already, and a
guard to which none is sent falls back when its limit has passed.
-/

namespace LogWarden

/-- By the notes the guard with a number lives and waits, since some time, with a limit and with a
value to fall back on. -/
structure ProbeNotes.Waits (b : ProbeNotes) (n : ℕ) (k : GuardNote) (since limit : Nanos)
    (fallback : String) : Prop where
  note : b.guards[n]? = some k
  lives : k.isGone = false
  wait : k.wait = some (since, limit, fallback)

theorem Probes.resolveWhere_fst {α : Type} {p : Probes α} {accepts : String → Bool} {v : α} :
    (p.resolveWhere accepts v).1 = p.pending.find? accepts := by
  unfold Probes.resolveWhere
  split <;> simp [*]

/-- What is certain of probes and guards, given what has been shown. -/
structure ProbeAccount (s : Probing) (tr : List ProbeEvent) : Prop where
  /-- Pending are the probes of the guards that live and to which no value was sent. -/
  pending : s.probes.pending.Perm (((probeNotes tr).guards.filter (·.isPending)).map (·.id))
  distinct : s.probes.pending.Nodup
  /-- What is pending can be resolved, and nothing else; it alone is pending no longer. -/
  resolves : ∀ id v, ((s.probes.resolve id v).1 = true ↔ id ∈ s.probes.pending) ∧
    (s.probes.resolve id v).2.pending = s.probes.pending.erase id
  /-- What is found by a condition is pending and accepted, and it alone is pending no longer. -/
  finds : ∀ accepts v id, (s.probes.resolveWhere accepts v).1 = some id →
    id ∈ s.probes.pending ∧ accepts id = true ∧
      (s.probes.resolveWhere accepts v).2.pending = s.probes.pending.erase id
  /-- Nothing is found exactly if the condition accepts nothing that is pending. -/
  finds_none : ∀ accepts v, (s.probes.resolveWhere accepts v).1 = none ↔
    ∀ id ∈ s.probes.pending, accepts id = false
  finds_none_same : ∀ accepts v, (s.probes.resolveWhere accepts v).1 = none →
    (s.probes.resolveWhere accepts v).2 = s.probes
  /-- The value of a guard is the only one that was sent to its probe while the guard lived. -/
  value : ∀ tr₁ n id tr₂, tr = tr₁ ++ .registered n id :: tr₂ →
    ∃ k, (probeNotes tr).guards[n]? = some k ∧ k.id = id ∧ k.isGone = tr₂.any (·.ends n) ∧
      valuesFor n id tr₂ = k.value.toList
  /-- A guard returns its value or, without one, its fallback once its limit has passed. -/
  returned : ∀ tr₁ n v tr₂, tr = tr₁ ++ .returned n v :: tr₂ →
    ∃ k since limit fallback, (probeNotes tr₁).Waits n k since limit fallback ∧
      (k.value = some v ∨
        k.value = none ∧ v = fallback ∧ since + limit ≤ (probeNotes tr₁).now)
  /-- Where time passes promptly, no guard waits for longer than its limit. -/
  punctual : (∀ d, .lagged d ∉ tr) → ∀ n k since limit fallback,
    (probeNotes tr).Waits n k since limit fallback → (probeNotes tr).now ≤ since + limit
  /-- A guard with a value returns it in its next turn, and one without a value falls back in its
  next turn exactly if its limit has passed. -/
  next : ∀ n k since limit fallback, (probeNotes tr).Waits n k since limit fallback →
    ∃ w, s.guards[n]? = some (.waiting w) ∧ (w.next s.probes s.now).2 =
      match k.value with
      | some v => .ends v
      | none => if since + limit ≤ (probeNotes tr).now then .ends fallback else .waits

variable {s s' : Probing} {b : ProbeNotes} {tr tr₁ tr₂ : List ProbeEvent} {n : ℕ}
variable {k : GuardNote} {id v : String}

theorem probeNotes_append : probeNotes (tr₁ ++ tr₂) = (probeNotes tr₁).afterAll tr₂ :=
  ProbeNotes.afterAll_append

theorem ProbeEvent.valueFor?_eq_some {e : ProbeEvent} :
    e.valueFor? id = some v ↔ e.sent? = some (id, v) := by
  unfold valueFor?
  cases h : e.sent? with
  | none => simp
  | some x =>
      obtain ⟨id', v'⟩ := x
      by_cases hid : id' = id <;> simp [hid]

theorem ProbeEvent.valueFor?_of_ends {e : ProbeEvent} (h : e.ends n = true) :
    e.valueFor? id = none := by
  cases e with
  | returned | dropped => rfl
  | registered | resolved | picked | waits | passed | lagged => cases h

theorem valuesFor_cons {e : ProbeEvent} :
    valuesFor n id (e :: tr) =
      if e.ends n then [] else (e.valueFor? id).toList ++ valuesFor n id tr := by
  cases hends : e.ends n with
  | true => simp [valuesFor, hends]
  | false => cases h : e.valueFor? id <;> simp [valuesFor, hends, h]

/-- As long as a guard lives, it gets what is sent to its probe; afterwards it gets nothing. -/
theorem valuesFor_append_singleton {e : ProbeEvent} :
    valuesFor n id (tr ++ [e]) =
      if tr.any (·.ends n) then valuesFor n id tr
      else valuesFor n id tr ++ (e.valueFor? id).toList := by
  induction tr with
  | nil =>
      cases hends : e.ends n with
      | true => simp [valuesFor, hends, ProbeEvent.valueFor?_of_ends hends]
      | false =>
          rw [List.nil_append, valuesFor_cons, hends]
          simp [valuesFor]
  | cons first rest ih =>
      rw [List.cons_append, valuesFor_cons, valuesFor_cons, ih, List.any_cons]
      cases first.ends n with
      | true => rfl
      | false =>
          simp only [Bool.false_eq_true, if_false, Bool.false_or]
          split
          · rfl
          · rw [List.append_assoc]

namespace Probing

/-- What is shown is shown in a step. -/
theorem Run.exists_step {e : ProbeEvent} (run : Run tr s) (htr : tr = tr₁ ++ e :: tr₂) :
    ∃ s₁ s₂, Run tr₁ s₁ ∧ s₁.Step (some e) s₂ := by
  induction run generalizing tr₂ with
  | start => simp at htr
  | @tail tr e' s₁ s₂ run step ih =>
      cases e' with
      | none => exact ih (by simpa using htr)
      | some e' =>
          rcases append_singleton_split htr with ⟨-, rfl, rfl⟩ | ⟨tr₃, -, hrest⟩
          · exact ⟨s₁, s₂, run, step⟩
          · exact ih hrest

theorem Run.fits (run : Run tr s) : (probeNotes tr).Fits s := by
  induction run with
  | start => exact .start
  | tail _ step ih =>
      rw [probeNotes_append]
      exact ih.step step

/-- Only to a probe that is pending a value is sent. -/
theorem Step.mem_pending {e : ProbeEvent} (step : s.Step (some e) s')
    (hsent : e.sent? = some (id, v)) : id ∈ s.probes.pending := by
  cases step with
  | resolve id' v' =>
      by_cases hid : id' ∈ s.probes.pending
      · rw [Probes.resolve_fst_iff.mpr hid] at hsent
        obtain ⟨rfl, rfl⟩ : id' = id ∧ v' = v := by simpa [ProbeEvent.sent?] using hsent
        exact hid
      · rw [Probes.resolve_of_not_mem hid] at hsent
        cases hsent
  | resolveWhere accepts v' =>
      cases hfind : s.probes.pending.find? accepts with
      | none => simp [Probes.resolveWhere, hfind, ProbeEvent.sent?] at hsent
      | some id' =>
          obtain ⟨rfl, rfl⟩ : id' = id ∧ v' = v := by
            simpa [Probes.resolveWhere, hfind, ProbeEvent.sent?] using hsent
          exact List.mem_of_find?_eq_some hfind
  | register | wait | turn | drop | pass | lag => cases hsent

/-- A guard that has not been kept waiting for too long. -/
def IsOnTime (s : Probing) : Prop := ∀ w, .waiting w ∈ s.guards → s.now ≤ w.deadline

theorem IsOnTime.set_gone (h : s.IsOnTime) {probes : Probes String} :
    IsOnTime { s with probes, guards := s.guards.set n .gone } := by
  intro w hw
  rcases List.mem_or_eq_of_mem_set hw with hw | hw
  · exact h w hw
  · cases hw

theorem IsOnTime.step (h : s.IsOnTime) {e : Option ProbeEvent} (step : s.Step e s')
    (hprompt : ∀ d, e ≠ some (.lagged d)) : s'.IsOnTime := by
  cases step with
  | register =>
      intro w hw
      rcases List.mem_append.mp hw with hw | hw
      · exact h w hw
      · simp at hw
  | wait hg limit fallback =>
      intro w hw
      rcases List.mem_or_eq_of_mem_set hw with hw | hw
      · exact h w hw
      · obtain rfl := GuardState.waiting.inj hw
        exact Nat.le_add_right _ _
  | turn | drop => exact h.set_gone
  | resolve | resolveWhere | reorder => exact h
  | pass hserved => exact fun w hw => (hserved w hw).2
  | lag d => exact absurd rfl (hprompt d)

theorem Run.isOnTime (run : Run tr s) (hprompt : ∀ d, .lagged d ∉ tr) : s.IsOnTime := by
  induction run with
  | start => exact nofun
  | tail _ step ih =>
      refine (ih fun d hd => hprompt d (List.mem_append_left _ hd)).step step ?_
      rintro d rfl
      exact hprompt d (by simp)

end Probing

theorem GuardNote.receive_value : (k.receive id v).value =
    if k.isGone then k.value
    else k.value.or (ProbeEvent.valueFor? k.id (.resolved id v true)) := by
  obtain ⟨id', value, wait, isGone⟩ := k
  by_cases h : id = id'
  · subst h
    cases isGone <;> cases value <;>
      simp [receive, isPending, ProbeEvent.valueFor?, ProbeEvent.sent?]
  · cases isGone <;> cases value <;>
      simp [receive, isPending, ProbeEvent.valueFor?, ProbeEvent.sent?, h, Ne.symm h]

namespace ProbeNotes

/-- What is shown next changes the note of a guard in this way. -/
theorem note_after (e : ProbeEvent) (hk : b.guards[n]? = some k) :
    ∃ k', (b.after e).guards[n]? = some k' ∧ k'.id = k.id ∧
      k'.isGone = (k.isGone || e.ends n) ∧
      k'.value = if k.isGone then k.value else k.value.or (e.valueFor? k.id) := by
  cases e with
  | registered _ id =>
      refine ⟨k, ?_, rfl, by simp [ProbeEvent.ends],
        by simp [ProbeEvent.valueFor?, ProbeEvent.sent?]⟩
      simp only [after]
      rw [List.getElem?_append_left (List.getElem?_eq_some_iff.mp hk).1, hk]
  | resolved id v done =>
      cases done with
      | false => exact ⟨k, hk, rfl, by simp [ProbeEvent.ends], by simp [ProbeEvent.valueFor?,
          ProbeEvent.sent?]⟩
      | true => exact ⟨k.receive id v, by simp [after, hk], GuardNote.receive_id,
          by simp [ProbeEvent.ends], GuardNote.receive_value⟩
  | picked found v =>
      cases found with
      | none => exact ⟨k, hk, rfl, by simp [ProbeEvent.ends], by simp [ProbeEvent.valueFor?,
          ProbeEvent.sent?]⟩
      | some id => exact ⟨k.receive id v, by simp [after, hk], GuardNote.receive_id,
          by simp [ProbeEvent.ends], GuardNote.receive_value⟩
  | waits n' limit fallback =>
      refine ⟨if n' = n then { k with wait := some (b.now, limit, fallback) } else k, ?_, ?_⟩
      · simp [after, List.getElem?_modify, hk]
      · split <;> simp [ProbeEvent.ends, ProbeEvent.valueFor?, ProbeEvent.sent?]
  | returned n' | dropped n' =>
      refine ⟨if n' = n then k.finish else k, ?_, ?_⟩
      · simp [after, List.getElem?_modify, hk]
      · split <;>
          simp [ProbeEvent.ends, ProbeEvent.valueFor?, ProbeEvent.sent?, GuardNote.finish, *]
  | passed d | lagged d =>
      exact ⟨k, hk, rfl, by simp [ProbeEvent.ends],
        by simp [ProbeEvent.valueFor?, ProbeEvent.sent?]⟩

/-- The probes to which no value was sent are those of the guards that are pending. -/
theorem map_live_filter : (b.live.filter (·.2.isNone)).map (·.1) =
    (b.guards.filter (·.isPending)).map (·.id) := by
  unfold live
  induction b.guards with
  | nil => rfl
  | cons k rest ih =>
      obtain ⟨id, value, wait, isGone⟩ := k
      cases isGone <;> cases value <;> simp [GuardNote.live?, GuardNote.isPending, ih]

namespace Fits

/-- The values of the guards are those that the probes hold. -/
theorem value?_eq (h : b.Fits s) (hk : b.guards[n]? = some k) (hgone : k.isGone = false) :
    s.probes.value? k.id = k.value := by
  obtain ⟨live, hperm, hprobes⟩ := h.probes
  have hlive : (k.id, k.value) ∈ live :=
    hperm.mem_iff.mpr (mem_live.mpr ⟨k, List.mem_of_getElem? hk, hgone, rfl, rfl⟩)
  cases hvalue : k.value with
  | some v => exact (hprobes.value k.id v).mpr (hvalue ▸ hlive)
  | none =>
      refine Option.eq_none_iff_forall_ne_some.mpr fun v hv => ?_
      have hsome := hprobes.unique ((hprobes.value k.id v).mp hv) hlive
      simp [hvalue] at hsome

theorem pending_perm (h : b.Fits s) :
    s.probes.pending.Perm ((b.guards.filter (·.isPending)).map (·.id)) := by
  obtain ⟨live, hperm, hprobes⟩ := h.probes
  rw [hprobes.pending, ← map_live_filter]
  exact (hperm.filter _).map _

/-- A guard that lives and whose probe is pending has no value. -/
theorem value_eq_none (h : b.Fits s) (hk : b.guards[n]? = some k) (hgone : k.isGone = false)
    (hpending : k.id ∈ s.probes.pending) : k.value = none := by
  obtain ⟨live, hperm, hprobes⟩ := h.probes
  have hlive : (k.id, k.value) ∈ live :=
    hperm.mem_iff.mpr (mem_live.mpr ⟨k, List.mem_of_getElem? hk, hgone, rfl, rfl⟩)
  exact hprobes.unique hlive (hprobes.mem_pending.mp hpending)

/-- The guard of a wait of which there is a note. -/
theorem waiting (h : b.Fits s) {since limit : Nanos} {fallback : String}
    (hwaits : b.Waits n k since limit fallback) :
    s.guards[n]? = some (.waiting ⟨k.id, since + limit, fallback⟩) := by
  obtain ⟨hk, hgone, hwait⟩ := hwaits
  obtain ⟨g, hg, hfit⟩ := h.guard hk
  cases hfit with
  | held => cases hwait
  | waiting =>
      obtain ⟨rfl, rfl, rfl⟩ : _ ∧ _ ∧ _ := by simpa using hwait
      exact hg
  | gone h => simp [hgone] at h

end Fits

end ProbeNotes

namespace Probing

/-- The note of a guard tells what was sent to its probe since it was registered. -/
theorem Run.value (run : Run tr s) (htr : tr = tr₁ ++ .registered n id :: tr₂) :
    ∃ k, (probeNotes tr).guards[n]? = some k ∧ k.id = id ∧ k.isGone = tr₂.any (·.ends n) ∧
      valuesFor n id tr₂ = k.value.toList := by
  induction run generalizing tr₂ with
  | start => simp at htr
  | @tail tr e s₁ s₂ run step ih =>
      have hfits := run.fits
      cases e with
      | none =>
          rw [Option.toList_none, List.append_nil] at htr ⊢
          exact ih htr
      | some e =>
          rw [probeNotes_append]
          rcases append_singleton_split htr with ⟨rfl, rfl, rfl⟩ | ⟨tr₃, rfl, hrest⟩
          · cases step with
            | register =>
                refine ⟨.start id, ?_, rfl, rfl, rfl⟩
                simp [ProbeNotes.after, ← hfits.guards.length_eq]
          · obtain ⟨k, hk, hid, hgone, hvalues⟩ := ih hrest
            obtain ⟨k', hk', hid', hgone', hvalue'⟩ := ProbeNotes.note_after e hk
            refine ⟨k', hk', hid'.trans hid, ?_, ?_⟩
            · rw [hgone', hgone, List.any_append, List.any_cons, List.any_nil, Bool.or_false]
            · rw [valuesFor_append_singleton, ← hgone, hvalue', hvalues]
              cases hlives : k.isGone with
              | true => rfl
              | false =>
                  cases hv : e.valueFor? k.id with
                  | none => simp [← hid, hv]
                  | some v =>
                      have hpending := step.mem_pending (ProbeEvent.valueFor?_eq_some.mp hv)
                      have hnone := hfits.value_eq_none hk hlives hpending
                      simp [← hid, hv, hnone]

end Probing

/-- In every run, pending are the probes of the guards that live and have no value, every value
reaches the one guard of its probe, and only guards without a value fall back, behind their limit. -/
theorem probes_accounted (run : Probing.Run tr s) : ProbeAccount s tr := by
  have hfits := run.fits
  obtain ⟨live, hperm, hprobes⟩ := hfits.probes
  exact {
    pending := hfits.pending_perm
    distinct := hprobes.pending_nodup
    resolves := fun id v => ⟨Probes.resolve_fst_iff, Probes.pending_resolve⟩
    finds := by
      intro accepts v id hfound
      rw [Probes.resolveWhere_fst] at hfound
      refine ⟨List.mem_of_find?_eq_some hfound, List.find?_some hfound, ?_⟩
      simpa only [Probes.resolveWhere, hfound] using Probes.pending_resolve
    finds_none := by
      intro accepts v
      rw [Probes.resolveWhere_fst, List.find?_eq_none]
      simp only [Bool.not_eq_true]
    finds_none_same := by
      intro accepts v hnone
      rw [Probes.resolveWhere_fst] at hnone
      simp only [Probes.resolveWhere, hnone]
    value := fun tr₁ n id tr₂ htr => run.value htr
    returned := by
      intro tr₁ n v tr₂ htr
      obtain ⟨s₁, s₂, run₁, step⟩ := run.exists_step htr
      have hfits₁ := run₁.fits
      cases step with
      | @turn _ w probes _ hg hends =>
          obtain ⟨k, hk, hfit⟩ := hfits₁.note hg
          obtain ⟨-, hends⟩ := EchoWait.next_eq_ends_iff.mp hends
          cases hfit with
          | @waiting id value since limit fallback =>
              refine ⟨_, since, limit, fallback, ⟨hk, rfl, rfl⟩, ?_⟩
              rwa [hfits₁.value?_eq hk rfl, hfits₁.now, and_comm (a := _ ≤ _)] at hends
    punctual := by
      intro hprompt n k since limit fallback hwaits
      have hg := hfits.waiting hwaits
      rw [← hfits.now]
      exact run.isOnTime hprompt _ (List.mem_of_getElem? hg)
    next := by
      intro n k since limit fallback hwaits
      refine ⟨_, hfits.waiting hwaits, ?_⟩
      rw [EchoWait.next, hfits.value?_eq hwaits.note hwaits.lives, ← hfits.now]
      cases k.value with
      | some v => rfl
      | none => by_cases hlate : since + limit ≤ s.now <;> simp [hlate] }

/-- A guard that is resolved before it waits does not wait, and one that nobody resolves falls back
when its limit has passed; then nobody finds its probe any more. -/
theorem probes_accounted_of_lateEcho :
    ∃ tr s, Probing.Run tr s ∧
      tr = [.registered 0 "0badcafe", .registered 1 "0ddba115", .resolved "0badcafe" "tc" true,
        .waits 1 100 "global", .waits 0 100 "global", .returned 0 "tc", .passed 100,
        .returned 1 "global", .resolved "0ddba115" "rp" false] ∧
      s.probes.pending = [] ∧ ProbeAccount s tr := by
  have registered := ((Probing.Run.start.tail
    (@Probing.Step.register _ "0badcafe" (by decide))).tail
    (@Probing.Step.register _ "0ddba115" (by decide))).tail (.resolve "0badcafe" "tc")
  have waited := (registered.tail (.wait (n := 1) rfl 100 "global")).tail
    (.wait (n := 0) rfl 100 "global")
  have returned := waited.tail (.turn (n := 0) rfl rfl)
  have passed := returned.tail (.pass (d := 100) (by
    intro w hw
    obtain rfl : w = ⟨"0ddba115", 100, "global"⟩ := by simpa [Probing.start] using hw
    exact ⟨rfl, by decide⟩))
  have ended := (passed.tail (.turn (n := 1) rfl rfl)).tail (.resolve "0ddba115" "rp")
  exact ⟨_, _, ended, rfl, rfl, probes_accounted ended⟩

end LogWarden
