import Mathlib.Data.List.Perm.Basic
import LogWarden.Proofs.Lists
import LogWarden.Proofs.Probe.Guards
import LogWarden.Service.Probe

/-!
# Guards that wait

Probes are registered and resolved, and the guards begin to wait, take turns and are dropped, in any
order. Notes are taken of what a run shows: of each guard its identifier, the value that was sent to
it and when it began to wait. They agree with where the guards stand and with what the probes hold.

## Implementation notes

The probes may be listed in another order at any time, so what is found by a condition is any probe
that it accepts. Time passes in two ways: promptly, while no wait could end and up to the next limit
at most, or with a lag, by any amount.
-/

namespace LogWarden

/-- Where a guard stands. -/
inductive GuardState
  /-- Nobody waits for the probe yet. -/
  | held (id : String)
  | waiting (w : EchoWait)
  | gone
  deriving DecidableEq, Repr

/-- The identifier of the probe of a guard that lives. -/
def GuardState.id? : GuardState → Option String
  | .held id => some id
  | .waiting w => some w.id
  | .gone => none

/-- What a run of probes and guards shows. -/
inductive ProbeEvent
  /-- A probe was registered for the guard with a number. -/
  | registered (n : Nat) (id : String)
  /-- An identifier was to be resolved with a value, and whether it was. -/
  | resolved (id value : String) (done : Bool)
  /-- A probe that a condition accepts was to be resolved with a value, and which one was. -/
  | picked (found : Option String) (value : String)
  /-- A guard began to wait, with a limit and a value to fall back on. -/
  | waits (n : Nat) (limit : Nanos) (fallback : String)
  | returned (n : Nat) (value : String)
  | dropped (n : Nat)
  | passed (d : Nanos)
  /-- Time passed although somebody could go on. -/
  | lagged (d : Nanos)
  deriving DecidableEq, Repr

namespace ProbeEvent

/-- The probe that was resolved, and its value. -/
def sent? : ProbeEvent → Option (String × String)
  | .resolved id v true => some (id, v)
  | .picked (some id) v => some (id, v)
  | _ => none

/-- The value that was sent to a probe. -/
def valueFor? (id : String) (e : ProbeEvent) : Option String :=
  e.sent?.bind fun (id', v) => if id' = id then some v else none

/-- Whether a guard is gone with this. -/
def ends (n : Nat) : ProbeEvent → Bool
  | .returned n' _ | .dropped n' => n' == n
  | _ => false

end ProbeEvent

/-- The values that are sent to a guard as long as it lives. -/
def valuesFor (n : Nat) (id : String) (tr : List ProbeEvent) : List String :=
  (tr.takeWhile (!·.ends n)).filterMap (·.valueFor? id)

/-- Probes with the guards that have been registered, at a time. -/
structure Probing where
  now : Nanos
  probes : Probes String
  /-- All guards, by their numbers. -/
  guards : List GuardState

namespace Probing

/-- No probes, and no guards. -/
def start : Probing := ⟨0, .empty, []⟩

/-- Whether no wait could end until a duration has passed. -/
def IsServed (s : Probing) (d : Nanos) : Prop :=
  ∀ w, .waiting w ∈ s.guards → (w.next s.probes s.now).2 = .waits ∧ s.now + d ≤ w.deadline

/-- One step of probes and guards, and what it shows. -/
inductive Step (s : Probing) : Option ProbeEvent → Probing → Prop
  | register {id} (h : ∀ g ∈ s.guards, g.id? ≠ some id) :
      Step s (some (.registered s.guards.length id))
        { s with probes := s.probes.register id, guards := s.guards ++ [.held id] }
  | resolve (id v : String) :
      Step s (some (.resolved id v (s.probes.resolve id v).1))
        { s with probes := (s.probes.resolve id v).2 }
  | resolveWhere (accepts : String → Bool) (v : String) :
      Step s (some (.picked (s.probes.resolveWhere accepts v).1 v))
        { s with probes := (s.probes.resolveWhere accepts v).2 }
  | wait {n id} (h : s.guards[n]? = some (.held id)) (limit : Nanos) (fallback : String) :
      Step s (some (.waits n limit fallback))
        { s with guards := s.guards.set n (.waiting ⟨id, s.now + limit, fallback⟩) }
  | turn {n w probes v} (h : s.guards[n]? = some (.waiting w))
      (hends : w.next s.probes s.now = (probes, .ends v)) :
      Step s (some (.returned n v)) { s with probes, guards := s.guards.set n .gone }
  | drop {n g id} (h : s.guards[n]? = some g) (hid : g.id? = some id) :
      Step s (some (.dropped n))
        { s with probes := s.probes.drop id, guards := s.guards.set n .gone }
  | reorder {ids} (h : ids.Perm s.probes.pending) :
      Step s none { s with probes := { s.probes with pending := ids } }
  | pass {d} (h : s.IsServed d) : Step s (some (.passed d)) { s with now := s.now + d }
  | lag (d : Nanos) : Step s (some (.lagged d)) { s with now := s.now + d }

/-- Steps from the start, and what they show. -/
inductive Run : List ProbeEvent → Probing → Prop
  | start : Run [] .start
  | tail {tr e s s'} (run : Run tr s) (step : Step s e s') : Run (tr ++ e.toList) s'

end Probing

/-- What is known of a guard from what has been shown. -/
structure GuardNote where
  id : String
  /-- The value that was sent to the guard while it lived. -/
  value : Option String
  /-- When the guard began to wait, with which limit and with which value to fall back on. -/
  wait : Option (Nanos × Nanos × String)
  isGone : Bool
  deriving DecidableEq, Repr

namespace GuardNote

def start (id : String) : GuardNote := ⟨id, none, none, false⟩

/-- Whether a guard lives and no value was sent to it. -/
def isPending (k : GuardNote) : Bool := !k.isGone && k.value.isNone

/-- A guard behind the resolution of a probe. -/
def receive (id v : String) (k : GuardNote) : GuardNote :=
  if k.isPending && k.id == id then { k with value := some v } else k

def finish (k : GuardNote) : GuardNote := { k with isGone := true }

/-- The probe of a guard that lives, with its value. -/
def live? (k : GuardNote) : Option (String × Option String) :=
  if k.isGone then none else some (k.id, k.value)

/-- The note of a guard agrees with where the guard stands. -/
inductive Fits : GuardNote → GuardState → Prop
  | held {id value} : Fits ⟨id, value, none, false⟩ (.held id)
  | waiting {id value since limit fallback} :
      Fits ⟨id, value, some (since, limit, fallback), false⟩
        (.waiting ⟨id, since + limit, fallback⟩)
  | gone {k} (h : k.isGone = true) : Fits k .gone

end GuardNote

/-- What is known of probes and guards from what they have shown. -/
structure ProbeNotes where
  now : Nanos
  guards : List GuardNote
  deriving DecidableEq, Repr

namespace ProbeNotes

def start : ProbeNotes := ⟨0, []⟩

def after (b : ProbeNotes) : ProbeEvent → ProbeNotes
  | .registered _ id => { b with guards := b.guards ++ [.start id] }
  | .resolved id v true | .picked (some id) v => { b with guards := b.guards.map (.receive id v) }
  | .resolved _ _ false | .picked none _ => b
  | .waits n limit fallback =>
    { b with
      guards := b.guards.modify n fun k => { k with wait := some (b.now, limit, fallback) } }
  | .returned n _ | .dropped n => { b with guards := b.guards.modify n .finish }
  | .passed d | .lagged d => { b with now := b.now + d }

/-- The notes of what comes behind notes. -/
def afterAll (b : ProbeNotes) (tr : List ProbeEvent) : ProbeNotes := tr.foldl after b

/-- The probes of the guards that live, with their values. -/
def live (b : ProbeNotes) : List (String × Option String) := b.guards.filterMap GuardNote.live?

end ProbeNotes

/-- The notes of what probes and guards have shown. -/
def probeNotes (tr : List ProbeEvent) : ProbeNotes := ProbeNotes.start.afterAll tr

/-- Notes agree with the guards, and with what the probes hold in some order. -/
structure ProbeNotes.Fits (b : ProbeNotes) (s : Probing) : Prop where
  now : s.now = b.now
  guards : List.Forall₂ GuardNote.Fits b.guards s.guards
  probes : ∃ live, live.Perm b.live ∧ s.probes.Guards live

/-- A wait ends with the value that was sent or, without one, behind its limit. -/
theorem EchoWait.next_eq_ends_iff {w : EchoWait} {p p' : Probes String} {now : Nanos} {v : String} :
    w.next p now = (p', .ends v) ↔
      p' = p.drop w.id ∧ (p.value? w.id = some v ∨
        p.value? w.id = none ∧ w.deadline ≤ now ∧ v = w.fallback) := by
  cases hv : p.value? w.id with
  | some v' => simp [next, hv, eq_comm]
  | none => by_cases hle : w.deadline ≤ now <;> simp [next, hv, hle, eq_comm]

namespace Probes

variable {α : Type} {p : Probes α} {live : List (String × Option α)} {ids : List String}

theorem resolve_fst_iff {id : String} {v : α} : (p.resolve id v).1 = true ↔ id ∈ p.pending := by
  by_cases h : id ∈ p.pending <;> simp [resolve, h]

/-- Where probes are listed in another order, so are their guards. -/
theorem Guards.reorder (h : Guards p live) (hids : ids.Perm p.pending) :
    ∃ live', live'.Perm live ∧ Guards { p with pending := ids } live' := by
  let unresolved := live.filter (·.2.isNone)
  let resolved := live.filter fun guard => !guard.2.isNone
  have hunresolved : unresolved = p.pending.map (·, none) := by
    rw [h.pending, List.map_map]
    refine ((List.map_id _).symm.trans (List.map_congr_left fun guard hguard => ?_))
    have hnone : guard.2 = none := by simpa using (List.mem_filter.mp hguard).2
    simp [Prod.ext_iff, hnone]
  have hperm : (ids.map (·, none) ++ resolved).Perm live :=
    calc
      List.Perm _ (unresolved ++ resolved) := by
        rw [hunresolved]
        exact (hids.map _).append_right _
      List.Perm _ live := List.filter_append_perm _ live
  refine ⟨ids.map (·, none) ++ resolved, hperm, ⟨?_, ?_, ?_⟩⟩
  · exact (hperm.map _).nodup_iff.mpr h.nodup
  · have hleft : (ids.map fun id => (id, (none : Option α))).filter (·.2.isNone) =
        ids.map (·, none) :=
      List.filter_eq_self.mpr (by simp)
    have hright : resolved.filter (·.2.isNone) = [] :=
      List.filter_eq_nil_iff.mpr fun guard hguard => by
        simpa only [Bool.not_eq_true', Bool.not_eq_true] using (List.mem_filter.mp hguard).2
    simp [List.filter_append, hleft, hright, Function.comp_def]
  · intro id v
    rw [hperm.mem_iff]
    exact h.value id v

end Probes

namespace GuardNote

variable {k : GuardNote} {g : GuardState} {id v : String}

@[simp] theorem receive_id : (k.receive id v).id = k.id := by
  unfold receive
  split <;> rfl

@[simp] theorem receive_wait : (k.receive id v).wait = k.wait := by
  unfold receive
  split <;> rfl

@[simp] theorem receive_isGone : (k.receive id v).isGone = k.isGone := by
  unfold receive
  split <;> rfl

theorem live?_receive : (k.receive id v).live? = k.live?.map (Probes.receive (· == id) v) := by
  obtain ⟨id', value, wait, isGone⟩ := k
  cases isGone with
  | true => rfl
  | false =>
      cases value with
      | some w => rfl
      | none => by_cases h : id' = id <;> simp [receive, live?, isPending, Probes.receive, h]

theorem live?_eq_some {o : Option String} :
    k.live? = some (id, o) ↔ k.isGone = false ∧ k.id = id ∧ k.value = o := by
  unfold live?
  split <;> simp_all

theorem Fits.receive (h : k.Fits g) : (k.receive id v).Fits g := by
  cases h with
  | held => unfold GuardNote.receive; split <;> exact .held
  | waiting => unfold GuardNote.receive; split <;> exact .waiting
  | gone h => exact .gone (by rwa [receive_isGone])

theorem Fits.id?_eq_some (h : k.Fits g) (hgone : k.isGone = false) : g.id? = some k.id := by
  cases h with
  | held | waiting => rfl
  | gone h => simp [hgone] at h

/-- A guard that lives has the identifier that is noted. -/
theorem Fits.isGone_eq_false (h : k.Fits g) (hid : g.id? = some id) :
    k.isGone = false ∧ k.id = id := by
  cases h with
  | held | waiting => exact ⟨rfl, Option.some.inj hid⟩
  | gone => cases hid

end GuardNote

namespace ProbeNotes

variable {b : ProbeNotes} {s s' : Probing} {tr tr' : List ProbeEvent} {e : Option ProbeEvent}
variable {n : ℕ} {k : GuardNote} {id v : String}

@[simp] theorem afterAll_nil : b.afterAll [] = b := rfl

@[simp] theorem afterAll_cons {e : ProbeEvent} : b.afterAll (e :: tr) = (b.after e).afterAll tr :=
  rfl

theorem afterAll_append : b.afterAll (tr ++ tr') = (b.afterAll tr).afterAll tr' :=
  List.foldl_append

theorem mem_live {o : Option String} :
    (id, o) ∈ b.live ↔ ∃ k ∈ b.guards, k.isGone = false ∧ k.id = id ∧ k.value = o := by
  simp [live, GuardNote.live?_eq_some]

theorem live_receive :
    ProbeNotes.live { b with guards := b.guards.map (.receive id v) } =
      b.live.map (Probes.receive (· == id) v) := by
  simp [live, List.filterMap_map, List.map_filterMap, GuardNote.live?_receive]

theorem live_registered : (b.after (.registered n id)).live = b.live ++ [(id, none)] := by
  simp [live, after, List.filterMap_append, GuardNote.start, GuardNote.live?]

theorem live_waits {limit : Nanos} {fallback : String} :
    (b.after (.waits n limit fallback)).live = b.live :=
  filterMap_modify_of_eq fun _ => rfl

theorem live_finish (hdistinct : (b.live.map (·.1)).Nodup) (hk : b.guards[n]? = some k)
    (hgone : k.isGone = false) :
    ProbeNotes.live { b with guards := b.guards.modify n .finish } =
      b.live.filter (·.1 != k.id) :=
  filterMap_modify_eq_filter hdistinct hk (GuardNote.live?_eq_some.mpr ⟨hgone, rfl, rfl⟩)
    fun _ => rfl

namespace Fits

theorem start : ProbeNotes.start.Fits .start := ⟨rfl, .nil, [], .nil, .empty⟩

/-- The note of a guard that stands somewhere. -/
theorem note (h : b.Fits s) {g : GuardState} (hg : s.guards[n]? = some g) :
    ∃ k, b.guards[n]? = some k ∧ k.Fits g :=
  exists_of_forall₂ h.guards hg

/-- The guard of which there is a note. -/
theorem guard (h : b.Fits s) (hk : b.guards[n]? = some k) :
    ∃ g, s.guards[n]? = some g ∧ k.Fits g :=
  exists_of_forall₂ h.guards.flip hk

theorem live_nodup (h : b.Fits s) : (b.live.map (·.1)).Nodup := by
  obtain ⟨live, hperm, hguards⟩ := h.probes
  exact (hperm.map _).nodup_iff.mp hguards.nodup

theorem register (h : b.Fits s) (hid : ∀ g ∈ s.guards, g.id? ≠ some id) :
    (b.after (.registered n id)).Fits
      { s with probes := s.probes.register id, guards := s.guards ++ [.held id] } := by
  obtain ⟨live, hperm, hprobes⟩ := h.probes
  have hout : id ∉ live.map (·.1) := by
    intro hmem
    obtain ⟨⟨id, o⟩, hlive, rfl⟩ := List.mem_map.mp hmem
    obtain ⟨k, hk, hgone, rfl, -⟩ := mem_live.mp (hperm.mem_iff.mp hlive)
    obtain ⟨n, hn⟩ := List.getElem?_of_mem hk
    obtain ⟨g, hg, hfit⟩ := h.guard hn
    exact hid g (List.mem_of_getElem? hg) (hfit.id?_eq_some hgone)
  refine ⟨h.now, List.rel_append h.guards (.cons .held .nil), _, ?_, hprobes.register hout⟩
  rw [live_registered]
  exact hperm.append_right [(id, none)]

/-- A value that is sent to a probe is sent to its guard. -/
theorem receive (h : b.Fits s) (id v : String) :
    ProbeNotes.Fits { b with guards := b.guards.map (.receive id v) }
      { s with probes := (s.probes.resolve id v).2 } := by
  obtain ⟨live, hperm, hprobes⟩ := h.probes
  refine ⟨h.now, ?_, _, ?_, hprobes.resolve id v⟩
  · exact List.forall₂_map_left_iff.mpr (h.guards.imp fun _ _ hfit => hfit.receive)
  · rw [live_receive]
    exact hperm.map _

theorem wait (h : b.Fits s) (hg : s.guards[n]? = some (.held id)) (limit : Nanos)
    (fallback : String) :
    (b.after (.waits n limit fallback)).Fits
      { s with guards := s.guards.set n (.waiting ⟨id, s.now + limit, fallback⟩) } := by
  obtain ⟨live, hperm, hprobes⟩ := h.probes
  refine ⟨h.now, forall₂_modify_set h.guards fun k hk => ?_, live, ?_, hprobes⟩
  · obtain ⟨k', hk', hfit⟩ := h.note hg
    obtain rfl := Option.some.inj (hk'.symm.trans hk)
    rw [h.now]
    cases hfit
    exact .waiting
  · rwa [live_waits]

/-- With a guard its probe goes. -/
theorem finish (h : b.Fits s) {g : GuardState} (hg : s.guards[n]? = some g)
    (hid : g.id? = some id) :
    ProbeNotes.Fits { b with guards := b.guards.modify n .finish }
      { s with probes := s.probes.drop id, guards := s.guards.set n .gone } := by
  obtain ⟨k, hk, hfit⟩ := h.note hg
  obtain ⟨hgone, rfl⟩ := hfit.isGone_eq_false hid
  obtain ⟨live, hperm, hprobes⟩ := h.probes
  refine ⟨h.now, forall₂_modify_set h.guards fun _ _ => .gone rfl, _, ?_, hprobes.drop k.id⟩
  rw [live_finish h.live_nodup hk hgone]
  exact hperm.filter _

theorem step (h : b.Fits s) (step : s.Step e s') : (b.afterAll e.toList).Fits s' := by
  cases step with
  | register hid => exact h.register (n := s.guards.length) hid
  | resolve id v =>
      by_cases hid : id ∈ s.probes.pending
      · have hdone : (s.probes.resolve id v).1 = true := Probes.resolve_fst_iff.mpr hid
        rw [hdone]
        exact h.receive id v
      · rw [Probes.resolve_of_not_mem hid]
        exact h
  | resolveWhere accepts v =>
      cases hfind : s.probes.pending.find? accepts with
      | none =>
          simp only [Probes.resolveWhere, hfind]
          exact h
      | some id =>
          simp only [Probes.resolveWhere, hfind]
          exact h.receive id v
  | wait hg limit fallback => exact h.wait hg limit fallback
  | turn hg hends =>
      obtain ⟨rfl, -⟩ := EchoWait.next_eq_ends_iff.mp hends
      exact h.finish hg rfl
  | drop hg hid => exact h.finish hg hid
  | reorder hids =>
      obtain ⟨live, hperm, hprobes⟩ := h.probes
      obtain ⟨live', hperm', hprobes'⟩ := hprobes.reorder hids
      exact ⟨h.now, h.guards, live', hperm'.trans hperm, hprobes'⟩
  | pass | lag => exact ⟨congrArg (· + _) h.now, h.guards, h.probes⟩

end Fits

end ProbeNotes

end LogWarden
