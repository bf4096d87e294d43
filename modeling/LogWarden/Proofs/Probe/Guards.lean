import Mathlib.Data.List.Nodup
import LogWarden.Service.Probe

/-!
# Probes and their guards

A guard lives from the registration of its probe to its drop. What the probes hold is read off the
guards that live: those without a value are pending, in the order of their registration, and the
others have the values with which they were resolved.

## Implementation notes

An identifier belongs to one guard at a time. Only `Guards.register` needs this of its identifier.
-/

namespace LogWarden

namespace Probes

variable {α : Type} {p : Probes α} {live : List (String × Option α)} {id id' : String} {v : α}

/-- The guards that live, each with the value of its probe. -/
structure Guards (p : Probes α) (live : List (String × Option α)) : Prop where
  nodup : (live.map (·.1)).Nodup
  pending : p.pending = (live.filter (·.2.isNone)).map (·.1)
  value : ∀ id v, p.value? id = some v ↔ (id, some v) ∈ live

/-- A guard behind the resolution of an identifier that a condition accepts. -/
def receive (accepts : String → Bool) (v : α) : String × Option α → String × Option α
  | (id, none) => (id, if accepts id then some v else none)
  | (id, some w) => (id, some w)

theorem value?_register : (p.register id).value? id' = p.value? id' := rfl

theorem value?_drop : (p.drop id).value? id' = if id' = id then none else p.value? id' := by
  simp only [value?, drop, List.find?_filter]
  split
  · next h =>
      subst h
      simp
  · next h =>
      congr 2
      funext entry
      by_cases hentry : entry.1 = id'
      · simp [hentry, h]
      · simp [hentry]

theorem resolve_of_not_mem (h : id ∉ p.pending) : p.resolve id v = (false, p) :=
  if_neg (by simpa using h)

theorem pending_resolve : (p.resolve id v).2.pending = p.pending.erase id := by
  unfold resolve
  split
  · rfl
  · next h => exact (List.erase_of_not_mem (by simpa using h)).symm

theorem value?_resolve (h : id ∈ p.pending) :
    (p.resolve id v).2.value? id' = if id' = id then some v else p.value? id' := by
  simp only [resolve, List.contains_iff_mem.mpr h, if_true, value?, List.find?_cons]
  by_cases hid : id' = id
  · simp [hid]
  · simp [hid, beq_eq_false_iff_ne.mpr (Ne.symm hid)]

@[simp] theorem receive_fst (accepts : String → Bool) (guard : String × Option α) :
    (receive accepts v guard).1 = guard.1 := by
  fun_cases receive accepts v guard <;> rfl

theorem receive_snd_isNone (accepts : String → Bool) (guard : String × Option α) :
    (receive accepts v guard).2.isNone = (guard.2.isNone && !accepts guard.1) := by
  fun_cases receive accepts v guard with
  | case1 id => cases accepts id <;> simp
  | case2 => rfl

namespace Guards

theorem empty : Guards (.empty : Probes α) [] :=
  ⟨List.nodup_nil, rfl, by simp [value?, Probes.empty]⟩

theorem pending_nodup (h : Guards p live) : p.pending.Nodup := by
  rw [h.pending]
  exact h.nodup.sublist (List.filter_sublist.map _)

theorem mem_pending (h : Guards p live) : id ∈ p.pending ↔ (id, none) ∈ live := by
  simp [h.pending]

theorem register (h : Guards p live) (hid : id ∉ live.map (·.1)) :
    Guards (p.register id) (live ++ [(id, none)]) where
  nodup := by simpa using List.nodup_append.mpr ⟨h.nodup, List.nodup_singleton id, by grind⟩
  pending := by simp [Probes.register, h.pending]
  value := by simp [value?_register, h.value]

theorem drop (h : Guards p live) (id : String) :
    Guards (p.drop id) (live.filter (·.1 != id)) where
  nodup := h.nodup.sublist (List.filter_sublist.map _)
  pending := by
    calc (p.drop id).pending = p.pending.filter (· != id) := h.pending_nodup.erase_eq_filter id
      _ = _ := by
        rw [h.pending, List.filter_map, List.filter_filter, List.filter_filter]
        congr 1
        exact List.filter_congr fun guard _ => Bool.and_comm _ _
  value := by
    intro id' v
    rw [value?_drop]
    split
    · next hid => simp [hid]
    · next hid => simp [h.value, hid]

/-- A guard that lives has one value at most. -/
theorem unique (h : Guards p live) {o o' : Option α} (ho : (id, o) ∈ live) (ho' : (id, o') ∈ live) :
    o = o' :=
  congrArg Prod.snd (List.inj_on_of_nodup_map h.nodup ho ho' rfl)

theorem mem_map_receive {accepts : String → Bool} {v' : α} :
    (id, some v') ∈ live.map (receive accepts v) ↔
      (id, some v') ∈ live ∨ (id, none) ∈ live ∧ accepts id ∧ v = v' := by
  constructor
  · intro hmem
    obtain ⟨⟨id', o⟩, hguard, heq⟩ := List.mem_map.mp hmem
    cases o with
    | some w => exact .inl (heq ▸ hguard)
    | none =>
        obtain ⟨rfl, hif⟩ := Prod.mk.inj heq
        obtain ⟨hacc, hv⟩ := Option.ite_some_none_eq_some.mp hif
        exact .inr ⟨hguard, hacc, hv⟩
  · rintro (hmem | ⟨hmem, hid, rfl⟩)
    · exact List.mem_map.mpr ⟨_, hmem, by simp [receive]⟩
    · exact List.mem_map.mpr ⟨_, hmem, by simp [receive, hid]⟩

theorem resolve (h : Guards p live) (id : String) (v : α) :
    Guards (p.resolve id v).2 (live.map (receive (· == id) v)) where
  nodup := by simpa [Function.comp_def] using h.nodup
  pending := by
    rw [pending_resolve, h.pending_nodup.erase_eq_filter, h.pending, List.filter_map,
      List.filter_map, List.map_map, List.filter_filter]
    simp only [Function.comp_def, receive_fst, receive_snd_isNone]
    congr 1
    exact List.filter_congr fun guard _ => Bool.and_comm _ _
  value := by
    intro id' v'
    rw [mem_map_receive, beq_iff_eq]
    by_cases hid : id ∈ p.pending
    · have hnone := h.mem_pending.mp hid
      rw [value?_resolve hid]
      split
      · next heq =>
          subst heq
          have hsome : (id', some v') ∉ live := fun hmem => nomatch h.unique hnone hmem
          simp [hsome, hnone]
      · next hne => simp [h.value, hne]
    · have hnone : (id, none) ∉ live := fun hmem => hid (h.mem_pending.mpr hmem)
      rw [resolve_of_not_mem hid, h.value]
      constructor
      · exact .inl
      · rintro (hmem | ⟨hmem, rfl, _⟩)
        · exact hmem
        · exact absurd hmem hnone

/-- Where at most one pending probe is accepted, its guard alone gets the value. -/
theorem resolveWhere (h : Guards p live) {accepts : String → Bool}
    (hone : ∀ id ∈ p.pending, ∀ id' ∈ p.pending, accepts id → accepts id' → id = id') (v : α) :
    Guards (p.resolveWhere accepts v).2 (live.map (receive accepts v)) := by
  cases hfind : p.pending.find? accepts with
  | none =>
      have hsame : live.map (receive accepts v) = live := by
        refine (List.map_congr_left fun guard hguard => ?_).trans (List.map_id live)
        match guard, hguard with
        | (id, some w), _ => rfl
        | (id, none), hguard =>
            simp [receive, List.find?_eq_none.mp hfind id (h.mem_pending.mpr hguard)]
      simpa only [Probes.resolveWhere, hfind, hsame] using h
  | some id =>
      have hid := List.mem_of_find?_eq_some hfind
      have hacc := List.find?_some hfind
      have hsame : live.map (receive accepts v) = live.map (receive (· == id) v) := by
        refine List.map_congr_left fun guard hguard => ?_
        match guard, hguard with
        | (id', some w), _ => rfl
        | (id', none), hguard =>
            have hiff : accepts id' ↔ id' = id :=
              ⟨fun hacc' => hone id' (h.mem_pending.mpr hguard) id hid hacc' hacc,
                fun heq => heq ▸ hacc⟩
            simp [receive, hiff]
      simpa only [Probes.resolveWhere, hfind, hsame] using h.resolve id v

end Guards

end Probes

end LogWarden
