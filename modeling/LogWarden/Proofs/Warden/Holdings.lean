import Mathlib.Data.List.Nodup
import LogWarden.Proofs.Dispatch.Moves
import LogWarden.Warden.Activity

/-!
# What activities hold of a dispatcher

The activity that dispatches, the calls to drain that wait and the activities that serve deliveries
each hold something of the dispatcher that no other activity may hold: its turns, a place among its
calls, a delivery in progress. So the turn of one of them does not disturb the others.

## Implementation notes

What an activity holds by what it does and what it holds by its role are kept apart. The first is
gone when the activity ends, the second only when its end has been taken note of.
-/

namespace LogWarden

/-- What only one activity may hold: the turns of the dispatcher, or a call to drain that waits. -/
inductive Hold
  | turns
  | call (i : Nat)

namespace Activity

variable {s s' : Dispatching} {call : Nat} {a : Activity}

/-- What an activity holds. A call to drain has a number. -/
def hold? (call : Nat) : Activity → Option Hold
  | .dispatch _ => some .turns
  | .drain .waiting => some (.call call)
  | _ => none

/-- What an activity holds is as the activity takes it to be. -/
def Fits (s : Dispatching) (call : Nat) : Activity → Prop
  | .dispatch hook => s.inHook = hook.isSome ∧ s.result = none ∧ s.broken = false
  | .drain .waiting => s.calls[call]? = some (some .waiting)
  | _ => True

theorem fits_of_hold_eq_none (h : a.hold? call = none) : a.Fits s call := by
  cases a with
  | dispatch => cases h
  | drain d =>
      cases d with
      | fresh => trivial
      | waiting => cases h
  | _ => trivial

theorem Fits.waits (h : a.Fits s call) {i : Nat} (hold : a.hold? call = some (.call i)) :
    s.calls[i]? = some (some .waiting) := by
  cases a with
  | drain d =>
      cases d with
      | fresh => cases hold
      | waiting =>
          cases hold
          exact h
  | _ => cases hold

/-- An activity is not disturbed by what happens to what others hold. -/
theorem Fits.frame (h : a.Fits s call)
    (hturns : a.hold? call = some .turns →
      s'.inHook = s.inHook ∧ s'.result = s.result ∧ s'.broken = s.broken)
    (hcall : a.hold? call = some (.call call) → s.calls[call]? = some (some .waiting) →
      s'.calls[call]? = some (some .waiting)) : a.Fits s' call := by
  cases a with
  | dispatch hook =>
      obtain ⟨hin, hresult, hbroken⟩ := hturns rfl
      exact ⟨hin.trans h.1, hresult.trans h.2.1, hbroken.trans h.2.2⟩
  | drain d =>
      cases d with
      | fresh => trivial
      | waiting => exact hcall rfl h
  | _ => trivial

end Activity

/-- Activities fit a dispatcher, and no two of them hold the same. -/
structure ActivitiesFit (call : Nat → Nat) (s : Dispatching) (ts : List Task) : Prop where
  fits : ∀ t ∈ ts, t.activity.Fits s (call t.id)
  apart : ∀ t ∈ ts, ∀ u ∈ ts, t.activity.hold? (call t.id) ≠ none →
    t.activity.hold? (call t.id) = u.activity.hold? (call u.id) → t.id = u.id

/-- Activities that serve deliveries serve different ones of some. -/
structure RolesFit (xs : List Delivery) (ts : List Task) : Prop where
  mem : ∀ t ∈ ts, ∀ x, t.role = .delivery x → x ∈ xs
  apart : ∀ t ∈ ts, ∀ u ∈ ts, ∀ x y, t.role = .delivery x → u.role = .delivery y →
    x.id = y.id → t.id = u.id

namespace ActivitiesFit

variable {call call' : Nat → Nat} {s s' : Dispatching} {ts us : List Task}

/-- One activity has had a turn. It holds what nobody else holds, and has not disturbed the
others. -/
theorem turn (k : ActivitiesFit call s ts) (id : Nat) (hcall : ∀ i, i ≠ id → call' i = call i)
    (hfits : ∀ u ∈ ts, u.id ≠ id → u.activity.Fits s' (call u.id))
    (hus : ∀ u ∈ us, (∀ i, u.activity.hold? i = none) ∨ (u ∈ ts ∧ u.id ≠ id) ∨
      (u.id = id ∧ u.activity.Fits s' (call' id) ∧ ∀ v ∈ ts, v.id ≠ id →
        v.activity.hold? (call v.id) ≠ u.activity.hold? (call' id))) :
    ActivitiesFit call' s' us := by
  constructor
  · intro u hu
    rcases hus u hu with hfree | ⟨hold, hne⟩ | ⟨rfl, hown, -⟩
    · exact Activity.fits_of_hold_eq_none (hfree _)
    · rw [hcall _ hne]
      exact hfits u hold hne
    · exact hown
  · intro u hu v hv hne heq
    -- two that have not had the turn were apart before, and whoever had it holds nothing of theirs
    rcases hus u hu with hfree | ⟨hold, hother⟩ | ⟨rfl, -, hown⟩
    · exact absurd (hfree _) hne
    · rcases hus v hv with hfree | ⟨hold', hother'⟩ | ⟨rfl, -, hown⟩
      · exact absurd (heq.trans (hfree _)) hne
      · rw [hcall _ hother] at hne heq
        rw [hcall _ hother'] at heq
        exact k.apart u hold v hold' hne heq
      · rw [hcall _ hother] at heq
        exact absurd heq (hown u hold hother)
    · rcases hus v hv with hfree | ⟨hold', hother'⟩ | ⟨hid, -⟩
      · exact absurd (heq.trans (hfree _)) hne
      · rw [hcall _ hother'] at heq
        exact absurd heq.symm (hown v hold' hother')
      · exact hid.symm

/-- Nothing has happened to what activities hold, and those that have come hold nothing. -/
theorem frame (k : ActivitiesFit call s ts) (hh : s'.inHook = s.inHook)
    (hr : s'.result = s.result) (hb : s'.broken = s.broken) (hc : s'.calls = s.calls)
    (hus : ∀ u ∈ us, (∀ i, u.activity.hold? i = none) ∨ u ∈ ts) : ActivitiesFit call s' us := by
  constructor
  · intro u hu
    rcases hus u hu with hfree | hold
    · exact Activity.fits_of_hold_eq_none (hfree _)
    · exact (k.fits u hold).frame (fun _ => ⟨hh, hr, hb⟩) fun _ hwaits => hc ▸ hwaits
  · intro u hu v hv hne heq
    rcases hus u hu with hfree | hold
    · exact absurd (hfree _) hne
    · rcases hus v hv with hfree | hold'
      · exact absurd (heq.trans (hfree _)) hne
      · exact k.apart u hold v hold' hne heq

end ActivitiesFit

namespace RolesFit

variable {xs ys : List Delivery} {ts us : List Task} {t : Task}

/-- Activities that serve what others served that fit. -/
theorem frame (k : RolesFit xs ts)
    (hus : ∀ u ∈ us, ∀ x, u.role = .delivery x → ∃ t ∈ ts, t.id = u.id ∧ t.role = .delivery x) :
    RolesFit xs us := by
  constructor
  · intro u hu x hx
    obtain ⟨t, ht, -, hrole⟩ := hus u hu x hx
    exact k.mem t ht x hrole
  · intro u hu v hv x y hx hy hxy
    obtain ⟨t, ht, hid, hrole⟩ := hus u hu x hx
    obtain ⟨t', ht', hid', hrole'⟩ := hus v hv y hy
    rw [← hid, ← hid']
    exact k.apart t ht t' ht' x y hrole hrole' hxy

/-- A delivery ends, and what has served it is gone. -/
theorem finish (k : RolesFit xs ts) {x : Delivery} (ht : t ∈ ts) (hx : t.role = .delivery x) :
    RolesFit (xs.filter (·.id ≠ x.id)) (ts.filter (·.id ≠ t.id)) := by
  constructor
  · intro u hu y hy
    obtain ⟨hu, hne⟩ := List.mem_filter.mp hu
    have hapart : y.id ≠ x.id := by
      intro heq
      exact of_decide_eq_true hne (k.apart u hu t ht y x hy hx heq)
    exact List.mem_filter.mpr ⟨k.mem u hu y hy, decide_eq_true hapart⟩
  · intro u hu v hv
    exact k.apart u (List.mem_of_mem_filter hu) v (List.mem_of_mem_filter hv)

/-- Further deliveries have been made, and further activities serve them. -/
theorem append (k : RolesFit xs ts) (k' : RolesFit ys us)
    (hnodup : ((xs ++ ys).map Delivery.id).Nodup) : RolesFit (xs ++ ys) (ts ++ us) := by
  rw [List.map_append] at hnodup
  have hdisjoint : ∀ x ∈ xs, ∀ y ∈ ys, x.id ≠ y.id := by
    intro x hx y hy
    apply (List.nodup_append.mp hnodup).2.2
    · exact List.mem_map_of_mem hx
    · exact List.mem_map_of_mem hy
  constructor
  · intro t ht x hx
    rcases List.mem_append.mp ht with ht | ht
    · exact List.mem_append_left _ (k.mem t ht x hx)
    · exact List.mem_append_right _ (k'.mem t ht x hx)
  · intro t ht u hu x y hx hy hxy
    rcases List.mem_append.mp ht with ht | ht
    · rcases List.mem_append.mp hu with hu | hu
      · exact k.apart t ht u hu x y hx hy hxy
      · exact absurd hxy (hdisjoint x (k.mem t ht x hx) y (k'.mem u hu y hy))
    · rcases List.mem_append.mp hu with hu | hu
      · exact absurd hxy.symm (hdisjoint y (k.mem u hu y hy) x (k'.mem t ht x hx))
      · exact k'.apart t ht u hu x y hx hy hxy

end RolesFit

end LogWarden
