import LogWarden.Pattern.Basic
import Mathlib.Data.List.Nodup
import Mathlib.Data.Option.Basic

/-!
# The named groups of a pattern

No two groups of a pattern have one name. Names come up only where a named group is opened, and a
name that has come up before is refused there; whatever else is read leaves them alone.
-/

namespace LogWarden.Pattern

namespace Reading

variable {r r' : Reading} {cs rest : List Char} {c : Char}

/-- No name has come up twice. -/
def NamesDiffer (r : Reading) : Prop :=
  (r.names.map Prod.fst).Nodup

theorem repeatLast_names {least : Nat} {most : Option Nat} {isLazy : Bool}
    (h : r.repeatLast least most isLazy rest = some r') : r'.names = r.names := by
  unfold repeatLast at h
  split at h
  · cases h
    rfl
  · cases h

theorem counted_names (h : r.counted cs = some r') : r'.names = r.names := by
  unfold counted at h
  extract_lets finish at h
  have hfinish (least : Nat) (most : Option Nat) (rest : List Char)
      (h : finish least most rest = some r') : r'.names = r.names := by
    simp only [finish] at h
    split at h
    · obtain ⟨_, -, h⟩ := Option.bind_eq_some_iff.mp h
      exact repeatLast_names h
    · cases h
  clear_value finish
  obtain ⟨least, -, h⟩ := Option.bind_eq_some_iff.mp h
  split at h
  · split at h
    · exact hfinish _ _ _ h
    · obtain ⟨most, -, h⟩ := Option.bind_eq_some_iff.mp h
      exact hfinish _ _ _ h
  · exact hfinish _ _ _ h

theorem close_names (h : r.close rest = some r') : r'.names = r.names := by
  unfold close at h
  split at h
  · cases h
  · cases h
    rfl

theorem openNamed_namesDiffer (h : r.openNamed cs = some r') (hr : r.NamesDiffer) :
    r'.NamesDiffer := by
  obtain ⟨⟨name, rest⟩, -, h⟩ := Option.bind_eq_some_iff.mp h
  obtain ⟨⟨⟩, hfresh, h⟩ := Option.bind_eq_some_iff.mp h
  cases h
  have hnew : String.ofList name ∉ r.names.map Prod.fst := by
    intro hmem
    obtain ⟨n, hn, heq⟩ := List.mem_map.mp hmem
    have hdiffer := (Option.guard_eq_some' _).mp hfresh
    rw [Bool.not_eq_true', List.any_eq_false] at hdiffer
    exact hdiffer n hn (beq_iff_eq.mpr heq)
  exact List.nodup_cons.mpr ⟨hnew, hr⟩

theorem group_namesDiffer (h : r.group cs = some r') (hr : r.NamesDiffer) : r'.NamesDiffer := by
  unfold group at h
  split at h
  · cases h
  · cases h
  · cases h
  · cases h
  · exact openNamed_namesDiffer h hr
  · exact openNamed_namesDiffer h hr
  · obtain ⟨⟨flags, seen, mark, rest⟩, -, h⟩ := Option.bind_eq_some_iff.mp h
    dsimp only at h
    split at h
    · cases h
      exact hr
    · obtain ⟨_, -, h⟩ := Option.bind_eq_some_iff.mp h
      cases h
      exact hr
  · cases h
    exact hr

theorem NamesDiffer.of_eq (hr : r.NamesDiffer) (h : r'.names = r.names) : r'.NamesDiffer := by
  rwa [NamesDiffer, h]

/-- What is read leaves names different. -/
theorem step_namesDiffer (h : r.step c rest = some r') (hr : r.NamesDiffer) : r'.NamesDiffer := by
  unfold step at h
  extract_lets simple at h
  have hsimple {least : Nat} {most : Option Nat} (h : simple least most = some r') :
      r'.NamesDiffer := hr.of_eq (repeatLast_names h)
  split at h
  · exact group_namesDiffer h hr
  · exact hr.of_eq (close_names h)
  · cases h
    exact hr
  · obtain ⟨_, -, rfl⟩ := Option.map_eq_some_iff.mp h
    exact hr
  · exact hsimple h
  · exact hsimple h
  · exact hsimple h
  · exact hr.of_eq (counted_names h)
  · obtain ⟨⟨e, rest⟩, -, h⟩ := Option.bind_eq_some_iff.mp h
    obtain ⟨_, -, h⟩ := Option.bind_eq_some_iff.mp h
    cases h
    exact hr
  · obtain ⟨_, -, rfl⟩ := Option.map_eq_some_iff.mp h
    exact hr
  all_goals
    cases h
    exact hr

theorem finish_namesDiffer {fuel : Nat} (h : finish fuel r = some r') (hr : r.NamesDiffer) :
    r'.NamesDiffer := by
  induction fuel generalizing r with
  | zero => cases h
  | succ fuel ih =>
      rw [finish] at h
      split at h
      · split at h
        · cases h
          exact hr
        · cases h
      · obtain ⟨r₁, hstep, hrest⟩ := Option.bind_eq_some_iff.mp h
        exact ih hrest (step_namesDiffer hstep hr)

end Reading

/-- No two groups of a compiled pattern have one name. -/
theorem names_nodup {ignoreCase : Bool} {text : String} {p : Pattern}
    (h : compile? ignoreCase text = some p) : (p.names.map Prod.fst).Nodup := by
  obtain ⟨⟨e, names⟩, hread, rfl⟩ := Option.map_eq_some_iff.mp h
  obtain ⟨r, hfinish, hread⟩ := Option.bind_eq_some_iff.mp hread
  obtain ⟨_, -, hread⟩ := Option.bind_eq_some_iff.mp hread
  cases hread
  have hnodup : (r.names.map Prod.fst).Nodup := Reading.finish_namesDiffer hfinish List.nodup_nil
  have hreverse : (r.names.reverse.map Prod.fst).Nodup := by
    rw [List.map_reverse]
    exact List.nodup_reverse.mpr hnodup
  exact hreverse.sublist (List.filter_sublist.map _)

end LogWarden.Pattern
