import LogWarden.Json.Decode
import LogWarden.Proofs.Outcomes
import Mathlib.Data.List.Induction
import Mathlib.Data.List.Perm.Basic
import Mathlib.Data.String.Basic
import Mathlib.Tactic.SplitIfs

/-!
# Members sorted by key

Sorting members leaves each key once, in the order of keys. If no key stood twice, the members are
the same as before. Two lists that are sorted in this way and have the same keys have them in the
same places. Maps are sorted when they are read, and so are the maps in a record.
-/

namespace LogWarden.Json

variable {α : Type} {key k : String} {v w : α} {ms ns : List (String × α)}

/-- The keys are in order, each once. -/
def KeysSorted (ms : List (String × α)) : Prop :=
  ms.Pairwise fun a b => a.1 < b.1

theorem mem_insertSorted_iff (h : KeysSorted ms) :
    (k, w) ∈ insertSorted key v ms ↔ k = key ∧ w = v ∨ k ≠ key ∧ (k, w) ∈ ms := by
  induction ms with
  | nil =>
      simp only [insertSorted, List.mem_singleton, Prod.mk.injEq, List.not_mem_nil, and_false,
        or_false]
  | cons m rest ih =>
      obtain ⟨l, u⟩ := m
      have hrest := List.pairwise_cons.mp h
      rw [insertSorted]
      split_ifs with hlt heq
      · -- The key stands before all others, so it is none of them.
        have hne : (k, w) ∈ (l, u) :: rest → k ≠ key := by
          rintro hmem rfl
          rcases List.mem_cons.mp hmem with hhead | htail
          · cases hhead
            exact lt_irrefl _ hlt
          · exact lt_asymm hlt (hrest.1 _ htail)
        grind
      · subst heq
        have hne : (k, w) ∈ rest → k ≠ key := fun hmem => (hrest.1 _ hmem).ne'
        grind
      · have := ih hrest.2
        grind

theorem KeysSorted.insertSorted (h : KeysSorted ms) (key : String) (v : α) :
    KeysSorted (insertSorted key v ms) := by
  induction ms with
  | nil => exact List.pairwise_singleton _ _
  | cons m rest ih =>
      obtain ⟨l, u⟩ := m
      obtain ⟨hfirst, hrest⟩ := List.pairwise_cons.mp h
      rw [Json.insertSorted]
      split_ifs with hlt heq
      · refine List.pairwise_cons.mpr ⟨fun n hn => ?_, h⟩
        rcases List.mem_cons.mp hn with rfl | hn
        · exact hlt
        · exact lt_trans hlt (hfirst n hn)
      · subst heq
        exact List.pairwise_cons.mpr ⟨hfirst, hrest⟩
      · refine List.pairwise_cons.mpr ⟨fun ⟨k, w⟩ hn => ?_, ih hrest⟩
        rcases (mem_insertSorted_iff hrest).mp hn with ⟨rfl, -⟩ | ⟨-, hn⟩
        · exact lt_of_le_of_ne (not_lt.mp hlt) (Ne.symm heq)
        · exact hfirst _ hn

@[simp] theorem sortMembers_append_singleton :
    sortMembers (ms ++ [(key, v)]) = insertSorted key v (sortMembers ms) := by
  simp [sortMembers]

theorem sortMembers_keysSorted (ms : List (String × α)) : KeysSorted (sortMembers ms) := by
  induction ms using List.reverseRecOn with
  | nil => exact List.Pairwise.nil
  | append_singleton ms m ih =>
      obtain ⟨key, v⟩ := m
      rw [sortMembers_append_singleton]
      exact ih.insertSorted key v

/-- Sorting loses no key and adds none. -/
theorem mem_keys_sortMembers :
    key ∈ (sortMembers ms).map Prod.fst ↔ key ∈ ms.map Prod.fst := by
  induction ms using List.reverseRecOn with
  | nil => rfl
  | append_singleton ms m ih =>
      obtain ⟨k, v⟩ := m
      simp only [List.mem_map, Prod.exists, exists_and_right, exists_eq_right] at ih ⊢
      simp only [sortMembers_append_singleton,
        mem_insertSorted_iff (sortMembers_keysSorted ms), List.mem_append, List.mem_singleton,
        Prod.mk.injEq]
      by_cases hkey : key = k
      · simp [hkey]
      · simpa [hkey] using ih

/-- Members of which no two have one key stay what they are. -/
theorem mem_sortMembers_of_nodup (h : (ms.map Prod.fst).Nodup) :
    (key, v) ∈ sortMembers ms ↔ (key, v) ∈ ms := by
  induction ms using List.reverseRecOn with
  | nil => rfl
  | append_singleton ms m ih =>
      obtain ⟨k, w⟩ := m
      rw [List.map_append, List.nodup_append] at h
      obtain ⟨hnodup, -, hdisjoint⟩ := h
      have hfresh : (key, v) ∈ ms → key ≠ k := fun hmem =>
        hdisjoint key (List.mem_map_of_mem hmem) k (by simp)
      rw [sortMembers_append_singleton, mem_insertSorted_iff (sortMembers_keysSorted ms),
        ih hnodup, List.mem_append, List.mem_singleton, Prod.mk.injEq]
      tauto

theorem KeysSorted.nodup (h : KeysSorted ms) : (ms.map Prod.fst).Nodup :=
  List.pairwise_map.mpr (h.imp ne_of_lt)

/-- Sorted keys are the same list as soon as they are the same keys. -/
theorem KeysSorted.keys_eq_iff {β : Type} {ns : List (String × β)} (h : KeysSorted ms)
    (h' : KeysSorted ns) :
    ms.map Prod.fst = ns.map Prod.fst ↔
      ∀ key, key ∈ ms.map Prod.fst ↔ key ∈ ns.map Prod.fst := by
  refine ⟨fun heq key => by rw [heq], fun hmem => ?_⟩
  refine @List.Perm.eq_of_pairwise _ (· < ·) _ _ (fun a b _ _ hab hba => absurd hba (lt_asymm hab))
    (List.pairwise_map.mpr h) (List.pairwise_map.mpr h') ?_
  exact (List.perm_ext_iff_of_nodup h.nodup h'.nodup).mpr hmem

/-- Sorted members are the same list as soon as they are the same members. -/
theorem KeysSorted.eq_of_mem_iff (h : KeysSorted ms) (h' : KeysSorted ns)
    (hmem : ∀ m, m ∈ ms ↔ m ∈ ns) : ms = ns := by
  have hnodup {ms : List (String × α)} (h : KeysSorted ms) : ms.Nodup :=
    h.imp fun hlt heq => hlt.ne (congrArg Prod.fst heq)
  exact ((List.perm_ext_iff_of_nodup (hnodup h) (hnodup h')).mpr hmem).eq_of_pairwise
    (fun a b _ _ hab hba => absurd hba (lt_asymm hab)) h h'

/-! ## Reading -/

variable {σ : Type} {levels : Nat} {d : Document}

theorem readMap_keysSorted {item : Reads α} (h : readMap item levels d = .ok ms) :
    KeysSorted ms := by
  cases d with
  | obj members tail =>
      simp only [readMap, bind_eq_ok_iff, pure, Except.pure, Except.ok.injEq] at h
      obtain ⟨_, _, ms', _, _, _, rfl⟩ := h
      exact sortMembers_keysSorted ms'
  | _ => simp [readMap] at h

section Records

variable {fields : List (Field σ)} {start s : σ} {P : σ → Prop}

/-- A member sets the field that it names. -/
theorem setMembers_field {name : String} {get : σ → Option α} {put : σ → Option α → σ}
    {read : Reads α} {a : α} {rest : List (QuotedText × Document)}
    (hfind : fields.find? (·.name == name) = some (field name get put read))
    (hfresh : (get start).isSome = false) (hread : read levels d = .ok a) :
    setMembers fields levels start ((⟨.ok name, none⟩, d) :: rest) =
      setMembers fields levels (put start (some a)) rest := by
  have hset : (field name get put read).set start levels d = .ok (put start (some a)) :=
    map_eq_ok_iff.mpr ⟨a, hread, rfl⟩
  have hisSet : (field name get put read).isSet start = false := hfresh
  simp only [setMembers, bind, Except.bind, hfind, hisSet, hset]
  rfl

/-- A member that names a field but is not read as its value is a fault. -/
theorem setMembers_field_error {name : String} {get : σ → Option α} {put : σ → Option α → σ}
    {read : Reads α} {f : JsonFault} {rest : List (QuotedText × Document)}
    (hfind : fields.find? (·.name == name) = some (field name get put read))
    (hfresh : (get start).isSome = false) (hread : read levels d = .error f) :
    setMembers fields levels start ((⟨.ok name, none⟩, d) :: rest) = .error f := by
  have hset : (field name get put read).set start levels d = .error f :=
    map_eq_error_iff.mpr hread
  have hisSet : (field name get put read).isSet start = false := hfresh
  simp only [setMembers, bind, Except.bind, hfind, hisSet, hset]
  rfl

theorem setMembers_invariant {members : List (QuotedText × Document)}
    (hset : ∀ f ∈ fields, ∀ s levels d s', P s → f.set s levels d = .ok s' → P s')
    (hstart : P start) (h : setMembers fields levels start members = .ok s) : P s := by
  induction members generalizing start with
  | nil =>
      cases h
      exact hstart
  | cons member rest ih =>
      obtain ⟨k, d⟩ := member
      obtain ⟨key, _, h⟩ := bind_eq_ok_iff.mp h
      cases hfind : fields.find? (·.name == key) with
      | none =>
          simp only [hfind] at h
          obtain ⟨_, _, h⟩ := bind_eq_ok_iff.mp h
          exact ih hstart h
      | some f =>
          simp only [hfind] at h
          split_ifs at h
          obtain ⟨s₁, hf, h⟩ := bind_eq_ok_iff.mp h
          exact ih (hset f (List.mem_of_find?_eq_some hfind) _ _ _ _ hstart hf) h

theorem setItems_invariant {tail : Tail} {missing : σ → Except JsonFault Unit}
    {items : List Document}
    (hset : ∀ f ∈ fields, ∀ s levels d s', P s → f.set s levels d = .ok s' → P s')
    (hstart : P start) (h : setItems levels tail missing fields start items = .ok s) : P s := by
  induction fields generalizing start items with
  | nil =>
      obtain ⟨_, _, h⟩ := bind_eq_ok_iff.mp h
      split at h <;> cases h
      exact hstart
  | cons f fields ih =>
      cases items with
      | nil =>
          obtain ⟨_, _, h⟩ := bind_eq_ok_iff.mp h
          obtain ⟨_, _, h⟩ := bind_eq_ok_iff.mp h
          cases h
          exact hstart
      | cons d rest =>
          obtain ⟨s₁, hf, h⟩ := bind_eq_ok_iff.mp h
          exact ih (fun g hg => hset g (List.mem_cons_of_mem f hg))
            (hset f List.mem_cons_self _ _ _ _ hstart hf) h

/-- What the start of a record has and setting a field keeps, a record has when it is complete. -/
theorem readRecord_invariant {complete : σ → Except JsonFault α} {a : α}
    (hset : ∀ f ∈ fields, ∀ s levels d s', P s → f.set s levels d = .ok s' → P s')
    (hstart : P start) (h : readRecord fields start complete levels d = .ok a) :
    ∃ s, P s ∧ complete s = .ok a := by
  cases d with
  | obj members tail =>
      obtain ⟨inner, _, h⟩ := bind_eq_ok_iff.mp h
      obtain ⟨s, hs, h⟩ := bind_eq_ok_iff.mp h
      obtain ⟨_, _, h⟩ := bind_eq_ok_iff.mp h
      exact ⟨s, setMembers_invariant hset hstart hs, h⟩
  | arr items tail =>
      obtain ⟨inner, _, h⟩ := bind_eq_ok_iff.mp h
      obtain ⟨s, hs, h⟩ := bind_eq_ok_iff.mp h
      exact ⟨s, setItems_invariant hset hstart hs, h⟩
  | _ => cases h

end Records

end LogWarden.Json
