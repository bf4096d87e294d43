import Mathlib.Data.List.Forall2
import Mathlib.Data.List.Nodup

/-!
# Entries of lists

What two lists that go together say of their entries, and what is left of the keys of a list when
one of its entries is done with.
-/

namespace LogWarden

variable {α β κ : Type} {R : α → β → Prop} {as : List α} {bs : List β} {n : ℕ} {a : α} {b : β}

theorem exists_of_forall₂ (h : List.Forall₂ R as bs) (hb : bs[n]? = some b) :
    ∃ a, as[n]? = some a ∧ R a b := by
  induction h generalizing n with
  | nil => cases hb
  | cons hhead _ ih =>
      cases n with
      | zero => exact ⟨_, rfl, Option.some.inj hb ▸ hhead⟩
      | succ n => exact ih hb

theorem forall₂_modify_set {f : α → α} (h : List.Forall₂ R as bs)
    (hf : ∀ a, as[n]? = some a → R (f a) b) : List.Forall₂ R (as.modify n f) (bs.set n b) := by
  induction h generalizing n with
  | nil => simp
  | cons hhead htail ih =>
      cases n with
      | zero => exact .cons (hf _ rfl) htail
      | succ n => exact .cons hhead (ih hf)

theorem filterMap_modify_of_eq {f : α → Option κ} {g : α → α} (hg : ∀ a, f (g a) = f a) :
    (as.modify n g).filterMap f = as.filterMap f := by
  induction as generalizing n with
  | nil => simp
  | cons a rest ih => cases n <;> simp [List.filterMap_cons, hg, ih]

/-- Where keys differ, an entry that is done with takes its key with it, and no other one. -/
theorem filterMap_modify_eq_filter [DecidableEq κ] {f : α → Option (κ × β)} {g : α → α}
    {x : κ × β} (hdistinct : ((as.filterMap f).map (·.1)).Nodup) (ha : as[n]? = some a)
    (hx : f a = some x) (hg : ∀ a, f (g a) = none) :
    (as.modify n g).filterMap f = (as.filterMap f).filter (·.1 != x.1) := by
  obtain ⟨hn, rfl⟩ := List.getElem?_eq_some_iff.mp ha
  have hsplit : as = as.take n ++ as[n] :: as.drop (n + 1) := by simp
  have hkeys : as.filterMap f =
      (as.take n).filterMap f ++ x :: (as.drop (n + 1)).filterMap f := by
    conv_lhs => rw [hsplit]
    rw [List.filterMap_append, List.filterMap_cons_some hx]
  rw [hkeys, List.map_append, List.map_cons, List.nodup_append, List.nodup_cons] at hdistinct
  obtain ⟨-, ⟨hbehind, -⟩, hbefore⟩ := hdistinct
  have hleft : ∀ y ∈ (as.take n).filterMap f, (y.1 != x.1) = true := by
    intro y hy
    exact bne_iff_ne.mpr (hbefore y.1 (List.mem_map_of_mem hy) x.1 List.mem_cons_self)
  have hright : ∀ y ∈ (as.drop (n + 1)).filterMap f, (y.1 != x.1) = true := by
    intro y hy
    exact bne_iff_ne.mpr fun heq => hbehind (List.mem_map.mpr ⟨y, hy, heq⟩)
  calc (as.modify n g).filterMap f
      _ = (as.take n).filterMap f ++ (as.drop (n + 1)).filterMap f := by
        rw [List.modify_eq_take_cons_drop hn, List.filterMap_append,
          List.filterMap_cons_none (hg _)]
      _ = (as.filterMap f).filter (·.1 != x.1) := by
        rw [hkeys, List.filter_append, List.filter_cons, if_neg (by simp),
          List.filter_eq_self.mpr hleft, List.filter_eq_self.mpr hright]

/-- Where keys differ, a key leads to one entry. -/
theorem filter_eq_singleton_of_mem [BEq κ] [LawfulBEq κ] {entries : List (κ × β)} {key : κ}
    (hdistinct : (entries.map (·.1)).Nodup) (hmem : (key, b) ∈ entries) :
    entries.filter (·.1 == key) = [(key, b)] := by
  obtain ⟨before, behind, rfl⟩ := List.append_of_mem hmem
  rw [List.map_append, List.map_cons, List.nodup_append, List.nodup_cons] at hdistinct
  obtain ⟨-, ⟨hbehind, -⟩, hbefore⟩ := hdistinct
  have hleft : before.filter (·.1 == key) = [] := by
    refine List.filter_eq_nil_iff.mpr fun y hy heq => ?_
    exact hbefore y.1 (List.mem_map_of_mem hy) key List.mem_cons_self (eq_of_beq heq)
  have hright : behind.filter (·.1 == key) = [] := by
    refine List.filter_eq_nil_iff.mpr fun y hy heq => hbehind ?_
    exact List.mem_map.mpr ⟨y, hy, eq_of_beq heq⟩
  rw [List.filter_append, hleft, List.nil_append, List.filter_cons, hright,
    if_pos (beq_self_eq_true key)]

/-- An entry of a list that has grown by one is the new one, or it was there before. -/
theorem append_singleton_split {before after : List α} {new : α}
    (h : as ++ [new] = before ++ a :: after) :
    after = [] ∧ as = before ∧ new = a ∨
      ∃ rest, after = rest ++ [new] ∧ as = before ++ a :: rest := by
  rcases List.eq_nil_or_concat after with rfl | ⟨rest, last, rfl⟩
  · obtain ⟨heq, hnew⟩ := List.append_inj' h rfl
    exact .inl ⟨rfl, heq, List.head_eq_of_cons_eq hnew⟩
  · rw [List.concat_eq_append, ← List.cons_append, ← List.append_assoc] at h
    obtain ⟨heq, hnew⟩ := List.append_inj' h rfl
    obtain rfl : new = last := List.head_eq_of_cons_eq hnew
    exact .inr ⟨rest, List.concat_eq_append, heq⟩

end LogWarden
