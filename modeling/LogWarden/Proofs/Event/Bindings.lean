import LogWarden.Event.Registry
import LogWarden.Proofs.Outcomes
import Mathlib.Data.List.Nodup

/-!
# Event kinds and the payloads they are bound to

A registry has two maps, one from event kinds and one from kinds of payloads, and a call that binds
a kind writes to both. Whatever calls are made one after another, those included that are refused,
each map stays the inverse of the other, and what has been bound stays as it was bound first.

## Implementation notes

A refused call might leave a registry behind in which half of the binding has been written, so what
it leaves is part of what the call comes to and not taken for granted.
-/

namespace LogWarden

namespace Registry

/-! ## One map -/

section Map

variable {α β : Type} [DecidableEq α] {entries : List (α × β)} {key key' : α} {value : β}

theorem lookup_filter_ne (h : key' ≠ key) :
    (entries.filter (·.1 != key)).lookup key' = entries.lookup key' := by
  induction entries with
  | nil => rfl
  | cons entry rest ih =>
      obtain ⟨k, v⟩ := entry
      by_cases hk : k = key
      · subst hk
        simp [List.lookup_cons, beq_eq_false_iff_ne.mpr h, ih]
      · simp [List.lookup_cons, hk, ih]

theorem lookup_filter_self : (entries.filter (·.1 != key)).lookup key = none := by
  rw [List.lookup_eq_none_iff]
  intro entry hentry
  have hne : entry.1 ≠ key := by simpa using (List.mem_filter.mp hentry).2
  simpa using hne.symm

theorem lookup_put :
    (put entries key value).lookup key' =
      if key' = key then some value else entries.lookup key' := by
  rw [put, List.lookup_append]
  by_cases h : key' = key
  · subst h
    simp [lookup_filter_self]
  · simp [h, lookup_filter_ne h, List.lookup_cons, beq_eq_false_iff_ne.mpr h]

theorem put_of_lookup_eq_none (h : entries.lookup key = none) :
    put entries key value = entries ++ [(key, value)] := by
  have hall : ∀ entry ∈ entries, (entry.1 != key) = true := by
    intro entry hentry
    have hne := List.lookup_eq_none_iff.mp h entry hentry
    exact bne_iff_ne.mpr (bne_iff_ne.mp hne).symm
  rw [put, List.filter_eq_self.mpr hall]

end Map

/-! ## One call -/

/-- A registry in which a binding has been written to both maps. -/
def bound (r : Registry) (b : Binding) : Registry :=
  ⟨put r.byKind b.kind b.registration, put r.byPayload b.registration.payload b.kind⟩

/-- What a call to bind a kind comes to, with the registry that it leaves behind. -/
inductive Entered (r : Registry) (b : Binding) : EStateM.Result ConfigError Registry Unit → Prop
  | duplicateKind (h : r.contains b.kind = true) : Entered r b (.error (.duplicateKind b.kind) r)
  | duplicatePayload {kind} (hk : r.contains b.kind = false)
      (hp : r.kindOf? b.registration.payload = some kind) :
      Entered r b (.error (.duplicatePayload b.registration.payload.name kind) r)
  | bound (hk : r.contains b.kind = false) (hp : r.kindOf? b.registration.payload = none) :
      Entered r b (.ok () (r.bound b))

/-- The registry behind a call, whether it succeeds or is refused. -/
def after (r : Registry) (b : Binding) : Registry :=
  match (enter b).run r with
  | .ok _ r' | .error _ r' => r'

/-- The registry behind calls one after another. -/
def afterAll (r : Registry) (bs : List Binding) : Registry := bs.foldl after r

/-- The calls of a sequence that succeed. -/
def accepted (r : Registry) : List Binding → List Binding
  | [] => []
  | b :: bs =>
    match (enter b).run r with
    | .ok _ r' => b :: r'.accepted bs
    | .error _ r' => r'.accepted bs

variable {r : Registry} {b : Binding} {bs : List Binding} {kind : String} {p : PayloadKind}
variable {reg : Registration}

theorem run_enter (r : Registry) (b : Binding) :
    (enter b).run r =
      if r.contains b.kind then .error (.duplicateKind b.kind) r
      else match r.kindOf? b.registration.payload with
        | some kind => .error (.duplicatePayload b.registration.payload.name kind) r
        | none => .ok () (r.bound b) := by
  rw [enter, EStateM.run_bind, EStateM.run_get]
  dsimp only
  cases r.contains b.kind with
  | true => rfl
  | false => cases r.kindOf? b.registration.payload <;> rfl

theorem run_enter_of_free (hk : r.contains b.kind = false)
    (hp : r.kindOf? b.registration.payload = none) : (enter b).run r = .ok () (r.bound b) := by
  simp [run_enter, hk, hp]

theorem entered (r : Registry) (b : Binding) : Entered r b ((enter b).run r) := by
  rw [run_enter]
  split
  · next hk => exact .duplicateKind hk
  · next hk =>
      rw [Bool.not_eq_true] at hk
      split
      · next hp => exact .duplicatePayload hk hp
      · next hp => exact .bound hk hp

theorem find?_bound :
    (r.bound b).find? kind = if kind = b.kind then some b.registration else r.find? kind :=
  lookup_put

theorem kindOf?_bound :
    (r.bound b).kindOf? p = if p = b.registration.payload then some b.kind else r.kindOf? p :=
  lookup_put

theorem contains_eq_false_iff : r.contains kind = false ↔ r.find? kind = none := by
  rw [contains, Option.isSome_eq_false_iff, Option.isNone_iff_eq_none]

/-! ## Calls one after another -/

/-- The two maps of a registry say the same. -/
structure Inverse (r : Registry) : Prop where
  payloadOf?_iff : ∀ kind p, r.payloadOf? kind = some p ↔ r.kindOf? p = some kind
  length_eq : r.byKind.length = r.byPayload.length
  payloads_nodup : (r.byPayload.map (·.1)).Nodup

theorem empty_inverse : Inverse .empty :=
  ⟨fun _ _ => ⟨nofun, nofun⟩, rfl, List.nodup_nil⟩

theorem Inverse.bound (h : r.Inverse) (hk : r.contains b.kind = false)
    (hp : r.kindOf? b.registration.payload = none) : (r.bound b).Inverse := by
  rw [contains_eq_false_iff] at hk
  constructor
  · intro kind p
    have hiff := h.payloadOf?_iff
    rw [payloadOf?, find?_bound, kindOf?_bound]
    -- the kind and the payload of the call were not bound to anything else before
    by_cases hkind : kind = b.kind
    · subst hkind
      have hunbound : r.kindOf? p ≠ some b.kind := by
        rw [ne_eq, ← hiff, payloadOf?, hk]
        exact nofun
      by_cases hpayload : p = b.registration.payload
      · simp [hpayload]
      · simp [hpayload, hunbound, Ne.symm hpayload]
    · by_cases hpayload : p = b.registration.payload
      · have hunbound : r.payloadOf? kind ≠ some b.registration.payload := by
          rw [ne_eq, hiff, hp]
          exact nofun
        subst hpayload
        simpa [hkind, Ne.symm hkind, payloadOf?] using hunbound
      · simpa [hkind, hpayload, payloadOf?] using hiff kind p
  · have hentries := h.length_eq
    simp only [Registry.bound]
    rw [put_of_lookup_eq_none hk, put_of_lookup_eq_none hp]
    simpa using hentries
  · simp only [Registry.bound]
    rw [put_of_lookup_eq_none hp]
    have hfresh : ∀ entry ∈ r.byPayload, entry.1 ≠ b.registration.payload := by
      intro entry hentry
      have hne := List.lookup_eq_none_iff.mp hp entry hentry
      exact (bne_iff_ne.mp hne).symm
    rw [List.map_append, List.nodup_append]
    refine ⟨h.payloads_nodup, List.nodup_singleton _, ?_⟩
    simpa using hfresh

theorem Inverse.after (h : r.Inverse) (b : Binding) : (r.after b).Inverse := by
  have hentered := r.entered b
  unfold Registry.after
  cases hrun : (enter b).run r <;> rw [hrun] at hentered
  · cases hentered with
    | bound hk hp => exact h.bound hk hp
  · cases hentered with
    | duplicateKind | duplicatePayload => exact h

theorem Inverse.afterAll (h : r.Inverse) (bs : List Binding) : (r.afterAll bs).Inverse := by
  induction bs generalizing r with
  | nil => exact h
  | cons b bs ih => exact ih (h.after b)

theorem accepted_sublist (r : Registry) (bs : List Binding) : (r.accepted bs).Sublist bs := by
  induction bs generalizing r with
  | nil => exact .slnil
  | cons b bs ih =>
      rw [accepted]
      split
      · exact (ih _).cons_cons b
      · exact (ih _).cons b

/-- Behind calls a kind is bound as it was before or, if it was not, by a call that succeeded. -/
theorem find?_afterAll_eq_some_iff :
    (r.afterAll bs).find? kind = some reg ↔
      r.find? kind = some reg ∨ ∃ b ∈ r.accepted bs, b.kind = kind ∧ b.registration = reg := by
  induction bs generalizing r with
  | nil => simp [afterAll, accepted]
  | cons b bs ih =>
      have hentered := r.entered b
      rw [afterAll, List.foldl_cons, ← afterAll, ih, accepted, after]
      cases hrun : (enter b).run r <;> rw [hrun] at hentered
      · cases hentered with
        | bound hk hp =>
            rw [contains_eq_false_iff] at hk
            simp only [find?_bound, List.mem_cons, or_and_right, exists_or, exists_eq_left]
            rw [← or_assoc]
            refine or_congr_left ?_
            by_cases hkind : kind = b.kind
            · simp [hkind, hk]
            · simp [hkind, Ne.symm hkind]
      · cases hentered with
        | duplicateKind | duplicatePayload => rfl

theorem size_afterAll (r : Registry) (bs : List Binding) :
    (r.afterAll bs).size = r.size + (r.accepted bs).length := by
  induction bs generalizing r with
  | nil => rfl
  | cons b bs ih =>
      have hentered := r.entered b
      rw [afterAll, List.foldl_cons, ← afterAll, ih, accepted, after]
      cases hrun : (enter b).run r <;> rw [hrun] at hentered
      · cases hentered with
        | bound hk hp =>
            rw [contains_eq_false_iff] at hk
            have hsize : (r.bound b).size = r.size + 1 := by
              rw [size, bound, put_of_lookup_eq_none hk, List.length_append]
              rfl
            simp only [hsize, List.length_cons]
            omega
      · cases hentered with
        | duplicateKind | duplicatePayload => rfl

theorem mem_all (p : PayloadKind) : p ∈ PayloadKind.all := by
  cases p <;> decide

theorem Inverse.size_le (h : r.Inverse) : r.size ≤ PayloadKind.all.length := by
  rw [size, h.length_eq, ← List.length_map (·.1)]
  exact h.payloads_nodup.length_le_of_subset fun p _ => mem_all p

end Registry

/-! ## The built-in kinds -/

/-- A payload that comes out is of a kind. -/
def Yields (k : PayloadKind) (x : Except ClassifyError Payload) : Prop :=
  ∀ p, x = .ok p → p.kind = k

theorem Yields.bind {α : Type} {k : PayloadKind} {x : Except ClassifyError α}
    {f : α → Except ClassifyError Payload} (h : ∀ a, Yields k (f a)) : Yields k (x >>= f) := by
  intro p hp
  obtain ⟨a, _, hf⟩ := bind_eq_ok_iff.mp hp
  exact h a p hf

theorem Yields.of_ok (p : Payload) : Yields p.kind (.ok p) := by
  intro p' hp
  cases hp
  rfl

theorem Builtin.bindings_yield (aliases : Aliases) : ∀ b ∈ bindings aliases, ∀ kind caps,
    Yields b.registration.payload (b.registration.construct kind caps) := by
  simp only [bindings, List.forall_mem_cons]
  refine ⟨?_, ?_, ?_, ?_, ?_, ?_, ?_, ?_, ?_, ?_, ?_, ?_, ?_, ?_, nofun⟩ <;> intro kind caps
  · exact .bind fun _ => .of_ok _
  · exact .bind fun _ => .bind fun _ => .of_ok _
  · exact .bind fun _ => .of_ok _
  · exact .bind fun _ => .of_ok _
  · exact .of_ok _
  · exact .bind fun _ => .bind fun _ => .bind fun _ => .bind fun _ => .of_ok _
  · exact .bind fun _ => .of_ok _
  · exact .of_ok _
  · exact .bind fun _ => .bind fun _ => .of_ok _
  · exact .of_ok _
  · exact .of_ok _
  · exact .bind fun _ => .bind fun _ => .bind fun _ => .bind fun _ => .bind fun _ => .of_ok _
  · exact .bind fun _ => .bind fun _ => .bind fun _ => .bind fun _ => .bind fun _ => .of_ok _
  · exact .of_ok _

namespace Registry

variable {r : Registry} {bs : List Binding}

/-- Calls that bind different kinds to different payloads are all accepted by a registry that has
bound none of them. -/
theorem run_forM_enter
    (hdiffer : bs.Pairwise fun b b' =>
      b.kind ≠ b'.kind ∧ b.registration.payload ≠ b'.registration.payload)
    (hfresh : ∀ b ∈ bs, r.contains b.kind = false ∧ r.kindOf? b.registration.payload = none) :
    (bs.forM enter).run r = .ok () (r.afterAll bs) := by
  induction bs generalizing r with
  | nil => rfl
  | cons b bs ih =>
      obtain ⟨⟨hk, hp⟩, hrest⟩ := List.forall_mem_cons.mp hfresh
      obtain ⟨hb, hdiffer⟩ := List.pairwise_cons.mp hdiffer
      have hrun := run_enter_of_free hk hp
      have hafter : r.after b = r.bound b := by rw [after, hrun]
      have hbound := ih (r := r.bound b) hdiffer fun b' hb' => by
        obtain ⟨hkind, hpayload⟩ := hb b' hb'
        obtain ⟨hk', hp'⟩ := hrest b' hb'
        rw [contains_eq_false_iff] at hk' ⊢
        rw [find?_bound, kindOf?_bound, if_neg hkind.symm, if_neg hpayload.symm]
        exact ⟨hk', hp'⟩
      rw [afterAll, List.foldl_cons, ← afterAll, hafter, ← hbound]
      change EStateM.bind (enter b) (fun _ => bs.forM enter) r = _
      rw [EStateM.bind, show enter b r = .ok () (r.bound b) from hrun]
      rfl

theorem run_enterBuiltins (aliases : Aliases) :
    (enterBuiltins aliases).run .empty = .ok () (empty.afterAll (Builtin.bindings aliases)) := by
  refine run_forM_enter ?_ fun b _ => ⟨rfl, rfl⟩
  simp [Builtin.bindings]

theorem builtin_eq (aliases : Aliases) :
    builtin aliases = empty.afterAll (Builtin.bindings aliases) := by
  rw [builtin, run_enterBuiltins]

theorem payloadOf?_builtin {aliases : Aliases} {kind : String} {caps : Captures} {p : Payload}
    (h : (builtin aliases).construct kind caps = .ok p) :
    (builtin aliases).payloadOf? kind = some p.kind := by
  rw [construct] at h
  split at h
  · next reg hreg =>
      obtain hempty | ⟨b, hb, -, rfl⟩ := find?_afterAll_eq_some_iff.mp (builtin_eq aliases ▸ hreg)
      · cases hempty
      · have hmem := (accepted_sublist empty (Builtin.bindings aliases)).subset hb
        rw [payloadOf?, hreg, Option.map_some, Builtin.bindings_yield aliases b hmem kind caps p h]
  · cases h

end Registry

/-! ## The account of bindings -/

/-- What is known of a registry behind calls on an empty one. -/
structure BindingAccount (bs : List Binding) (r : Registry) : Prop where
  /-- A kind has the payload that has the kind. -/
  inverse : ∀ kind p, r.payloadOf? kind = some p ↔ r.kindOf? p = some kind
  /-- As many kinds are bound as calls have succeeded. -/
  size_eq : r.size = (Registry.empty.accepted bs).length
  size_le : r.size ≤ PayloadKind.all.length
  /-- A call for a bound kind is refused, whatever its payload is, and leaves all as it is. -/
  duplicate_kind : ∀ b, r.contains b.kind = true →
    (Registry.enter b).run r = .error (.duplicateKind b.kind) r
  /-- A call for another kind is refused if its payload has one, and leaves all as it is. -/
  duplicate_payload : ∀ b kind, r.contains b.kind = false →
    r.kindOf? b.registration.payload = some kind →
      (Registry.enter b).run r =
        .error (.duplicatePayload b.registration.payload.name kind) r
  /-- Any other call succeeds. -/
  binds : ∀ b, r.contains b.kind = false → r.kindOf? b.registration.payload = none →
    ∃ r', (Registry.enter b).run r = .ok () r' ∧ r'.find? b.kind = some b.registration ∧
      r'.kindOf? b.registration.payload = some b.kind
  /-- A kind is bound to what the one call that succeeded for it has bound it to. -/
  bound_by : ∀ kind reg, r.find? kind = some reg ↔
    ∃ b ∈ Registry.empty.accepted bs, b.kind = kind ∧ b.registration = reg
  /-- Further calls leave a bound kind as it is. -/
  kept : ∀ kind reg, r.find? kind = some reg → ∀ bs', (r.afterAll bs').find? kind = some reg

/-- Whatever calls are made, the two maps of a registry are the inverse of each other, and a call
that is refused changes neither. The built-in kinds can all be bound, and each makes payloads of the
kind that it is bound to. -/
theorem bindings_stay_inverse :
    (∀ bs, BindingAccount bs (Registry.empty.afterAll bs)) ∧
      ∀ aliases, (Registry.enterBuiltins aliases).run .empty = .ok () (.builtin aliases) ∧
        ∀ kind caps p, (Registry.builtin aliases).construct kind caps = .ok p →
          (Registry.builtin aliases).payloadOf? kind = some p.kind := by
  constructor
  · intro bs
    have hinverse := Registry.empty_inverse.afterAll bs
    exact {
      inverse := hinverse.payloadOf?_iff
      size_eq := (Registry.size_afterAll _ bs).trans (Nat.zero_add _)
      size_le := hinverse.size_le
      duplicate_kind := fun b hk => by rw [Registry.run_enter, if_pos hk]
      duplicate_payload := fun b kind hk hp => by simp [Registry.run_enter, hk, hp]
      binds := fun b hk hp => by
        refine ⟨_, Registry.run_enter_of_free hk hp, ?_, ?_⟩
        · rw [Registry.find?_bound, if_pos rfl]
        · rw [Registry.kindOf?_bound, if_pos rfl]
      bound_by := fun kind reg => by
        rw [Registry.find?_afterAll_eq_some_iff]
        exact or_iff_right nofun
      kept := fun kind reg h bs' => Registry.find?_afterAll_eq_some_iff.mpr (.inl h) }
  · intro aliases
    refine ⟨?_, fun kind caps p => Registry.payloadOf?_builtin⟩
    rw [Registry.run_enterBuiltins, Registry.builtin_eq]

end LogWarden
