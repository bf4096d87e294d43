import LogWarden.Proofs.Chain.Account

/-!
# Putting chains together

Chains one after another are a monoid: how a composition is bracketed does not matter, and the empty
chain adds nothing. So a chain is told by the parts that it was put together from, in their order,
whichever way this was done.
-/

namespace LogWarden

namespace Chain

variable {a b c : Chain}

/-- The chain that parts amount to: their steps in order, within the least of their limits. -/
def joined (parts : List Chain) : Chain :=
  ⟨parts.flatMap (·.steps), (parts.filterMap (·.limit)).min?⟩

theorem append_def (a b : Chain) : a ++ b = ⟨a.steps ++ b.steps, tighter a.limit b.limit⟩ :=
  rfl

protected theorem append_assoc (a b c : Chain) : a ++ b ++ c = a ++ (b ++ c) := by
  simp only [append_def, List.append_assoc, tighter_assoc]

@[simp] protected theorem empty_append (c : Chain) : empty ++ c = c :=
  rfl

@[simp] protected theorem append_empty (c : Chain) : c ++ empty = c := by
  have hlimit : tighter c.limit empty.limit = c.limit := by
    cases c.limit <;> rfl
  rw [append_def, hlimit, empty, List.append_nil]

instance : @Std.Associative Chain (· ++ ·) :=
  ⟨Chain.append_assoc⟩

instance : @Std.LawfulIdentity Chain (· ++ ·) empty where
  left_id := Chain.empty_append
  right_id := Chain.append_empty

/-! ## Parts -/

theorem joined_cons (part : Chain) (parts : List Chain) :
    joined (part :: parts) = part ++ joined parts := by
  rw [append_def, joined, joined, List.flatMap_cons]
  cases h : part.limit with
  | none => simp [tighter, h]
  | some d => rw [List.filterMap_cons_some h, min?_cons_eq_tighter]

@[simp] theorem joined_singleton (part : Chain) : joined [part] = part := by
  rw [joined_cons]
  exact part.append_empty

theorem joined_append (ps qs : List Chain) : joined (ps ++ qs) = joined ps ++ joined qs := by
  induction ps with
  | nil => rfl
  | cons p ps ih => rw [List.cons_append, joined_cons, joined_cons, ih, Chain.append_assoc]

/-- Steps that are collected are a chain as if they were put one after another. -/
theorem joined_ofSteps (ss : List Step) : joined (ss.map ofStep) = ofSteps ss := by
  have hlimits : (ss.map ofStep).filterMap (·.limit) = [] := by
    simp [ofStep]
  rw [joined, hlimits, List.flatMap_map]
  exact congrArg (Chain.mk · none) (List.flatMap_singleton' ss)

theorem foldl_append (parts : List Chain) : parts.foldl (· ++ ·) empty = joined parts :=
  calc parts.foldl (· ++ ·) empty
    _ = ⟨(parts.foldl (· ++ ·) empty).steps, (parts.foldl (· ++ ·) empty).limit⟩ := rfl
    _ = joined parts := by
      rw [steps_foldl, limit_foldl]
      rfl

theorem foldr_append (parts : List Chain) : parts.foldr (· ++ ·) empty = joined parts := by
  induction parts with
  | nil => rfl
  | cons part parts ih => rw [List.foldr_cons, ih, joined_cons]

end Chain

/-! ## Ways to put a chain together -/

/-- A way to put a chain together from steps and chains. -/
inductive Composition
  | nothing
  | chain (c : Chain)
  | step (s : Step)
  | collected (ss : List Step)
  | andThen (v w : Composition)
  | andStep (v : Composition) (s : Step)
  | stepAnd (s : Step) (w : Composition)
  | stepAndStep (s t : Step)

namespace Composition

/-- The chain that is put together. -/
def build : Composition → Chain
  | nothing => .empty
  | chain c => c
  | step s => .ofStep s
  | collected ss => .ofSteps ss
  | andThen v w => v.build ++ w.build
  | andStep v s => v.build ++ s
  | stepAnd s w => s ++ w.build
  | stepAndStep s t => s ++ t

/-- The parts that are put together, in order. -/
def parts : Composition → List Chain
  | nothing => []
  | chain c => [c]
  | step s => [.ofStep s]
  | collected ss => ss.map .ofStep
  | andThen v w => v.parts ++ w.parts
  | andStep v s => v.parts ++ [.ofStep s]
  | stepAnd s w => .ofStep s :: w.parts
  | stepAndStep s t => [.ofStep s, .ofStep t]

/-- The chain is the one that its parts amount to. -/
theorem build_eq_joined (w : Composition) : w.build = .joined w.parts := by
  induction w with
  | nothing => rfl
  | chain c => exact c.joined_singleton.symm
  | step s => rfl
  | collected ss => exact (Chain.joined_ofSteps ss).symm
  | andThen v w ihv ihw => rw [build, parts, Chain.joined_append, ihv, ihw]
  | andStep v s ih =>
      rw [build, parts, Chain.joined_append, Chain.joined_singleton, ← ih]
      rfl
  | stepAnd s w ih =>
      rw [build, parts, Chain.joined_cons, ← ih]
      rfl
  | stepAndStep s t => rfl

end Composition

/-- Chains one after another are associative, with the empty chain for a neutral one. Whichever way
a chain is put together, from the left, from the right or in any brackets, it has the steps of its
parts in their order and the least of their limits, so it is the same for the same parts. -/
theorem chain_composition_monoid :
    (∀ a b c : Chain, a ++ b ++ c = a ++ (b ++ c)) ∧
    (∀ c : Chain, .empty ++ c = c ∧ c ++ .empty = c) ∧
    (∀ w : Composition, w.build.steps = w.parts.flatMap (·.steps) ∧
      w.build.limit = (w.parts.filterMap (·.limit)).min?) ∧
    (∀ v w : Composition, v.parts = w.parts → v.build = w.build) ∧
    (∀ w : Composition, w.parts.foldl (· ++ ·) .empty = w.build ∧
      w.parts.foldr (· ++ ·) .empty = w.build) := by
  refine ⟨Chain.append_assoc, fun c => ⟨c.empty_append, c.append_empty⟩, fun w => ?_,
    fun v w h => ?_, fun w => ?_⟩
  · rw [w.build_eq_joined]
    exact ⟨rfl, rfl⟩
  · rw [v.build_eq_joined, w.build_eq_joined, h]
  · rw [w.build_eq_joined]
    exact ⟨Chain.foldl_append w.parts, Chain.foldr_append w.parts⟩

/-- Two brackets of two steps and a chain with a limit. -/
theorem brackets_of_lines :
    (Action.line "a").step ++ (Action.line "b").step ++
        (Chain.ofStep (Action.line "c").step).limited (.ofSeconds 2) =
      (Action.line "a").step ++ ((Action.line "b").step ++
        (Chain.ofStep (Action.line "c").step).limited (.ofSeconds 2)) :=
  chain_composition_monoid.2.2.2.1
    (.andThen (.stepAndStep (Action.line "a").step (Action.line "b").step) (.chain _))
    (.stepAnd (Action.line "a").step (.stepAnd (Action.line "b").step (.chain _))) rfl

end LogWarden
