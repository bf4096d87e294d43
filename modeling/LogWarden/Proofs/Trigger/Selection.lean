import LogWarden.Proofs.Trigger.Firing

/-!
# Which rules fire

A rule fires for the events of its kind whose fields meet all of its conditions as they are written
down. What it yields stands under its index, and does not depend on the rules around it: of two
lists of rules in a row, the second yields what it would yield alone, with its indices shifted. Only
a pause that is too long keeps the other rules from yielding anything, since the program stops.
-/

namespace LogWarden

/-! ## Conditions as they are written -/

/-- What a field of an event can be. -/
inductive Json.IsField : Json → Prop
  | null : IsField .null
  | text (s : String) : IsField (.str s)
  | number (n : JsonNumber) : IsField (.num n)

/-- Whether a value is the same as a field: a missing one, the same text, or the same number once
both are binary floating-point numbers. -/
inductive Json.Agrees : Json → Json → Prop
  | null : Agrees .null .null
  | text (s : String) : Agrees (.str s) (.str s)
  | number {m n : JsonNumber} (h : m.toBinary64.numEq n.toBinary64 = true) :
      Agrees (.num m) (.num n)

/-- Whether a pattern finds something in the text of a field. A field that is missing has none. -/
inductive Pattern.FindsIn (p : Pattern) : Option Json → Prop
  | text {s : String} (h : p.isMatch s = true) : FindsIn p (some (.str s))
  | number {n : JsonNumber} (h : p.isMatch (Json.num n).compactText = true) :
      FindsIn p (some (.num n))

/-- Whether a condition, as it is written, admits a field: a list the fields that one of its items
is the same as, a marked text the fields in which its pattern finds something, and any other value
the fields that it is the same as. A field that is missing counts as null. -/
inductive Json.Admits : Json → Option Json → Prop
  | item {items : List Json} {item : Json} {field : Option Json} (hitem : item ∈ items)
      (h : item.Agrees (field.getD .null)) : Admits (.arr items) field
  | found {pattern : String} {p : Pattern} {field : Option Json}
      (hp : Pattern.compile? false pattern = some p) (h : p.FindsIn field) :
      Admits (.str ("re:" ++ pattern)) field
  | same {v : Json} {field : Option Json} (hv : ∀ pattern, v ≠ .str ("re:" ++ pattern))
      (h : v.Agrees (field.getD .null)) : Admits v field

/-- Whether a rule, as it is written, is for an event. -/
def TriggerSpec.Selects (spec : TriggerSpec) (e : Event) : Prop :=
  spec.on = e.kind ∧ ∀ c ∈ spec.conditions, c.2.Admits (e.payload.field? c.1)

variable {v w : Json} {field : Option Json} {c : Condition} {p : Pattern}

theorem Json.equal_iff_agrees (hw : w.IsField) : v.equal w = true ↔ v.Agrees w := by
  constructor
  · intro h
    cases hw with
    | null =>
        cases v with
        | null => exact .null
        | num m => cases m <;> cases h
        | _ => cases h
    | text s =>
        cases v with
        | str t =>
            obtain rfl : t = s := eq_of_beq h
            exact .text t
        | num m => cases m <;> cases h
        | _ => cases h
    | number n =>
        cases v with
        | num m => exact .number h
        | _ => cases h
  · rintro (_ | s | h)
    · rfl
    · exact beq_self_eq_true s
    · exact h

theorem Pattern.findsIn_iff (hfield : (field.getD .null).IsField) :
    (Condition.found p).holds field = true ↔ p.FindsIn field := by
  constructor
  · intro h
    rcases field with _ | v
    · cases h
    · cases hfield with
      | null => cases h
      | text s => exact .text h
      | number n => exact .number h
  · rintro (h | h) <;> exact h

namespace Json

theorem admits_arr {items : List Json} :
    (arr items).Admits field ↔ ∃ item ∈ items, item.Agrees (field.getD .null) := by
  constructor
  · rintro (⟨hitem, h⟩ | _ | ⟨-, h⟩)
    · exact ⟨_, hitem, h⟩
    · cases h
  · rintro ⟨item, hitem, h⟩
    exact .item hitem h

theorem admits_mark {pattern : String} :
    (str ("re:" ++ pattern)).Admits field ↔
      ∃ p, Pattern.compile? false pattern = some p ∧ p.FindsIn field := by
  constructor
  · intro h
    generalize hv : str ("re:" ++ pattern) = v at h
    cases h with
    | item => cases hv
    | @found pattern' p _ hp h =>
        have heq : pattern = pattern' := by
          have htext := congrArg String.toList (Json.str.inj hv)
          rw [String.toList_append, String.toList_append] at htext
          exact String.toList_inj.mp (List.append_cancel_left htext)
        exact ⟨p, heq ▸ hp, h⟩
    | same hplain => exact absurd hv.symm (hplain pattern)
  · rintro ⟨p, hp, h⟩
    exact .found hp h

theorem admits_plain (hmark : ∀ pattern, v ≠ str ("re:" ++ pattern))
    (harr : ∀ items, v ≠ arr items) : v.Admits field ↔ v.Agrees (field.getD .null) := by
  constructor
  · rintro (_ | _ | ⟨-, h⟩)
    · exact absurd rfl (harr _)
    · exact absurd rfl (hmark _)
    · exact h
  · exact .same hmark

end Json

/-- A condition that has been compiled holds for the fields that it admits as it is written. -/
theorem Condition.holds_iff_admits [PatternWording] (hc : compile v = .ok c)
    (hfield : (field.getD .null).IsField) : c.holds field = true ↔ v.Admits field := by
  by_cases hmark : ∃ pattern, v = .str ("re:" ++ pattern)
  · obtain ⟨pattern, rfl⟩ := hmark
    rw [compile_mark] at hc
    rw [Json.admits_mark]
    cases hp : Pattern.compile? false pattern with
    | none =>
        rw [hp] at hc
        cases hc
    | some p =>
        rw [hp] at hc
        cases hc
        simp [Pattern.findsIn_iff hfield]
  · have hplain := not_exists.mp hmark
    cases v with
    | arr items =>
        cases hc
        simp only [holds, List.any_eq_true, Json.equal_iff_agrees hfield, Json.admits_arr]
    | str s =>
        rw [compile_text fun pattern heq => hplain pattern (congrArg Json.str heq)] at hc
        cases hc
        rw [Json.admits_plain hplain nofun, ← Json.equal_iff_agrees hfield]
        rfl
    | _ =>
        cases hc
        rw [Json.admits_plain hplain nofun, ← Json.equal_iff_agrees hfield]
        rfl

theorem Payload.field?_isField (p : Payload) (name : String) :
    ((p.field? name).getD .null).IsField := by
  have hmembers : ∀ m ∈ p.members, m.2.IsField := by
    have hfloat (x : Binary64) : (floatValue x).IsField := by
      rw [floatValue]
      split
      · exact .number _
      · exact .null
    cases p <;> simp [members, Json.IsField.text, Json.IsField.number, hfloat]
  rw [field?]
  cases h : p.members.find? (·.1 == name) with
  | none => exact .null
  | some m => exact hmembers m (List.mem_of_find?_eq_some h)

namespace Trigger

variable {index : Nat} {spec : TriggerSpec} {t : Trigger} {e : Event}

theorem all_hold_iff_admits [PatternWording] {cs : List (String × Json)}
    {conditions : List (String × Condition)}
    (h : List.Forall₂ (fun c c' => c.1 = c'.1 ∧ Condition.compile c.2 = .ok c'.2) cs conditions) :
    (conditions.all fun (name, c) => c.holds (e.payload.field? name)) = true ↔
      ∀ c ∈ cs, c.2.Admits (e.payload.field? c.1) := by
  induction h with
  | nil => simp
  | @cons a b _ _ hab _ ih =>
      rw [List.all_cons, Bool.and_eq_true, ih, List.forall_mem_cons, hab.1,
        Condition.holds_iff_admits hab.2 (e.payload.field?_isField b.1)]

/-- A rule that has been loaded fires for the events that it selects as it is written. -/
theorem firesFor_iff_selects [PatternWording] (h : t.Renders index spec) :
    t.firesFor e = true ↔ spec.Selects e := by
  rw [firesFor, Bool.and_eq_true, all_hold_iff_admits h.conditions, beq_iff_eq, h.on,
    TriggerSpec.Selects, eq_comm]

/-! ## Rules in other places -/

/-- A rule some places further on. -/
def later (k : Nat) (t : Trigger) : Trigger :=
  { t with index := k + t.index }

theorem compileEntry_any_index {s s' : ChainState} {i position : Nat} {entry : List Json}
    (h : compileEntry i s position entry = .ok s') (j : Nat) :
    compileEntry j s position entry = .ok s' := by
  revert h
  fun_cases compileEntry i s position entry <;> rintro ⟨⟩
  case case1 args d hd => simp [compileEntry, hd]
  case case4 name args hname m hm => simp [compileEntry, hname, hm]

theorem compileChain_any_index {s s' : ChainState} {i position : Nat} {chain : List (List Json)}
    (h : compileChain i s position chain = .ok s') (j : Nat) :
    compileChain j s position chain = .ok s' := by
  induction chain generalizing s position with
  | nil => exact h
  | cons entry rest ih =>
      obtain ⟨s₁, hentry, hrest⟩ := bind_eq_ok_iff.mp h
      exact bind_eq_ok_iff.mpr ⟨s₁, compileEntry_any_index hentry j, ih hrest⟩

/-- A rule is loaded in any place if it is in one, and nothing but its index tells the place. -/
theorem compile_any_index [PatternWording] (h : compile index spec = .ok t) (j : Nat) :
    compile j spec = .ok { t with index := j } := by
  obtain ⟨hon, conditions, hconditions, command, hcommand, s, hchain, hedit, rfl⟩ :=
    compile_eq_ok_iff.mp h
  exact compile_eq_ok_iff.mpr ⟨hon, conditions,
    compileConditions_eq_ok_iff.mpr (compileConditions_eq_ok_iff.mp hconditions), command, hcommand,
    s, compileChain_any_index hchain j, hedit, rfl⟩

end Trigger

namespace TriggerSet

variable {specs specs₁ specs₂ : List TriggerSpec} {rules : List Trigger} {channels : Aliases}
  {stepLimit : Nanos} {ts : TriggerSet} {e : Event}

theorem compileRules_later [PatternWording] {i : Nat} (h : compileRules i specs = .ok rules)
    (k : Nat) :
    compileRules (k + i) specs = .ok (rules.map (·.later k)) := by
  induction specs generalizing i rules with
  | nil =>
      cases h
      rfl
  | cons spec rest ih =>
      obtain ⟨t, rules, hrule, hrest, rfl⟩ := compileRules_cons_eq_ok_iff.mp h
      have hlater : Trigger.compile (k + i) spec = .ok (t.later k) := by
        rw [Trigger.later, (Trigger.compile_renders hrule).index_eq]
        exact Trigger.compile_any_index hrule _
      exact compileRules_cons_eq_ok_iff.mpr ⟨_, _, hlater, ih hrest, rfl⟩

theorem exists_compileRules_iff_forall [PatternWording] {i : Nat} :
    (∃ rules, compileRules i specs = .ok rules) ↔
      ∀ spec ∈ specs, ∃ t, Trigger.compile 0 spec = .ok t := by
  have hplace (spec : TriggerSpec) (i j : Nat) :
      (∃ t, Trigger.compile i spec = .ok t) → ∃ t, Trigger.compile j spec = .ok t :=
    fun ⟨_, ht⟩ => ⟨_, Trigger.compile_any_index ht j⟩
  induction specs generalizing i with
  | nil => simp [compileRules]
  | cons spec rest ih =>
      simp only [List.forall_mem_cons, compileRules_cons_eq_ok_iff]
      constructor
      · rintro ⟨_, t, rules, hrule, hrest, rfl⟩
        exact ⟨hplace spec i 0 ⟨t, hrule⟩, ih.mp ⟨rules, hrest⟩⟩
      · rintro ⟨hrule, hrest⟩
        obtain ⟨t, hrule⟩ := hplace spec 0 i hrule
        obtain ⟨rules, hrest⟩ := ih.mpr hrest
        exact ⟨_, t, rules, hrule, hrest, rfl⟩

theorem compileRules_append [PatternWording] {i : Nat} :
    compileRules i (specs₁ ++ specs₂) = .ok rules ↔
      ∃ first second, compileRules i specs₁ = .ok first ∧
        compileRules (specs₁.length + i) specs₂ = .ok second ∧ rules = first ++ second := by
  induction specs₁ generalizing i rules with
  | nil => simp [compileRules]
  | cons spec rest ih =>
      have hplace : (spec :: rest).length + i = rest.length + (i + 1) := by
        rw [List.length_cons]
        omega
      simp only [List.cons_append, hplace, compileRules_cons_eq_ok_iff, ih]
      constructor
      · rintro ⟨t, _, ht, ⟨first, second, hfirst, hsecond, rfl⟩, rfl⟩
        exact ⟨t :: first, second, ⟨t, first, ht, hfirst, rfl⟩, hsecond, rfl⟩
      · rintro ⟨_, second, ⟨t, first, ht, hfirst, rfl⟩, hsecond, rfl⟩
        exact ⟨t, first ++ second, ht, ⟨first, second, hfirst, hsecond, rfl⟩, rfl⟩

/-- What firing returns, unless the program stops. -/
def returns? (ts : TriggerSet) (e : Event) : Option (List (Nat × Except CommandError Step)) :=
  Reaction.yields? (ts.fire e)

/-- What rules some places further on yield. -/
def shift {α : Type} (k : Nat) (entries : List (Nat × α)) : List (Nat × α) :=
  entries.map fun entry => (k + entry.1, entry.2)

theorem fire_later (rules : List Trigger) (channels : Aliases) (stepLimit : Nanos) (e : Event)
    (k : Nat) : fire ⟨rules.map (·.later k), channels, stepLimit⟩ e =
      shift k (fire ⟨rules, channels, stepLimit⟩ e) := by
  simp only [fire, shift, List.filter_map, List.map_map]
  rfl

theorem fire_append (first second : List Trigger) (channels : Aliases) (stepLimit : Nanos)
    (e : Event) : fire ⟨first ++ second, channels, stepLimit⟩ e =
      fire ⟨first, channels, stepLimit⟩ e ++ fire ⟨second, channels, stepLimit⟩ e := by
  simp only [fire, List.filter_append, List.map_append]

theorem yields?_append (a b : List (Nat × Except TriggerFault Step)) :
    Reaction.yields? (a ++ b) =
      (Reaction.yields? a).bind fun x => (Reaction.yields? b).map (x ++ ·) := by
  fun_induction Reaction.yields? a with
  | case1 => simp
  | case2 index step rest ih | case3 index e rest ih =>
      rw [List.cons_append, Reaction.yields?, ih]
      cases Reaction.yields? rest <;> cases Reaction.yields? b <;> rfl
  | case4 => rfl

theorem yields?_shift (a : List (Nat × Except TriggerFault Step)) (k : Nat) :
    Reaction.yields? (shift k a) = (Reaction.yields? a).map (shift k) := by
  fun_induction Reaction.yields? a with
  | case1 => rfl
  | case2 index step rest ih | case3 index e rest ih =>
      rw [shift, List.map_cons, Reaction.yields?, ← shift, ih]
      cases Reaction.yields? rest <;> rfl
  | case4 => rfl

theorem indices_of_yields? {a : List (Nat × Except TriggerFault Step)}
    {entries : List (Nat × Except CommandError Step)} (h : Reaction.yields? a = some entries) :
    entries.map Prod.fst = a.map Prod.fst := by
  fun_induction Reaction.yields? a generalizing entries with
  | case1 =>
      cases h
      rfl
  | case2 index step rest ih | case3 index e rest ih =>
      obtain ⟨rest', hrest, rfl⟩ := Option.map_eq_some_iff.mp h
      rw [List.map_cons, List.map_cons, ih hrest]
  | case4 => cases h

/-! ## Selection -/

theorem compileRules_indices [PatternWording] {i : Nat} (h : compileRules i specs = .ok rules) :
    rules.map (·.index) = List.range' i rules.length := by
  induction specs generalizing i rules with
  | nil =>
      cases h
      rfl
  | cons spec rest ih =>
      obtain ⟨t, rules, hrule, hrest, rfl⟩ := compileRules_cons_eq_ok_iff.mp h
      rw [List.map_cons, ih hrest, (Trigger.compile_renders hrule).index_eq]
      rfl

theorem fire_indices (ts : TriggerSet) (e : Event) :
    (ts.fire e).map Prod.fst = (ts.rules.filter (·.firesFor e)).map (·.index) := by
  rw [fire, List.map_map]
  rfl

/-- What a set yields stands in the order of the rules. -/
theorem fire_pairwise [PatternWording] (h : compile specs channels stepLimit = .ok ts) (e : Event) :
    ((ts.fire e).map Prod.fst).Pairwise (· < ·) := by
  obtain ⟨rules, hrules, rfl⟩ := compile_eq_ok_iff.mp h
  rw [fire_indices]
  refine List.Pairwise.sublist (List.filter_sublist.map _) ?_
  rw [compileRules_indices hrules]
  exact List.pairwise_lt_range'

theorem exists_rule [PatternWording] {i : Nat} {spec : TriggerSpec}
    (h : compile specs channels stepLimit = .ok ts)
    (hspec : specs[i]? = some spec) : ∃ t, ts.rules[i]? = some t := by
  have hrel := compile_getElem? h i
  rw [hspec] at hrel
  cases ht : ts.rules[i]? with
  | none =>
      rw [ht] at hrel
      cases hrel
  | some t => exact ⟨t, rfl⟩

/-- A rule stands in its place, and fires if it selects the event there. -/
theorem fires_at_iff [PatternWording] {i : Nat} {t : Trigger}
    (h : compile specs channels stepLimit = .ok ts) :
    (t ∈ ts.rules ∧ t.index = i ∧ t.firesFor e = true) ↔
      ts.rules[i]? = some t ∧ ∃ spec, specs[i]? = some spec ∧ spec.Selects e := by
  constructor
  · rintro ⟨hmem, rfl, hfires⟩
    obtain ⟨j, hj⟩ := List.mem_iff_getElem?.mp hmem
    obtain ⟨spec, hspec, hrule⟩ := exists_compile_of_getElem? h hj
    have hrenders := Trigger.compile_renders hrule
    rw [hrenders.index_eq]
    exact ⟨hj, spec, hspec, (Trigger.firesFor_iff_selects hrenders).mp hfires⟩
  · rintro ⟨ht, spec, hspec, hselects⟩
    obtain ⟨spec', hspec', hrule⟩ := exists_compile_of_getElem? h ht
    obtain rfl : spec = spec' := Option.some.inj (hspec.symm.trans hspec')
    have hrenders := Trigger.compile_renders hrule
    exact ⟨List.mem_of_getElem? ht, hrenders.index_eq,
      (Trigger.firesFor_iff_selects hrenders).mpr hselects⟩

/-- A set yields something under the indices of the rules that select the event. -/
theorem mem_fire_indices_iff [PatternWording] (h : compile specs channels stepLimit = .ok ts)
    (i : Nat) :
    i ∈ (ts.fire e).map Prod.fst ↔ ∃ spec, specs[i]? = some spec ∧ spec.Selects e := by
  rw [fire_indices, List.mem_map]
  constructor
  · rintro ⟨t, ht, hindex⟩
    obtain ⟨hmem, hfires⟩ := List.mem_filter.mp ht
    exact ((fires_at_iff h).mp ⟨hmem, hindex, hfires⟩).2
  · rintro ⟨spec, hspec, hselects⟩
    obtain ⟨t, ht⟩ := exists_rule h hspec
    obtain ⟨hmem, hindex, hfires⟩ := (fires_at_iff h).mpr ⟨ht, spec, hspec, hselects⟩
    exact ⟨t, List.mem_filter.mpr ⟨hmem, hfires⟩, hindex⟩

/-- Firing returns nothing exactly if a rule that selects the event comes to a pause that is too
long. -/
theorem returns?_eq_none_iff [PatternWording] (h : compile specs channels stepLimit = .ok ts) :
    ts.returns? e = none ↔ ∃ (i : Nat) (t : Trigger), ts.rules[i]? = some t ∧
      (∃ spec, specs[i]? = some spec ∧ spec.Selects e) ∧ t.StopsFiring channels e := by
  have hchannels : ts.channels = channels := by
    obtain ⟨rules, -, rfl⟩ := compile_eq_ok_iff.mp h
    rfl
  rw [returns?, Reaction.yields?_eq_none_iff]
  refine exists_congr fun i => ?_
  rw [overflow_mem_fire_iff, hchannels]
  refine exists_congr fun t => ?_
  constructor
  · rintro ⟨hmem, hindex, hfires, hstops⟩
    obtain ⟨ht, hselects⟩ := (fires_at_iff h).mp ⟨hmem, hindex, hfires⟩
    exact ⟨ht, hselects, hstops⟩
  · rintro ⟨ht, hselects, hstops⟩
    obtain ⟨hmem, hindex, hfires⟩ := (fires_at_iff h).mpr ⟨ht, hselects⟩
    exact ⟨hmem, hindex, hfires, hstops⟩

/-- Rules in a row are loaded exactly if those of both parts are. -/
theorem compile_append_iff [PatternWording] :
    (∃ ts, compile (specs₁ ++ specs₂) channels stepLimit = .ok ts) ↔
      (∃ ts₁, compile specs₁ channels stepLimit = .ok ts₁) ∧
        ∃ ts₂, compile specs₂ channels stepLimit = .ok ts₂ := by
  have hset (specs : List TriggerSpec) : (∃ ts, compile specs channels stepLimit = .ok ts) ↔
      ∀ spec ∈ specs, ∃ t, Trigger.compile 0 spec = .ok t := by
    rw [← exists_compileRules_iff_forall (i := 0)]
    simp [compile_eq_ok_iff]
  rw [hset, hset, hset, List.forall_mem_append]

/-- What rules in a row return is what those of the first part return and behind it, with shifted
indices, what those of the second part return. -/
theorem returns?_append [PatternWording] {ts₁ ts₂ : TriggerSet}
    (h : compile (specs₁ ++ specs₂) channels stepLimit = .ok ts)
    (h₁ : compile specs₁ channels stepLimit = .ok ts₁)
    (h₂ : compile specs₂ channels stepLimit = .ok ts₂) :
    ts.returns? e = (ts₁.returns? e).bind fun first =>
      (ts₂.returns? e).map fun second => first ++ shift specs₁.length second := by
  obtain ⟨rules, hrules, rfl⟩ := compile_eq_ok_iff.mp h
  obtain ⟨first, hfirst, rfl⟩ := compile_eq_ok_iff.mp h₁
  obtain ⟨second, hsecond, rfl⟩ := compile_eq_ok_iff.mp h₂
  obtain ⟨first', second', hfirst', hsecond', rfl⟩ := compileRules_append.mp hrules
  obtain rfl : first = first' := Except.ok.inj (hfirst.symm.trans hfirst')
  obtain rfl : second.map (·.later specs₁.length) = second' :=
    Except.ok.inj ((compileRules_later hsecond _).symm.trans hsecond')
  rw [returns?, fire_append, yields?_append, fire_later, yields?_shift]
  simp only [Option.map_map]
  rfl

end TriggerSet

/-- A set returns one entry for each rule that selects the event as it is written, in the order of
the rules, unless one of these comes to a pause that is too long. Rules in a row are loaded if those
of both parts are, and return what the first part returns and behind it, with shifted indices, what
the second part returns. -/
theorem selected_rules_fire [PatternWording] (channels : Aliases) (stepLimit : Nanos) (e : Event) :
    (∀ specs ts, TriggerSet.compile specs channels stepLimit = .ok ts →
      (∀ entries, ts.returns? e = some entries →
        entries.Pairwise (fun x y => x.1 < y.1) ∧
        ∀ i, (∃ outcome, (i, outcome) ∈ entries) ↔
          ∃ spec, specs[i]? = some spec ∧ spec.Selects e) ∧
      (ts.returns? e = none ↔ ∃ (i : Nat) (t : Trigger), ts.rules[i]? = some t ∧
        (∃ spec, specs[i]? = some spec ∧ spec.Selects e) ∧ t.StopsFiring channels e)) ∧
    ∀ specs₁ specs₂,
      ((∃ ts, TriggerSet.compile (specs₁ ++ specs₂) channels stepLimit = .ok ts) ↔
        (∃ ts₁, TriggerSet.compile specs₁ channels stepLimit = .ok ts₁) ∧
          ∃ ts₂, TriggerSet.compile specs₂ channels stepLimit = .ok ts₂) ∧
      ∀ ts ts₁ ts₂, TriggerSet.compile (specs₁ ++ specs₂) channels stepLimit = .ok ts →
        TriggerSet.compile specs₁ channels stepLimit = .ok ts₁ →
        TriggerSet.compile specs₂ channels stepLimit = .ok ts₂ →
        ts.returns? e = (ts₁.returns? e).bind fun first =>
          (ts₂.returns? e).map fun second => first ++ TriggerSet.shift specs₁.length second := by
  refine ⟨fun specs ts h => ⟨fun entries hentries => ?_, TriggerSet.returns?_eq_none_iff h⟩,
    fun specs₁ specs₂ => ⟨TriggerSet.compile_append_iff, fun ts ts₁ ts₂ h h₁ h₂ =>
      TriggerSet.returns?_append h h₁ h₂⟩⟩
  have hindices : entries.map Prod.fst = (ts.fire e).map Prod.fst :=
    TriggerSet.indices_of_yields? hentries
  refine ⟨List.pairwise_map.mp (hindices ▸ TriggerSet.fire_pairwise h e), fun i => ?_⟩
  rw [← TriggerSet.mem_fire_indices_iff h, ← hindices]
  simp

/-- A text condition, a list with null and a call with an argument that cannot be read: the first
rule and the last fire for the player, and the one between them does not. -/
theorem selected_rules_fire_of_join :
    ∃ ts entries, TriggerSet.compile
        [⟨"join", [("player", .str "re:^a")], ⟨"jump", [], []⟩⟩,
          ⟨"join", [("player", .arr [.str "bob", .null])], ⟨"jump", [], []⟩⟩,
          ⟨"join", [], ⟨"jump", [], [[.str "interval", .num (.int (-1))]]⟩⟩] [] 0 = .ok ts ∧
      ts.returns? ⟨"join", .join "alice"⟩ = some entries ∧
      (∃ outcome, (0, outcome) ∈ entries) ∧ (¬∃ outcome, (1, outcome) ∈ entries) ∧
      ∃ outcome, (2, outcome) ∈ entries := by
  obtain ⟨ts, hload, hreturns⟩ : ∃ ts, TriggerSet.compile
      [⟨"join", [("player", .str "re:^a")], ⟨"jump", [], []⟩⟩,
        ⟨"join", [("player", .arr [.str "bob", .null])], ⟨"jump", [], []⟩⟩,
        ⟨"join", [], ⟨"jump", [], [[.str "interval", .num (.int (-1))]]⟩⟩] [] 0 = .ok ts ∧
      (ts.returns? ⟨"join", .join "alice"⟩).isSome = true := ⟨_, rfl, by decide +kernel⟩
  obtain ⟨entries, hentries⟩ := Option.isSome_iff_exists.mp hreturns
  have hselected := (((selected_rules_fire [] 0 ⟨"join", .join "alice"⟩).1 _ ts hload).1
    entries hentries).2
  have hfound : ∃ p, Pattern.compile? false "^a" = some p ∧ p.isMatch "alice" = true :=
    ⟨_, rfl, by decide +kernel⟩
  obtain ⟨p, hp, hmatch⟩ := hfound
  refine ⟨ts, entries, hload, hentries, (hselected 0).mpr ⟨_, rfl, rfl, ?_⟩, fun h => ?_,
    (hselected 2).mpr ⟨_, rfl, rfl, by simp⟩⟩
  · exact List.forall_mem_singleton.mpr (.found hp (.text hmatch))
  · obtain ⟨_, ⟨⟩, -, hadmits⟩ := (hselected 1).mp h
    obtain ⟨item, hitem, hagrees⟩ := Json.admits_arr.mp (hadmits _ List.mem_cons_self)
    have hequal := (Json.equal_iff_agrees (Payload.field?_isField _ _)).mpr hagrees
    simp only [List.mem_cons, List.not_mem_nil, or_false] at hitem
    rcases hitem with rfl | rfl <;> revert hequal <;> decide +kernel

/-- So it is not true that a set returns one entry for each rule that selects the event: the pause
of the second rule is too long, and the first yields nothing either. -/
theorem not_selected_rules_fire :
    ¬∀ specs channels stepLimit ts e, TriggerSet.compile specs channels stepLimit = .ok ts →
      ∃ entries, ts.returns? e = some entries ∧
        ∀ i, (∃ outcome, (i, outcome) ∈ entries) ↔
          ∃ spec, specs[i]? = some spec ∧ spec.Selects e := by
  intro hclaim
  obtain ⟨ts, hload, hstops⟩ : ∃ ts, TriggerSet.compile [⟨"kick", [], ⟨"jump", [], []⟩⟩,
      ⟨"kick", [], ⟨"jump", [], [[.str "interval", .num (.float (.ofDecimal false 1 30))]]⟩⟩] [] 0 =
        .ok ts ∧ ts.returns? ⟨"kick", .kick⟩ = none := ⟨_, rfl, rfl⟩
  obtain ⟨entries, hentries, -⟩ := hclaim _ [] 0 ts ⟨"kick", .kick⟩ hload
  cases hstops.symm.trans hentries

end LogWarden
