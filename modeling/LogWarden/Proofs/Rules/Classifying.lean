import LogWarden.Classifier
import LogWarden.Proofs.Json.Sorted
import LogWarden.Proofs.Pattern.Names

/-!
# What a line is classified as

Each rule makes of a line what its own pattern, its own groups and the registry make of it, and the
results of the rules stand in the order of the rules. A rule whose groups are not those of its
pattern makes no event of any line; about every other match the registry alone decides.
-/

namespace LogWarden

/-- What a pattern finds in a line: its named groups, in the order of their names, each with the
text that the match ran over in it, if it took part in the match. -/
def Pattern.Finds (p : Pattern) (line : String) (caps : Captures) : Prop :=
  Json.KeysSorted caps ∧ ∃ start place, p.plan.search line.toList = some (start, place) ∧
    ∀ name text, (name, text) ∈ caps ↔
      ∃ index, (name, index) ∈ p.names ∧ text = spanText line.toList place index

/-- A rule declares the named groups of its pattern. -/
def RuleSpec.DeclaresGroups (rule : RuleSpec) (p : Pattern) : Prop :=
  ∀ name, name ∈ rule.groups ↔ name ∈ p.names.map Prod.fst

/-- A rule declares no groups, which leaves them unchecked, or those of its pattern. -/
def RuleSpec.Fits (rule : RuleSpec) (p : Pattern) : Prop :=
  rule.groups = [] ∨ rule.DeclaresGroups p

/-- What a registry makes of what a rule of a kind has found. -/
def Registry.outcome (r : Registry) (kind : String) (caps : Captures) : Outcome :=
  match r.construct kind caps with
  | .ok payload => .event ⟨kind, payload⟩
  | .error e => .discarded kind e

/-- What a rule of a rule set with a name makes of a line. -/
def RuleSpec.outcome? [PatternWording] (rule : RuleSpec) (registry : Registry)
    (name line : String) :
    Option Outcome :=
  match Rule.compile (Text.trim name) rule with
  | .ok compiled => (⟨⟨[]⟩, registry⟩ : Classifier).apply (Text.trim name) compiled line
  | .error _ => none

variable {p : Pattern} {line : String} {caps : Captures} {registry : Registry}

/-! ## Captures -/

theorem Pattern.captures?_keys {groups : List (String × Option String)}
    (h : p.captures? line = some groups) : groups.map Prod.fst = p.names.map Prod.fst := by
  obtain ⟨⟨_, place⟩, -, rfl⟩ := Option.map_eq_some_iff.mp h
  simp [Function.comp_def]

/-- A pattern whose names differ finds what it captures, sorted by names. -/
theorem Pattern.finds_iff (hnames : (p.names.map Prod.fst).Nodup) :
    p.Finds line caps ↔
      ∃ groups, p.captures? line = some groups ∧ caps = Json.sortMembers groups := by
  have hmem {place : Cursor} (name : String) (text : Option String) :
      (name, text) ∈ Json.sortMembers
          (p.names.map fun n => (n.1, spanText line.toList place n.2)) ↔
        ∃ index, (name, index) ∈ p.names ∧ text = spanText line.toList place index := by
    rw [Json.mem_sortMembers_of_nodup (by simpa [Function.comp_def] using hnames)]
    simp [eq_comm]
  constructor
  · rintro ⟨hsorted, start, place, hsearch, hcaps⟩
    refine ⟨_, Option.map_eq_some_iff.mpr ⟨_, hsearch, rfl⟩, ?_⟩
    apply hsorted.eq_of_mem_iff (Json.sortMembers_keysSorted _)
    rintro ⟨name, text⟩
    rw [hcaps, hmem]
  · rintro ⟨groups, hgroups, rfl⟩
    obtain ⟨⟨start, place⟩, hsearch, rfl⟩ := Option.map_eq_some_iff.mp hgroups
    exact ⟨Json.sortMembers_keysSorted _, start, place, hsearch, hmem⟩

/-! ## Declared groups -/

theorem mem_sortNames {name : String} {names : List String} :
    name ∈ sortNames names ↔ name ∈ names := by
  rw [sortNames, Json.mem_keys_sortMembers]
  simp

theorem sortNames_eq_nil_iff {names : List String} : sortNames names = [] ↔ names = [] := by
  simp only [List.eq_nil_iff_forall_not_mem, mem_sortNames]

/-- The groups of a match are those that a rule declares if the rule declares those of its
pattern. -/
theorem RuleSpec.keys_eq_required_iff {rule : RuleSpec} {groups : List (String × Option String)}
    (h : p.captures? line = some groups) :
    (Json.sortMembers groups).map Prod.fst = sortNames rule.groups ↔ rule.DeclaresGroups p := by
  rw [sortNames, (Json.sortMembers_keysSorted _).keys_eq_iff (Json.sortMembers_keysSorted _)]
  simp only [Json.mem_keys_sortMembers, Pattern.captures?_keys h, DeclaresGroups]
  simp [iff_comm]

/-! ## A single rule -/

theorem Rule.compile_eq_ok_iff [PatternWording] {kind : String} {spec : RuleSpec} {rule : Rule} :
    compile kind spec = .ok rule ↔
      ∃ p, Pattern.compile? true spec.regex = some p ∧ rule = ⟨p, sortNames spec.groups⟩ := by
  unfold compile
  cases Pattern.compile? true spec.regex <;> simp [eq_comm]

theorem Rule.exists_compile_iff [PatternWording] {kind : String} {spec : RuleSpec} :
    (∃ rule, compile kind spec = .ok rule) ↔
      (Pattern.read? true spec.regex.toList).isSome = true := by
  simp [Rule.compile_eq_ok_iff, Pattern.compile?, Option.isSome_iff_exists]

/-- A registry makes an event of what was found exactly if the kind is bound to a constructor that
takes it. -/
theorem Registry.outcome_eq_event_iff {kind : String} {e : Event} :
    registry.outcome kind caps = .event e ↔
      ∃ r, registry.find? kind = some r ∧
        ∃ payload, r.construct kind caps = .ok payload ∧ e = ⟨kind, payload⟩ := by
  unfold outcome construct
  cases registry.find? kind with
  | none => simp
  | some r => cases hr : r.construct kind caps <;> simp [hr, eq_comm]

theorem Registry.construct_of_discarded {kind kind' : String} {e : ClassifyError}
    (h : registry.outcome kind caps = .discarded kind' e) :
    registry.construct kind' caps = .error e := by
  unfold outcome at h
  split at h
  · cases h
  · cases h
    assumption

namespace RuleSpec

variable {rule : RuleSpec} {name kind : String}

/-- The groups of a match are held against those that are declared exactly if the rule does not
fit. -/
theorem mismatch_iff {groups : List (String × Option String)}
    (h : p.captures? line = some groups) :
    (sortNames rule.groups ≠ [] ∧
      (Json.sortMembers groups).map Prod.fst ≠ sortNames rule.groups) ↔ ¬rule.Fits p := by
  rw [Fits, not_or, ne_eq, sortNames_eq_nil_iff, ne_eq, keys_eq_required_iff h]

theorem outcome?_eq [PatternWording] (hp : Pattern.compile? true rule.regex = some p) :
    rule.outcome? registry name line =
      (⟨⟨[]⟩, registry⟩ : Classifier).apply (Text.trim name) ⟨p, sortNames rule.groups⟩ line := by
  rw [outcome?, Rule.compile_eq_ok_iff.mpr ⟨p, hp, rfl⟩]

theorem outcome?_of_fits [PatternWording] {groups : List (String × Option String)}
    (hp : Pattern.compile? true rule.regex = some p) (h : p.captures? line = some groups)
    (hfits : rule.Fits p) :
    rule.outcome? registry name line =
      some (registry.outcome (Text.trim name) (Json.sortMembers groups)) := by
  have hbuild : (⟨⟨[]⟩, registry⟩ : Classifier).build (Text.trim name)
      ⟨p, sortNames rule.groups⟩ (Json.sortMembers groups) =
        (registry.construct (Text.trim name) (Json.sortMembers groups)).map (⟨Text.trim name, ·⟩) :=
    if_neg (mt (mismatch_iff h).mp (not_not.mpr hfits))
  rw [outcome?_eq hp, Classifier.apply, h, Option.map_some, hbuild, Registry.outcome]
  cases registry.construct (Text.trim name) (Json.sortMembers groups) <;> rfl

theorem outcome?_of_not_fits [PatternWording] {groups : List (String × Option String)}
    (hp : Pattern.compile? true rule.regex = some p) (h : p.captures? line = some groups)
    (hfits : ¬rule.Fits p) :
    rule.outcome? registry name line = some (.discarded (Text.trim name)
      (.fieldMismatch (Text.trim name) (sortNames rule.groups)
        ((Json.sortMembers groups).map Prod.fst))) := by
  have hbuild : (⟨⟨[]⟩, registry⟩ : Classifier).build (Text.trim name)
      ⟨p, sortNames rule.groups⟩ (Json.sortMembers groups) =
        .error (.fieldMismatch (Text.trim name) (sortNames rule.groups)
          ((Json.sortMembers groups).map Prod.fst)) :=
    if_pos ((mismatch_iff h).mpr hfits)
  rw [outcome?_eq hp, Classifier.apply, h, Option.map_some, hbuild]

/-- What a rule makes of a line: nothing unless its pattern finds something in it, and then what the
registry makes of that if the rule fits. -/
theorem outcome?_eq_some_iff [PatternWording] (hp : Pattern.compile? true rule.regex = some p)
    {o : Outcome} :
    rule.outcome? registry name line = some o ↔
      ∃ caps, p.Finds line caps ∧
        (rule.Fits p ∧ registry.outcome (Text.trim name) caps = o ∨
          ¬rule.Fits p ∧ .discarded (Text.trim name) (.fieldMismatch (Text.trim name)
            (sortNames rule.groups) (caps.map Prod.fst)) = o) := by
  simp only [Pattern.finds_iff (Pattern.names_nodup hp)]
  cases hgroups : p.captures? line with
  | none => simp [outcome?_eq hp, Classifier.apply, hgroups]
  | some groups =>
      by_cases hfits : rule.Fits p
      · simp [outcome?_of_fits hp hgroups hfits, hfits]
      · simp [outcome?_of_not_fits hp hgroups hfits, hfits]

/-- A rule makes an event of a line exactly if it matches and fits and its kind is bound to a
constructor that takes what was found. -/
theorem outcome?_eq_event_iff [PatternWording] (hp : Pattern.compile? true rule.regex = some p)
    {e : Event} :
    rule.outcome? registry name line = some (.event e) ↔
      ∃ caps, p.Finds line caps ∧ rule.Fits p ∧ ∃ r, registry.find? (Text.trim name) = some r ∧
        ∃ payload, r.construct (Text.trim name) caps = .ok payload ∧
          e = ⟨Text.trim name, payload⟩ := by
  rw [outcome?_eq_some_iff hp]
  refine exists_congr fun caps => and_congr_right fun _ => ?_
  simp only [reduceCtorEq, and_false, or_false, Registry.outcome_eq_event_iff]

/-- A rule that fits is discarded by the registry only. -/
theorem construct_of_discarded [PatternWording] (hp : Pattern.compile? true rule.regex = some p)
    (hfits : rule.Fits p) {e : ClassifyError}
    (h : rule.outcome? registry name line = some (.discarded kind e)) :
    ∃ caps, p.Finds line caps ∧ registry.construct kind caps = .error e := by
  obtain ⟨caps, hfinds, ⟨-, ho⟩ | ⟨hnot, -⟩⟩ := (outcome?_eq_some_iff hp).mp h
  · exact ⟨caps, hfinds, Registry.construct_of_discarded ho⟩
  · exact absurd hfits hnot

end RuleSpec

/-! ## Tables -/

theorem exists_of_mem_of_forall₂ {α β : Type} {R : α → β → Prop} {as : List α} {bs : List β}
    {a : α} (h : List.Forall₂ R as bs) (ha : a ∈ as) : ∃ b, R a b := by
  induction h with
  | nil => cases ha
  | cons hab _ ih =>
      rcases List.mem_cons.mp ha with rfl | ha
      · exact ⟨_, hab⟩
      · exact ih ha

theorem RuleSet.compile_eq_ok [PatternWording] {spec : RuleSetSpec} {set : RuleSet}
    (h : compile spec = .ok set) :
    set.kind = Text.trim spec.name ∧
      List.Forall₂ (fun rule compiled => Rule.compile (Text.trim spec.name) rule = .ok compiled)
        spec.rules set.rules := by
  unfold compile at h
  dsimp only at h
  split at h
  · cases h
  · obtain ⟨rules, hrules, h⟩ := bind_eq_ok_iff.mp h
    cases h
    exact ⟨rfl, mapM_eq_ok_iff.mp hrules⟩

theorem RuleSet.exists_compile_iff [PatternWording] {spec : RuleSetSpec} :
    (∃ set, compile spec = .ok set) ↔ (Text.trim spec.name).isEmpty = false ∧
      ∀ rule ∈ spec.rules, (Pattern.read? true rule.regex.toList).isSome = true := by
  rw [compile]
  split
  · simp [*]
  · simp [*, exists_bind_eq_ok_iff, exists_mapM_eq_ok_iff, Rule.exists_compile_iff, pure,
      Except.pure]

theorem RuleTable.compile_eq_ok_iff [PatternWording] {specs : List RuleSetSpec}
    {table : RuleTable} :
    compile specs = .ok table ↔
      List.Forall₂ (fun spec set => RuleSet.compile spec = .ok set) specs table.sets := by
  rw [← mapM_eq_ok_iff, compile, bind_eq_ok_iff]
  constructor
  · rintro ⟨sets, hsets, h⟩
    cases h
    exact hsets
  · intro h
    exact ⟨table.sets, h, rfl⟩

/-- A table is compiled if its kinds have names and its patterns can be read. -/
theorem RuleTable.exists_compile_iff [PatternWording] {specs : List RuleSetSpec} :
    (∃ table, compile specs = .ok table) ↔ ∀ spec ∈ specs,
      (Text.trim spec.name).isEmpty = false ∧
        ∀ rule ∈ spec.rules, (Pattern.read? true rule.regex.toList).isSome = true := by
  simp only [← RuleSet.exists_compile_iff, ← exists_mapM_eq_ok_iff, compile, exists_bind_eq_ok_iff]
  simp [pure, Except.pure]

/-- The rules of a compiled table have patterns. -/
theorem RuleTable.exists_pattern [PatternWording] {specs : List RuleSetSpec} {table : RuleTable}
    (hcompile : compile specs = .ok table) {set : RuleSetSpec} (hset : set ∈ specs)
    {rule : RuleSpec} (hrule : rule ∈ set.rules) :
    ∃ p, Pattern.compile? true rule.regex = some p := by
  obtain ⟨compiled, hcompiled⟩ := exists_of_mem_of_forall₂ (compile_eq_ok_iff.mp hcompile) hset
  obtain ⟨_, h⟩ := exists_of_mem_of_forall₂ (RuleSet.compile_eq_ok hcompiled).2 hrule
  obtain ⟨p, hp, -⟩ := Rule.compile_eq_ok_iff.mp h
  exact ⟨p, hp⟩

namespace Classifier

variable {specs : List RuleSetSpec} {table table' : RuleTable}

/-- The outcomes of a line are those of the rules, one by one. -/
theorem outcomes_eq [PatternWording] (hcompile : RuleTable.compile specs = .ok table)
    (registry : Registry)
    (line : String) :
    (⟨table, registry⟩ : Classifier).outcomes line = specs.flatMap fun set =>
      set.rules.filterMap fun rule => rule.outcome? registry set.name line := by
  symm
  rw [outcomes, ← List.forall₂_eq_eq_eq]
  refine List.rel_flatMap (RuleTable.compile_eq_ok_iff.mp hcompile) fun spec set hset => ?_
  obtain ⟨hkind, hrules⟩ := RuleSet.compile_eq_ok hset
  refine List.rel_filterMap (fun rule compiled hrule => ?_) hrules
  have happly : rule.outcome? registry spec.name line =
      (⟨table, registry⟩ : Classifier).apply set.kind compiled line := by
    rw [RuleSpec.outcome?, hrule, hkind]
    rfl
  rw [happly]
  cases (⟨table, registry⟩ : Classifier).apply set.kind compiled line <;> constructor
  rfl

/-- What a table makes of a line does not depend on the tables around it. -/
theorem classify_append (sets sets' : List RuleSet) (registry : Registry) (line : String) :
    (⟨⟨sets ++ sets'⟩, registry⟩ : Classifier).classify line =
      (⟨⟨sets⟩, registry⟩ : Classifier).classify line ++
        (⟨⟨sets'⟩, registry⟩ : Classifier).classify line := by
  simp only [classify, outcomes, List.flatMap_append, List.filterMap_append]
  rfl

end Classifier

/-- The events of a line are those of the rules of a compiled table, in order, and so are the
matches that are discarded. A rule makes an event of a line exactly if it matches, declares no
groups or those of its pattern, and is of a kind that is bound to a constructor that takes what was
found. If it declares others, it makes no event of any line; if it declares those of its pattern,
only the registry discards a match. Tables put together make of a line what each of them makes of
it. -/
theorem classifies_exactly [PatternWording] {specs : List RuleSetSpec} {table : RuleTable}
    (hcompile : RuleTable.compile specs = .ok table) (registry : Registry) :
    (∀ line, (⟨table, registry⟩ : Classifier).classify line = specs.flatMap fun set =>
      set.rules.filterMap fun rule =>
        (rule.outcome? registry set.name line).bind Outcome.event?) ∧
    (∀ line, (⟨table, registry⟩ : Classifier).discarded line = specs.flatMap fun set =>
      set.rules.filterMap fun rule =>
        (rule.outcome? registry set.name line).bind Outcome.discarded?) ∧
    (∀ set ∈ specs, ∀ rule ∈ set.rules, ∃ p, Pattern.compile? true rule.regex = some p ∧
      (∀ line e, rule.outcome? registry set.name line = some (.event e) ↔
        ∃ caps, p.Finds line caps ∧ (rule.groups = [] ∨ rule.DeclaresGroups p) ∧
          ∃ r, registry.find? (Text.trim set.name) = some r ∧
            ∃ payload, r.construct (Text.trim set.name) caps = .ok payload ∧
              e = ⟨Text.trim set.name, payload⟩) ∧
      (rule.groups ≠ [] → ¬rule.DeclaresGroups p →
        ∀ line e, rule.outcome? registry set.name line ≠ some (.event e)) ∧
      (rule.DeclaresGroups p → ∀ line kind e,
        rule.outcome? registry set.name line = some (.discarded kind e) →
          ∃ caps, p.Finds line caps ∧ registry.construct kind caps = .error e)) ∧
    ∀ specs' table', RuleTable.compile specs' = .ok table' →
      RuleTable.compile (specs ++ specs') = .ok ⟨table.sets ++ table'.sets⟩ ∧
        ∀ line, (⟨⟨table.sets ++ table'.sets⟩, registry⟩ : Classifier).classify line =
          (⟨table, registry⟩ : Classifier).classify line ++
            (⟨table', registry⟩ : Classifier).classify line := by
  refine ⟨fun line => ?_, fun line => ?_, fun set hset rule hrule => ?_, fun specs' table' h => ?_⟩
  · rw [Classifier.classify, Classifier.outcomes_eq hcompile]
    simp only [List.filterMap_flatMap, List.filterMap_filterMap]
  · rw [Classifier.discarded, Classifier.outcomes_eq hcompile]
    simp only [List.filterMap_flatMap, List.filterMap_filterMap]
  · obtain ⟨p, hp⟩ := RuleTable.exists_pattern hcompile hset hrule
    refine ⟨p, hp, fun line e => RuleSpec.outcome?_eq_event_iff hp, ?_, ?_⟩
    · intro hgroups hdiffer line e ho
      obtain ⟨_, -, hfits, -⟩ := (RuleSpec.outcome?_eq_event_iff hp).mp ho
      exact hfits.elim hgroups hdiffer
    · intro hsame line kind e ho
      exact RuleSpec.construct_of_discarded hp (.inr hsame) ho
  · constructor
    · rw [RuleTable.compile_eq_ok_iff] at hcompile h ⊢
      exact List.rel_append hcompile h
    · exact Classifier.classify_append table.sets table'.sets registry

/-- Rules for those who join: the second declares another group than its pattern has. -/
def joinRules : RuleSetSpec :=
  ⟨" join ", [⟨"!(?P<player>1)", ["player"]⟩, ⟨"!(?P<name>1)", ["player"]⟩]⟩

/-- Of a line that both rules match, only the first makes an event. -/
theorem classifies_exactly_of_joins :
    ∃ table, RuleTable.compile [joinRules] = .ok table ∧
      (⟨table, .builtin []⟩ : Classifier).classify "!1" = [⟨"join", .join "1"⟩] ∧
      (⟨table, .builtin []⟩ : Classifier).discarded "!1" =
        [("join", .fieldMismatch "join" ["player"] ["name"])] := by
  obtain ⟨table, hcompile⟩ : ∃ table, RuleTable.compile [joinRules] = .ok table := ⟨_, rfl⟩
  obtain ⟨hevents, hdiscarded, -⟩ := classifies_exactly hcompile (.builtin [])
  exact ⟨table, hcompile, (hevents "!1").trans rfl, (hdiscarded "!1").trans rfl⟩

end LogWarden
