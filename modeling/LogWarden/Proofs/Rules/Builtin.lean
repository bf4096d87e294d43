import LogWarden.Proofs.Event.Bindings
import LogWarden.Proofs.Pattern.Expressions
import LogWarden.Proofs.Rules.Classifying

/-!
# The events of the built-in rules

The built-in rules compile, and every built-in kind is bound. The events of one kind are those of
the rules of that kind, whatever the other rules make of a line. So where a kind has a single rule,
what this rule captures in a line decides which event of the kind the line yields.
-/

namespace LogWarden

variable {specs : List RuleSetSpec} {table : RuleTable} {registry : Registry} {rule : RuleSpec}
  {name kind line : String} {caps : Captures} {text : Option String} {e : Event}

/-- The built-in rules have patterns. -/
theorem RuleTable.compile_builtin [PatternWording] :
    ∃ table, compile RuleSetSpec.builtin = .ok table := by
  rw [exists_compile_iff]
  simp only [RuleSetSpec.builtin, RuleSetSpec.uniform, List.map_cons, List.map_nil,
    List.forall_mem_cons, Text.trim, String.toList_append, -String.reduceAppend,
    -String.reduceToList]
  -- The kernel would read the characters of each text out of its bytes.
  repeat rw [String.toList_ofList]
  decide +kernel

/-- Of calls that go through to the end, all are accepted. -/
theorem Registry.accepted_of_run {r r' : Registry} {bs : List Binding}
    (h : (bs.forM enter).run r = .ok () r') : r.accepted bs = bs := by
  induction bs generalizing r with
  | nil => rfl
  | cons b bs ih =>
      change EStateM.bind (enter b) (fun _ => bs.forM enter) r = _ at h
      rw [EStateM.bind] at h
      cases hrun : enter b r with
      | ok u r₁ =>
          rw [hrun] at h
          rw [accepted, show (enter b).run r = .ok u r₁ from hrun]
          exact congrArg (b :: ·) (ih h)
      | error e r₁ =>
          rw [hrun] at h
          cases h

/-- Each built-in kind is bound to its constructor. -/
theorem Registry.find?_builtin {aliases : Aliases} {b : Binding}
    (hb : b ∈ Builtin.bindings aliases) : (builtin aliases).find? b.kind = some b.registration := by
  rw [builtin_eq, find?_afterAll_eq_some_iff, accepted_of_run (run_enterBuiltins aliases)]
  exact .inr ⟨b, hb, rfl, rfl⟩

/-- What a built-in constructor makes of what was found becomes an event. -/
theorem Registry.outcome_builtin {aliases : Aliases} {b : Binding} {payload : Payload}
    (hb : b ∈ Builtin.bindings aliases)
    (h : b.registration.construct b.kind caps = .ok payload) :
    (builtin aliases).outcome b.kind caps = .event ⟨b.kind, payload⟩ :=
  outcome_eq_event_iff.mpr ⟨_, find?_builtin hb, payload, h, rfl⟩

/-- A group has captured what stands beside its name, in whatever order the groups stand. -/
theorem Captures.get?_sortMembers {groups : List (String × Option String)}
    (hnodup : (groups.map Prod.fst).Nodup) (hmem : (name, text) ∈ groups) :
    Captures.get? (Json.sortMembers groups) name = text := by
  have h := Json.sortMembers_keysSorted groups
  rw [← Json.mem_sortMembers_of_nodup hnodup] at hmem
  generalize Json.sortMembers groups = caps at h hmem
  have hfind : caps.find? (·.1 == name) = some (name, text) := by
    induction caps with
    | nil => cases hmem
    | cons cap rest ih =>
        obtain ⟨hfirst, hrest⟩ := List.pairwise_cons.mp h
        rcases List.mem_cons.mp hmem with rfl | hmem
        · exact List.find?_cons_of_pos (beq_self_eq_true name)
        · have hne : cap.1 ≠ name := (hfirst _ hmem).ne
          rw [List.find?_cons_of_neg (by simpa using hne), ih hrest hmem]
  rw [get?, hfind]
  cases text <;> rfl

/-- What a named group of a pattern has captured. -/
theorem Captures.get?_spanText {names : List (String × Nat)} {field : String} {index : Nat}
    (hnodup : (names.map Prod.fst).Nodup) (hmem : (field, index) ∈ names) (line : List Char)
    (place : Pattern.Cursor) :
    Captures.get? (Json.sortMembers (names.map fun n => (n.1, Pattern.spanText line place n.2)))
      field = Pattern.spanText line place index := by
  apply get?_sortMembers
  · simpa [Function.comp_def] using hnodup
  · exact List.mem_map_of_mem hmem

theorem Captures.required_eq_ok {field s : String} (h : caps.get? field = some s) :
    caps.required kind field = .ok s := by
  rw [required, h]

/-- What a pattern captures if there is a way through it from the start of a line. -/
theorem Pattern.captures?_of_first {text : String} {expr : Expr} {names : List (String × Nat)}
    {place : Cursor} (hloops : expr.LoopsOverChars)
    (hfirst : expr.first some (.start line.toList) = some place) :
    (⟨text, (expr.plan 0).1, names⟩ : Pattern).captures? line =
      some (names.map fun n => (n.1, spanText line.toList place n.2)) := by
  have hsearch : ((expr.plan 0).1.search line.toList).map (fun m => (m.1, m.2.still)) =
      some (0, place) := by
    rw [Expr.search_plan hloops]
    exact leftmost_of_eq_some hfirst
  obtain ⟨⟨first, last⟩, hm, heq⟩ := Option.map_eq_some_iff.mp hsearch
  obtain ⟨-, rfl⟩ := Prod.mk.inj heq
  rw [captures?, hm]
  rfl

/-- Where a pattern finds something, a way leads through it from a place of the line. -/
theorem Pattern.exists_leads_of_finds {text : String} {expr : Expr} {names : List (String × Nat)}
    (hloops : expr.LoopsOverChars)
    (h : (⟨text, (expr.plan 0).1, names⟩ : Pattern).Finds line caps) :
    ∃ c d : Cursor, c.IsAt line.toList ∧ expr.Leads c d := by
  obtain ⟨-, first, place, hsearch, -⟩ := h
  have hleftmost := Expr.search_plan hloops line.toList
  rw [hsearch] at hleftmost
  obtain ⟨c, hc, hfirst⟩ := exists_of_leftmost_eq_some (Cursor.isAt_start _) hleftmost.symm
  obtain ⟨d, hd, -⟩ := (Expr.follows_first hloops).sound hfirst
  exact ⟨c, d, hc, hd⟩

namespace RuleSpec

/-- A rule makes events of its own kind only. -/
theorem kind_of_outcome? [PatternWording] (h : rule.outcome? registry name line = some (.event e)) :
    e.kind = Text.trim name := by
  cases hp : Pattern.compile? true rule.regex with
  | none =>
      rw [outcome?, Rule.compile, hp] at h
      cases h
  | some p =>
      obtain ⟨caps, -, -, r, -, payload, -, rfl⟩ := (outcome?_eq_event_iff hp).mp h
      rfl

end RuleSpec

namespace Classifier

theorem kind_of_mem_events [PatternWording] {set : RuleSetSpec}
    (h : e ∈ set.rules.filterMap fun rule =>
      (rule.outcome? registry set.name line).bind Outcome.event?) :
    e.kind = Text.trim set.name := by
  obtain ⟨rule, -, h⟩ := List.mem_filterMap.mp h
  obtain ⟨o, ho, he⟩ := Option.bind_eq_some_iff.mp h
  cases o with
  | event e' =>
      cases he
      exact RuleSpec.kind_of_outcome? ho
  | discarded => cases he

/-- The events of one kind are those of the rules of that kind. -/
theorem filter_classify [PatternWording] (hcompile : RuleTable.compile specs = .ok table)
    (registry : Registry)
    (line kind : String) :
    ((⟨table, registry⟩ : Classifier).classify line).filter (·.kind == kind) =
      (specs.filter (Text.trim ·.name == kind)).flatMap fun set => set.rules.filterMap fun rule =>
        (rule.outcome? registry set.name line).bind Outcome.event? := by
  rw [classify, outcomes_eq hcompile]
  clear hcompile
  induction specs with
  | nil => rfl
  | cons set specs ih =>
      rw [List.flatMap_cons, List.filterMap_append, List.filter_append, ih,
        List.filterMap_filterMap]
      by_cases hkind : Text.trim set.name = kind
      · have hall : ∀ e ∈ set.rules.filterMap fun rule =>
            (rule.outcome? registry set.name line).bind Outcome.event?, (e.kind == kind) = true :=
          fun e he => beq_iff_eq.mpr ((kind_of_mem_events he).trans hkind)
        rw [List.filter_cons_of_pos (by simpa using hkind), List.flatMap_cons,
          List.filter_eq_self.mpr hall]
      · have hnone : ∀ e ∈ set.rules.filterMap fun rule =>
            (rule.outcome? registry set.name line).bind Outcome.event?, ¬(e.kind == kind) = true :=
          fun e he heq => hkind ((kind_of_mem_events he).symm.trans (beq_iff_eq.mp heq))
        rw [List.filter_cons_of_neg (by simpa using hkind), List.filter_eq_nil_iff.mpr hnone,
          List.nil_append]

theorem trim_of_single {rules : List RuleSpec}
    (hsingle : specs.filter (Text.trim ·.name == kind) = [⟨name, rules⟩]) :
    Text.trim name = kind := by
  have hmem : (⟨name, rules⟩ : RuleSetSpec) ∈ specs.filter (Text.trim ·.name == kind) :=
    hsingle ▸ List.mem_singleton_self _
  exact beq_iff_eq.mp (List.mem_filter.mp hmem).2

/-- Where a kind has a single rule, a line yields one event of the kind at most, and none unless a
way leads through the pattern of the rule from a place of the line. -/
theorem filter_classify_of_single [PatternWording] {expr : Pattern.Expr}
    {names : List (String × Nat)}
    (hcompile : RuleTable.compile specs = .ok table)
    (hsingle : specs.filter (Text.trim ·.name == kind) = [⟨name, [rule]⟩])
    (hread : Pattern.read? true rule.regex.toList = some (expr, names))
    (hloops : expr.LoopsOverChars) (registry : Registry) (line : String) :
    ((⟨table, registry⟩ : Classifier).classify line).filter (·.kind == kind) = [] ∨
      (∃ e, ((⟨table, registry⟩ : Classifier).classify line).filter (·.kind == kind) = [e]) ∧
        ∃ c d : Pattern.Cursor, c.IsAt line.toList ∧ expr.Leads c d := by
  obtain rfl := trim_of_single hsingle
  have hp : Pattern.compile? true rule.regex = some ⟨rule.regex, (expr.plan 0).1, names⟩ := by
    rw [Pattern.compile?, hread]
    rfl
  rw [filter_classify hcompile, hsingle]
  simp only [List.flatMap_cons, List.flatMap_nil, List.append_nil]
  rcases houtcome : rule.outcome? registry name line with _ | e | ⟨kind, e⟩
  · simp [houtcome]
  · obtain ⟨caps, hfinds, -⟩ := (RuleSpec.outcome?_eq_event_iff hp).mp houtcome
    exact .inr ⟨⟨e, by simp [houtcome, Outcome.event?]⟩,
      Pattern.exists_leads_of_finds hloops hfinds⟩
  · simp [houtcome, Outcome.event?]

/-- Where a kind has a single rule, what the rule captures decides the event of the kind. Its
pattern captures what the preferred way through it captures, if there is one from the start of the
line. -/
theorem filter_classify_of_first [PatternWording] {expr : Pattern.Expr}
    {names : List (String × Nat)}
    {place : Pattern.Cursor} (hcompile : RuleTable.compile specs = .ok table)
    (hsingle : specs.filter (Text.trim ·.name == kind) = [⟨name, [rule]⟩])
    (hread : Pattern.read? true rule.regex.toList = some (expr, names))
    (hfields : rule.groups = names.map Prod.fst) (hloops : expr.LoopsOverChars)
    (hfirst : expr.first some (.start line.toList) = some place)
    (hevent : registry.outcome kind (Json.sortMembers
      (names.map fun n => (n.1, Pattern.spanText line.toList place n.2))) = .event e) :
    ((⟨table, registry⟩ : Classifier).classify line).filter (·.kind == kind) = [e] := by
  obtain rfl := trim_of_single hsingle
  have hp : Pattern.compile? true rule.regex = some ⟨rule.regex, (expr.plan 0).1, names⟩ := by
    rw [Pattern.compile?, hread]
    rfl
  have hfits : rule.Fits ⟨rule.regex, (expr.plan 0).1, names⟩ :=
    .inr fun _ => by rw [hfields]
  rw [filter_classify hcompile, hsingle]
  simp only [List.flatMap_cons, List.flatMap_nil, List.append_nil, List.filterMap_cons,
    List.filterMap_nil, RuleSpec.outcome?_of_fits hp (Pattern.captures?_of_first hloops hfirst)
      hfits, hevent, Option.bind_some, Outcome.event?]

/-- The event of a kind with a single rule whose pattern is followed from the start of a line, where
it is known what was read in each group. -/
theorem filter_classify_of_captured [PatternWording] {expr : Pattern.Expr}
    {names : List (String × Nat)}
    {captured : List (Nat × List Char)} (hcompile : RuleTable.compile specs = .ok table)
    (hsingle : specs.filter (Text.trim ·.name == kind) = [⟨name, [rule]⟩])
    (hread : Pattern.read? true rule.regex.toList = some (expr, names))
    (hfields : rule.groups = names.map Prod.fst) (hloops : expr.LoopsOverChars)
    (hnodup : (names.map Prod.fst).Nodup)
    (hfirst : ∃ place, expr.first some (.start line.toList) = some place ∧
      ∀ i, Pattern.spanText line.toList place i = (captured.lookup i).map String.ofList)
    (hevent : ∀ caps : Captures,
      (∀ n ∈ names, caps.get? n.1 = (captured.lookup n.2).map String.ofList) →
      registry.outcome kind caps = .event e) :
    ((⟨table, registry⟩ : Classifier).classify line).filter (·.kind == kind) = [e] := by
  obtain ⟨place, hplace, hspans⟩ := hfirst
  refine filter_classify_of_first hcompile hsingle hread hfields hloops hplace ?_
  refine hevent _ fun n hn => ?_
  rw [Captures.get?_spanText hnodup hn, hspans]

end Classifier

end LogWarden
