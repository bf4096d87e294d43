import LogWarden.Proofs.Json.Sorted
import LogWarden.Proofs.Trigger.Overflow

/-!
# The grammar of triggers

A list of rules is loaded exactly if each of them is grammatical: it names an event kind and a
command, its patterns can be read, and its chain leads from stage to stage to one at which a command
can be finished. Otherwise the error names the first rule that is not, and of what is wrong with it
what comes first. Limits that no duration can hold are left out: they stop the program.
-/

namespace LogWarden

/-- Seconds are a number that is finite and not negative. -/
def Argument.IsSeconds (v : Option Json) : Prop :=
  ∃ n, v = some (.num n) ∧ n.toBinary64.isFinite = true ∧ n.toBinary64.isNegative = false

namespace Stage

/-- An entry of a chain sets a limit, or makes a call that the stage offers and that leads on to
another stage. -/
inductive Takes (s : Stage) : List Json → Stage → Prop
  | limit {args : List Json} (h : Argument.IsSeconds args.head?) :
      Takes s (.str "timeout" :: args) s
  | call {m : Method} {args : List Json} (h : m ∈ s.methods) :
      Takes s (.str m.name :: args) (m.next s)

/-- A chain leads from a stage to another. -/
inductive Leads : Stage → List (List Json) → Stage → Prop
  | nil {s : Stage} : Leads s [] s
  | cons {s s₁ s' : Stage} {entry : List Json} {rest : List (List Json)}
      (first : s.Takes entry s₁) (tail : Leads s₁ rest s') : Leads s (entry :: rest) s'

/-- Why a stage does not take the entry at a position. -/
inductive Refuses (s : Stage) (position : Nat) : List Json → String → Prop
  | shape {entry : List Json} (h : ∀ name args, entry ≠ .str name :: args) :
      Refuses s position entry
        ("chain entry #" ++ natText position ++ " must be [method, args...]")
  | limit {args : List Json} (h : ¬Argument.IsSeconds args.head?) :
      Refuses s position (.str "timeout" :: args)
        (CommandError.invalidArgument "timeout"
          ("expected non-negative seconds, got " ++ Argument.show? args.head?)).message
  | call {name : String} {args : List Json} (hname : name ≠ "timeout")
      (h : ∀ m ∈ s.methods, m.name ≠ name) :
      Refuses s position (.str name :: args) (CommandError.notAllowed s.name name).message

end Stage

/-- If a condition is a pattern, it can be read. -/
def Condition.IsReadable (v : Json) : Prop :=
  ∀ pattern, v = .str ("re:" ++ pattern) → (Pattern.compile? false pattern).isSome

namespace TriggerSpec

/-- What a rule has to be. -/
structure Grammatical (spec : TriggerSpec) : Prop where
  on : Text.isBlank spec.on = false
  conditions : ∀ c ∈ spec.conditions, Condition.IsReadable c.2
  action : ∃ command : Command, spec.action.action = command.stage.name ∧
    ∃ s, command.stage.Leads spec.action.chain s ∧ s ≠ .landEdit

/-- What is wrong with a rule: of all that is, what comes first. -/
inductive FirstFault [PatternWording] (spec : TriggerSpec) : String → Prop
  | on (h : Text.isBlank spec.on = true) : FirstFault spec "'on' names no event kind"
  | condition {before after : List (String × Json)} {field pattern : String}
      (hon : Text.isBlank spec.on = false)
      (heq : spec.conditions = before ++ (field, .str ("re:" ++ pattern)) :: after)
      (hbefore : ∀ c ∈ before, Condition.IsReadable c.2)
      (h : Pattern.compile? false pattern = none) :
      FirstFault spec ("invalid regex '" ++ pattern ++ "': " ++ PatternWording.fault pattern)
  | action (hon : Text.isBlank spec.on = false)
      (hconditions : ∀ c ∈ spec.conditions, Condition.IsReadable c.2)
      (h : ∀ command : Command, spec.action.action ≠ command.stage.name) :
      FirstFault spec ("unknown action '" ++ spec.action.action ++ "'")
  | entry {command : Command} {before after : List (List Json)} {entry : List Json} {s : Stage}
      {reason : String} (hon : Text.isBlank spec.on = false)
      (hconditions : ∀ c ∈ spec.conditions, Condition.IsReadable c.2)
      (haction : spec.action.action = command.stage.name)
      (heq : spec.action.chain = before ++ entry :: after)
      (hbefore : command.stage.Leads before s) (h : s.Refuses before.length entry reason) :
      FirstFault spec reason
  | edit {command : Command} (hon : Text.isBlank spec.on = false)
      (hconditions : ∀ c ∈ spec.conditions, Condition.IsReadable c.2)
      (haction : spec.action.action = command.stage.name)
      (h : command.stage.Leads spec.action.chain .landEdit) :
      FirstFault spec "'edit' must be followed by 'trust' or 'claim'"

/-- No limit of a rule is too long. -/
def LimitsFit (spec : TriggerSpec) : Prop :=
  ∀ entry ∈ spec.action.chain, ¬Trigger.LimitTooLong entry

end TriggerSpec

variable {index position : Nat} {name reason : String}

/-! ## Entries -/

theorem Argument.seconds_eq_command_iff (method : String) {v : Option Json} {e : CommandError} :
    seconds method v = .error (.command e) ↔
      ¬IsSeconds v ∧
        e = .invalidArgument method ("expected non-negative seconds, got " ++ show? v) := by
  fun_cases seconds method v <;>
    grind [IsSeconds, unexpected]

theorem Argument.exists_seconds_iff (method : String) {v : Option Json} :
    (∃ d, seconds method v = .ok d) ↔ IsSeconds v ∧ ¬TooLong v := by
  rw [← seconds_eq_overflow_iff method]
  fun_cases seconds method v <;>
    grind [IsSeconds, unexpected]

theorem Stage.method?_eq_some_iff {s : Stage} {m : Method} :
    s.method? name = some m ↔ m ∈ s.methods ∧ m.name = name := by
  refine ⟨method?_mem, ?_⟩
  rintro ⟨hmem, rfl⟩
  revert hmem
  cases s <;> simp only [methods, List.mem_cons, List.not_mem_nil, or_false] <;>
    rintro (rfl | rfl | rfl | rfl | rfl) <;> rfl

theorem Stage.method?_eq_none_iff {s : Stage} :
    s.method? name = none ↔ ∀ m ∈ s.methods, m.name ≠ name := by
  simp [method?]

theorem Command.ofName?_eq_some_iff {command : Command} :
    ofName? name = some command ↔ name = command.stage.name := by
  constructor
  · intro h
    have hname := List.find?_some (p := fun c : Command => c.stage.name == name) h
    exact (eq_of_beq hname).symm
  · rintro rfl
    cases command <;> rfl

theorem Command.ofName?_eq_none_iff :
    ofName? name = none ↔ ∀ command : Command, name ≠ command.stage.name := by
  rw [Option.eq_none_iff_forall_ne_some]
  simp only [ne_eq, ofName?_eq_some_iff]

namespace Trigger

variable {s s' : ChainState} {stage : Stage} {entry : List Json} {chain : List (List Json)}
  {spec : TriggerSpec} {e : ConfigError} {t : Trigger}

theorem takes_of_compileEntry (h : compileEntry index s position entry = .ok s') :
    s.stage.Takes entry s'.stage := by
  revert h
  fun_cases compileEntry index s position entry <;> rintro ⟨⟩
  case case1 args d hd => exact .limit ((Argument.exists_seconds_iff _).mp ⟨d, hd⟩).1
  case case4 name args hname m hm =>
    obtain ⟨hmem, rfl⟩ := Stage.method?_eq_some_iff.mp hm
    exact .call hmem

theorem compileEntry_of_takes (index position : Nat) (h : s.stage.Takes entry stage)
    (hfit : ¬LimitTooLong entry) :
    ∃ s', compileEntry index s position entry = .ok s' ∧ s'.stage = stage := by
  cases h with
  | @limit args hseconds =>
      have hshort : ¬Argument.TooLong args.head? := fun hlong => hfit ⟨args, rfl, hlong⟩
      obtain ⟨d, hd⟩ := (Argument.exists_seconds_iff "timeout").mpr ⟨hseconds, hshort⟩
      exact ⟨{ s with limit := some d }, by simp [compileEntry, hd], rfl⟩
  | @call m args hmem =>
      have hm : s.stage.method? m.name = some m := Stage.method?_eq_some_iff.mpr ⟨hmem, rfl⟩
      have hname : m.name ≠ "timeout" := by cases m <;> decide
      exact ⟨⟨m.next s.stage, s.calls ++ [(m, args)], s.limit⟩,
        by simp [compileEntry, hname, hm], rfl⟩

theorem compileEntry_eq_error_iff :
    compileEntry index s position entry = .error (.config e) ↔
      ∃ reason, s.stage.Refuses position entry reason ∧ e = .invalidTrigger index reason := by
  constructor
  · intro h
    revert h
    fun_cases compileEntry index s position entry <;> rintro ⟨⟩
    case case2 args fault hfault =>
      obtain ⟨hseconds, rfl⟩ := (Argument.seconds_eq_command_iff _).mp hfault
      exact ⟨_, .limit hseconds, rfl⟩
    case case5 name args hname hnone =>
      exact ⟨_, .call hname (Stage.method?_eq_none_iff.mp hnone), rfl⟩
    case case6 hshape => exact ⟨_, .shape hshape, rfl⟩
  · rintro ⟨reason, hrefuses, rfl⟩
    cases hrefuses with
    | shape hshape =>
        unfold compileEntry
        split
        · exact absurd rfl (hshape _ _)
        · rfl
    | limit hseconds =>
        have hfault := (Argument.seconds_eq_command_iff "timeout").mpr ⟨hseconds, rfl⟩
        simp [compileEntry, hfault, invalid]
    | call hname hnone =>
        simp [compileEntry, hname, Stage.method?_eq_none_iff.mpr hnone, invalid]

theorem leads_of_compileChain (h : compileChain index s position chain = .ok s') :
    s.stage.Leads chain s'.stage := by
  induction chain generalizing s position with
  | nil =>
      cases h
      exact .nil
  | cons entry rest ih =>
      obtain ⟨s₁, hentry, hrest⟩ := bind_eq_ok_iff.mp h
      exact .cons (takes_of_compileEntry hentry) (ih hrest)

theorem compileChain_of_leads (index position : Nat) (h : s.stage.Leads chain stage)
    (hfit : ∀ entry ∈ chain, ¬LimitTooLong entry) :
    ∃ s', compileChain index s position chain = .ok s' ∧ s'.stage = stage := by
  induction chain generalizing s position with
  | nil =>
      cases h
      exact ⟨s, rfl, rfl⟩
  | cons entry rest ih =>
      obtain ⟨hentry, hrest⟩ := List.forall_mem_cons.mp hfit
      cases h with
      | cons first tail =>
          obtain ⟨s₁, hs₁, rfl⟩ := compileEntry_of_takes index position first hentry
          obtain ⟨s', hs', hstage⟩ := ih (position + 1) tail hrest
          exact ⟨s', bind_eq_ok_iff.mpr ⟨s₁, hs₁, hs'⟩, hstage⟩

/-- The chain of a rule is refused at the first entry that the stage behind the others does not
take. -/
theorem compileChain_eq_error_iff (hfit : ∀ entry ∈ chain, ¬LimitTooLong entry) :
    compileChain index s position chain = .error (.config e) ↔
      ∃ before entry after, chain = before ++ entry :: after ∧
        ∃ stage reason, s.stage.Leads before stage ∧
          stage.Refuses (position + before.length) entry reason ∧
            e = .invalidTrigger index reason := by
  induction chain generalizing s position with
  | nil => simp [compileChain]
  | cons first rest ih =>
      obtain ⟨hfirst, hrest⟩ := List.forall_mem_cons.mp hfit
      rw [compileChain, bind_eq_error_iff, compileEntry_eq_error_iff]
      constructor
      · rintro (⟨reason, hrefuses, rfl⟩ | ⟨s₁, hentry, h⟩)
        · exact ⟨[], first, rest, rfl, s.stage, reason, .nil, hrefuses, rfl⟩
        · obtain ⟨before, entry, after, rfl, stage, reason, hleads, hrefuses, rfl⟩ :=
            (ih hrest).mp h
          refine ⟨first :: before, entry, after, rfl, stage, reason,
            .cons (takes_of_compileEntry hentry) hleads, ?_, rfl⟩
          rwa [List.length_cons, Nat.add_comm before.length 1, ← Nat.add_assoc]
      · rintro ⟨before, entry, after, heq, stage, reason, hleads, hrefuses, rfl⟩
        cases hleads with
        | nil =>
            obtain ⟨rfl, rfl⟩ := List.cons.inj heq
            exact .inl ⟨reason, hrefuses, rfl⟩
        | @cons _ _ _ _ before htakes htail =>
            obtain ⟨rfl, rfl⟩ := List.cons.inj heq
            obtain ⟨s₁, hs₁, rfl⟩ := compileEntry_of_takes index position htakes hfirst
            refine .inr ⟨s₁, hs₁, (ih hrest).mpr
              ⟨before, entry, after, rfl, stage, reason, htail, ?_, rfl⟩⟩
            rwa [List.length_cons, Nat.add_comm before.length 1, ← Nat.add_assoc] at hrefuses

/-- The limit that an entry of a chain sets. -/
def limitOf? : List Json → Option Nanos
  | .str name :: args =>
    if name = "timeout" then (Argument.seconds "timeout" args.head?).toOption else none
  | _ => none

theorem compileEntry_limit (h : compileEntry index s position entry = .ok s') :
    s'.limit = (limitOf? entry).or s.limit := by
  revert h
  fun_cases compileEntry index s position entry <;> rintro ⟨⟩
  case case1 args d hd => simp [limitOf?, hd, Except.toOption]
  case case4 name args hname m hm => simp [limitOf?, hname]

/-- The last limit of a chain counts. -/
theorem compileChain_limit (h : compileChain index s position chain = .ok s') :
    s'.limit = (chain.filterMap limitOf?).getLast?.or s.limit := by
  induction chain generalizing s position with
  | nil =>
      cases h
      rfl
  | cons entry rest ih =>
      obtain ⟨s₁, hentry, hrest⟩ := bind_eq_ok_iff.mp h
      rw [ih hrest, compileEntry_limit hentry, List.filterMap_cons]
      cases limitOf? entry with
      | none => rfl
      | some d => cases hlast : (rest.filterMap limitOf?).getLast? <;>
          simp [List.getLast?_cons, hlast]

end Trigger

/-! ## Conditions -/

section Loading
variable [PatternWording]

theorem Condition.compile_mark (pattern : String) :
    compile (.str ("re:" ++ pattern)) = match Pattern.compile? false pattern with
      | some p => .ok (.found p)
      | none => .error ("invalid regex '" ++ pattern ++ "': " ++ PatternWording.fault pattern) := by
  have htext : ("re:" ++ pattern).toList = patternMark ++ pattern.toList := String.toList_append
  have hmark : patternMark.isPrefixOf (patternMark ++ pattern.toList) = true :=
    List.isPrefixOf_iff_prefix.mpr (List.prefix_append _ _)
  cases hpattern : Pattern.compile? false pattern <;>
    simp only [compile, htext, hmark, if_true, List.drop_left, String.ofList_toList, hpattern]

theorem Condition.compile_text {s : String} (h : ∀ pattern, s ≠ "re:" ++ pattern) :
    compile (.str s) = .ok (.equals (.str s)) := by
  have hmark : patternMark.isPrefixOf s.toList = false := by
    refine Bool.eq_false_iff.mpr fun hmark => h (String.ofList (s.toList.drop 3)) ?_
    have heq := List.prefix_iff_eq_append.mp (List.isPrefixOf_iff_prefix.mp hmark)
    have htext : s = String.ofList (patternMark ++ s.toList.drop patternMark.length) := by
      rw [heq, String.ofList_toList]
    rwa [String.ofList_append] at htext
  simp [compile, hmark]

theorem Condition.compile_of_no_mark {v : Json} (h : ∀ pattern, v ≠ .str ("re:" ++ pattern)) :
    ∃ c, compile v = .ok c := by
  cases v with
  | str s => exact ⟨_, compile_text fun pattern heq => h pattern (congrArg Json.str heq)⟩
  | _ => exact ⟨_, rfl⟩

theorem Condition.compile_eq_error_iff {v : Json} :
    compile v = .error reason ↔
      ∃ pattern, v = .str ("re:" ++ pattern) ∧ Pattern.compile? false pattern = none ∧
        reason = "invalid regex '" ++ pattern ++ "': " ++ PatternWording.fault pattern := by
  constructor
  · intro h
    by_cases hmark : ∃ pattern, v = .str ("re:" ++ pattern)
    · obtain ⟨pattern, rfl⟩ := hmark
      rw [compile_mark] at h
      cases hpattern : Pattern.compile? false pattern with
      | some p => simp [hpattern] at h
      | none =>
          rw [hpattern] at h
          cases h
          exact ⟨pattern, rfl, hpattern, rfl⟩
    · obtain ⟨c, hc⟩ := compile_of_no_mark (not_exists.mp hmark)
      rw [hc] at h
      cases h
  · rintro ⟨pattern, rfl, hpattern, rfl⟩
    rw [compile_mark, hpattern]

theorem Condition.exists_compile_iff {v : Json} : (∃ c, compile v = .ok c) ↔ IsReadable v := by
  constructor
  · rintro ⟨c, hc⟩ pattern rfl
    rw [compile_mark] at hc
    cases hpattern : Pattern.compile? false pattern with
    | some p => rfl
    | none => simp [hpattern] at hc
  · intro h
    cases hc : compile v with
    | ok c => exact ⟨c, rfl⟩
    | error reason =>
        obtain ⟨pattern, rfl, hpattern, -⟩ := compile_eq_error_iff.mp hc
        simpa [hpattern] using h pattern rfl

namespace Trigger

variable {cs : List (String × Json)} {e : ConfigError}

theorem compileConditions_cons (index : Nat) (field : String) (v : Json) :
    compileConditions index ((field, v) :: cs) =
      (match Condition.compile v with
        | .ok c => .ok (field, c)
        | .error reason => invalid index reason) >>= fun c =>
          compileConditions index cs >>= fun rest => .ok (c :: rest) :=
  List.mapM_cons

theorem exists_compileConditions_iff (index : Nat) :
    (∃ conditions, compileConditions index cs = .ok conditions) ↔
      ∀ c ∈ cs, Condition.IsReadable c.2 := by
  refine exists_mapM_eq_ok_iff.trans (forall₂_congr fun c _ => ?_)
  rw [← Condition.exists_compile_iff]
  cases hc : Condition.compile c.2 <;> simp [invalid, hc]

theorem compileConditions_eq_error_iff :
    compileConditions index cs = .error (.config e) ↔
      ∃ before x after, cs = before ++ x :: after ∧ (∀ c ∈ before, Condition.IsReadable c.2) ∧
        ∃ field pattern, x = (field, .str ("re:" ++ pattern)) ∧
          Pattern.compile? false pattern = none ∧
          e = .invalidTrigger index
            ("invalid regex '" ++ pattern ++ "': " ++ PatternWording.fault pattern) := by
  induction cs with
  | nil => simp [compileConditions, pure, Except.pure]
  | cons c rest ih =>
      obtain ⟨field, v⟩ := c
      have hcons (before : List (String × Json)) :
          (∀ c ∈ (field, v) :: before, Condition.IsReadable c.2) ↔
            ∃ c, Condition.compile v = .ok c ∧ ∀ c ∈ before, Condition.IsReadable c.2 := by
        rw [List.forall_mem_cons, exists_and_right, Condition.exists_compile_iff]
      rw [first_fault_cons_iff (by simp) hcons, compileConditions_cons, bind_eq_error_iff]
      simp only [← ih]
      cases hc : Condition.compile v with
      | ok c =>
          have hreadable := Condition.exists_compile_iff.mp ⟨c, hc⟩
          have hnone (pattern : String) (hv : v = .str ("re:" ++ pattern)) :
              Pattern.compile? false pattern ≠ none :=
            Option.isSome_iff_ne_none.mp (hreadable pattern hv)
          simp only [bind_eq_error_iff, reduceCtorEq, false_or, and_false, exists_false, or_false]
          grind
      | error reason =>
          obtain ⟨pattern, rfl, hpattern, rfl⟩ := Condition.compile_eq_error_iff.mp hc
          simp [invalid, hpattern, eq_comm]

end Trigger

/-! ## Rules -/

namespace Trigger

variable {spec : TriggerSpec} {t : Trigger} {e : TriggerCompileError}

theorem compile_eq_ok_iff :
    compile index spec = .ok t ↔
      Text.isBlank spec.on = false ∧
        ∃ conditions, compileConditions index spec.conditions = .ok conditions ∧
          ∃ command, Command.ofName? spec.action.action = some command ∧
            ∃ s, compileChain index ⟨command.stage, [], none⟩ 0 spec.action.chain = .ok s ∧
              s.stage ≠ .landEdit ∧
              t = ⟨index, spec.on, conditions, command, spec.action.args, s.calls, s.limit⟩ := by
  rw [compile_eq]
  split_ifs with hon
  · simp [invalid, hon]
  · cases Command.ofName? spec.action.action with
    | none => simp [invalid, bind_eq_ok_iff]
    | some command =>
        have hlast (s : ChainState) (t' : Trigger) :
            (if s.stage = .landEdit then
              invalid index "'edit' must be followed by 'trust' or 'claim'"
            else .ok t') = .ok t ↔ s.stage ≠ .landEdit ∧ t = t' := by
          split_ifs with hedit <;> simp [invalid, hedit, eq_comm]
        simp [bind_eq_ok_iff, hlast, hon]

theorem exists_compile_iff (index : Nat) (hfit : spec.LimitsFit) :
    (∃ t, compile index spec = .ok t) ↔ spec.Grammatical := by
  simp only [compile_eq_ok_iff, Command.ofName?_eq_some_iff]
  constructor
  · rintro ⟨t, hon, conditions, hconditions, command, haction, s, hchain, hedit, -⟩
    exact ⟨hon, (exists_compileConditions_iff index).mp ⟨conditions, hconditions⟩, command, haction,
      s.stage, leads_of_compileChain hchain, hedit⟩
  · rintro ⟨hon, hconditions, command, haction, stage, hleads, hedit⟩
    obtain ⟨conditions, hconditions⟩ := (exists_compileConditions_iff index).mpr hconditions
    obtain ⟨s, hchain, rfl⟩ :=
      compileChain_of_leads (s := ⟨command.stage, [], none⟩) index 0 hleads hfit
    exact ⟨_, hon, conditions, hconditions, command, haction, s, hchain, hedit, rfl⟩

theorem compile_of_firstFault (index : Nat) (hfit : spec.LimitsFit)
    (h : spec.FirstFault reason) :
    compile index spec = .error (.config (.invalidTrigger index reason)) := by
  rw [compile_eq]
  cases h with
  | on hon => simp [hon, invalid]
  | @condition _ _ _ pattern hon heq hbefore hnone =>
      have hfault : compileConditions index spec.conditions = .error (.config (.invalidTrigger index
          ("invalid regex '" ++ pattern ++ "': " ++ PatternWording.fault pattern))) :=
        compileConditions_eq_error_iff.mpr ⟨_, _, _, heq, hbefore, _, _, rfl, hnone, rfl⟩
      simp [hon, hfault, bind_eq_error_iff]
  | action hon hconditions h =>
      obtain ⟨conditions, hconditions⟩ :=
        (exists_compileConditions_iff index).mpr hconditions
      have hnone := Command.ofName?_eq_none_iff.mpr h
      simp [hon, hconditions, hnone, bind_eq_error_iff, invalid]
  | @entry command before _ _ _ _ hon hconditions haction heq hbefore h =>
      obtain ⟨conditions, hconditions⟩ :=
        (exists_compileConditions_iff index).mpr hconditions
      have hcommand := Command.ofName?_eq_some_iff.mpr haction
      have hfault : compileChain index ⟨command.stage, [], none⟩ 0 spec.action.chain =
          .error (.config (.invalidTrigger index reason)) :=
        (compileChain_eq_error_iff hfit).mpr
          ⟨_, _, _, heq, _, reason, hbefore, by rwa [Nat.zero_add], rfl⟩
      simp [hon, hconditions, hcommand, hfault, bind_eq_error_iff]
  | @edit command hon hconditions haction h =>
      obtain ⟨conditions, hconditions⟩ :=
        (exists_compileConditions_iff index).mpr hconditions
      have hcommand := Command.ofName?_eq_some_iff.mpr haction
      obtain ⟨s, hchain, hedit⟩ :=
        compileChain_of_leads (s := ⟨command.stage, [], none⟩) index 0 h hfit
      simp [hon, hconditions, hcommand, hchain, hedit, bind_eq_error_iff, invalid]

/-- A rule is refused for what is wrong with it first. -/
theorem compile_eq_error_iff (hfit : spec.LimitsFit) :
    compile index spec = .error e ↔
      ∃ reason, spec.FirstFault reason ∧ e = .config (.invalidTrigger index reason) := by
  constructor
  · intro h
    rw [compile_eq] at h
    split_ifs at h with hon
    · cases h
      exact ⟨_, .on hon, rfl⟩
    have hon : Text.isBlank spec.on = false := Bool.eq_false_iff.mpr hon
    rcases bind_eq_error_iff.mp h with hfault | ⟨conditions, hconditions, h⟩
    · cases e with
      | secondsOverflow => exact absurd hfault (compileConditions_ne_overflow _)
      | config e =>
          obtain ⟨before, _, after, heq, hbefore, field, pattern, rfl, hnone, rfl⟩ :=
            compileConditions_eq_error_iff.mp hfault
          exact ⟨_, .condition hon heq hbefore hnone, rfl⟩
    have hreadable := (exists_compileConditions_iff index).mp ⟨conditions, hconditions⟩
    cases hcommand : Command.ofName? spec.action.action with
    | none =>
        rw [hcommand] at h
        cases h
        exact ⟨_, .action hon hreadable (Command.ofName?_eq_none_iff.mp hcommand), rfl⟩
    | some command =>
        rw [hcommand] at h
        have haction := Command.ofName?_eq_some_iff.mp hcommand
        rcases bind_eq_error_iff.mp h with hfault | ⟨s, hchain, h⟩
        · cases e with
          | secondsOverflow =>
              obtain ⟨before, entry, after, heq, -, hlong⟩ := compileChain_eq_overflow_iff.mp hfault
              exact absurd hlong (hfit entry (by simp [heq]))
          | config e =>
              obtain ⟨before, entry, after, heq, stage, reason, hleads, hrefuses, rfl⟩ :=
                (compileChain_eq_error_iff hfit).mp hfault
              rw [Nat.zero_add] at hrefuses
              exact ⟨reason, .entry hon hreadable haction heq hleads hrefuses, rfl⟩
        · split_ifs at h with hedit
          cases h
          exact ⟨_, .edit hon hreadable haction (hedit ▸ leads_of_compileChain hchain), rfl⟩
  · rintro ⟨reason, hfault, rfl⟩
    exact compile_of_firstFault index hfit hfault

/-- A loaded rule is the one that is written down at an index. -/
structure Renders (t : Trigger) (index : Nat) (spec : TriggerSpec) : Prop where
  index_eq : t.index = index
  on : t.on = spec.on
  conditions : List.Forall₂ (fun c c' => c.1 = c'.1 ∧ Condition.compile c.2 = .ok c'.2)
    spec.conditions t.conditions
  command : spec.action.action = t.command.stage.name
  args : t.args = spec.action.args
  calls : spec.action.chain.filter (!setsLimit ·) = t.calls.map entryOf
  limit : t.limit = (spec.action.chain.filterMap limitOf?).getLast?

/-- Conditions are compiled one by one. -/
theorem compileConditions_eq_ok_iff {cs : List (String × Json)}
    {conditions : List (String × Condition)} :
    compileConditions index cs = .ok conditions ↔
      List.Forall₂ (fun c c' => c.1 = c'.1 ∧ Condition.compile c.2 = .ok c'.2) cs conditions := by
  have hstep : (fun (c : String × Json) (c' : String × Condition) =>
      (match Condition.compile c.2 with
        | .ok c'' => .ok (c.1, c'')
        | .error reason => invalid index reason) = Except.ok c') =
      fun c c' => c.1 = c'.1 ∧ Condition.compile c.2 = .ok c'.2 := by
    funext c c'
    cases hc : Condition.compile c.2 <;> simp [invalid, Prod.ext_iff]
  rw [← hstep]
  exact mapM_eq_ok_iff

theorem compile_renders (h : compile index spec = .ok t) : t.Renders index spec := by
  obtain ⟨hcommand, hcalls, -⟩ := compile_ok h
  obtain ⟨-, conditions, hconditions, command, -, s, hchain, -, rfl⟩ := compile_eq_ok_iff.mp h
  exact ⟨rfl, rfl, compileConditions_eq_ok_iff.mp hconditions,
    Command.ofName?_eq_some_iff.mp hcommand, rfl, hcalls, by simpa using compileChain_limit hchain⟩

end Trigger

namespace TriggerSet

variable {specs : List TriggerSpec} {rules : List Trigger} {e : TriggerCompileError}

theorem exists_compileRules_iff (index : Nat) (hfit : ∀ spec ∈ specs, spec.LimitsFit) :
    (∃ rules, compileRules index specs = .ok rules) ↔ ∀ spec ∈ specs, spec.Grammatical := by
  induction specs generalizing index with
  | nil => simp [compileRules]
  | cons spec rest ih =>
      obtain ⟨hspec, hrest⟩ := List.forall_mem_cons.mp hfit
      rw [List.forall_mem_cons, ← ih (index + 1) hrest, ← Trigger.exists_compile_iff index hspec,
        compileRules, exists_bind_eq_ok_iff]
      simp [exists_bind_eq_ok_iff, pure, Except.pure]

theorem compileRules_eq_error_iff (index : Nat) (hfit : ∀ spec ∈ specs, spec.LimitsFit) :
    compileRules index specs = .error e ↔
      ∃ before spec after, specs = before ++ spec :: after ∧ (∀ s ∈ before, s.Grammatical) ∧
        ∃ reason, spec.FirstFault reason ∧
          e = .config (.invalidTrigger (index + before.length) reason) := by
  induction specs generalizing index with
  | nil => simp [compileRules]
  | cons spec rest ih =>
      obtain ⟨hspec, hrest⟩ := List.forall_mem_cons.mp hfit
      have hcons (before : List TriggerSpec) :
          (∀ s ∈ spec :: before, s.Grammatical) ↔
            ∃ t, Trigger.compile index spec = .ok t ∧ ∀ s ∈ before, s.Grammatical := by
        rw [List.forall_mem_cons, exists_and_right, Trigger.exists_compile_iff index hspec]
      rw [first_fault_cons_iff (by simp) hcons, compileRules, bind_eq_error_iff,
        Trigger.compile_eq_error_iff hspec]
      simp [bind_eq_error_iff, ih (index + 1) hrest, pure, Except.pure, Nat.add_assoc,
        Nat.add_comm 1]

theorem compileRules_getElem? (h : compileRules index specs = .ok rules) (i : Nat) :
    Option.Rel (fun spec t => Trigger.compile (index + i) spec = .ok t) specs[i]? rules[i]? := by
  induction specs generalizing index rules i with
  | nil =>
      cases h
      exact .none
  | cons spec rest ih =>
      obtain ⟨t, rules, hrule, hrest, rfl⟩ := compileRules_cons_eq_ok_iff.mp h
      cases i with
      | zero => exact .some hrule
      | succ i => simpa [Nat.add_assoc, Nat.add_comm 1] using ih hrest i

/-- The rules that are loaded are those that are written down, in their places. -/
theorem compile_getElem? {channels : Aliases} {stepLimit : Nanos} {ts : TriggerSet}
    (h : compile specs channels stepLimit = .ok ts) (i : Nat) :
    Option.Rel (fun spec t => Trigger.compile i spec = .ok t) specs[i]? ts.rules[i]? := by
  obtain ⟨rules, hrules, rfl⟩ := compile_eq_ok_iff.mp h
  simpa using compileRules_getElem? hrules i

end TriggerSet

end Loading

/-! ## Reading -/

/-- A rule that has been read has its conditions in the order of their fields. -/
theorem TriggerSpec.read_conditions_keysSorted {levels : Nat} {d : Document} {spec : TriggerSpec}
    (h : read levels d = .ok spec) : Json.KeysSorted spec.conditions := by
  let P (s : Partial) : Prop := ∀ conditions, s.conditions = some conditions →
    Json.KeysSorted conditions
  have hset : ∀ f ∈ [Json.field "on" Partial.on (fun s v => { s with on := v }) Json.readString,
      Json.field "when" Partial.conditions (fun s v => { s with conditions := v })
        (Json.readMap Json.readSorted),
      Json.field "do" Partial.action (fun s v => { s with action := v }) TriggerAction.read],
      ∀ s levels d s', P s → f.set s levels d = .ok s' → P s' := by
    intro f hf s levels d s' hs h
    simp only [List.mem_cons, List.not_mem_nil, or_false] at hf
    rcases hf with rfl | rfl | rfl <;> obtain ⟨v, hv, rfl⟩ := map_eq_ok_iff.mp h
    · exact hs
    · rintro _ ⟨⟩
      exact Json.readMap_keysSorted hv
    · exact hs
  obtain ⟨s, hs, hcomplete⟩ := Json.readRecord_invariant hset (by simp [P]) h
  obtain ⟨on, -, hcomplete⟩ := bind_eq_ok_iff.mp hcomplete
  obtain ⟨action, -, hcomplete⟩ := bind_eq_ok_iff.mp hcomplete
  cases hcomplete
  cases hconditions : s.conditions with
  | none => exact List.Pairwise.nil
  | some conditions => exact hs conditions hconditions

/-- Rules without limits that are too long are loaded exactly if each of them is grammatical.
Otherwise the error names the first rule that is not, with what is wrong with it first. The rules
that are loaded are those that are written down, in their order. The conditions of a rule, as it has
been read, are in the order of their fields. -/
theorem loads_iff_grammatical [PatternWording] {specs : List TriggerSpec}
    (hfit : ∀ spec ∈ specs, spec.LimitsFit)
    (channels : Aliases) (stepLimit : Nanos) :
    ((∃ ts, TriggerSet.compile specs channels stepLimit = .ok ts) ↔
      ∀ spec ∈ specs, spec.Grammatical) ∧
    (∀ e, TriggerSet.compile specs channels stepLimit = .error e ↔
      ∃ before spec after, specs = before ++ spec :: after ∧ (∀ s ∈ before, s.Grammatical) ∧
        ∃ reason, spec.FirstFault reason ∧
          e = .config (.invalidTrigger before.length reason)) ∧
    (∀ ts, TriggerSet.compile specs channels stepLimit = .ok ts →
      ∀ i : Nat, Option.Rel (fun spec t => t.Renders i spec) specs[i]? ts.rules[i]?) ∧
    ∀ levels d spec, TriggerSpec.read levels d = .ok spec → Json.KeysSorted spec.conditions := by
  refine ⟨?_, fun e => ?_, fun ts hts i => ?_, fun _ _ _ => TriggerSpec.read_conditions_keysSorted⟩
  · rw [← TriggerSet.exists_compileRules_iff 0 hfit, TriggerSet.compile, exists_bind_eq_ok_iff]
    simp [pure, Except.pure]
  · have herror := TriggerSet.compileRules_eq_error_iff (e := e) 0 hfit
    simp only [Nat.zero_add] at herror
    rw [← herror, TriggerSet.compile, bind_eq_error_iff]
    simp [pure, Except.pure]
  · have hrel := TriggerSet.compile_getElem? hts i
    revert hrel
    cases specs[i]? <;> cases ts.rules[i]? <;> rintro ⟨⟩
    · exact .none
    · exact .some (Trigger.compile_renders ‹_›)

/-- A rule that jumps when somebody whose name starts with an `a` is kicked. -/
def jumpRule (chain : List (List Json)) : TriggerSpec :=
  ⟨"kick", [("name", .str "re:^a")], ⟨"jump", [], chain⟩⟩

theorem jumpRule_limitsFit {chain : List (List Json)}
    (h : ∀ entry ∈ chain, entry.head? ≠ some (.str "timeout")) : (jumpRule chain).LimitsFit := by
  rintro entry hentry ⟨args, rfl, -⟩
  exact h _ hentry rfl

theorem jumpRule_isReadable (chain : List (List Json)) :
    ∀ c ∈ (jumpRule chain).conditions, Condition.IsReadable c.2 := by
  simp only [jumpRule, List.mem_singleton, forall_eq]
  exact Condition.exists_compile_iff.mp ⟨_, rfl⟩

/-- A rule that sets a pause is loaded; with one behind it that calls what jumping does not offer,
the error names the second. -/
theorem loads_iff_grammatical_of_jumps :
    (∃ ts, TriggerSet.compile [jumpRule [[.str "interval"]]] [] 0 = .ok ts) ∧
      TriggerSet.compile [jumpRule [[.str "interval"]], jumpRule [[.str "edit"]]] [] 0 =
        .error (.config (.invalidTrigger 1 (CommandError.notAllowed "jump" "edit").message)) := by
  have hinterval : (jumpRule [[.str "interval"]]).LimitsFit := jumpRule_limitsFit (by simp)
  have hedit : (jumpRule [[.str "edit"]]).LimitsFit := jumpRule_limitsFit (by simp)
  have hgrammatical : (jumpRule [[.str "interval"]]).Grammatical :=
    ⟨rfl, jumpRule_isReadable _, .jump, rfl, .jump,
      .cons (.call (m := .interval) (by decide)) .nil, by decide⟩
  have hfault : (jumpRule [[.str "edit"]]).FirstFault
      (CommandError.notAllowed "jump" "edit").message :=
    .entry rfl (jumpRule_isReadable _) (show "jump" = Command.jump.stage.name from rfl) rfl .nil
      (.call (by decide) (by decide))
  refine ⟨(loads_iff_grammatical ?_ [] 0).1.mpr ?_,
    ((loads_iff_grammatical ?_ [] 0).2.1 _).mpr
      ⟨[_], _, [], rfl, ?_, _, hfault, rfl⟩⟩
  · simpa using hinterval
  · simpa using hgrammatical
  · simpa using ⟨hinterval, hedit⟩
  · simpa using hgrammatical

/-- The value of a number. -/
def JsonNumber.value : JsonNumber → ℚ
  | .int n => n
  | .float x => x.value

/-- It does not suffice that limits are below 2⁶⁴ as they are written: converting them may round
them up to it. -/
theorem not_loads_iff_grammatical_of_lt :
    ¬∀ specs : List TriggerSpec,
      (∀ spec ∈ specs, ∀ n args, .str "timeout" :: .num n :: args ∈ spec.action.chain →
        n.value < 2 ^ 64) →
      ((∃ ts, TriggerSet.compile specs [] 0 = .ok ts) ↔ ∀ spec ∈ specs, spec.Grammatical) := by
  intro hclaim
  have hbelow : ∀ spec ∈ [jumpRule [[.str "timeout", .num (.int 18446744073709551615)]]],
      ∀ n args, .str "timeout" :: .num n :: args ∈ spec.action.chain → n.value < 2 ^ 64 := by
    norm_num [jumpRule, JsonNumber.value]
  have hgrammatical :
      (jumpRule [[.str "timeout", .num (.int 18446744073709551615)]]).Grammatical :=
    ⟨rfl, jumpRule_isReadable _, .jump, rfl, .jump,
      .cons (.limit ⟨_, rfl, rfl, rfl⟩) .nil, by decide⟩
  obtain ⟨ts, hloads⟩ := (hclaim _ hbelow).mpr (by simpa using hgrammatical)
  have hstops : TriggerSet.compile [jumpRule [[.str "timeout", .num (.int 18446744073709551615)]]]
      [] 0 = .error .secondsOverflow := rfl
  cases hstops.symm.trans hloads

end LogWarden
