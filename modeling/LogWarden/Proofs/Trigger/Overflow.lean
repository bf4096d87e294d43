import LogWarden.Proofs.Trigger.Loading
import LogWarden.Proofs.Trigger.Seconds
import LogWarden.Trigger.Reaction

/-!
# Where triggers stop the program

Everything that is wrong with a rule is an error that names it, or an error of the command that it
starts, with one exception: seconds that are too long. A limit is converted when the rule is loaded,
a pause when it fires, and the program stops at the first of them that is reached.
-/

namespace LogWarden

/-- The first fault in a list is its head, or it comes behind a head that passes. -/
theorem first_fault_cons_iff {α σ : Type} {y : α} {l : List α} {passes : List α → Prop}
    {head : σ → Prop} {passesFrom : σ → List α → Prop} {fault : List α → α → Prop}
    (hnil : passes [])
    (hcons : ∀ before, passes (y :: before) ↔ ∃ s, head s ∧ passesFrom s before) :
    (∃ before x after, y :: l = before ++ x :: after ∧ passes before ∧ fault before x) ↔
      fault [] y ∨ ∃ s, head s ∧ ∃ before x after,
        l = before ++ x :: after ∧ passesFrom s before ∧ fault (y :: before) x := by
  constructor
  · rintro ⟨before, x, after, heq, hpasses, hfault⟩
    cases before with
    | nil =>
        obtain ⟨rfl, rfl⟩ := List.cons.inj heq
        exact .inl hfault
    | cons z before =>
        obtain ⟨rfl, rfl⟩ := List.cons.inj heq
        obtain ⟨s, hhead, hrest⟩ := (hcons before).mp hpasses
        exact .inr ⟨s, hhead, before, x, after, rfl, hrest, hfault⟩
  · rintro (hfault | ⟨s, hhead, before, x, after, rfl, hrest, hfault⟩)
    · exact ⟨[], y, l, rfl, hnil, hfault⟩
    · exact ⟨y :: before, x, after, rfl, (hcons before).mpr ⟨s, hhead, hrest⟩, hfault⟩

/-! ## Loading -/

namespace Trigger

variable {index position : Nat} {s s' : ChainState} {entry : List Json} {chain : List (List Json)}
  {spec : TriggerSpec}

/-- An entry of a chain sets a limit that is too long. -/
def LimitTooLong (entry : List Json) : Prop :=
  ∃ args, entry = .str "timeout" :: args ∧ Argument.TooLong args.head?

/-- Loading a rule comes to a limit that is too long, and nothing before it is refused. -/
def StopsLoading [PatternWording] (index : Nat) (spec : TriggerSpec) : Prop :=
  Text.isBlank spec.on = false ∧
    (∃ conditions, compileConditions index spec.conditions = .ok conditions) ∧
    ∃ command, Command.ofName? spec.action.action = some command ∧
      ∃ before entry after, spec.action.chain = before ++ entry :: after ∧
        (∃ s, compileChain index ⟨command.stage, [], none⟩ 0 before = .ok s) ∧ LimitTooLong entry

theorem compileEntry_eq_overflow_iff :
    compileEntry index s position entry = .error .secondsOverflow ↔ LimitTooLong entry := by
  simp only [LimitTooLong, ← Argument.seconds_eq_overflow_iff "timeout"]
  fun_cases compileEntry index s position entry <;> simp_all [invalid]

theorem compileChain_eq_overflow_iff :
    compileChain index s position chain = .error .secondsOverflow ↔
      ∃ before entry after, chain = before ++ entry :: after ∧
        (∃ s', compileChain index s position before = .ok s') ∧ LimitTooLong entry := by
  induction chain generalizing s position with
  | nil => simp [compileChain]
  | cons entry rest ih =>
      rw [first_fault_cons_iff ⟨s, rfl⟩ fun _ => exists_bind_eq_ok_iff, compileChain,
        bind_eq_error_iff, compileEntry_eq_overflow_iff]
      simp only [ih]

variable [PatternWording]

theorem compileConditions_ne_overflow (cs : List (String × Json)) :
    compileConditions index cs ≠ .error .secondsOverflow := by
  induction cs with
  | nil => simp [compileConditions, pure, Except.pure]
  | cons c rest ih =>
      intro h
      rw [compileConditions, List.mapM_cons] at h
      rcases bind_eq_error_iff.mp h with hfirst | ⟨_, _, h⟩
      · cases hc : Condition.compile c.2 <;> simp [hc, invalid] at hfirst
      · rcases bind_eq_error_iff.mp h with hrest | ⟨_, _, h⟩
        · exact ih hrest
        · cases h

theorem compile_eq_overflow_iff :
    compile index spec = .error .secondsOverflow ↔ StopsLoading index spec := by
  rw [compile_eq, StopsLoading]
  split_ifs with hblank
  · simp [invalid, hblank]
  · cases Command.ofName? spec.action.action with
    | none => simp [invalid, bind_eq_error_iff, compileConditions_ne_overflow]
    | some command =>
        have hlast (s : ChainState) (t : Trigger) :
            (if s.stage = .landEdit then
              invalid index "'edit' must be followed by 'trust' or 'claim'"
            else .ok t) ≠ .error .secondsOverflow := by
          split_ifs <;> simp [invalid]
        simp [bind_eq_error_iff, compileConditions_ne_overflow, compileChain_eq_overflow_iff, hlast,
          hblank]

end Trigger

namespace TriggerSet

variable [PatternWording] {index : Nat} {specs : List TriggerSpec}

theorem compileRules_eq_overflow_iff :
    compileRules index specs = .error .secondsOverflow ↔
      ∃ before spec after, specs = before ++ spec :: after ∧
        (∃ rules, compileRules index before = .ok rules) ∧
          Trigger.StopsLoading (index + before.length) spec := by
  induction specs generalizing index with
  | nil => simp [compileRules]
  | cons spec rest ih =>
      have hcons (before : List TriggerSpec) :
          (∃ rules, compileRules index (spec :: before) = .ok rules) ↔
            ∃ t, Trigger.compile index spec = .ok t ∧
              ∃ rules, compileRules (index + 1) before = .ok rules := by
        simp [compileRules, exists_bind_eq_ok_iff, pure, Except.pure]
      rw [first_fault_cons_iff ⟨[], rfl⟩ hcons]
      simp [compileRules, bind_eq_error_iff, Trigger.compile_eq_overflow_iff, ih, pure,
        Except.pure, Nat.add_assoc, Nat.add_comm 1]

end TriggerSet

/-! ## Firing -/

theorem Argument.text_ne_overflow (method : String) (v : Option Json) :
    Argument.text method v ≠ .error .secondsOverflow := by
  fun_cases Argument.text method v <;> simp [unexpected]

theorem Argument.count_ne_overflow (method : String) (v : Option Json) :
    Argument.count method v ≠ .error .secondsOverflow := by
  fun_cases Argument.count method v <;> simp [unexpected]

theorem Argument.amount_ne_overflow (v : Option Json) :
    Argument.amount v ≠ .error .secondsOverflow := by
  fun_cases Argument.amount v <;> simp [unexpected]

variable {m : Method} {b : Builder} {channels : Aliases} {args : List Json}
  {call : Method × List Json} {calls : List (Method × List Json)}

/-- The only call that converts seconds is the one that sets a pause. -/
theorem Method.call_eq_overflow_iff :
    m.call channels args = .error .secondsOverflow ↔
      m = .interval ∧ Argument.TooLong args.head? := by
  cases m with
  | interval => simp [call, map_eq_error_iff, Argument.seconds_eq_overflow_iff]
  | deposit =>
      simp only [call]
      split_ifs <;> simp [map_eq_error_iff, Argument.text_ne_overflow]
  | radius => simp [call, map_eq_error_iff, Argument.count_ne_overflow]
  | _ => simp [call, map_eq_error_iff, Argument.text_ne_overflow]

theorem Builder.callWith_eq_overflow_iff :
    b.callWith channels call = .error .secondsOverflow ↔
      call.1 = .interval ∧ Argument.TooLong call.2.head? := by
  simp [callWith, bind_eq_error_iff, mapError_eq_error_iff, Method.call_eq_overflow_iff]

theorem Builder.callAll_eq_overflow_iff :
    b.callAll channels calls = .error .secondsOverflow ↔
      ∃ before call after, calls = before ++ call :: after ∧
        (∃ b', b.callAll channels before = .ok b') ∧
          call.1 = .interval ∧ Argument.TooLong call.2.head? := by
  induction calls generalizing b with
  | nil => simp [callAll, pure, Except.pure]
  | cons call rest ih =>
      have hcons (before : List (Method × List Json)) :
          (∃ b', b.callAll channels (call :: before) = .ok b') ↔
            ∃ b₁, b.callWith channels call = .ok b₁ ∧
              ∃ b', b₁.callAll channels before = .ok b' := exists_bind_eq_ok_iff
      rw [first_fault_cons_iff ⟨b, rfl⟩ hcons, ← callWith_eq_overflow_iff]
      simp only [← ih]
      exact bind_eq_error_iff

theorem Command.start_ne_overflow (command : Command) (arg : Option Json) :
    command.start arg ≠ .error .secondsOverflow := by
  cases command with
  | chat | land => simp [start, map_eq_error_iff, Argument.text_ne_overflow]
  | pay => simp [start, map_eq_error_iff, Argument.amount_ne_overflow]
  | jump => cases arg <;> simp [start, map_eq_error_iff, Argument.count_ne_overflow]

/-- Firing a rule comes to a pause that is too long, and nothing before it fails. -/
def Trigger.StopsFiring (t : Trigger) (channels : Aliases) (e : Event) : Prop :=
  ∃ before call after, t.calls = before ++ call :: after ∧
    (∃ b, ({ t with calls := before } : Trigger).builder channels e = .ok b) ∧
      call.1 = .interval ∧ Argument.TooLong call.2.head?

theorem Trigger.build_eq_overflow_iff {t : Trigger} {limit : Nanos} {e : Event} :
    t.build channels limit e = .error .secondsOverflow ↔ t.StopsFiring channels e := by
  have hbuild : t.build channels limit e = .error .secondsOverflow ↔
      t.builder channels e = .error .secondsOverflow := by
    simp [build, bind_eq_error_iff, mapError_eq_error_iff, pure, Except.pure]
  rw [hbuild]
  simp only [builder_eq, StopsFiring, bind_eq_error_iff, Command.start_ne_overflow, false_or,
    Builder.callAll_eq_overflow_iff, bind_eq_ok_iff]
  constructor
  · rintro ⟨b₀, hstart, before, call, after, heq, ⟨b, hbefore⟩, hlong⟩
    exact ⟨before, call, after, heq, ⟨b, b₀, hstart, hbefore⟩, hlong⟩
  · rintro ⟨before, call, after, heq, ⟨b, b₀, hstart, hbefore⟩, hlong⟩
    exact ⟨b₀, hstart, before, call, after, heq, ⟨b, hbefore⟩, hlong⟩

theorem TriggerSet.overflow_mem_fire_iff {ts : TriggerSet} {e : Event} {index : Nat} :
    (index, .error .secondsOverflow) ∈ ts.fire e ↔
      ∃ t ∈ ts.rules, t.index = index ∧ t.firesFor e = true ∧ t.StopsFiring ts.channels e := by
  simp only [fire, List.mem_map, List.mem_filter, Prod.mk.injEq, Trigger.build_eq_overflow_iff]
  constructor
  · rintro ⟨t, ⟨hmem, hfires⟩, hindex, hstops⟩
    exact ⟨t, hmem, hindex, hfires, hstops⟩
  · rintro ⟨t, hmem, hindex, hfires, hstops⟩
    exact ⟨t, ⟨hmem, hfires⟩, hindex, hstops⟩

theorem Reaction.yields?_eq_none_iff {outcomes : List (Nat × Except TriggerFault Step)} :
    Reaction.yields? outcomes = none ↔
      ∃ index, (index, .error .secondsOverflow) ∈ outcomes := by
  fun_induction Reaction.yields? outcomes <;> simp_all

/-- Triggers stop the program in two ways only. Loading them comes to a limit that is too long, in a
rule before which all are loaded; or a rule fires for an event and comes to a pause that is too
long. -/
theorem triggers_stop_iff_tooLong [PatternWording] (channels : Aliases) (stepLimit : Nanos) :
    (∀ specs, TriggerSet.compile specs channels stepLimit = .error .secondsOverflow ↔
      ∃ before spec after, specs = before ++ spec :: after ∧
        (∃ ts, TriggerSet.compile before channels stepLimit = .ok ts) ∧
          Trigger.StopsLoading before.length spec) ∧
    (∀ ts e index, (index, .error .secondsOverflow) ∈ TriggerSet.fire ts e ↔
      ∃ t ∈ ts.rules, t.index = index ∧ t.firesFor e = true ∧ t.StopsFiring ts.channels e) ∧
    ∀ ts e, Reaction.start? ts e = none ↔
      ∃ t ∈ ts.rules, t.firesFor e = true ∧ t.StopsFiring ts.channels e := by
  refine ⟨fun specs => ?_, fun ts e index => TriggerSet.overflow_mem_fire_iff, fun ts e => ?_⟩
  · simp [TriggerSet.compile, bind_eq_error_iff, bind_eq_ok_iff, pure, Except.pure,
      TriggerSet.compileRules_eq_overflow_iff]
  · simp [Reaction.start?, Reaction.yields?_eq_none_iff, TriggerSet.overflow_mem_fire_iff]

/-- So it is not true that triggers are either loaded or refused. -/
theorem not_loads_or_refuses :
    ¬∀ specs channels stepLimit,
      (∃ ts, TriggerSet.compile specs channels stepLimit = .ok ts) ∨
        ∃ e, TriggerSet.compile specs channels stepLimit = .error (.config e) := by
  intro hclaim
  have hstops : TriggerSet.compile [⟨"kick", [], ⟨"jump", [],
      [[.str "timeout", .num (.float (.ofDecimal false 1 30))]]⟩⟩] [] 0 =
        .error .secondsOverflow := rfl
  rcases hclaim _ [] 0 with ⟨ts, hload⟩ | ⟨e, hrefuse⟩
  · cases hstops.symm.trans hload
  · cases hstops.symm.trans hrefuse

end LogWarden
