import LogWarden.Proofs.Trigger.Calls
import Mathlib.Data.List.Forall2
import Mathlib.Tactic.SplitIfs

/-!
# Loading a rule

The chain of a rule is read entry by entry. An entry that sets the limit of the step leaves no call;
every other one has to name a call that is offered where it stands.
-/

namespace LogWarden

namespace Trigger

/-- Whether an entry of a chain sets the limit of the step instead of making a call. -/
def setsLimit : List Json → Bool
  | .str name :: _ => name == "timeout"
  | _ => false

/-- The entry of a chain that makes a call. -/
def entryOf (call : Method × List Json) : List Json := .str call.1.name :: call.2

variable {index position : Nat} {s s' : ChainState} {entry : List Json} {chain : List (List Json)}
  {spec : TriggerSpec} {t : Trigger}

/-- What the entries of a chain do. -/
theorem compileEntry_ok (h : compileEntry index s position entry = .ok s') :
    (setsLimit entry = true ∧ s'.stage = s.stage ∧ s'.calls = s.calls) ∨
      ∃ m args, entry = entryOf (m, args) ∧ setsLimit entry = false ∧ m ∈ s.stage.methods ∧
        s'.stage = m.next s.stage ∧ s'.calls = s.calls ++ [(m, args)] := by
  revert h
  fun_cases compileEntry index s position entry <;> rintro ⟨⟩
  case case1 args d hd => exact .inl ⟨rfl, rfl, rfl⟩
  case case4 name args hname m hm =>
    obtain ⟨hmem, rfl⟩ := Stage.method?_mem hm
    exact .inr ⟨m, args, rfl, by simpa [setsLimit] using hname, hmem, rfl, rfl⟩

/-- What is left of a chain are its calls, each offered where it stands. -/
theorem compileChain_ok (h : compileChain index s position chain = .ok s') :
    ∃ calls, chain.filter (!setsLimit ·) = calls.map entryOf ∧ s'.calls = s.calls ++ calls ∧
      s.stage.after? (calls.map Prod.fst) = some s'.stage := by
  induction chain generalizing s position with
  | nil =>
      cases h
      exact ⟨[], rfl, by simp, rfl⟩
  | cons entry rest ih =>
      obtain ⟨s₁, hentry, hrest⟩ := bind_eq_ok_iff.mp h
      obtain ⟨calls, hfilter, hcalls, hstage⟩ := ih hrest
      rcases compileEntry_ok hentry with
        ⟨hlimit, hsame, hsame'⟩ | ⟨m, args, rfl, hlimit, hmem, hnext, hcall⟩
      · exact ⟨calls, by simp [hlimit, hfilter], by rw [hcalls, hsame'], by rw [← hsame, hstage]⟩
      · refine ⟨(m, args) :: calls, by simp [hlimit, hfilter], by simp [hcalls, hcall], ?_⟩
        simpa [Stage.after?, hmem, ← hnext] using hstage

variable [PatternWording]

/-- The steps of loading a rule, the first fault counting. -/
theorem compile_eq (index : Nat) (spec : TriggerSpec) :
    compile index spec =
      if Text.isBlank spec.on = true then invalid index "'on' names no event kind"
      else compileConditions index spec.conditions >>= fun conditions =>
        match Command.ofName? spec.action.action with
        | none => invalid index ("unknown action '" ++ spec.action.action ++ "'")
        | some command =>
          compileChain index ⟨command.stage, [], none⟩ 0 spec.action.chain >>= fun s =>
            if s.stage = .landEdit then
              invalid index "'edit' must be followed by 'trust' or 'claim'"
            else .ok ⟨index, spec.on, conditions, command, spec.action.args, s.calls, s.limit⟩ := by
  unfold compile
  split_ifs with hblank
  · rfl
  · cases compileConditions index spec.conditions with
    | error e => rfl
    | ok conditions =>
        cases Command.ofName? spec.action.action with
        | none => rfl
        | some command =>
            simp only [bind, Except.bind, pure, Except.pure]
            cases compileChain index ⟨command.stage, [], none⟩ 0 spec.action.chain with
            | error e => rfl
            | ok s => dsimp only; split_ifs <;> rfl

/-- A rule that is loaded starts the command that it names and makes the calls of its chain. -/
theorem compile_ok (h : compile index spec = .ok t) :
    Command.ofName? spec.action.action = some t.command ∧
      spec.action.chain.filter (!setsLimit ·) = t.calls.map entryOf ∧
      ∃ stage, t.command.stage.after? (t.calls.map Prod.fst) = some stage ∧ stage ≠ .landEdit := by
  rw [compile_eq] at h
  split_ifs at h
  · cases h
  · obtain ⟨conditions, _, h⟩ := bind_eq_ok_iff.mp h
    cases hcommand : Command.ofName? spec.action.action with
    | none => simp [hcommand, invalid] at h
    | some command =>
        rw [hcommand] at h
        obtain ⟨s, hchain, h⟩ := bind_eq_ok_iff.mp h
        split_ifs at h with hedit
        · cases h
        · cases h
          obtain ⟨calls, hfilter, hcalls, hstage⟩ := compileChain_ok hchain
          obtain rfl : s.calls = calls := by simpa using hcalls
          exact ⟨rfl, hfilter, s.stage, hstage, hedit⟩

end Trigger

namespace TriggerSet

variable [PatternWording] {index : Nat} {specs : List TriggerSpec} {rules : List Trigger}
  {channels : Aliases} {stepLimit : Nanos} {ts : TriggerSet}

theorem compileRules_cons_eq_ok_iff {spec : TriggerSpec} :
    compileRules index (spec :: specs) = .ok rules ↔ ∃ t rest,
      Trigger.compile index spec = .ok t ∧ compileRules (index + 1) specs = .ok rest ∧
        rules = t :: rest := by
  simp only [compileRules, bind_eq_ok_iff]
  constructor
  · rintro ⟨t, hrule, rest, hrest, h⟩
    exact ⟨t, rest, hrule, hrest, (Except.ok.inj h).symm⟩
  · rintro ⟨t, rest, hrule, hrest, rfl⟩
    exact ⟨t, hrule, rest, hrest, rfl⟩

theorem compile_eq_ok_iff :
    compile specs channels stepLimit = .ok ts ↔
      ∃ rules, compileRules 0 specs = .ok rules ∧ ts = ⟨rules, channels, stepLimit⟩ := by
  rw [compile, bind_eq_ok_iff]
  simp only [pure, Except.pure, Except.ok.injEq, eq_comm]

theorem compileRules_ok (h : compileRules index specs = .ok rules) :
    List.Forall₂ (fun spec t => ∃ index, Trigger.compile index spec = .ok t) specs rules := by
  induction specs generalizing index rules with
  | nil =>
      cases h
      exact .nil
  | cons spec rest ih =>
      obtain ⟨t, rules, hrule, hrest, rfl⟩ := compileRules_cons_eq_ok_iff.mp h
      exact .cons ⟨index, hrule⟩ (ih hrest)

/-- The rules that are loaded are those that are written down, one by one. -/
theorem compile_ok (h : compile specs channels stepLimit = .ok ts) :
    List.Forall₂ (fun spec t => ∃ index, Trigger.compile index spec = .ok t) specs ts.rules := by
  obtain ⟨rules, hrules, rfl⟩ := compile_eq_ok_iff.mp h
  exact compileRules_ok hrules

end TriggerSet

end LogWarden
