import LogWarden.Proofs.Outcomes
import LogWarden.Trigger.Basic

/-!
# The calls of a rule

When a rule fires, its command is started and its calls are made one after another, each with the
arguments that the rule gives. The command goes through the stages that the calls lead to; what is
made of it, and which fault comes first, is settled call by call.
-/

namespace LogWarden

/-- The stage behind calls, if each of them is offered where it is made. -/
def Stage.after? (s : Stage) : List Method → Option Stage
  | [] => some s
  | m :: ms => if m ∈ s.methods then (m.next s).after? ms else none

/-- A call with its JSON arguments on a command in the making. -/
def Builder.callWith (channels : Aliases) (b : Builder) (call : Method × List Json) :
    Except TriggerFault Builder := do
  let c ← call.1.call channels call.2
  (b.call c).mapError .command

/-- The calls of a rule on a command in the making. -/
def Builder.callAll (channels : Aliases) (b : Builder) (calls : List (Method × List Json)) :
    Except TriggerFault Builder :=
  calls.foldlM (callWith channels) b

variable {m : Method} {c : Call} {b b' : Builder} {channels : Aliases} {args : List Json}

theorem Stage.method?_mem {s : Stage} {name : String} (h : s.method? name = some m) :
    m ∈ s.methods ∧ m.name = name :=
  ⟨List.mem_of_find?_eq_some h, by simpa using List.find?_some h⟩

theorem Method.call_method (h : m.call channels args = .ok c) : c.method = m := by
  cases m with
  | deposit =>
      simp only [Method.call] at h
      split at h
      · cases h
        rfl
      · obtain ⟨value, _, rfl⟩ := map_eq_ok_iff.mp h
        rfl
  | sendTo | switchChannel | interval | transferTo | add | remove | radius =>
      obtain ⟨value, _, rfl⟩ := map_eq_ok_iff.mp h
      rfl
  | _ =>
      cases h
      rfl

theorem Builder.call_stage (h : b.call c = .ok b') :
    c.method ∈ b.stage.methods ∧ b'.stage = c.method.next b.stage := by
  revert h
  fun_cases Builder.call b c <;> rintro ⟨⟩ <;>
    simp [Call.method, Builder.stage, Stage.methods, Method.next]

theorem Builder.callWith_eq_ok_iff :
    b.callWith channels (m, args) = .ok b' ↔
      ∃ c, m.call channels args = .ok c ∧ b.call c = .ok b' := by
  simp [callWith, bind_eq_ok_iff, mapError_eq_ok_iff]

theorem Trigger.builder_eq (t : Trigger) (channels : Aliases) (e : Event) :
    t.builder channels e = t.command.start (t.argument e) >>= (·.callAll channels t.calls) := rfl

end LogWarden
