import LogWarden.Proofs.Trigger.Loading
import Mathlib.Data.Set.Finite.Basic

/-!
# Chains that make a command

Whether a chain of calls makes a command for some arguments depends on its methods only: a transfer
needs somebody to get it, and a land command must not stop where something is still to be said, nor
answer an invitation to which it has not turned. Loading a rule refuses only the chains that stop at
an edit.
-/

namespace LogWarden

/-- Behind the last turn to an invitation nothing was paid in. -/
def Invited (ms : List Method) : Prop :=
  ∃ before after, ms = before ++ .invite :: after ∧ .deposit ∉ after

/-- Every reply is one to an invitation. -/
def RepliesInvited (ms : List Method) : Prop :=
  ∀ before m after, ms = before ++ m :: after → m = .accept ∨ m = .reject → Invited before

/-- The last call leaves nothing to be said. -/
def EndsFinished (ms : List Method) : Prop :=
  ∃ last, ms.getLast? = some last ∧ last ∉ [Method.invite, .edit, .trust]

/-- The methods of a chain say all that a command has to be told. -/
def Command.Complete : Command → List Method → Prop
  | .chat, _ | .jump, _ => True
  | .pay, ms => .transferTo ∈ ms
  | .land, ms => RepliesInvited ms ∧ EndsFinished ms

/-- The command to which a stage belongs. -/
def Stage.command : Stage → Command
  | .chat => .chat
  | .jump => .jump
  | .pay => .pay
  | .land | .landEdit | .trust | .claim => .land

@[simp] theorem Command.stage_command (c : Command) : c.stage.command = c := by
  cases c <;> rfl

/-- What a land command in the making tells about the calls that led to it. -/
structure LandCommand.Reflects (c : LandCommand) (ms : List Method) : Prop where
  replies : c.error = none → RepliesInvited ms
  invited_iff : (∃ answer, c.task = .invite answer) ↔ Invited ms
  finished_iff : c.error = none → (c.task ≠ .unset ∧ c.task ≠ .invite none ↔ EndsFinished ms)

/-- What a command in the making tells about the calls that led to it. -/
def Builder.Reflects : Builder → List Method → Prop
  | .chat _, _ | .jump _, _ => True
  | .pay c, ms => c.target ≠ none → .transferTo ∈ ms
  | .land c, ms => c.Reflects ms
  | .landEdit e, ms => (e.error = none → RepliesInvited ms) ∧ ¬EndsFinished ms
  | .trust c, ms =>
    (c.editor.error = none → RepliesInvited ms) ∧ (c.line ≠ none ↔ EndsFinished ms)
  | .claim c, ms => (c.editor.error = none → RepliesInvited ms) ∧ EndsFinished ms

/-- Nothing was wrong with the arguments of the calls that led to a land command in the making. -/
structure LandCommand.Sound (c : LandCommand) (ms : List Method) : Prop where
  error_eq : RepliesInvited ms → c.error = none
  deposit : ∀ value, c.task = .deposit value → value.isEmpty = false

/-- Nothing was wrong with the arguments of the calls that led to a command in the making. -/
def Builder.Sound : Builder → List Method → Prop
  | .chat c, _ => c.error = none
  | .jump _, _ => True
  | .pay c, ms => c.error = none ∧ (.transferTo ∈ ms → c.target ≠ none)
  | .land c, ms => c.Sound ms
  | .landEdit e, ms => RepliesInvited ms → e.error = none
  | .trust c, ms =>
    (RepliesInvited ms → c.editor.error = none) ∧ ∀ e, c.line ≠ some (.error e)
  | .claim c, ms => RepliesInvited ms → c.editor.error = none

variable {m : Method} {ms ms' : List Method} {b b' : Builder} {c : Call} {command : Command}
  {channels : Aliases} {calls : List (Method × List Json)}

@[simp] theorem invited_append_singleton :
    Invited (ms ++ [m]) ↔ m = .invite ∨ m ≠ .deposit ∧ Invited ms := by
  constructor
  · rintro ⟨before, after, heq, hunpaid⟩
    rcases List.eq_nil_or_concat after with rfl | ⟨after, last, rfl⟩
    · exact .inl (by simpa using (List.append_inj' heq rfl).2)
    · have heq' : ms ++ [m] = (before ++ .invite :: after) ++ [last] := by simpa using heq
      obtain ⟨rfl, hlast⟩ := List.append_inj' heq' rfl
      obtain rfl : m = last := by simpa using hlast
      rw [List.concat_eq_append, List.mem_append, List.mem_singleton, not_or] at hunpaid
      exact .inr ⟨Ne.symm hunpaid.2, before, after, rfl, hunpaid.1⟩
  · rintro (rfl | ⟨hne, before, after, rfl, hunpaid⟩)
    · exact ⟨ms, [], rfl, List.not_mem_nil⟩
    · exact ⟨before, after ++ [m], by simp, by simp [hunpaid, Ne.symm hne]⟩

@[simp] theorem repliesInvited_nil : RepliesInvited [] := fun before m after heq => by
  simp at heq

@[simp] theorem repliesInvited_append_singleton :
    RepliesInvited (ms ++ [m]) ↔
      RepliesInvited ms ∧ (m = .accept ∨ m = .reject → Invited ms) := by
  constructor
  · intro h
    refine ⟨fun before m' after heq => ?_, h ms m [] rfl⟩
    exact h before m' (after ++ [m]) (by simp [heq])
  · rintro ⟨h, hlast⟩ before m' after heq hreply
    rcases List.eq_nil_or_concat after with rfl | ⟨after, last, rfl⟩
    · obtain ⟨rfl, hm⟩ := List.append_inj' heq rfl
      obtain rfl : m = m' := by simpa using hm
      exact hlast hreply
    · have heq' : ms ++ [m] = (before ++ m' :: after) ++ [last] := by simpa using heq
      exact h before m' after (List.append_inj' heq' rfl).1 hreply

@[simp] theorem endsFinished_append_singleton :
    EndsFinished (ms ++ [m]) ↔ m ∉ [Method.invite, .edit, .trust] := by
  simp [EndsFinished]

/-- An answer is given to an invitation, or it is remembered that there was none. -/
theorem LandCommand.Reflects.answer {l : LandCommand} {verb operation : String}
    (h : l.Reflects ms) (hm : m = .accept ∨ m = .reject) :
    (l.answer verb operation).Reflects (ms ++ [m]) := by
  have hinvited : Invited (ms ++ [m]) ↔ Invited ms := by
    rcases hm with rfl | rfl <;> simp
  have hends : EndsFinished (ms ++ [m]) := by
    rcases hm with rfl | rfl <;> simp
  cases htask : l.task with
  | invite answer =>
      have hinv : Invited ms := h.invited_iff.mp ⟨answer, htask⟩
      refine ⟨fun herror => ?_, by simp [LandCommand.answer, htask, hinvited, hinv], ?_⟩
      · simp only [LandCommand.answer, htask] at herror
        exact repliesInvited_append_singleton.mpr ⟨h.replies herror, fun _ => hinv⟩
      · simp [LandCommand.answer, htask, hends]
  | _ =>
      -- The answer is remembered as an error, so only the task has to tell about the calls.
      have hnot : ¬Invited ms := fun hinv => by simpa [htask] using h.invited_iff.mpr hinv
      refine ⟨?_, ?_, ?_⟩ <;> simp [LandCommand.answer, htask, hinvited, hnot]

theorem LandCommand.Reflects.invite {l : LandCommand} (h : l.Reflects ms) :
    l.invite.Reflects (ms ++ [.invite]) :=
  ⟨by simpa [LandCommand.invite] using h.replies, by simp [LandCommand.invite],
    by simp [LandCommand.invite]⟩

theorem LandCommand.Reflects.deposit {l : LandCommand} {value : String} (h : l.Reflects ms) :
    (l.deposit value).Reflects (ms ++ [.deposit]) :=
  ⟨by simpa [LandCommand.deposit] using h.replies, by simp [LandCommand.deposit],
    by simp [LandCommand.deposit]⟩

theorem Builder.call_reflects (h : b.Reflects ms) (hcall : b.call c = .ok b') :
    b'.Reflects (ms ++ [c.method]) := by
  revert hcall
  fun_cases Builder.call b c <;> rintro ⟨⟩
  case case1 | case2 | case3 | case4 | case5 => trivial
  case case6 => simp [Reflects, Call.method]
  case case7 => exact LandCommand.Reflects.invite h
  case case8 => exact LandCommand.Reflects.answer h (.inl rfl)
  case case9 => exact LandCommand.Reflects.answer h (.inr rfl)
  case case10 => exact LandCommand.Reflects.deposit h
  case case11 => simpa [Reflects, Call.method, LandCommand.edit] using h.replies
  case case12 => simpa [Reflects, Call.method, LandEditor.trust] using h.1
  case case13 => simpa [Reflects, Call.method, LandEditor.claim] using h.1
  case case14 => simpa [Reflects, Call.method, TrustCommand.add, TrustCommand.set] using h.1
  case case15 => simpa [Reflects, Call.method, TrustCommand.remove, TrustCommand.set] using h.1
  case case16 => simpa [Reflects, Call.method, ClaimCommand.draw] using h.1
  case case17 => simpa [Reflects, Call.method, ClaimCommand.erase] using h.1
  all_goals simpa [Reflects, Call.method, ClaimCommand.reshape] using h.1

theorem Stage.command_next {s : Stage} (h : m ∈ s.methods) : (m.next s).command = s.command := by
  revert h
  cases s <;> simp only [methods, List.mem_cons, List.not_mem_nil, or_false] <;>
    rintro (rfl | rfl | rfl | rfl | rfl) <;> rfl

theorem Builder.callWith_reflects {args : List Json} (h : b.Reflects ms)
    (hcall : b.callWith channels (m, args) = .ok b') :
    b'.Reflects (ms ++ [m]) ∧ m ∈ b.stage.methods ∧ b'.stage = m.next b.stage := by
  obtain ⟨c, hargs, hc⟩ := callWith_eq_ok_iff.mp hcall
  obtain rfl := Method.call_method hargs
  exact ⟨call_reflects h hc, call_stage hc⟩

/-- The calls of a rule lead to a command in the making that tells about them. -/
theorem Builder.callAll_reflects (h : b.Reflects ms)
    (hcalls : b.callAll channels calls = .ok b') :
    b'.Reflects (ms ++ calls.map Prod.fst) ∧ b'.stage.command = b.stage.command := by
  induction calls generalizing b ms with
  | nil =>
      cases hcalls
      simpa using h
  | cons call rest ih =>
      obtain ⟨b₁, hcall, hrest⟩ := bind_eq_ok_iff.mp hcalls
      obtain ⟨hreflects₁, hmem, hstage⟩ := callWith_reflects h hcall
      obtain ⟨hreflects, hcommand⟩ := ih hreflects₁ hrest
      exact ⟨by simpa using hreflects, by rw [hcommand, hstage, Stage.command_next hmem]⟩

theorem Command.start_reflects {arg : Option Json} (h : command.start arg = .ok b) :
    b.Reflects [] ∧ b.stage = command.stage := by
  cases command with
  | chat =>
      obtain ⟨s, _, rfl⟩ := map_eq_ok_iff.mp h
      exact ⟨trivial, rfl⟩
  | jump =>
      cases arg with
      | none =>
          cases h
          exact ⟨trivial, rfl⟩
      | some v =>
          obtain ⟨n, _, rfl⟩ := map_eq_ok_iff.mp h
          exact ⟨trivial, rfl⟩
  | pay =>
      obtain ⟨n, _, rfl⟩ := map_eq_ok_iff.mp h
      exact ⟨fun htarget => absurd rfl htarget, rfl⟩
  | land =>
      obtain ⟨s, _, rfl⟩ := map_eq_ok_iff.mp h
      refine ⟨⟨fun _ => repliesInvited_nil, ?_, fun _ => ?_⟩, rfl⟩
      · simp [LandCommand.start, Invited]
      · simp [LandCommand.start, EndsFinished]

theorem LandEditor.error_of_finish {e : LandEditor} {line : String} {step : Step}
    (h : e.finish line = .ok step) : e.error = none := by
  cases herror : e.error with
  | none => rfl
  | some err => simp [finish, herror] at h

/-- A command can be built only if its calls have told it everything. -/
theorem Builder.complete_of_build {step : Step} (h : b.Reflects ms) (hbuild : b.build = .ok step) :
    b.stage.command.Complete ms := by
  cases b with
  | chat | jump => trivial
  | pay c =>
      refine h fun hnone => ?_
      cases herror : c.error <;> simp [Builder.build, PayCommand.build, hnone, herror] at hbuild
  | land c =>
      cases herror : c.error with
      | some e => simp [Builder.build, LandCommand.build, herror] at hbuild
      | none =>
          refine ⟨h.replies herror, (h.finished_iff herror).mp ⟨?_, ?_⟩⟩ <;> intro htask <;>
            simp [Builder.build, LandCommand.build, LandCommand.line, herror, htask, Except.map]
              at hbuild
  | landEdit e => simp [Builder.build] at hbuild
  | trust c =>
      cases hline : c.line with
      | none => simp [Builder.build, TrustCommand.build, hline] at hbuild
      | some result =>
          cases result with
          | error e => simp [Builder.build, TrustCommand.build, hline] at hbuild
          | ok line =>
              simp only [Builder.build, TrustCommand.build, hline] at hbuild
              exact ⟨h.1 (LandEditor.error_of_finish hbuild), h.2.mp (by simp [hline])⟩
  | claim c => exact ⟨h.1 (LandEditor.error_of_finish hbuild), h.2⟩

/-- A command that has been told everything, by calls with whose arguments nothing was wrong, can be
built. -/
theorem Builder.build_of_complete (hreflects : b.Reflects ms) (hsound : b.Sound ms)
    (hcomplete : b.stage.command.Complete ms) : ∃ step, b.build = .ok step := by
  cases b with
  | chat c =>
      have herror : c.error = none := hsound
      simp [Builder.build, ChatCommand.build, herror]
  | jump c => simp [Builder.build]
  | pay c =>
      obtain ⟨target, htarget⟩ := Option.ne_none_iff_exists'.mp (hsound.2 hcomplete)
      simp [Builder.build, PayCommand.build, hsound.1, htarget]
  | land c =>
      obtain ⟨hreplies, hends⟩ := hcomplete
      have herror := hsound.error_eq hreplies
      obtain ⟨hset, hanswered⟩ := (hreflects.finished_iff herror).mpr hends
      cases htask : c.task with
      | unset => exact absurd htask hset
      | invite answer =>
          cases answer with
          | none => exact absurd htask hanswered
          | some verb =>
              simp [Builder.build, LandCommand.build, LandCommand.line, herror, htask, Except.map]
      | deposit value =>
          have hvalue := hsound.deposit value htask
          simp [Builder.build, LandCommand.build, LandCommand.line, herror, htask, hvalue,
            Except.map]
  | landEdit e => exact absurd hcomplete.2 hreflects.2
  | trust c =>
      have herror := hsound.1 hcomplete.1
      cases hline : c.line with
      | none => exact absurd hline (hreflects.2.mpr hcomplete.2)
      | some result =>
          cases result with
          | error e => exact absurd hline (hsound.2 e)
          | ok line => simp [Builder.build, TrustCommand.build, LandEditor.finish, hline, herror]
  | claim c =>
      have herror := hsound hcomplete.1
      simp [Builder.build, ClaimCommand.build, LandEditor.finish, herror]

/-! ## Arguments with which nothing is wrong -/

/-- Arguments for a call, `name` standing for whoever and whatever has to be named. -/
def Method.sampleArgs (name : String) : Method → List Json
  | .sendTo | .switchChannel | .transferTo | .add | .remove => [.str name]
  | .interval | .radius => [.num (.int 1)]
  | _ => []

/-- The call that is made with those arguments. -/
def Method.sampleCall (name : String) : Method → Call
  | .sendTo => .sendTo name
  | .toAll => .toAll
  | .switchChannel => .switchChannel name
  | .interval => .interval (.ofSeconds 1)
  | .transferTo => .transferTo name
  | .invite => .invite
  | .accept => .accept
  | .reject => .reject
  | .deposit => .deposit "all"
  | .edit => .edit
  | .trust => .trust
  | .claim => .claim
  | .add => .add name
  | .remove => .remove name
  | .draw => .draw
  | .erase => .erase
  | .radius => .radius 1
  | .auto => .auto
  | .fill => .fill

theorem Method.call_sampleArgs {name : String} (hname : channels.get? name = none) (m : Method) :
    m.call channels (m.sampleArgs name) = .ok (m.sampleCall name) := by
  cases m with
  | switchChannel => simp [call, sampleArgs, sampleCall, Argument.text, Except.map, hname]
  | _ => rfl

namespace LandCommand.Sound

variable {l : LandCommand}

theorem invite (h : l.Sound ms) : l.invite.Sound (ms ++ [.invite]) :=
  ⟨by simpa [LandCommand.invite] using h.error_eq, by simp [LandCommand.invite]⟩

theorem answer {verb operation : String} (h : l.Sound ms) (hreflects : l.Reflects ms)
    (hm : m = .accept ∨ m = .reject) : (l.answer verb operation).Sound (ms ++ [m]) := by
  cases htask : l.task with
  | invite answer =>
      refine ⟨fun hreplies => ?_, by simp [LandCommand.answer, htask]⟩
      simpa [LandCommand.answer, htask] using
        h.error_eq (repliesInvited_append_singleton.mp hreplies).1
  | _ =>
      have hkeeps : (l.answer verb operation).task = l.task := by simp [LandCommand.answer, htask]
      refine ⟨fun hreplies => ?_, by rw [hkeeps]; exact h.deposit⟩
      -- There was an invitation, and the task of a command that was invited is an invitation.
      have hinvited := (repliesInvited_append_singleton.mp hreplies).2 hm
      simpa [htask] using hreflects.invited_iff.mpr hinvited

theorem deposit_all (h : l.Sound ms) : (l.deposit "all").Sound (ms ++ [.deposit]) := by
  refine ⟨by simpa [LandCommand.deposit] using h.error_eq, ?_⟩
  rintro value ⟨⟩
  decide

end LandCommand.Sound

/-- A call that is offered, with an argument with which nothing is wrong, leaves nothing wrong. -/
theorem Builder.exists_call {name : String} (hblank : Text.isBlank name = false)
    (hmem : m ∈ b.stage.methods) (hreflects : b.Reflects ms) (hsound : b.Sound ms) :
    ∃ b', b.call (m.sampleCall name) = .ok b' ∧ b'.Sound (ms ++ [m]) := by
  cases b with
  | chat c =>
      have herror : c.error = none := hsound
      simp only [stage, Stage.methods, List.mem_cons, List.not_mem_nil, or_false] at hmem
      rcases hmem with rfl | rfl | rfl | rfl <;> refine ⟨_, rfl, ?_⟩
      · simpa [Sound, ChatCommand.sendTo, hblank] using herror
      · exact herror
      · by_cases hprivate : c.recipient.isSome = true
        · simpa [Sound, ChatCommand.switchChannel, hprivate] using herror
        · simpa [Sound, ChatCommand.switchChannel, hprivate, hblank] using herror
      · exact herror
  | jump c =>
      obtain rfl : m = .interval := by simpa [stage, Stage.methods] using hmem
      exact ⟨_, rfl, trivial⟩
  | pay c =>
      obtain rfl : m = .transferTo := by simpa [stage, Stage.methods] using hmem
      exact ⟨_, rfl, by simpa [Sound, PayCommand.transferTo, hblank] using hsound.1⟩
  | land c =>
      simp only [stage, Stage.methods, List.mem_cons, List.not_mem_nil, or_false] at hmem
      rcases hmem with rfl | rfl | rfl | rfl | rfl <;> refine ⟨_, rfl, ?_⟩
      · exact hsound.invite
      · exact hsound.answer hreflects (.inl rfl)
      · exact hsound.answer hreflects (.inr rfl)
      · exact hsound.deposit_all
      · simpa [Sound, LandCommand.edit] using hsound.error_eq
  | landEdit e =>
      simp only [stage, Stage.methods, List.mem_cons, List.not_mem_nil, or_false] at hmem
      rcases hmem with rfl | rfl <;> refine ⟨_, rfl, ?_⟩
      · simpa [Sound, LandEditor.trust] using hsound
      · simpa [Sound, LandEditor.claim] using hsound
  | trust c =>
      simp only [stage, Stage.methods, List.mem_cons, List.not_mem_nil, or_false] at hmem
      rcases hmem with rfl | rfl <;> refine ⟨_, rfl, ?_⟩
      · simpa [Sound, TrustCommand.add, TrustCommand.set, hblank] using hsound.1
      · simpa [Sound, TrustCommand.remove, TrustCommand.set, hblank] using hsound.1
  | claim c =>
      simp only [stage, Stage.methods, List.mem_cons, List.not_mem_nil, or_false] at hmem
      rcases hmem with rfl | rfl | rfl | rfl | rfl <;> refine ⟨_, rfl, ?_⟩
      · simpa [Sound, ClaimCommand.draw] using hsound
      · simpa [Sound, ClaimCommand.erase] using hsound
      all_goals simpa [Sound, ClaimCommand.reshape] using hsound

/-- Calls that are offered where they are made can be made one after another. -/
theorem Builder.exists_callAll {name : String} {s : Stage} (hname : channels.get? name = none)
    (hblank : Text.isBlank name = false) (hafter : b.stage.after? ms' = some s)
    (hreflects : b.Reflects ms) (hsound : b.Sound ms) :
    ∃ b', b.callAll channels (ms'.map fun m => (m, m.sampleArgs name)) = .ok b' ∧
      b'.Sound (ms ++ ms') := by
  induction ms' generalizing b ms with
  | nil => exact ⟨b, rfl, by simpa using hsound⟩
  | cons m rest ih =>
      by_cases hmem : m ∈ b.stage.methods
      · obtain ⟨b₁, hc, hsound₁⟩ := exists_call hblank hmem hreflects hsound
        have hcall := callWith_eq_ok_iff.mpr ⟨_, Method.call_sampleArgs hname m, hc⟩
        obtain ⟨hreflects₁, _, hstage⟩ := callWith_reflects hreflects hcall
        have hafter₁ : b₁.stage.after? rest = some s := by
          simpa [Stage.after?, hmem, hstage] using hafter
        obtain ⟨b', hrest, hsound'⟩ := ih hafter₁ hreflects₁ hsound₁
        exact ⟨b', bind_eq_ok_iff.mpr ⟨b₁, hcall, hrest⟩, by simpa using hsound'⟩
      · simp [Stage.after?, hmem] at hafter

/-- There are more names than aliases. -/
theorem Aliases.exists_fresh (channels : Aliases) :
    ∃ name, channels.get? name = none ∧ Text.isBlank name = false := by
  let name (n : Nat) := String.ofList (List.replicate (n + 1) 'x')
  have hinjective : Function.Injective name := fun n k h => by
    simpa [name] using congrArg String.length h
  obtain ⟨_, ⟨n, rfl⟩, hfresh⟩ := (Set.infinite_range_of_injective hinjective).exists_notMem_finset
    (channels.map Prod.fst).toFinset
  refine ⟨name n, ?_, ?_⟩
  · have hnone : channels.find? (·.1 == name n) = none :=
      List.find?_eq_none.mpr fun entry hmem heq => hfresh <| by
        rw [← eq_of_beq heq]
        exact List.mem_toFinset.mpr (List.mem_map_of_mem hmem)
    simp [Aliases.get?, hnone]
  · have hx : Unicode.isWhiteSpace 'x' = false := by decide
    simp [Text.isBlank, name, List.replicate_succ, hx]

/-- Arguments with which a command can be started. -/
def Command.sampleArgs : Command → List (String × Json)
  | .chat => [("content", .str "x")]
  | .jump => [("times", .num (.int 1))]
  | .pay => [("amount", .num (.int 1))]
  | .land => [("land_name", .str "x")]

theorem Command.exists_start (command : Command) :
    ∃ v b, command.params.findSome? (valueOf? command.sampleArgs) = some v ∧
      command.start (some v) = .ok b ∧ b.Sound [] := by
  cases command with
  | chat => exact ⟨_, _, rfl, rfl, rfl⟩
  | jump => exact ⟨_, _, rfl, rfl, trivial⟩
  | pay => exact ⟨_, _, rfl, rfl, by simp [Builder.Sound, PayCommand.start]⟩
  | land => exact ⟨_, _, rfl, rfl, ⟨fun _ => by decide, by simp [LandCommand.start]⟩⟩

namespace Trigger

variable {index : Nat} {spec : TriggerSpec} {t : Trigger} {limit : Nanos} {e : Event} {step : Step}

theorem build_eq_ok_iff :
    t.build channels limit e = .ok step ↔
      ∃ b step', t.builder channels e = .ok b ∧ b.build = .ok step' ∧
        { step' with limit := t.limit.getD limit } = step := by
  simp [build, bind_eq_ok_iff, mapError_eq_ok_iff, pure, Except.pure]

/-- There are arguments for the command of a rule, and arguments for its calls, with which the
command can be built. -/
def CanBuild (t : Trigger) (channels : Aliases) (limit : Nanos) (e : Event) : Prop :=
  ∃ args calls step, calls.map Prod.fst = t.calls.map Prod.fst ∧
    ({ t with args, calls } : Trigger).build channels limit e = .ok step

/-- Whatever the arguments of a rule are, its command can be built only if the methods of its calls
say everything. -/
theorem complete_of_build (h : t.build channels limit e = .ok step) :
    t.command.Complete (t.calls.map Prod.fst) := by
  obtain ⟨b, _, hbuilder, hbuild, _⟩ := build_eq_ok_iff.mp h
  obtain ⟨b₀, hstart, hcalls⟩ := bind_eq_ok_iff.mp (builder_eq t channels e ▸ hbuilder)
  obtain ⟨hreflects₀, hstage₀⟩ := Command.start_reflects hstart
  obtain ⟨hreflects, hcommand⟩ := Builder.callAll_reflects hreflects₀ hcalls
  have hcomplete := Builder.complete_of_build hreflects hbuild
  rwa [hcommand, hstage₀, Command.stage_command] at hcomplete

theorem complete_of_canBuild (h : t.CanBuild channels limit e) :
    t.command.Complete (t.calls.map Prod.fst) := by
  obtain ⟨args, calls, step, hmethods, hbuild⟩ := h
  exact hmethods ▸ complete_of_build hbuild

/-- Methods that say everything and that are offered where they are called build a command, with the
right arguments. -/
theorem canBuild_of_complete {s : Stage}
    (hafter : t.command.stage.after? (t.calls.map Prod.fst) = some s)
    (hcomplete : t.command.Complete (t.calls.map Prod.fst)) : t.CanBuild channels limit e := by
  obtain ⟨name, hname, hblank⟩ := channels.exists_fresh
  obtain ⟨v, b₀, harg, hstart, hsound₀⟩ := t.command.exists_start
  obtain ⟨hreflects₀, hstage₀⟩ := Command.start_reflects hstart
  obtain ⟨b, hcalls, hsound⟩ :=
    Builder.exists_callAll hname hblank (hstage₀ ▸ hafter) hreflects₀ hsound₀
  obtain ⟨hreflects, hcommand⟩ := Builder.callAll_reflects hreflects₀ hcalls
  have hmethods : ((t.calls.map Prod.fst).map fun m => (m, m.sampleArgs name)).map Prod.fst =
      t.calls.map Prod.fst := by
    simp [Function.comp_def]
  rw [hmethods] at hreflects
  rw [hstage₀, Command.stage_command] at hcommand
  obtain ⟨step, hbuild⟩ := Builder.build_of_complete hreflects hsound (hcommand ▸ hcomplete)
  refine ⟨t.command.sampleArgs, _, _, hmethods, build_eq_ok_iff.mpr ⟨b, step, ?_, hbuild, rfl⟩⟩
  rw [builder_eq]
  refine bind_eq_ok_iff.mpr ⟨b₀, ?_, hcalls⟩
  simpa [argument, harg] using hstart

end Trigger

/-- Of a rule that is loaded, the methods of its calls decide whether there are arguments with which
its command can be built: there are if the methods say everything, and none otherwise. Loading it
does not tell the two apart. -/
theorem canBuild_iff_complete [PatternWording] {specs : List TriggerSpec} {limit : Nanos}
    {ts : TriggerSet}
    (hload : TriggerSet.compile specs channels limit = .ok ts) :
    List.Forall₂ (fun spec t =>
      Command.ofName? spec.action.action = some t.command ∧
      spec.action.chain.filter (!Trigger.setsLimit ·) = t.calls.map Trigger.entryOf ∧
      ∀ e, t.CanBuild ts.channels ts.stepLimit e ↔ t.command.Complete (t.calls.map Prod.fst))
      specs ts.rules := by
  refine (TriggerSet.compile_ok hload).imp fun spec t ⟨index, hrule⟩ => ?_
  obtain ⟨hcommand, hcalls, s, hafter, _⟩ := Trigger.compile_ok hrule
  exact ⟨hcommand, hcalls, fun e =>
    ⟨Trigger.complete_of_canBuild, Trigger.canBuild_of_complete hafter⟩⟩

/-- A rule for land commands. -/
def landRule (chain : List (List Json)) : TriggerSpec :=
  ⟨"kick", [], ⟨"land", [("name", .str "Home")], chain⟩⟩

/-- The rule for land commands, loaded. -/
def landTrigger (calls : List (Method × List Json)) (limit : Option Nanos) : Trigger :=
  ⟨0, "kick", [], .land, [("name", .str "Home")], calls, limit⟩

/-- Answering an invitation can be built. -/
theorem canBuild_of_answer :
    ∃ ts, TriggerSet.compile [landRule [[.str "invite"], [.str "timeout", .num (.int 1)],
        [.str "accept"]]] [] 0 = .ok ts ∧
      ts.rules = [landTrigger [(.invite, []), (.accept, [])] (some 1000000000)] ∧
      ∀ t ∈ ts.rules, ∀ e, t.CanBuild [] 0 e := by
  have hload : TriggerSet.compile [landRule [[.str "invite"], [.str "timeout", .num (.int 1)],
      [.str "accept"]]] [] 0 =
        .ok ⟨[landTrigger [(.invite, []), (.accept, [])] (some 1000000000)], [], 0⟩ := rfl
  refine ⟨_, hload, rfl, fun t ht e => ?_⟩
  obtain rfl := List.mem_singleton.mp ht
  obtain ⟨⟨_, _, hiff⟩, _⟩ := List.forall₂_cons.mp (canBuild_iff_complete hload)
  have hinvite : RepliesInvited ([] ++ [.invite]) :=
    repliesInvited_append_singleton.mpr ⟨repliesInvited_nil, by simp⟩
  have hreply : RepliesInvited ([.invite] ++ [.accept]) :=
    repliesInvited_append_singleton.mpr ⟨hinvite, fun _ => ⟨[], [], rfl, List.not_mem_nil⟩⟩
  exact (hiff e).mpr ⟨hreply, .accept, rfl, by decide⟩

/-- So it is not true that each rule that is loaded can be built: one may start a land command and
make no call. -/
theorem not_canBuild_of_loads :
    ¬∀ specs channels limit ts, TriggerSet.compile specs channels limit = .ok ts →
      ∀ t ∈ ts.rules, ∃ channels limit e, t.CanBuild channels limit e := by
  intro hclaim
  obtain ⟨channels, limit, e, h⟩ :=
    hclaim [landRule []] [] 0 ⟨[landTrigger [] none], [], 0⟩ rfl _ (List.mem_singleton_self _)
  obtain ⟨last, hlast, _⟩ := (Trigger.complete_of_canBuild h).2
  cases hlast

end LogWarden
