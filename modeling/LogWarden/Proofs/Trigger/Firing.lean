import LogWarden.Proofs.Command.Faults
import LogWarden.Proofs.Trigger.Grammar

/-!
# Firing a rule

A rule that has been loaded yields, for an event for which it fires, what its command yields as it
is written down: the start of the command and its calls, one upon another, with the arguments that
the rule gives. Arguments are read while the calls are made, but since each call is offered where it
is made, it comes to the same to read them all first.
-/

namespace LogWarden

/-- The start of a command with a JSON argument. Without one there are three jumps. -/
def Command.read (c : Command) (arg : Option Json) : Except TriggerFault Start :=
  match c with
  | .chat => (Argument.text "chat" arg).map .chat
  | .jump =>
    match arg with
    | none => .ok (.jump 3)
    | arg => (Argument.count "jump" arg).map .jump
  | .pay => (Argument.amount arg).map .pay
  | .land => (Argument.text "land" arg).map .land

/-- The calls of a rule with their arguments. The first argument that cannot be read counts. -/
def Method.callEach (channels : Aliases) (calls : List (Method × List Json)) :
    Except TriggerFault (List Call) :=
  calls.mapM fun call => call.1.call channels call.2

/-- The start and the calls of a rule for an event. The first argument that cannot be read counts,
that of the command before those of the calls. -/
def Trigger.read (t : Trigger) (channels : Aliases) (e : Event) :
    Except TriggerFault (Start × List Call) := do
  let a ← t.command.read (t.argument e)
  let calls ← Method.callEach channels t.calls
  return (a, calls)

/-- A value is the first one found under names, in their order. -/
def FirstValue (lookup : String → Option Json) (names : List String) (v : Json) : Prop :=
  ∃ before name after, names = before ++ name :: after ∧ (∀ n ∈ before, lookup n = none) ∧
    lookup name = some v

/-- A call was made where it is not offered, or nothing that can be built was made. -/
def CommandError.IsMisuse (err : CommandError) : Prop :=
  err = .incomplete "land edit" ∨
    ∃ method, err = .invalidArgument method "called on the wrong builder"

/-- An argument is not what it should be. -/
def TriggerFault.IsInvalidArgument (fault : TriggerFault) : Prop :=
  ∃ method reason, fault = .command (.invalidArgument method reason) ∧
    ¬(CommandError.invalidArgument method reason).IsMisuse

variable {m : Method} {a : Start} {s s' : Stage} {channels : Aliases} {args : List Json}
  {calls : List (Method × List Json)} {fault : TriggerFault}

/-! ## Arguments -/

theorem TriggerFault.isInvalidArgument_of_head {method reason : String}
    (h : reason.toList.head? ≠ some 'c') :
    (command (.invalidArgument method reason)).IsInvalidArgument := by
  refine ⟨method, reason, rfl, ?_⟩
  rintro (heq | ⟨_, heq⟩)
  · cases heq
  · obtain ⟨-, rfl⟩ := CommandError.invalidArgument.inj heq
    exact h (by simp)

namespace Argument

theorem unexpected_isInvalidArgument (method expected : String) (v : Option Json) :
    (unexpected method expected v).IsInvalidArgument :=
  TriggerFault.isInvalidArgument_of_head (by simp)

theorem text_isInvalidArgument {method : String} {v : Option Json}
    (h : text method v = .error fault) : fault.IsInvalidArgument := by
  revert h
  fun_cases text method v <;> rintro ⟨⟩
  exact unexpected_isInvalidArgument _ _ _

theorem count_isInvalidArgument {method : String} {v : Option Json}
    (h : count method v = .error fault) : fault.IsInvalidArgument := by
  revert h
  fun_cases count method v <;> rintro ⟨⟩ <;> exact unexpected_isInvalidArgument _ _ _

theorem amount_isInvalidArgument {v : Option Json} (h : amount v = .error fault) :
    fault.IsInvalidArgument := by
  have hnotWhole (cs : String) : (TriggerFault.command (.invalidArgument "pay"
      ("amount " ++ cs ++ " is not a whole number"))).IsInvalidArgument :=
    TriggerFault.isInvalidArgument_of_head (by simp)
  have hnotWholeText (cs : String) : (TriggerFault.command (.invalidArgument "pay"
      ("amount '" ++ cs ++ "' is not a whole number"))).IsInvalidArgument :=
    TriggerFault.isInvalidArgument_of_head (by simp)
  revert h
  fun_cases amount v <;> intro h
  case case1 | case4 => cases h
  case case2 | case3 => exact Except.error.inj h ▸ hnotWhole _
  case case5 => exact Except.error.inj h ▸ hnotWholeText _
  case case6 => exact Except.error.inj h ▸ unexpected_isInvalidArgument _ _ _

theorem seconds_isInvalidArgument {method : String} {v : Option Json}
    (hfit : ¬TooLong v) (h : seconds method v = .error fault) : fault.IsInvalidArgument := by
  cases fault with
  | secondsOverflow => exact absurd ((seconds_eq_overflow_iff method).mp h) hfit
  | command e =>
      obtain ⟨-, rfl⟩ := (seconds_eq_command_iff method).mp h
      exact unexpected_isInvalidArgument method "non-negative seconds" v

end Argument

theorem Method.call_isInvalidArgument (hfit : m = .interval → ¬Argument.TooLong args.head?)
    (h : m.call channels args = .error fault) : fault.IsInvalidArgument := by
  cases m with
  | deposit =>
      simp only [call] at h
      split_ifs at h
      exact Argument.text_isInvalidArgument (map_eq_error_iff.mp h)
  | interval => exact Argument.seconds_isInvalidArgument (hfit rfl) (map_eq_error_iff.mp h)
  | radius => exact Argument.count_isInvalidArgument (map_eq_error_iff.mp h)
  | sendTo | switchChannel | transferTo | add | remove =>
      exact Argument.text_isInvalidArgument (map_eq_error_iff.mp h)
  | _ => cases h

namespace Command

variable {command : Command} {arg : Option Json}

theorem start_eq (command : Command) (arg : Option Json) :
    command.start arg = (command.read arg).map fun a => .of a.stage a.make := by
  have hmap {α : Type} (x : Except TriggerFault α) (f : α → Start) :
      (x.map f).map (fun a => Builder.of a.stage a.make) =
        x.map fun v => .of (f v).stage (f v).make := by
    cases x <;> rfl
  cases command with
  | jump => cases arg <;> simp only [start, read, hmap] <;> rfl
  | _ => simp only [start, read, hmap]; rfl

theorem read_stage (h : command.read arg = .ok a) : a.stage = command.stage := by
  cases command with
  | jump =>
      cases arg with
      | none =>
          cases h
          rfl
      | some v =>
          obtain ⟨_, -, rfl⟩ := map_eq_ok_iff.mp h
          rfl
  | _ =>
      obtain ⟨_, -, rfl⟩ := map_eq_ok_iff.mp h
      rfl

theorem read_isInvalidArgument (h : command.read arg = .error fault) :
    fault.IsInvalidArgument := by
  cases command with
  | chat | land => exact Argument.text_isInvalidArgument (map_eq_error_iff.mp h)
  | pay => exact Argument.amount_isInvalidArgument (map_eq_error_iff.mp h)
  | jump =>
      cases arg with
      | none => cases h
      | some v => exact Argument.count_isInvalidArgument (map_eq_error_iff.mp h)

end Command

/-! ## Calls -/

theorem Method.callEach_cons (call : Method × List Json) (rest : List (Method × List Json)) :
    callEach channels (call :: rest) =
      call.1.call channels call.2 >>= fun c =>
        callEach channels rest >>= fun cs => .ok (c :: cs) :=
  List.mapM_cons

theorem Method.callEach_isInvalidArgument
    (hfit : ∀ call ∈ calls, call.1 = .interval → ¬Argument.TooLong call.2.head?)
    (h : callEach channels calls = .error fault) : fault.IsInvalidArgument := by
  induction calls with
  | nil => cases h
  | cons call rest ih =>
      obtain ⟨hcall, hrest⟩ := List.forall_mem_cons.mp hfit
      rw [callEach_cons] at h
      rcases bind_eq_error_iff.mp h with hfault | ⟨_, -, h⟩
      · exact call_isInvalidArgument hcall hfault
      · rcases bind_eq_error_iff.mp h with hfault | ⟨_, -, h⟩
        · exact ih hrest hfault
        · cases h

/-- Calls that are offered one behind another fail only for an argument that cannot be read;
otherwise they make what is written down. -/
theorem Fluent.callAll (f : Fluent a s) (hafter : s.after? (calls.map Prod.fst) = some s') :
    (∀ fault, Method.callEach channels calls = .error fault →
      (Builder.of s f.make).callAll channels calls = .error fault) ∧
    ∀ cs, Method.callEach channels calls = .ok cs → ∃ f' : Fluent a s', f'.calls = f.calls ++ cs ∧
      (Builder.of s f.make).callAll channels calls = .ok (.of s' f'.make) := by
  induction calls generalizing s with
  | nil =>
      cases hafter
      refine ⟨fun fault h => ?_, fun cs h => ?_⟩
      · cases h
      · cases h
        exact ⟨f, (List.append_nil _).symm, rfl⟩
  | cons call rest ih =>
      obtain ⟨m, args⟩ := call
      rw [List.map_cons, Stage.after?] at hafter
      split_ifs at hafter with hmem
      have hcons : (Builder.of s f.make).callAll channels ((m, args) :: rest) =
          (Builder.of s f.make).callWith channels (m, args) >>= (·.callAll channels rest) := rfl
      rw [hcons, Method.callEach_cons]
      cases hread : m.call channels args with
      | error fault =>
          have hcall : (Builder.of s f.make).callWith channels (m, args) = .error fault :=
            bind_eq_error_iff.mpr (.inl hread)
          rw [hcall]
          refine ⟨fun fault h => ?_, fun cs h => ?_⟩
          · cases h
            rfl
          · cases h
      | ok c =>
          obtain rfl : c.method = m := Method.call_method hread
          obtain ⟨k, hk⟩ := StageCall.exists_of_mem hmem
          have hcall : (Builder.of s f.make).callWith channels (c.method, args) =
              .ok (.of _ (f.call k).make) :=
            Builder.callWith_eq_ok_iff.mpr
              ⟨c, hread, (congrArg _ hk.symm).trans (k.builder_call f.make)⟩
          obtain ⟨hfaults, hmakes⟩ := ih (f.call k) hafter
          rw [hcall]
          refine ⟨fun fault h => hfaults fault ?_, fun cs h => ?_⟩
          · simpa [bind_eq_error_iff] using h
          · obtain ⟨_, ⟨⟩, h⟩ := bind_eq_ok_iff.mp h
            obtain ⟨cs, hrest, ⟨⟩⟩ := bind_eq_ok_iff.mp h
            obtain ⟨f', hcalls, hmake⟩ := hmakes cs hrest
            exact ⟨f', by simp [hcalls, Fluent.calls, hk], hmake⟩

theorem Fluent.build_not_isMisuse {f : Fluent a s} {h : s ≠ .landEdit} {err : CommandError}
    (hbuild : f.build h = .error err) : ¬err.IsMisuse := by
  intro hmisuse
  rcases build_eq_error_cases h hbuild with hcan | rfl | rfl | ⟨command, hne, rfl⟩
  · rcases hmisuse with rfl | ⟨_, rfl⟩ <;> cases s <;> simp [Stage.CanFault] at hcan
  all_goals simp_all [CommandError.IsMisuse]

namespace Trigger

variable {t : Trigger} {e : Event}

theorem read_eq_error_iff :
    t.read channels e = .error fault ↔
      t.command.read (t.argument e) = .error fault ∨
        ∃ a, t.command.read (t.argument e) = .ok a ∧
          Method.callEach channels t.calls = .error fault := by
  simp [read, bind_eq_error_iff, pure, Except.pure]

theorem read_isInvalidArgument
    (hfit : ∀ call ∈ t.calls, call.1 = .interval → ¬Argument.TooLong call.2.head?)
    (h : t.read channels e = .error fault) : fault.IsInvalidArgument := by
  rcases read_eq_error_iff.mp h with hstart | ⟨_, -, hcalls⟩
  · exact Command.read_isInvalidArgument hstart
  · exact Method.callEach_isInvalidArgument hfit hcalls

theorem read_eq_ok_iff {cs : List Call} :
    t.read channels e = .ok (a, cs) ↔
      t.command.read (t.argument e) = .ok a ∧ Method.callEach channels t.calls = .ok cs := by
  simp [read, bind_eq_ok_iff, pure, Except.pure]

/-- What a rule yields: the fault of the first argument that cannot be read, or what its command
yields as it is written down, with the limit that the rule sets. -/
theorem build_eq (channels : Aliases) (limit : Nanos) (e : Event)
    (hafter : t.command.stage.after? (t.calls.map Prod.fst) = some s) (h : s ≠ .landEdit) :
    (∀ fault, t.read channels e = .error fault → t.build channels limit e = .error fault) ∧
    ∀ a cs, t.read channels e = .ok (a, cs) → ∃ f : Fluent a s, f.calls = cs ∧
      t.build channels limit e =
        ((f.build h).map fun step => { step with limit := t.limit.getD limit }).mapError
          .command := by
  have hbuild : t.build channels limit e = t.command.start (t.argument e) >>= fun b =>
      b.callAll channels t.calls >>= fun b => b.build.mapError .command >>= fun step =>
        .ok { step with limit := t.limit.getD limit } := by
    rw [build, builder_eq, bind_assoc]
    rfl
  rw [hbuild, Command.start_eq]
  refine ⟨fun fault hread => ?_, fun a cs hread => ?_⟩
  · rcases read_eq_error_iff.mp hread with hread | ⟨a, hread, hcalls⟩
    · rw [hread]
      rfl
    · rw [hread]
      have hfault := ((Fluent.start (a := a)).callAll
        ((Command.read_stage hread).symm ▸ hafter)).1 fault hcalls
      exact bind_eq_error_iff.mpr (.inr ⟨_, rfl, bind_eq_error_iff.mpr (.inl hfault)⟩)
  · obtain ⟨hstart, hcalls⟩ := read_eq_ok_iff.mp hread
    obtain ⟨f, rfl, hmake⟩ := ((Fluent.start (a := a)).callAll
      ((Command.read_stage hstart).symm ▸ hafter)).2 cs hcalls
    have hmake : (Builder.of a.stage a.make).callAll channels t.calls = .ok (.of s f.make) := hmake
    refine ⟨f, rfl, ?_⟩
    rw [hstart]
    simp only [Except.map, bind, Except.bind, hmake, Builder.build_of h]
    rw [Fluent.build]
    cases s.build h f.make <;> rfl

/-- The argument of a rule's command is the first that the rule itself gives, else the first that
the event has. -/
theorem argument_eq_some_iff {v : Json} :
    t.argument e = some v ↔
      FirstValue (valueOf? t.args) t.command.params v ∨
        (∀ name ∈ t.command.params, valueOf? t.args name = none) ∧
          FirstValue e.payload.field? t.command.params v := by
  have hfirst (lookup : String → Option Json) :
      t.command.params.findSome? lookup = some v ↔ FirstValue lookup t.command.params v := by
    rw [List.findSome?_eq_some_iff]
    simp only [FirstValue]
    grind
  rw [argument, Option.or_eq_some_iff, hfirst, hfirst, List.findSome?_eq_none_iff]

end Trigger

/-! ## Sets of rules -/

namespace TriggerSet

variable {specs : List TriggerSpec} {stepLimit : Nanos} {ts : TriggerSet} {i : Nat} {t : Trigger}
  {e : Event}

theorem exists_compile_of_getElem? [PatternWording]
    (hload : compile specs channels stepLimit = .ok ts)
    (ht : ts.rules[i]? = some t) :
    ∃ spec, specs[i]? = some spec ∧ Trigger.compile i spec = .ok t := by
  have hrel := compile_getElem? hload i
  rw [ht] at hrel
  cases hspec : specs[i]? with
  | none =>
      rw [hspec] at hrel
      cases hrel
  | some spec =>
      rw [hspec] at hrel
      cases hrel with
      | some hrule => exact ⟨spec, rfl, hrule⟩

/-- A set yields under an index what the rule in that place yields. -/
theorem mem_fire_iff [PatternWording] (hload : compile specs channels stepLimit = .ok ts)
    (ht : ts.rules[i]? = some t) (hfires : t.firesFor e = true) {r : Except TriggerFault Step} :
    (i, r) ∈ ts.fire e ↔ r = t.build channels stepLimit e := by
  have hindex {j : Nat} {u : Trigger} (hu : ts.rules[j]? = some u) : u.index = j := by
    obtain ⟨_, -, hrule⟩ := exists_compile_of_getElem? hload hu
    exact (Trigger.compile_renders hrule).index_eq
  obtain ⟨hchannels, hlimit⟩ : ts.channels = channels ∧ ts.stepLimit = stepLimit := by
    obtain ⟨rules, -, h⟩ := bind_eq_ok_iff.mp hload
    cases h
    exact ⟨rfl, rfl⟩
  simp only [fire, List.mem_map, List.mem_filter, Prod.mk.injEq, hchannels, hlimit]
  constructor
  · rintro ⟨u, ⟨hmem, -⟩, huindex, rfl⟩
    obtain ⟨j, hu⟩ := List.mem_iff_getElem?.mp hmem
    -- The rule stands where its index says, so it is the one in question.
    obtain rfl : j = i := (hindex hu).symm.trans huindex
    obtain rfl : t = u := Option.some.inj (ht.symm.trans hu)
    rfl
  · rintro rfl
    exact ⟨t, ⟨List.mem_of_getElem? ht, hfires⟩, hindex ht, rfl⟩

end TriggerSet

/-- What a rule that has been loaded yields for an event for which it fires, if none of its pauses
is too long. If an argument cannot be read, that of the command or, in their order, those of the
calls, this is an invalid argument. Otherwise it is what the command yields as it is written down,
with the limit that the rule sets last or else that of the set. The argument of the command is one
of the rule's own or else a field of the event. Without one there are three jumps; a deposit without
a value is of all there is; and a channel is looked up under its name. -/
theorem fires_as_written [PatternWording] {specs : List TriggerSpec} {stepLimit : Nanos}
    {ts : TriggerSet}
    (hload : TriggerSet.compile specs channels stepLimit = .ok ts) {i : Nat} {t : Trigger}
    (ht : ts.rules[i]? = some t) {e : Event} (hfires : t.firesFor e = true)
    (hfit : ∀ call ∈ t.calls, call.1 = .interval → ¬Argument.TooLong call.2.head?) :
    ∃ spec r, specs[i]? = some spec ∧ t.Renders i spec ∧ (∀ r', (i, r') ∈ ts.fire e ↔ r' = r) ∧
      (∀ fault, t.read channels e = .error fault → r = .error fault ∧ fault.IsInvalidArgument) ∧
      (∀ a cs, t.read channels e = .ok (a, cs) →
        ∃ s, ∃ h : s ≠ .landEdit, ∃ f : Fluent a s, a.stage = t.command.stage ∧ f.calls = cs ∧
          r = ((f.build h).map fun step => { step with limit := t.limit.getD stepLimit }).mapError
            .command) ∧
      (∀ v, t.argument e = some v ↔
        FirstValue (valueOf? t.args) t.command.params v ∨
          (∀ name ∈ t.command.params, valueOf? t.args name = none) ∧
            FirstValue e.payload.field? t.command.params v) ∧
      (Command.jump.read none = .ok (.jump 3) ∧
        Method.deposit.call channels [] = .ok (.deposit "all") ∧
        ∀ name rest, Method.switchChannel.call channels (.str name :: rest) =
          .ok (.switchChannel ((channels.get? name).getD name))) ∧
      ∀ err, r = .error (.command err) → ¬err.IsMisuse := by
  obtain ⟨spec, hspec, hrule⟩ := TriggerSet.exists_compile_of_getElem? hload ht
  obtain ⟨-, -, s, hafter, hs⟩ := Trigger.compile_ok hrule
  obtain ⟨hfaults, hyields⟩ := Trigger.build_eq channels stepLimit e hafter hs
  refine ⟨spec, t.build channels stepLimit e, hspec, Trigger.compile_renders hrule,
    fun r => TriggerSet.mem_fire_iff hload ht hfires, fun fault hread => ?_, fun a cs hread => ?_,
    fun v => Trigger.argument_eq_some_iff, ⟨rfl, rfl, fun _ _ => rfl⟩, fun err herr => ?_⟩
  · exact ⟨hfaults fault hread, Trigger.read_isInvalidArgument hfit hread⟩
  · obtain ⟨f, hcalls, hbuild⟩ := hyields a cs hread
    exact ⟨s, hs, f, Command.read_stage (Trigger.read_eq_ok_iff.mp hread).1, hcalls, hbuild⟩
  · cases hread : t.read channels e with
    | error fault =>
        obtain ⟨_, _, rfl, hmisuse⟩ := Trigger.read_isInvalidArgument hfit hread
        cases (hfaults _ hread).symm.trans herr
        exact hmisuse
    | ok read =>
        obtain ⟨f, -, hbuild⟩ := hyields read.1 read.2 hread
        obtain ⟨_, hstep, ⟨⟩⟩ := mapError_eq_error_iff.mp (hbuild.symm.trans herr)
        exact Fluent.build_not_isMisuse (map_eq_error_iff.mp hstep)

/-- A rule that pays all there is into the bank of a land when we are kicked. -/
def depositRule : TriggerSpec :=
  ⟨"kick", [], ⟨"land", [("name", .str "Home")],
    [[.str "deposit"], [.str "timeout", .num (.int 1)]]⟩⟩

/-- The rule for deposits, loaded. -/
def depositTrigger : Trigger :=
  ⟨0, "kick", [], .land, [("name", .str "Home")], [(.deposit, [])], some (.ofSeconds 1)⟩

theorem fires_as_written_of_deposit :
    ∃ ts, TriggerSet.compile [depositRule] [] 0 = .ok ts ∧
      ∀ r, (0, r) ∈ ts.fire ⟨"kick", .kick⟩ ↔
        r = .ok ⟨.line "/land deposit all Home", .ofSeconds 1⟩ := by
  have hload : TriggerSet.compile [depositRule] [] 0 = .ok ⟨[depositTrigger], [], 0⟩ := rfl
  have hfires : depositTrigger.firesFor ⟨"kick", .kick⟩ = true := rfl
  have hread : depositTrigger.read [] ⟨"kick", .kick⟩ =
      .ok (.land "Home", [.deposit "all"]) := rfl
  obtain ⟨_, r, -, -, hfire, -, hyields, -⟩ :=
    fires_as_written (i := 0) hload rfl hfires (by simp [depositTrigger])
  obtain ⟨s, h, f, -, hcalls, hr⟩ := hyields _ _ hread
  have hbuild : f.build h = .ok (Action.line "/land deposit all Home").step := by
    rw [← f.run_eq h, hcalls]
    rfl
  have hstep : r = .ok ⟨.line "/land deposit all Home", .ofSeconds 1⟩ := by
    rw [hr, hbuild]
    rfl
  exact ⟨_, hload, fun r' => (hfire r').trans (by rw [hstep])⟩

/-- It does not suffice that pauses are below 2⁶⁴ seconds as they are written: converting them may
round them up to it, and the program stops. -/
theorem not_fires_as_written_of_lt :
    ¬∀ specs channels stepLimit ts, TriggerSet.compile specs channels stepLimit = .ok ts →
      ∀ t ∈ ts.rules, (∀ n args, (.interval, .num n :: args) ∈ t.calls → n.value < 2 ^ 64) →
        ∀ e r, (t.index, r) ∈ ts.fire e →
          (∃ step, r = .ok step) ∨ ∃ err, r = .error (.command err) := by
  intro hclaim
  let t : Trigger :=
    ⟨0, "kick", [], .jump, [], [(.interval, [.num (.int 18446744073709551615)])], none⟩
  have hload : TriggerSet.compile [⟨"kick", [], ⟨"jump", [],
      [[.str "interval", .num (.int 18446744073709551615)]]⟩⟩] [] 0 = .ok ⟨[t], [], 0⟩ := rfl
  have hbelow : ∀ n args, (Method.interval, .num n :: args) ∈ t.calls → n.value < 2 ^ 64 := by
    norm_num [t, JsonNumber.value]
  have hfire : (0, .error .secondsOverflow) ∈
      TriggerSet.fire ⟨[t], [], 0⟩ ⟨"kick", .kick⟩ := List.mem_singleton.mpr rfl
  rcases hclaim _ _ _ _ hload t (List.mem_singleton_self _) hbelow _ _ hfire with
    ⟨_, h⟩ | ⟨_, h⟩ <;> cases h

end LogWarden
