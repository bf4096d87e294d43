import LogWarden.Proofs.Command.Fluent
import Mathlib.Data.List.DropRight
import Mathlib.Tactic.SplitIfs

/-!
# Calls that make no sense

A command is built whatever was wrong with the calls that made it, and what was wrong is told when
it is built. What is told then depends on how it was kept. Most of it is remembered; the value of a
deposit is looked at only when it is to be typed; and a change of whom a land trusts stands until it
is set anew.
-/

namespace LogWarden

/-- How it is kept that a call made no sense. -/
inductive Keeping
  /-- It is remembered, unless something else has been before. -/
  | remembered
  /-- What was said is kept as it is, and looked at when the command is built. -/
  | deferred
  /-- It stands until the same is said anew. -/
  | replaced
  deriving DecidableEq, Repr

/-- What is wrong with the start of a command. -/
def Start.fault? : Start → Option CommandError
  | .chat content => if Text.isBlank content then some .emptyContent else none
  | .jump _ => none
  | .pay amount => if amount ≤ 0 then some (.nonPositiveAmount amount) else none
  | .land name => if Text.isBlank name then some .emptyLandName else none

/-- Whether a land command has turned to an invitation. -/
def LandCommand.isInvited (c : LandCommand) : Bool :=
  match c.task with
  | .invite _ => true
  | _ => false

namespace StageCall

variable {s s' : Stage}

/-- What is wrong with a call at the moment it is made. -/
def fault? : StageCall s s' → s.Making → Option CommandError
  | .sendTo player, _ | .transferTo player, _ | .add player, _ | .remove player, _ =>
    if Text.isBlank player then some .emptyRecipient else none
  | .switchChannel channel, c =>
    if (ChatCommand.recipient c).isNone && Text.isBlank channel then
      some (.invalidArgument "switch_channel" "channel prefix is empty")
    else none
  | .accept, c =>
    if LandCommand.isInvited c then none else some (.outOfOrder "accept" "invite")
  | .reject, c =>
    if LandCommand.isInvited c then none else some (.outOfOrder "reject" "invite")
  | .deposit value, _ =>
    if Text.isBlank value then some (.invalidArgument "deposit" "deposit value is empty") else none
  | _, _ => none

/-- How it is kept what is wrong with a call. -/
def keeping : StageCall s s' → Keeping
  | .deposit _ => .deferred
  | .add _ | .remove _ => .replaced
  | _ => .remembered

end StageCall

/-- What a call says about the task of a land command: an invitation, or a deposit of a value. -/
def Call.turn? : Call → Option (Option String)
  | .invite => some none
  | .deposit value => some (some value)
  | _ => none

/-- The player about whom a call changes whether a land trusts them. -/
def Call.change? : Call → Option String
  | .add player | .remove player => some player
  | _ => none

namespace Fluent

variable {a : Start} {s : Stage}

/-- All that is wrong with a command as it is written down, in order. -/
def faults {s : Stage} : Fluent a s → List (Keeping × CommandError)
  | .start => (a.fault?.map (Keeping.remembered, ·)).toList
  | .call f c => f.faults ++ ((c.fault? f.make).map (c.keeping, ·)).toList

/-- The task to which a land command has turned last. -/
def turn? (f : Fluent a s) : Option (Option String) := f.calls.reverse.findSome? Call.turn?

/-- The player of the last change of whom a land trusts. -/
def change? (f : Fluent a s) : Option String := f.calls.reverse.findSome? Call.change?

/-- What has to be so for the first fault of a command to be what building it ends with. -/
def Keeps (f : Fluent a s) : Keeping → Prop
  | .remembered => s = .trust → ∃ player, f.change? = some player ∧ Text.isBlank player = false
  | .deferred =>
    s = .land ∧ (∀ fault ∈ f.faults, fault.1 ≠ .remembered) ∧
      ∃ value, f.turn? = some (some value) ∧ Text.isBlank value = true
  | .replaced => ∃ player, f.change? = some player ∧ Text.isBlank player = true

end Fluent

/-! ## Blank texts -/

theorem Text.trimChars_eq_nil_iff {cs : List Char} :
    trimChars cs = [] ↔ ∀ c ∈ cs, Unicode.isWhiteSpace c = true := by
  rw [trimChars, trimEnd, List.reverse_eq_nil_iff, List.dropWhile_eq_nil_iff, trimStart]
  simp only [List.mem_reverse]
  rw [← List.dropWhile_eq_nil_iff, List.dropWhile_idempotent, List.dropWhile_eq_nil_iff]

theorem Unicode.lowerAfter_eq_nil_iff {before cs : List Char} :
    lowerAfter before cs = [] ↔ cs = [] := by
  cases cs with
  | nil => simp [lowerAfter]
  | cons c rest =>
      simp only [lowerAfter, lowerChar]
      split_ifs <;> simp

/-- A deposit has a value to be typed unless its text is blank. -/
theorem LandCommand.deposit_value_isEmpty (value : String) :
    (Unicode.lowerText (Text.trim value)).isEmpty = Text.isBlank value := by
  rw [Bool.eq_iff_iff, String.isEmpty_iff, Unicode.lowerText, Text.trim, Text.isBlank]
  simp [← String.toList_inj, Unicode.lowerAfter_eq_nil_iff, Text.trimChars_eq_nil_iff]

/-! ## What is remembered -/

/-- What a command in the making remembers of what was wrong with it. -/
def Stage.error? : (s : Stage) → s.Making → Option CommandError
  | .chat, c => ChatCommand.error c
  | .jump, _ => none
  | .pay, c => PayCommand.error c
  | .land, c => LandCommand.error c
  | .landEdit, e => LandEditor.error e
  | .trust, c => (TrustCommand.editor c).error
  | .claim, c => (ClaimCommand.editor c).error

variable {a : Start} {s s' : Stage} {k : Keeping} {e : CommandError}

theorem Start.error?_make (a : Start) : a.stage.error? a.make = a.fault? := by
  cases a <;> rfl

theorem LandCommand.error_answer (c : LandCommand) (verb operation : String) :
    (c.answer verb operation).error =
      c.error.or (if c.isInvited then none else some (.outOfOrder operation "invite")) := by
  unfold answer isInvited
  cases c.task <;> simp

/-- A call remembers what is wrong with it, behind what has been wrong before. -/
theorem StageCall.error?_make (c : StageCall s s') (x : s.Making) :
    s'.error? (c.make x) =
      (s.error? x).or (if c.keeping = .remembered then c.fault? x else none) := by
  cases c
  case sendTo player =>
      simp only [make, ChatCommand.sendTo, fault?, keeping]
      split_ifs <;> simp [Stage.error?, ChatCommand.fail]
  case switchChannel channel =>
      cases hrecipient : ChatCommand.recipient x <;> cases hblank : Text.isBlank channel <;>
        simp [make, ChatCommand.switchChannel, fault?, keeping, hrecipient, hblank, Stage.error?,
          ChatCommand.fail]
  case transferTo player =>
      simp only [make, PayCommand.transferTo, fault?, keeping]
      split_ifs <;> simp [Stage.error?]
  case accept => exact LandCommand.error_answer x "accept" "accept"
  case reject => exact LandCommand.error_answer x "deny" "reject"
  all_goals exact (Option.or_none).symm

/-! ## What can be wrong -/

/-- What can be wrong with a command at a stage, and how it is kept. -/
def Stage.CanFault : Stage → Keeping → CommandError → Prop
  | .chat, .remembered, e =>
    e = .emptyContent ∨ e = .emptyRecipient ∨
      e = .invalidArgument "switch_channel" "channel prefix is empty"
  | .pay, .remembered, e => (∃ amount, e = .nonPositiveAmount amount) ∨ e = .emptyRecipient
  | .land, .remembered, e | .landEdit, .remembered, e | .trust, .remembered, e
  | .claim, .remembered, e => e = .emptyLandName ∨ ∃ operation, e = .outOfOrder operation "invite"
  | .land, .deferred, e | .landEdit, .deferred, e | .trust, .deferred, e | .claim, .deferred, e =>
    e = .invalidArgument "deposit" "deposit value is empty"
  | .trust, .replaced, e => e = .emptyRecipient
  | _, _, _ => False

theorem Stage.CanFault.eq_of_deferred (h : s.CanFault .deferred e) :
    e = .invalidArgument "deposit" "deposit value is empty" := by
  cases s <;> first | exact h | exact h.elim

theorem Start.canFault (h : a.fault? = some e) : a.stage.CanFault .remembered e := by
  cases a <;> grind [fault?, Stage.CanFault, stage]

theorem StageCall.canFault {c : StageCall s s'} {x : s.Making} (h : c.fault? x = some e) :
    s'.CanFault c.keeping e := by
  cases c <;> grind [fault?, keeping, Stage.CanFault]

/-- What can be wrong at a stage can be wrong at the stages to which it leads. -/
theorem StageCall.canFault_mono (c : StageCall s s') (h : s.CanFault k e) : s'.CanFault k e := by
  cases c <;> cases k <;> first | exact h | exact h.elim

theorem StageCall.keeping_of_replaced (c : StageCall s s') (h : s.CanFault .replaced e) :
    c.keeping = .replaced := by
  cases c <;> first | rfl | exact h.elim

namespace Fluent

variable {f : Fluent a s}

theorem canFault (h : (k, e) ∈ f.faults) : s.CanFault k e := by
  induction f with
  | start =>
      obtain ⟨_, hfault, ⟨⟩⟩ := Option.map_eq_some_iff.mp (Option.mem_toList.mp h)
      exact Start.canFault hfault
  | call f c ih =>
      rcases List.mem_append.mp h with h | h
      · exact c.canFault_mono (ih h)
      · obtain ⟨_, hfault, ⟨⟩⟩ := Option.map_eq_some_iff.mp (Option.mem_toList.mp h)
        exact StageCall.canFault hfault

/-- Behind a change of trust that made no sense nothing but another such change can be wrong. -/
theorem faults_replaced (f : Fluent a s) :
    f.faults.Pairwise fun x y => x.1 = .replaced → y.1 = .replaced := by
  induction f with
  | start => cases hfault : a.fault? <;> simp [faults, hfault]
  | call f c ih =>
      refine List.pairwise_append.mpr ⟨ih, by cases hfault : c.fault? f.make <;> simp, ?_⟩
      rintro ⟨_, e⟩ hmem y hy rfl
      obtain ⟨_, -, rfl⟩ := Option.map_eq_some_iff.mp (Option.mem_toList.mp hy)
      exact c.keeping_of_replaced (canFault hmem)

theorem error?_make (f : Fluent a s) :
    s.error? f.make = (f.faults.find? (·.1 = .remembered)).map (·.2) := by
  induction f with
  | start =>
      rw [make, Start.error?_make, faults]
      cases a.fault? <;> rfl
  | call f c ih =>
      rw [make, c.error?_make, ih, faults, List.find?_append, Option.map_or]
      congr 1
      cases c.fault? f.make <;> simp [List.find?_cons]
      split_ifs <;> simp_all

end Fluent

/-! ## What was said last -/

/-- The task of a land command is the one to which it has turned last. -/
def LandCommand.Turned (c : LandCommand) : Option (Option String) → Prop
  | none => c.task = .unset
  | some none => ∃ answer, c.task = .invite answer
  | some (some value) => c.task = .deposit (Unicode.lowerText (Text.trim value))

/-- The line of a change of trust is that of the last change. -/
def TrustCommand.Changed (c : TrustCommand) : Option String → Prop
  | none => c.line = none
  | some player =>
    if Text.isBlank player then c.line = some (.error .emptyRecipient)
    else ∃ line, c.line = some (.ok line)

/-- What a command in the making shows of the calls that made it. -/
def Stage.Shows : (s : Stage) → s.Making → List Call → Prop
  | .land, c, calls =>
    LandCommand.Turned c (calls.reverse.findSome? Call.turn?) ∧
      calls.reverse.findSome? Call.change? = none
  | .landEdit, _, calls => calls.reverse.findSome? Call.change? = none
  | .trust, c, calls => TrustCommand.Changed c (calls.reverse.findSome? Call.change?)
  | _, _, _ => True

theorem LandCommand.Turned.answer {c : LandCommand} {turn : Option (Option String)}
    (h : c.Turned turn) (verb operation : String) : (c.answer verb operation).Turned turn := by
  rcases turn with _ | _ | value <;> simp_all [Turned, LandCommand.answer]
  · obtain ⟨answer, htask⟩ := h
    simp [htask]

theorem TrustCommand.set_changed (c : TrustCommand) (verb player : String) :
    (c.set verb player).Changed (some player) := by
  simp only [Changed, set]
  split_ifs <;> simp

theorem StageCall.shows (c : StageCall s s') {x : s.Making} {calls : List Call}
    (h : s.Shows x calls) : s'.Shows (c.make x) (calls ++ [c.call]) := by
  cases c <;>
    simp only [Stage.Shows, List.reverse_append, List.reverse_singleton, List.singleton_append,
      List.findSome?_cons, call, Call.turn?, Call.change?] at h ⊢
  case invite => exact ⟨⟨none, rfl⟩, h.2⟩
  case accept => exact ⟨h.1.answer "accept" "accept", h.2⟩
  case reject => exact ⟨h.1.answer "deny" "reject", h.2⟩
  case deposit value => exact ⟨rfl, h.2⟩
  case edit => exact h.2
  case trust =>
      rw [h]
      rfl
  case add player => exact TrustCommand.set_changed x "trust" player
  case remove player => exact TrustCommand.set_changed x "untrust" player

theorem Fluent.shows (f : Fluent a s) : s.Shows f.make f.calls := by
  induction f with
  | start =>
      cases a with
      | land name => exact ⟨rfl, rfl⟩
      | _ => trivial
  | call f c ih => exact c.shows ih

/-! ## Building -/

theorem ChatCommand.build_eq_error_iff {c : ChatCommand} :
    c.build = .error e ↔ c.error = some e := by
  unfold build
  cases c.error <;> simp

theorem PayCommand.build_eq_error_iff {c : PayCommand} :
    c.build = .error e ↔
      c.error = some e ∨ c.error = none ∧ c.target = none ∧ e = .emptyRecipient := by
  unfold build
  cases c.error <;> cases c.target <;> simp [eq_comm]

theorem LandCommand.line_eq_deposit_fault_iff {c : LandCommand} {turn : Option (Option String)}
    (h : c.Turned turn) :
    line c.land c.task = .error (.invalidArgument "deposit" "deposit value is empty") ↔
      ∃ value, turn = some (some value) ∧ Text.isBlank value = true := by
  rcases turn with _ | _ | value
  · rw [show c.task = .unset from h]
    simp [line]
  · obtain ⟨answer, htask⟩ := h
    cases answer <;> simp [line, htask]
  · rw [show c.task = .deposit _ from h, line, deposit_value_isEmpty]
    split_ifs <;> simp_all

theorem LandCommand.line_eq_error_cases {land : String} {task : LandTask}
    (h : line land task = .error e) :
    e = .invalidArgument "deposit" "deposit value is empty" ∨
      ∃ command, command ≠ "land edit" ∧ e = .incomplete command := by
  revert h
  fun_cases line land task <;> rintro ⟨⟩ <;> simp

theorem LandCommand.build_eq_error_iff {c : LandCommand} :
    c.build = .error e ↔ c.error = some e ∨ c.error = none ∧ line c.land c.task = .error e := by
  unfold build
  cases c.error <;> simp [map_eq_error_iff]

theorem LandEditor.finish_eq_error_iff {editor : LandEditor} {line : String} :
    editor.finish line = .error e ↔ editor.error = some e := by
  unfold finish
  cases editor.error <;> simp

theorem TrustCommand.build_eq_error_iff {c : TrustCommand} {change : Option String}
    (h : c.Changed change) :
    c.build = .error e ↔
      change = none ∧ e = .incomplete "land trust" ∨
      ∃ player, change = some player ∧
        if Text.isBlank player then e = .emptyRecipient else c.editor.error = some e := by
  cases change with
  | none =>
      have hline : c.line = none := h
      grind [build]
  | some player =>
      simp only [Changed] at h
      split_ifs at h with hblank
      · grind [build]
      · obtain ⟨line, hline⟩ := h
        simp [build, hline, hblank, LandEditor.finish_eq_error_iff]

namespace Fluent

variable {f : Fluent a s}

theorem error?_of_head (h : f.faults.head? = some (.remembered, e)) :
    s.error? f.make = some e := by
  obtain ⟨rest, hfaults⟩ := List.head?_eq_some_iff.mp h
  simp [error?_make, hfaults]

theorem mem_faults_of_error? (h : s.error? f.make = some e) : (.remembered, e) ∈ f.faults := by
  rw [error?_make] at h
  obtain ⟨⟨k, _⟩, hfind, rfl⟩ := Option.map_eq_some_iff.mp h
  obtain rfl : k = .remembered := by simpa using List.find?_some hfind
  exact List.mem_of_find?_eq_some hfind

theorem error?_eq_none_iff :
    s.error? f.make = none ↔ ∀ fault ∈ f.faults, fault.1 ≠ .remembered := by
  simp [error?_make]

/-- That a deposit has no value is never remembered. -/
theorem error?_ne_blank_deposit (f : Fluent a s) :
    s.error? f.make ≠ some (.invalidArgument "deposit" "deposit value is empty") := by
  intro h
  have hcan := canFault (mem_faults_of_error? h)
  cases s <;> simp [Stage.CanFault] at hcan

/-- What building a command can end with: what is remembered of it, or something that is missing. -/
theorem build_eq_error_cases (h : s ≠ .landEdit) (hbuild : f.build h = .error e) :
    s.CanFault .remembered e ∨ e = .emptyRecipient ∨
      e = .invalidArgument "deposit" "deposit value is empty" ∨
      ∃ command, command ≠ "land edit" ∧ e = .incomplete command := by
  have hshows := f.shows
  have hremembered (h : s.error? f.make = some e) : s.CanFault .remembered e :=
    canFault (mem_faults_of_error? h)
  cases s with
  | landEdit => exact absurd rfl h
  | jump => cases hbuild
  | chat => exact .inl (hremembered (ChatCommand.build_eq_error_iff.mp hbuild))
  | claim => exact .inl (hremembered (LandEditor.finish_eq_error_iff.mp hbuild))
  | pay =>
      rcases PayCommand.build_eq_error_iff.mp hbuild with herror | ⟨-, -, rfl⟩
      · exact .inl (hremembered herror)
      · exact .inr (.inl rfl)
  | land =>
      rcases LandCommand.build_eq_error_iff.mp hbuild with herror | ⟨-, hline⟩
      · exact .inl (hremembered herror)
      · exact .inr (.inr (LandCommand.line_eq_error_cases hline))
  | trust =>
      rcases (TrustCommand.build_eq_error_iff hshows).mp hbuild with
        ⟨-, rfl⟩ | ⟨player, -, herror⟩
      · simp
      · split_ifs at herror
        · exact .inr (.inl herror)
        · exact .inl (hremembered herror)

/-- If a change of trust was wrong first, there was nothing to be remembered. -/
theorem ne_remembered_of_replaced (h : f.faults.head? = some (.replaced, e)) :
    ∀ fault ∈ f.faults, fault.1 ≠ .remembered := by
  obtain ⟨rest, hfaults⟩ := List.head?_eq_some_iff.mp h
  have hrest := f.faults_replaced
  rw [hfaults, List.pairwise_cons] at hrest
  rw [hfaults, List.forall_mem_cons]
  refine ⟨by simp, fun fault hmem => ?_⟩
  simp [hrest.1 fault hmem rfl]

/-- What is remembered is what building a command ends with, unless the command changes whom a land
trusts. -/
theorem build_of_error? (h : s ≠ .landEdit) (hs : s ≠ .trust) (herror : s.error? f.make = some e) :
    f.build h = .error e := by
  rw [build]
  cases s with
  | landEdit => exact absurd rfl h
  | trust => exact absurd rfl hs
  | jump => cases herror
  | chat => exact ChatCommand.build_eq_error_iff.mpr herror
  | pay => exact PayCommand.build_eq_error_iff.mpr (.inl herror)
  | land => exact LandCommand.build_eq_error_iff.mpr (.inl herror)
  | claim => exact LandEditor.finish_eq_error_iff.mpr herror

/-- Building a command ends with a deposit that has no value exactly if that is what the command has
turned to last and nothing is remembered. -/
theorem build_eq_blank_deposit_iff (f : Fluent a s) (h : s ≠ .landEdit) :
    f.build h = .error (.invalidArgument "deposit" "deposit value is empty") ↔
      f.Keeps .deferred := by
  have hnot := f.error?_ne_blank_deposit
  have hshows := f.shows
  rw [build]
  cases s with
  | landEdit => exact absurd rfl h
  | jump => exact iff_of_false (fun hbuild => by cases hbuild) (by simp [Keeps])
  | chat =>
      exact iff_of_false (fun hbuild => hnot (ChatCommand.build_eq_error_iff.mp hbuild))
        (by simp [Keeps])
  | pay =>
      refine iff_of_false (fun hbuild => ?_) (by simp [Keeps])
      rcases PayCommand.build_eq_error_iff.mp hbuild with herror | ⟨-, -, hmissing⟩
      · exact hnot herror
      · cases hmissing
  | claim =>
      exact iff_of_false (fun hbuild => hnot (LandEditor.finish_eq_error_iff.mp hbuild))
        (by simp [Keeps])
  | trust =>
      refine iff_of_false (fun hbuild => ?_) (by simp [Keeps])
      rcases (TrustCommand.build_eq_error_iff hshows).mp hbuild with
        ⟨-, hmissing⟩ | ⟨player, -, herror⟩
      · cases hmissing
      · split_ifs at herror
        exact hnot herror
  | land =>
      have hnone : LandCommand.error f.make = none ↔ ∀ fault ∈ f.faults, fault.1 ≠ .remembered :=
        error?_eq_none_iff (f := f)
      refine LandCommand.build_eq_error_iff.trans ((or_iff_right hnot).trans ?_)
      rw [LandCommand.line_eq_deposit_fault_iff hshows.1, hnone]
      simp [Keeps, turn?]

/-- What was wrong first is what building a command ends with exactly if it has been kept. -/
theorem build_of_firstFault_iff (f : Fluent a s) (h : s ≠ .landEdit)
    (hfirst : f.faults.head? = some (k, e)) : f.build h = .error e ↔ f.Keeps k := by
  have hcan : s.CanFault k e := canFault (List.mem_of_head? hfirst)
  cases k with
  | remembered =>
      have herror := error?_of_head hfirst
      by_cases hs : s = .trust
      · subst hs
        have heditor : (TrustCommand.editor f.make).error = some e := herror
        refine (TrustCommand.build_eq_error_iff f.shows).trans ?_
        simp only [heditor, Keeps, change?]
        rcases hcan with rfl | ⟨_, rfl⟩ <;> simp
      · exact iff_of_true (build_of_error? h hs herror) fun htrust => absurd htrust hs
  | deferred =>
      obtain rfl := hcan.eq_of_deferred
      exact f.build_eq_blank_deposit_iff h
  | replaced =>
      cases s with
      | trust =>
          obtain rfl : e = .emptyRecipient := hcan
          have heditor : (TrustCommand.editor f.make).error = none :=
            error?_eq_none_iff.mpr (ne_remembered_of_replaced hfirst)
          refine (TrustCommand.build_eq_error_iff f.shows).trans ?_
          simp [heditor, Keeps, change?]
      | _ => exact hcan.elim

/-- A reply without an invitation is remembered, whatever is said behind it. -/
theorem build_of_reply_before_invite :
    ((((start : Fluent (.land "Home") .land).call .accept).call .invite).call .accept).build
      (by decide) = .error (.outOfOrder "accept" "invite") :=
  (build_of_firstFault_iff (k := .remembered) _ _ rfl).mpr nofun

/-- So it is not true that what was wrong first is always told: a change of trust that names nobody
is forgotten as soon as another names somebody. -/
theorem not_build_of_firstFault :
    ¬∀ (a : Start) (s : Stage) (f : Fluent a s) (h : s ≠ .landEdit) (k : Keeping)
      (e : CommandError), f.faults.head? = some (k, e) → f.build h = .error e := by
  intro hclaim
  have herror := hclaim (.land "Home") .trust
    (((((start : Fluent (.land "Home") .land).call .edit).call .trust).call (.add " ")).call
      (.add "Bob")) (by decide) .replaced .emptyRecipient rfl
  cases herror

end Fluent

end LogWarden
