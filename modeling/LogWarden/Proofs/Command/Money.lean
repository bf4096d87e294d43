import LogWarden.Proofs.Command.Faults
import LogWarden.Proofs.Number.Numerals

/-!
# Commands that move money

A transfer is typed only if its amount is positive, whoever it goes to, and if every player that was
named has a name. A deposit is typed whatever its value is: only a blank one is refused.
-/

namespace LogWarden

/-- The player to whom a call transfers. -/
def Call.recipient? : Call → Option String
  | .transferTo player => some player
  | _ => none

/-- The line that transfers an amount. -/
def payLine (player : String) (amount : Int) : String :=
  "/pay " ++ Text.trim player ++ " " ++ String.ofList (intText amount)

/-- The line that pays into the bank of a land. -/
def depositLine (value name : String) : String :=
  "/land deposit " ++ Unicode.lowerText (Text.trim value) ++ " " ++ Text.trim name

/-! ## What is kept of the calls -/

/-- What a transfer in the making keeps of its amount and of the players that were named. -/
structure PayCommand.Made (c : PayCommand) (amount : Int) (players : List String) : Prop where
  amount_eq : c.amount = amount
  error_eq : c.error = if amount ≤ 0 then some (.nonPositiveAmount amount)
    else if players.any Text.isBlank then some .emptyRecipient else none
  target_eq : c.target = (players.filter (!Text.isBlank ·)).getLast?.map Text.trim

namespace PayCommand

variable {c : PayCommand} {amount : Int} {players : List String}

theorem start_made (amount : Int) : (start amount).Made amount [] :=
  ⟨rfl, rfl, rfl⟩

theorem Made.transferTo (h : c.Made amount players) (player : String) :
    (c.transferTo player).Made amount (players ++ [player]) := by
  obtain ⟨hamount, herror, htarget⟩ := h
  unfold PayCommand.transferTo
  split_ifs with hblank
  · refine ⟨hamount, ?_, ?_⟩
    · simp only [herror, List.any_append, List.any_cons, hblank]
      split_ifs <;> simp_all
    · simpa [hblank] using htarget
  · exact ⟨hamount, by simpa [hblank] using herror, by simp [hblank]⟩

/-- A transfer is typed if its amount is positive, if a player was named, and if every player that
was named has a name. It goes to the one who was named last. -/
theorem Made.build_eq (h : c.Made amount players) :
    c.build = if amount ≤ 0 then .error (.nonPositiveAmount amount)
      else if players.any Text.isBlank then .error .emptyRecipient
      else match players.getLast? with
        | none => .error .emptyRecipient
        | some player => .ok (Action.line (payLine player amount)).step := by
  obtain ⟨hamount, herror, htarget⟩ := h
  unfold build
  split_ifs at herror ⊢ with hpositive hblank
  · simp [herror]
  · simp [herror]
  · have hnamed : players.filter (!Text.isBlank ·) = players := by
      simpa using hblank
    rw [hnamed] at htarget
    cases hlast : players.getLast? with
    | none => simp [herror, htarget, hlast]
    | some player => simp [herror, htarget, hlast, hamount, payLine]

end PayCommand

/-- What a command in the making keeps of its start and of the players that were named. -/
def Stage.KeepsStart (a : Start) : (s : Stage) → s.Making → List Call → Prop
  | .pay, c, calls => ∃ amount, a = .pay amount ∧
      PayCommand.Made c amount (calls.filterMap Call.recipient?)
  | .land, c, _ => ∃ name, a = .land name ∧ LandCommand.land c = Text.trim name
  | _, _, _ => True

variable {a : Start} {s s' : Stage}

theorem LandCommand.land_answer (c : LandCommand) (verb operation : String) :
    (c.answer verb operation).land = c.land := by
  unfold answer
  split <;> rfl

theorem StageCall.keepsStart (c : StageCall s s') {x : s.Making} {calls : List Call}
    (h : s.KeepsStart a x calls) : s'.KeepsStart a (c.make x) (calls ++ [c.call]) := by
  cases c
  case transferTo player =>
      obtain ⟨amount, rfl, hmade⟩ := h
      refine ⟨amount, rfl, ?_⟩
      rw [List.filterMap_append]
      exact hmade.transferTo player
  case invite | deposit => exact h
  case accept =>
      obtain ⟨name, rfl, hland⟩ := h
      exact ⟨name, rfl, (LandCommand.land_answer x "accept" "accept").trans hland⟩
  case reject =>
      obtain ⟨name, rfl, hland⟩ := h
      exact ⟨name, rfl, (LandCommand.land_answer x "deny" "reject").trans hland⟩
  all_goals trivial

/-- A land command that has turned to a deposit types it unless something else was wrong or the
value is blank. -/
theorem LandCommand.build_deposit_eq_ok_iff {c : LandCommand} {name value : String} {step : Step}
    (htask : c.task = .deposit (Unicode.lowerText (Text.trim value)))
    (hland : c.land = Text.trim name) :
    c.build = .ok step ↔ c.error = none ∧ Text.isBlank value = false ∧
      step = (Action.line (depositLine value name)).step := by
  rw [build, htask, hland, line, deposit_value_isEmpty]
  cases c.error with
  | some err => simp
  | none =>
      cases Text.isBlank value with
      | true =>
          refine iff_of_false (fun h => ?_) (fun h => ?_)
          · cases h
          · cases h.2.1
      | false => exact ⟨fun h => ⟨rfl, rfl, (Except.ok.inj h).symm⟩, fun h => h.2.2 ▸ rfl⟩

namespace Fluent

theorem keepsStart (f : Fluent a s) : s.KeepsStart a f.make f.calls := by
  induction f with
  | start =>
      cases a with
      | pay amount => exact ⟨amount, rfl, PayCommand.start_made amount⟩
      | land name => exact ⟨name, rfl, rfl⟩
      | _ => trivial
  | call f c ih => exact c.keepsStart ih

/-- The players to whom a command transfers, in order. -/
def recipients (f : Fluent a s) : List String := f.calls.filterMap Call.recipient?

/-! ## What is typed -/

variable {amount : Int} {name value : String} {step : Step}

theorem build_pay_eq (f : Fluent (.pay amount) .pay) (h : Stage.pay ≠ .landEdit) :
    f.build h = if amount ≤ 0 then .error (.nonPositiveAmount amount)
      else if f.recipients.any Text.isBlank then .error .emptyRecipient
      else match f.recipients.getLast? with
        | none => .error .emptyRecipient
        | some player => .ok (Action.line (payLine player amount)).step := by
  obtain ⟨_, ⟨⟩, hmade⟩ := f.keepsStart
  exact hmade.build_eq

theorem build_pay_eq_ok_iff (f : Fluent (.pay amount) .pay) (h : Stage.pay ≠ .landEdit) :
    f.build h = .ok step ↔ 0 < amount ∧ (∀ player ∈ f.recipients, Text.isBlank player = false) ∧
      ∃ player, f.recipients.getLast? = some player ∧
        step = (Action.line (payLine player amount)).step := by
  rw [build_pay_eq]
  split_ifs with hpositive hblank
  · exact iff_of_false nofun fun h => hpositive.not_gt h.1
  · obtain ⟨player, hmem, hplayer⟩ := List.any_eq_true.mp hblank
    exact iff_of_false nofun fun h => by simp [h.2.1 player hmem] at hplayer
  · have hnamed : ∀ player ∈ f.recipients, Text.isBlank player = false := by
      simpa using hblank
    cases hlast : f.recipients.getLast? with
    | none => exact iff_of_false nofun fun ⟨_, _, _, h, _⟩ => nomatch h
    | some player =>
        simp only [Except.ok.injEq, Option.some.injEq, exists_eq_left', eq_comm (a := step)]
        exact ⟨fun h => ⟨not_le.mp hpositive, hnamed, h⟩, fun h => h.2.2⟩

/-- A deposit is typed if nothing is remembered that was wrong and its value is not blank. -/
theorem build_deposit_eq_ok_iff (f : Fluent (.land name) .land) (h : Stage.land ≠ .landEdit)
    (hturn : f.turn? = some (some value)) :
    f.build h = .ok step ↔ (∀ fault ∈ f.faults, fault.1 ≠ .remembered) ∧
      Text.isBlank value = false ∧ step = (Action.line (depositLine value name)).step := by
  obtain ⟨_, ⟨⟩, hland⟩ := f.keepsStart
  have htask : LandCommand.task f.make = .deposit (Unicode.lowerText (Text.trim value)) := by
    have hshows := f.shows.1
    rw [← turn?, hturn] at hshows
    exact hshows
  rw [← error?_eq_none_iff]
  exact LandCommand.build_deposit_eq_ok_iff htask hland

/-- A deposit is refused only for what is remembered and for a blank value. -/
theorem exists_deposit_fault_iff (f : Fluent (.land name) .land) (h : Stage.land ≠ .landEdit)
    (hturn : f.turn? = some (some value)) :
    (∃ err, f.build h = .error err) ↔
      (∃ fault ∈ f.faults, fault.1 = .remembered) ∨ Text.isBlank value = true := by
  have hok (step : Step) : f.build h = .ok step ↔ _ := f.build_deposit_eq_ok_iff h hturn
  cases hbuild : f.build h with
  | ok step =>
      obtain ⟨hfaults, hblank, -⟩ := (hok step).mp hbuild
      refine iff_of_false nofun ?_
      rintro (⟨fault, hmem, hremembered⟩ | hblank')
      · exact hfaults fault hmem hremembered
      · simp [hblank] at hblank'
  | error err =>
      refine iff_of_true ⟨err, rfl⟩ ?_
      by_contra hgood
      obtain ⟨hfaults, hblank⟩ := not_or.mp hgood
      have hstep := (hok _).mpr
        ⟨fun fault hmem hremembered => hfaults ⟨fault, hmem, hremembered⟩, by simpa using hblank, rfl⟩
      cases hbuild.symm.trans hstep

end Fluent

end LogWarden
