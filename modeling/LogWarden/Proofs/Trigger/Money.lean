import LogWarden.Proofs.Command.Money
import LogWarden.Proofs.Event.RoundTrip
import LogWarden.Proofs.Trigger.Firing

/-!
# Rules that move money

The amount of a transfer is a whole number, as it stands in a rule or in an event, or the text of
one; with commas or without, it has to be positive and to fit 64 bits. A rule that deposits has its
command typed whatever the text of its argument is, unless this is blank.
-/

namespace LogWarden

/-- Whether a text of digits with an optional sign denotes a whole number. -/
def IsWholeText (cs : List Char) (k : Int) : Prop :=
  ∃ sign ds, cs = signText sign ++ ds ∧ ds ≠ [] ∧ (∀ c ∈ ds, c.isDigit = true) ∧
    k = if sign == some true then -(Nat.ofDigitChars 10 ds 0 : Int) else Nat.ofDigitChars 10 ds 0

/-- Whether an argument gives an amount to transfer: as a number, or as a text without its commas. -/
inductive Argument.IsAmount : Option Json → Int → Prop
  | number {k : Int} (h : k ≤ 9223372036854775807) : IsAmount (some (.num (.int k))) k
  | text {s : String} {k : Int} (h : IsWholeText (s.toList.filter (· != ',')) k)
      (hfits : Payload.IsInt64 k) : IsAmount (some (.str s)) k

/-- Whether arguments give the value of a deposit: all there is if there are none, else a text or
the text of a number. -/
inductive Argument.IsDeposit : List Json → String → Prop
  | all : IsDeposit [] "all"
  | text {s : String} {rest : List Json} : IsDeposit (.str s :: rest) s
  | number {n : JsonNumber} {rest : List Json} :
      IsDeposit (.num n :: rest) (String.ofList (Json.numberText n))

/-- A step that a rule yields transfers a positive amount of 64 bits to the player that was named
last, and all players that were named have a name. -/
def Trigger.Pays (t : Trigger) (limit : Nanos) (e : Event) (step : Step) : Prop :=
  ∃ amount players player, Argument.IsAmount (t.argument e) amount ∧ 1 ≤ amount ∧
    amount ≤ 9223372036854775807 ∧
    List.Forall₂ (fun call p => Argument.text "transfer_to" call.2.head? = .ok p) t.calls players ∧
    (∀ p ∈ players, Text.isBlank p = false) ∧ players.getLast? = some player ∧
    step = ⟨.line (payLine player amount), t.limit.getD limit⟩

/-- A step that a rule yields deposits what the arguments give, if that is not blank and nothing was
wrong that is remembered. -/
def Trigger.Deposits (t : Trigger) (channels : Aliases) (limit : Nanos) (e : Event)
    (args : List Json) (step : Step) : Prop :=
  ∃ name value, ∃ f : Fluent (.land name) .land,
    Argument.text "land" (t.argument e) = .ok name ∧ Argument.IsDeposit args value ∧
    Method.callEach channels t.calls = .ok f.calls ∧
    (∀ fault ∈ f.faults, fault.1 ≠ .remembered) ∧ Text.isBlank value = false ∧
    step = ⟨.line (depositLine value name), t.limit.getD limit⟩

/-- Whether a value says what to deposit: all there is, or a positive number, with commas or
without. -/
def IsDepositable (value : String) : Prop :=
  value = "all" ∨ ∃ n : Numeral, n.text = value.toList.filter (· != ',') ∧ 0 < n.value

/-- The calls of a rule turn to a deposit last. -/
def Trigger.TurnsToDeposit (t : Trigger) (args : List Json) : Prop :=
  ∃ before after, t.calls = before ++ (.deposit, args) :: after ∧
    ∀ call ∈ after, call.1 = .accept ∨ call.1 = .reject

/-! ## Arguments -/

theorem Builtin.int64OfText?_eq_some_iff {cs : List Char} {k : Int} :
    int64OfText? cs = some k ↔ IsWholeText cs k ∧ Payload.IsInt64 k := by
  constructor
  · intro h
    obtain ⟨sign, body, rfl, hsign⟩ := Binary64.exists_signText cs
    obtain ⟨ds, rest, rfl, hdigits, -, hrun⟩ := Binary64.exists_digitRun 0 0 body
    rw [int64OfText?, hsign] at h
    simp only [hrun] at h
    cases rest with
    | cons c rest => exact absurd h (by simp)
    | nil =>
        simp only [Nat.zero_add] at h
        generalize hk : (if (sign == some true) = true then -(Nat.ofDigitChars 10 ds 0 : Int)
          else Nat.ofDigitChars 10 ds 0) = k' at h
        split_ifs at h with hbad
        simp only [not_or, not_lt] at hbad
        obtain ⟨hcount, hlow, hhigh⟩ := hbad
        obtain rfl := Option.some.inj h
        exact ⟨⟨sign, ds, by rw [List.append_nil], fun h => hcount (by rw [h]; rfl), hdigits,
          hk.symm⟩, hlow, hhigh⟩
  · rintro ⟨⟨sign, ds, rfl, hne, hdigits, rfl⟩, hlow, hhigh⟩
    have hhead : ∀ c ∈ ds.head?, c ≠ '-' ∧ c ≠ '+' := fun c hc =>
      Binary64.not_sign_of_isDigit (hdigits c (List.mem_of_mem_head? hc))
    have hcount : ds.length ≠ 0 := fun h => hne (List.length_eq_zero_iff.mp h)
    rw [int64OfText?, Binary64.signOf_signText sign hhead]
    simp only [Binary64.digitRun_eq hdigits]
    rw [if_neg]
    simp only [not_or, not_lt]
    exact ⟨hcount, hlow, hhigh⟩

namespace Argument

variable {v : Option Json} {k : Int} {args : List Json} {value : String}

theorem amount_eq_ok_iff : amount v = .ok k ↔ IsAmount v k := by
  constructor
  · intro h
    revert h
    fun_cases amount v <;> intro h
    case case1 n hle =>
        cases h
        exact .number hle
    case case4 s n htext =>
        cases h
        obtain ⟨hwhole, hfits⟩ := Builtin.int64OfText?_eq_some_iff.mp htext
        exact .text hwhole hfits
    all_goals cases h
  · rintro (hle | ⟨htext, hfits⟩)
    · exact if_pos hle
    · rw [amount]
      simp only [Builtin.int64OfText?_eq_some_iff.mpr ⟨htext, hfits⟩]

/-- An amount to transfer fits 64 bits if it is positive. -/
theorem IsAmount.le (h : IsAmount v k) : k ≤ 9223372036854775807 := by
  cases h with
  | number hle => exact hle
  | text _ hfits => exact hfits.2

theorem IsDeposit.unique {value' : String} (h : IsDeposit args value) (h' : IsDeposit args value') :
    value = value' := by
  cases h <;> cases h' <;> rfl

theorem deposit_eq_ok_iff {channels : Aliases} {c : Call} :
    Method.deposit.call channels args = .ok c ↔ ∃ value, IsDeposit args value ∧ c = .deposit value := by
  cases args with
  | nil =>
      constructor
      · intro h
        cases h
        exact ⟨_, .all, rfl⟩
      · rintro ⟨_, ⟨⟩, rfl⟩
        rfl
  | cons v rest =>
      constructor
      · intro h
        obtain ⟨value, hvalue, rfl⟩ := map_eq_ok_iff.mp h
        refine ⟨value, ?_, rfl⟩
        cases v <;> cases hvalue
        · exact .number
        · exact .text
      · rintro ⟨_, _ | _, rfl⟩ <;> rfl

end Argument

/-! ## The calls of a rule -/

variable {s s' : Stage} {ms ms' : List Method}

theorem Stage.after?_append (s : Stage) (ms ms' : List Method) :
    s.after? (ms ++ ms') = (s.after? ms).bind (·.after? ms') := by
  induction ms generalizing s with
  | nil => rfl
  | cons m ms ih =>
      rw [List.cons_append, after?, after?]
      split_ifs
      · exact ih _
      · rfl

/-- Every call upon a transfer names a player. -/
theorem Stage.transfers_of_after? (h : Stage.pay.after? ms = some s) :
    s = .pay ∧ ∀ m ∈ ms, m = .transferTo := by
  induction ms with
  | nil =>
      cases h
      exact ⟨rfl, nofun⟩
  | cons m ms ih =>
      rw [after?] at h
      split_ifs at h with hm
      obtain rfl : m = .transferTo := List.mem_singleton.mp hm
      obtain ⟨rfl, hms⟩ := ih h
      exact ⟨rfl, List.forall_mem_cons.mpr ⟨rfl, hms⟩⟩

/-- A land command that has not turned to an edit has none of the calls that an edit leads to. -/
theorem Stage.mem_of_after?_land (h : s.after? ms = some .land) :
    s = .land ∧ ∀ m ∈ ms, m ∈ Stage.land.methods := by
  induction ms generalizing s with
  | nil =>
      cases h
      exact ⟨rfl, nofun⟩
  | cons m ms ih =>
      rw [after?] at h
      split_ifs at h with hm
      obtain ⟨hnext, hms⟩ := ih h
      obtain rfl : s = .land := by
        cases m with
        | edit | trust | claim => cases hnext
        | _ => exact hnext
      exact ⟨rfl, List.forall_mem_cons.mpr ⟨hm, hms⟩⟩

/-- Replies to an invitation lead nowhere else. -/
theorem Stage.eq_land_of_replies (h : Stage.land.after? ms = some s)
    (hreplies : ∀ m ∈ ms, m = .accept ∨ m = .reject) : s = .land := by
  induction ms with
  | nil => exact (Option.some.inj h).symm
  | cons m ms ih =>
      obtain ⟨hreply, hrest⟩ := List.forall_mem_cons.mp hreplies
      rcases hreply with rfl | rfl
      · exact ih h hrest
      · exact ih h hrest

theorem Stage.eq_land_of_deposit (h : s.after? (ms ++ .deposit :: ms') = some s')
    (hreplies : ∀ m ∈ ms', m = .accept ∨ m = .reject) : s' = .land := by
  rw [after?_append] at h
  obtain ⟨s₁, -, h⟩ := Option.bind_eq_some_iff.mp h
  rw [after?] at h
  split_ifs at h with hm
  obtain rfl : s₁ = .land := by
    cases s₁ <;> simp [methods] at hm
    rfl
  exact eq_land_of_replies h hreplies

namespace Method

variable {channels : Aliases} {calls before after : List (Method × List Json)} {args : List Json}
  {cs : List Call}

/-- Calls that transfer are read if their first arguments are texts. -/
theorem callEach_transfers (h : ∀ call ∈ calls, call.1 = .transferTo) :
    callEach channels calls = .ok cs ↔ ∃ players, cs = players.map .transferTo ∧
      List.Forall₂ (fun call p => Argument.text "transfer_to" call.2.head? = .ok p) calls players := by
  have hread : ∀ call ∈ calls, ∀ c, call.1.call channels call.2 = .ok c ↔
      ∃ p, Argument.text "transfer_to" call.2.head? = .ok p ∧ Call.transferTo p = c := by
    intro call hmem c
    rw [h call hmem]
    exact map_eq_ok_iff
  rw [callEach, mapM_eq_ok_iff]
  clear h
  induction calls generalizing cs with
  | nil => simp
  | cons call calls ih =>
      obtain ⟨hcall, hcalls⟩ := List.forall_mem_cons.mp hread
      constructor
      · rintro (_ | ⟨hc, hcs⟩)
        obtain ⟨p, hp, rfl⟩ := (hcall _).mp hc
        obtain ⟨players, rfl, hplayers⟩ := (ih hcalls).mp hcs
        exact ⟨p :: players, rfl, .cons hp hplayers⟩
      · rintro ⟨_, rfl, _ | ⟨hp, hplayers⟩⟩
        exact .cons ((hcall _).mpr ⟨_, hp, rfl⟩) ((ih hcalls).mpr ⟨_, rfl, hplayers⟩)

theorem exists_of_mem_callEach {c : Call} (h : callEach channels calls = .ok cs) (hc : c ∈ cs) :
    ∃ call ∈ calls, call.1.call channels call.2 = .ok c := by
  obtain ⟨n, hn⟩ := List.mem_iff_getElem?.mp hc
  obtain ⟨call, hcall, hread⟩ := exists_of_forall₂ (mapM_eq_ok_iff.mp h) hn
  exact ⟨call, List.mem_of_getElem? hcall, hread⟩

/-- A deposit behind which there are only replies is what a command has turned to last. -/
theorem turn_of_callEach (h : callEach channels (before ++ (.deposit, args) :: after) = .ok cs)
    (hreplies : ∀ call ∈ after, call.1 = .accept ∨ call.1 = .reject) :
    ∃ value, Argument.IsDeposit args value ∧
      cs.reverse.findSome? Call.turn? = some (some value) := by
  have happend : callEach channels (before ++ (.deposit, args) :: after) =
      callEach channels before >>= fun cs₁ => callEach channels ((.deposit, args) :: after) >>=
        fun cs₂ => .ok (cs₁ ++ cs₂) := List.mapM_append
  rw [happend] at h
  obtain ⟨cs₁, -, h⟩ := bind_eq_ok_iff.mp h
  obtain ⟨cs₂, hcs₂, h⟩ := bind_eq_ok_iff.mp h
  cases h
  rw [callEach_cons] at hcs₂
  obtain ⟨c, hc, hcs₂⟩ := bind_eq_ok_iff.mp hcs₂
  obtain ⟨cs₃, hcs₃, h⟩ := bind_eq_ok_iff.mp hcs₂
  cases h
  obtain ⟨value, hvalue, rfl⟩ := Argument.deposit_eq_ok_iff.mp hc
  have hreply : cs₃.reverse.findSome? Call.turn? = none := by
    rw [List.findSome?_eq_none_iff]
    intro c hmem
    obtain ⟨call, hcall, hc⟩ := exists_of_mem_callEach hcs₃ (List.mem_reverse.mp hmem)
    rcases hreplies call hcall with hmethod | hmethod
    all_goals
      rw [hmethod] at hc
      cases hc
      rfl
  refine ⟨value, hvalue, ?_⟩
  rw [List.reverse_append, List.reverse_cons, List.append_assoc, List.findSome?_append, hreply]
  rfl

end Method

theorem Fluent.recipients_of_calls {a : Start} (f : Fluent a s) {players : List String}
    (h : f.calls = players.map .transferTo) : f.recipients = players := by
  rw [recipients, h, List.filterMap_map]
  exact List.filterMap_some

/-! ## What a rule yields -/

namespace Trigger

variable {t : Trigger} {channels : Aliases} {limit : Nanos} {e : Event} {step : Step}
  {fault : TriggerFault} {args : List Json}

/-- A rule without pauses yields no fault but one of its command. -/
theorem exists_command_fault (hafter : t.command.stage.after? (t.calls.map Prod.fst) = some s)
    (hs : s ≠ .landEdit) (hpauses : ∀ call ∈ t.calls, call.1 ≠ .interval)
    (h : t.build channels limit e = .error fault) : ∃ err, fault = .command err := by
  obtain ⟨hfaults, hyields⟩ := t.build_eq channels limit e hafter hs
  cases hread : t.read channels e with
  | error fault' =>
      obtain ⟨method, reason, hcommand, -⟩ := read_isInvalidArgument
        (fun call hmem hpause => absurd hpause (hpauses call hmem)) hread
      obtain rfl : fault' = fault := Except.error.inj ((hfaults _ hread).symm.trans h)
      exact ⟨_, hcommand⟩
  | ok read =>
      obtain ⟨f, -, hbuild⟩ := hyields read.1 read.2 hread
      obtain ⟨err, -, rfl⟩ := mapError_eq_error_iff.mp (hbuild.symm.trans h)
      exact ⟨err, rfl⟩

/-- A rule that is read yields a step if its command does. -/
theorem buildCalls_eq_ok_iff (hafter : t.command.stage.after? (t.calls.map Prod.fst) = some s)
    (hs : s ≠ .landEdit) :
    t.build channels limit e = .ok step ↔ ∃ a, ∃ f : Fluent a s, ∃ step',
      t.command.read (t.argument e) = .ok a ∧ Method.callEach channels t.calls = .ok f.calls ∧
        f.build hs = .ok step' ∧ step = { step' with limit := t.limit.getD limit } := by
  obtain ⟨hfaults, hyields⟩ := t.build_eq channels limit e hafter hs
  constructor
  · intro h
    cases hread : t.read channels e with
    | error fault => cases (hfaults _ hread).symm.trans h
    | ok read =>
        obtain ⟨f, hcalls, hbuild⟩ := hyields read.1 read.2 hread
        obtain ⟨hstart, hrest⟩ := read_eq_ok_iff.mp hread
        obtain ⟨step', hstep, rfl⟩ :=
          map_eq_ok_iff.mp (mapError_eq_ok_iff.mp (hbuild.symm.trans h))
        exact ⟨_, f, step', hstart, hcalls ▸ hrest, hstep, rfl⟩
  · rintro ⟨a, f, step', hstart, hcalls, hstep, rfl⟩
    obtain ⟨f', hcalls', hbuild⟩ := hyields a f.calls (read_eq_ok_iff.mpr ⟨hstart, hcalls⟩)
    -- what is written down is told by its start and its calls
    have hsame : f'.build hs = f.build hs := by
      rw [← f'.run_eq hs, ← f.run_eq hs, hcalls']
    rw [hbuild, hsame, hstep]
    rfl

/-- What is read of a rule can be written down. -/
theorem exists_fluent {a : Start} {cs : List Call}
    (hafter : t.command.stage.after? (t.calls.map Prod.fst) = some s) (hs : s ≠ .landEdit)
    (hstart : t.command.read (t.argument e) = .ok a)
    (hcalls : Method.callEach channels t.calls = .ok cs) : ∃ f : Fluent a s, f.calls = cs := by
  obtain ⟨f, hf, -⟩ := (t.build_eq channels 0 e hafter hs).2 a cs
    (read_eq_ok_iff.mpr ⟨hstart, hcalls⟩)
  exact ⟨f, hf⟩

/-- A rule that transfers yields a step if its argument is a positive amount and its calls name
players, all of them with a name. -/
theorem build_pay_eq_ok_iff (hpay : t.command = .pay)
    (hafter : t.command.stage.after? (t.calls.map Prod.fst) = some s) :
    t.build channels limit e = .ok step ↔ t.Pays limit e step := by
  obtain ⟨rfl, htransfers⟩ := Stage.transfers_of_after? (hpay ▸ hafter)
  have hs : Stage.pay ≠ .landEdit := by decide
  have hmethods : ∀ call ∈ t.calls, call.1 = .transferTo := fun call hmem =>
    htransfers _ (List.mem_map_of_mem hmem)
  rw [buildCalls_eq_ok_iff hafter hs]
  constructor
  · rintro ⟨a, f, step', hstart, hcalls, hbuild, rfl⟩
    rw [hpay] at hstart
    obtain ⟨amount, hamount, rfl⟩ := map_eq_ok_iff.mp hstart
    obtain ⟨players, hplayers, hread⟩ := (Method.callEach_transfers hmethods).mp hcalls
    obtain ⟨hpositive, hnamed, player, hlast, rfl⟩ := (f.build_pay_eq_ok_iff hs).mp hbuild
    rw [f.recipients_of_calls hplayers] at hnamed hlast
    have hamount := Argument.amount_eq_ok_iff.mp hamount
    exact ⟨amount, players, player, hamount, hpositive, hamount.le, hread, hnamed, hlast, rfl⟩
  · rintro ⟨amount, players, player, hamount, hpositive, -, hread, hnamed, hlast, rfl⟩
    have hstart : t.command.read (t.argument e) = .ok (.pay amount) := by
      rw [hpay]
      exact map_eq_ok_iff.mpr ⟨amount, Argument.amount_eq_ok_iff.mpr hamount, rfl⟩
    have hcalls : Method.callEach channels t.calls = .ok (players.map .transferTo) :=
      (Method.callEach_transfers hmethods).mpr ⟨players, rfl, hread⟩
    obtain ⟨f, hf⟩ := exists_fluent hafter hs hstart hcalls
    refine ⟨_, f, _, hstart, hf ▸ hcalls, (f.build_pay_eq_ok_iff hs).mpr
      ⟨hpositive, ?_, player, ?_, rfl⟩, rfl⟩
    · rwa [f.recipients_of_calls hf]
    · rwa [f.recipients_of_calls hf]

/-- A rule that turns to a deposit last stays with the land. -/
theorem stage_eq_land (hafter : t.command.stage.after? (t.calls.map Prod.fst) = some s)
    (hturns : t.TurnsToDeposit args) : s = .land := by
  obtain ⟨before, after, hcalls, hreplies⟩ := hturns
  rw [hcalls, List.map_append] at hafter
  refine Stage.eq_land_of_deposit hafter ?_
  simpa using fun m args hmem => hreplies (m, args) hmem

/-- A rule that deposits yields a step if the name of the land and the value of the deposit are
texts that are not blank and nothing else is wrong. -/
theorem build_deposit_eq_ok_iff (hland : t.command = .land)
    (hafter : t.command.stage.after? (t.calls.map Prod.fst) = some s)
    (hturns : t.TurnsToDeposit args) :
    t.build channels limit e = .ok step ↔ t.Deposits channels limit e args step := by
  obtain rfl := stage_eq_land hafter hturns
  obtain ⟨before, after, hcalls, hreplies⟩ := hturns
  have hs : Stage.land ≠ .landEdit := by decide
  rw [buildCalls_eq_ok_iff hafter hs]
  constructor
  · rintro ⟨a, f, step', hstart, hread, hbuild, rfl⟩
    rw [hland] at hstart
    obtain ⟨name, hname, rfl⟩ := map_eq_ok_iff.mp hstart
    obtain ⟨value, hvalue, hturn⟩ := Method.turn_of_callEach (hcalls ▸ hread) hreplies
    obtain ⟨hfaults, hblank, rfl⟩ := (f.build_deposit_eq_ok_iff hs hturn).mp hbuild
    exact ⟨name, value, f, hname, hvalue, hread, hfaults, hblank, rfl⟩
  · rintro ⟨name, value, f, hname, hvalue, hread, hfaults, hblank, rfl⟩
    have hstart : t.command.read (t.argument e) = .ok (.land name) := by
      rw [hland]
      exact map_eq_ok_iff.mpr ⟨name, hname, rfl⟩
    obtain ⟨value', hvalue', hturn⟩ := Method.turn_of_callEach (hcalls ▸ hread) hreplies
    obtain rfl := hvalue.unique hvalue'
    exact ⟨_, f, _, hstart, hread, (f.build_deposit_eq_ok_iff hs hturn).mpr
      ⟨hfaults, hblank, rfl⟩, rfl⟩

end Trigger

/-- Transfers are typed with the amount that they were given, which is positive and fits 64 bits,
and go to a player with a name. A deposit is typed with the text that it was given, without blanks
around it and in lower case: whether the text is a positive number or `all` is not looked at, so it
is refused otherwise only if it is blank or something else is wrong. All the same is true of rules,
whatever JSON their arguments are; what cannot be typed is reported. -/
theorem money_moves_as_written [PatternWording] {specs : List TriggerSpec} {channels : Aliases}
    {stepLimit : Nanos}
    {ts : TriggerSet} (hload : TriggerSet.compile specs channels stepLimit = .ok ts) :
    (∀ (amount : Int) (f : Fluent (.pay amount) .pay) h step, Payload.IsInt64 amount →
      (f.build h = .ok step ↔ 1 ≤ amount ∧ amount ≤ 9223372036854775807 ∧
        (∀ p ∈ f.recipients, Text.isBlank p = false) ∧ ∃ player,
          f.recipients.getLast? = some player ∧
            step = (Action.line (payLine player amount)).step)) ∧
    (∀ (name value : String) (f : Fluent (.land name) .land) h, f.turn? = some (some value) →
      (∀ step, f.build h = .ok step ↔ (∀ fault ∈ f.faults, fault.1 ≠ .remembered) ∧
        Text.isBlank value = false ∧ step = (Action.line (depositLine value name)).step) ∧
      ((∃ err, f.build h = .error err) ∨ IsDepositable (Unicode.lowerText (Text.trim value)) ↔
        (∃ fault ∈ f.faults, fault.1 = .remembered) ∨ Text.isBlank value = true ∨
          IsDepositable (Unicode.lowerText (Text.trim value)))) ∧
    ∀ i t e, ts.rules[i]? = some t → t.firesFor e = true → ∀ r, (i, r) ∈ ts.fire e →
      (t.command = .pay → (∀ step, r = .ok step ↔ t.Pays stepLimit e step) ∧
        ∀ fault, r = .error fault → ∃ err, fault = .command err) ∧
      (t.command = .land → ∀ args, t.TurnsToDeposit args →
        (∀ step, r = .ok step ↔ t.Deposits channels stepLimit e args step) ∧
          ∀ fault, r = .error fault → ∃ err, fault = .command err) := by
  refine ⟨fun amount f h step hfits => ?_, fun name value f h hturn =>
    ⟨fun step => f.build_deposit_eq_ok_iff h hturn, ?_⟩, fun i t e ht hfires r hr => ?_⟩
  · rw [f.build_pay_eq_ok_iff h]
    exact and_congr_right fun _ => (and_iff_right hfits.2).symm
  · rw [f.exists_deposit_fault_iff h hturn, or_assoc]
  · obtain ⟨spec, -, hrule⟩ := TriggerSet.exists_compile_of_getElem? hload ht
    obtain ⟨-, -, s, hafter, hs⟩ := Trigger.compile_ok hrule
    obtain rfl := (TriggerSet.mem_fire_iff hload ht hfires).mp hr
    constructor
    · intro hpay
      have htransfers := (Stage.transfers_of_after? (hpay ▸ hafter)).2
      refine ⟨fun step => Trigger.build_pay_eq_ok_iff hpay hafter,
        fun fault => Trigger.exists_command_fault hafter hs fun call hmem => ?_⟩
      simp [htransfers _ (List.mem_map_of_mem hmem)]
    · intro hland args hturns
      obtain rfl := Trigger.stage_eq_land hafter hturns
      have hmethods := (Stage.mem_of_after?_land hafter).2
      refine ⟨fun step => Trigger.build_deposit_eq_ok_iff hland hafter hturns,
        fun fault => Trigger.exists_command_fault hafter hs fun call hmem hpause => ?_⟩
      have hoffered := hmethods _ (List.mem_map_of_mem hmem)
      simp [hpause, Stage.methods] at hoffered

/-- A rule that deposits less than nothing when we are kicked. -/
def negativeRule : TriggerSpec :=
  ⟨"kick", [], ⟨"land", [("name", .str "Home")], [[.str "deposit", .num (.int (-5))]]⟩⟩

/-- The rule for negative deposits, loaded. -/
def negativeTrigger : Trigger :=
  ⟨0, "kick", [], .land, [("name", .str "Home")], [(.deposit, [.num (.int (-5))])], none⟩

theorem money_moves_of_negative_deposit :
    ((Fluent.start : Fluent (.pay 50) .pay).call (.transferTo " Bob ")).build (by decide) =
        .ok (Action.line "/pay Bob 50").step ∧
      ((Fluent.start : Fluent (.land "Home") .land).call (.deposit "-5")).build (by decide) =
        .ok (Action.line "/land deposit -5 Home").step ∧
      ∃ ts, TriggerSet.compile [negativeRule] [] 0 = .ok ts ∧
        (0, .ok ⟨.line "/land deposit -5 Home", 0⟩) ∈ ts.fire ⟨"kick", .kick⟩ := by
  have hload : TriggerSet.compile [negativeRule] [] 0 = .ok ⟨[negativeTrigger], [], 0⟩ := rfl
  obtain ⟨hpay, hdeposit, hrules⟩ := money_moves_as_written hload
  have hfire : (0, negativeTrigger.build [] 0 ⟨"kick", .kick⟩) ∈
      TriggerSet.fire ⟨[negativeTrigger], [], 0⟩ ⟨"kick", .kick⟩ := List.mem_singleton.mpr rfl
  have hfaults : ((Fluent.start : Fluent (.land "Home") .land).call (.deposit "-5")).faults = [] :=
    rfl
  have hnamed : ∀ p ∈ [" Bob "], Text.isBlank p = false := by decide
  refine ⟨(hpay 50 _ _ _ ⟨by decide, by decide⟩).mpr ⟨by decide, by decide, hnamed, " Bob ", rfl, rfl⟩,
    ((hdeposit "Home" "-5" _ _ rfl).1 _).mpr ⟨by simp [hfaults], by decide, rfl⟩, _, hload, ?_⟩
  have hstep := (((hrules 0 negativeTrigger ⟨"kick", .kick⟩ rfl rfl _ hfire).2 rfl
    [.num (.int (-5))] ⟨[], [], rfl, nofun⟩).1 ⟨.line "/land deposit -5 Home", 0⟩).mpr
    ⟨"Home", "-5", (Fluent.start : Fluent (.land "Home") .land).call (.deposit "-5"), rfl, .number,
      rfl, by simp [hfaults], by decide, rfl⟩
  rw [← hstep]
  exact hfire

/-- So what is deposited may be neither all there is nor a positive number. -/
theorem not_deposit_positive :
    ¬∀ (name value : String) (f : Fluent (.land name) .land) h step,
      f.turn? = some (some value) → f.build h = .ok step →
        ∃ v, step.action = .line ("/land deposit " ++ v ++ " " ++ Text.trim name) ∧
          IsDepositable v := by
  intro hclaim
  obtain ⟨v, hline, hv⟩ := hclaim "Home" "-5"
    ((Fluent.start : Fluent (.land "Home") .land).call (.deposit "-5")) (by decide)
    (Action.line "/land deposit -5 Home").step rfl rfl
  obtain rfl : v = "-5" := by
    have htext : "/land deposit -5 Home" = "/land deposit " ++ v ++ " " ++ Text.trim "Home" :=
      List.singleton_inj.mp (Action.type.inj hline).1
    have hwhole : "/land deposit -5 Home" = "/land deposit " ++ "-5" ++ " " ++ Text.trim "Home" := by
      decide
    have hchars := congrArg String.toList (hwhole.symm.trans htext)
    simp only [String.toList_append, List.append_left_inj, List.append_right_inj] at hchars
    exact String.toList_inj.mp hchars.symm
  rcases hv with hall | ⟨n, htext, hpositive⟩
  · exact absurd hall (by decide)
  · exact hpositive.not_ge (Numeral.value_nonpos htext)

end LogWarden
