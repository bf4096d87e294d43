import LogWarden.Proofs.Chain.Account
import LogWarden.Proofs.Reaction.Course
import LogWarden.Proofs.Trigger.Overflow

/-!
# What is known of a reaction

A reaction turns to the rules that fired one after another, to each of them once. Nothing that goes
wrong with one keeps it from the next; what it returns is the error of the first that failed.
-/

namespace LogWarden

namespace ReactionCourse

/-- The step that a rule yielded. -/
def built? : ℕ × Except CommandError LogWarden.Step → Option (ℕ × LogWarden.Step)
  | (index, .ok s) => some (index, s)
  | (_, .error _) => none

/-- What a reaction returns where its rules ended so: that all is well if it is with all of them,
and else the error of the first with which it is not. -/
inductive Verdict : List (ℕ × Except HandlerError Unit) → Except HandlerError Unit → Prop
  | well {outcomes} (h : ∀ x ∈ outcomes, x.2 = .ok ()) : Verdict outcomes (.ok ())
  | failed {before index e after} (h : ∀ x ∈ before, x.2 = .ok ()) :
      Verdict (before ++ (index, .error e) :: after) (.error e)

/-- The step that was submitted last, with its rule, and when. -/
def LastSubmission (tr : List (Nanos × ReactionEvent)) (t : Nanos) (index : ℕ)
    (step : LogWarden.Step) (ticket : ℕ) : Prop :=
  (t, .turned (some (.submitted index step ticket)) none) ∈ tr ∧
    (newsOf tr).getLast? = some (.submitted index step ticket)

/-- What is known of a reaction to these rules from what has been seen of it. -/
structure Account (fired : List (ℕ × Except CommandError LogWarden.Step)) (tr₀ : List QueueEvent)
    (tr : List (Nanos × ReactionEvent)) (s : ReactionCourse) : Prop where
  /-- The rules are turned to one after another, the next when it was told how the last ended. -/
  reported : Reported fired (newsOf tr)
  /-- What is to be submitted are the steps of the first rules that yielded any, each once. -/
  attempts : attemptsOf tr <+: fired.filterMap built?
  /-- What is submitted is so by one request of its own. -/
  submits : ((submissionsOf tr).map requestOf).Sublist (books (tr₀ ++ historyOf tr)).accepted ∧
    ((submissionsOf tr).map (·.2)).Nodup
  /-- The step of a rule is to be submitted when all rules before have ended, and no other. -/
  in_turn : ∀ tr₁ t news res tr₂, tr = tr₁ ++ (t, .turned (some news) res) :: tr₂ →
    ∀ index step, news.attempt? = some (index, step) →
      ∃ done rest, fired = done ++ (index, .ok step) :: rest ∧
        (outcomesOf tr₁).map (·.1) = done.map (·.1)
  /-- Only a closed queue refuses a step. -/
  refuses : ∀ t index step res, (t, .turned (some (.refused index step)) res) ∈ tr →
    s.usage.queue.isClosed = true
  /-- A step returns the result of its ticket, or that its own limit has passed. -/
  step_returns : ∀ tr₁ t index r res tr₂,
    tr = tr₁ ++ (t, .turned (some (.returned index r)) res) :: tr₂ →
      ∃ t₁ step ticket, LastSubmission tr₁ t₁ index step ticket ∧
        (s.usage.queue.result? ticket = some r ∨
          t₁ + step.limit ≤ t ∧
            r = .error (.timeout (min (step.limit / 1000000) 18446744073709551615)))
  /-- The reaction returns when all rules have ended, whatever they ended with. -/
  returns : ∀ tr₁ t news res tr₂, tr = tr₁ ++ (t, .turned news (some res)) :: tr₂ →
    Told fired (newsOf tr₁) ∧ attemptsOf tr₁ = fired.filterMap built? ∧
      (outcomesOf tr₁).map (·.1) = fired.map (·.1) ∧ Verdict (outcomesOf tr₁) res
  /-- Behind its end the reaction does nothing. -/
  silent : ∀ tr₁ tr₂, tr = tr₁ ++ tr₂ → isOver tr₁ = true →
    ∀ t news res, (t, .turned news res) ∉ tr₂
  /-- The reaction goes on until it returns or is cancelled. -/
  goes_on : isOver tr = false → s.reaction.isSome
  /-- It has to wait only for a step without a result, within the limit of that step. -/
  waits : ∀ r, s.reaction = some r → (r.next s.usage.queue s.usage.now).2.1 = .waits →
    ∃ t index step ticket, LastSubmission tr t index step ticket ∧
      s.usage.queue.result? ticket = none ∧ s.usage.now < t + step.limit
  /-- So many turns that are not spent waiting end it. -/
  few_turns : tr.countP (·.2.isMove) ≤ 2 * fired.length + 1

variable {a : Actuator} {r₀ r : Reaction} {u : Usage} {s : ReactionCourse}
variable {tr tr₁ tr₂ : List (Nanos × ReactionEvent)} {t : Nanos} {reaction : Option Reaction}
variable {q queue : Queue} {news : Option RuleNews} {res : Option (Except HandlerError Unit)}
variable {fired done : List (ℕ × Except CommandError LogWarden.Step)} {told : List RuleNews}

theorem Told.attempts_eq (h : Told done told) :
    told.filterMap (·.attempt?) = done.filterMap built? := by
  induction h with
  | nil => rfl
  | unbuilt _ ih | refused _ ih | returned _ ih =>
      rw [List.filterMap_append, List.filterMap_append, ih]
      rfl

theorem Told.indices_eq (h : Told done told) :
    (told.filterMap (·.outcome?)).map (·.1) = done.map (·.1) := by
  induction h with
  | nil => rfl
  | unbuilt _ ih | refused _ ih | returned _ ih =>
      rw [List.filterMap_append, List.map_append, List.map_append, ih]
      rfl

theorem Told.length_le (h : Told done told) : told.length ≤ 2 * done.length := by
  induction h with
  | nil => exact Nat.le_refl _
  | unbuilt _ ih | refused _ ih | returned _ ih =>
      simp only [List.length_append, List.length_cons, List.length_nil]
      omega

theorem Reported.attempts_prefix (h : Reported fired told) :
    told.filterMap (·.attempt?) <+: fired.filterMap built? := by
  cases h with
  | between split told =>
      rw [split, List.filterMap_append, told.attempts_eq]
      exact List.prefix_append ..
  | @waiting done rest news index s ticket split told =>
      have hsplit : fired.filterMap built? =
          done.filterMap built? ++ [(index, s)] ++ rest.filterMap built? := by
        simp [split, built?]
      rw [hsplit, List.filterMap_append, told.attempts_eq]
      exact List.prefix_append ..

theorem Reported.length_le (h : Reported fired told) : told.length ≤ 2 * fired.length := by
  cases h with
  | between split told =>
      have hle := told.length_le
      simp only [split, List.length_append]
      omega
  | waiting split told =>
      have hle := told.length_le
      simp only [split, List.length_append, List.length_cons, List.length_nil]
      omega

theorem verdict_firstFailure (outcomes : List (ℕ × Except HandlerError Unit)) :
    Verdict outcomes (Reaction.verdict (firstFailure outcomes)) := by
  have passes (x : ℕ × Except HandlerError Unit) (h : Reaction.failure? x.2 = none) :
      x.2 = .ok () := by
    obtain ⟨index, e | ⟨⟩⟩ := x
    · cases h
    · rfl
  cases h : firstFailure outcomes with
  | none => exact .well fun x hx => passes x (List.findSome?_eq_none_iff.mp h x hx)
  | some e =>
      obtain ⟨before, ⟨index, res⟩, after, rfl, hres, hbefore⟩ := List.findSome?_eq_some_iff.mp h
      cases res with
      | ok => cases hres
      | error e' =>
          obtain rfl := Option.some.inj hres
          exact .failed fun x hx => passes x (hbefore x hx)

/-- Each submission is an accepted request, in the order of the submissions. -/
theorem submissions_sublist (tr : List (Nanos × ReactionEvent)) :
    ((submissionsOf tr).map requestOf).Sublist (books (historyOf tr)).accepted := by
  induction tr using List.reverseRecOn with
  | nil => exact .slnil
  | append_singleton tr x ih =>
      have hsubmissions : submissionsOf (tr ++ [x]) =
          submissionsOf tr ++ x.2.news?.toList.filterMap (·.submission?) := by
        rw [submissionsOf, newsOf_append_singleton, List.filterMap_append, submissionsOf]
      rw [hsubmissions, List.map_append, historyOf_append_singleton, books_append]
      refine ih.append ?_
      obtain ⟨t, e⟩ := x
      cases h : e.news? with
      | none => exact List.nil_sublist _
      | some news =>
          cases news with
          | submitted index step ticket =>
              have hhistory : e.history = [.accepted ⟨ticket, step.action⟩] := by
                cases e with
                | turned news res =>
                    obtain rfl : news = some (.submitted index step ticket) := h
                    rfl
                | others | cancelled => cases h
              rw [hhistory]
              exact List.Sublist.refl _
          | refused | unbuilt | returned => exact List.nil_sublist _

/-- In each turn that is not spent waiting something is told of a rule, or the reaction ends. -/
theorem Run.moves_le (hcurrent : r₀.current = none) (hfailure : r₀.failure = none)
    (run : Run a r₀ u tr s) :
    tr.countP (·.2.isMove) ≤ (newsOf tr).length + (isOver tr).toNat := by
  induction run with
  | start => exact Nat.zero_le _
  | @tail tr s e s' run step ih =>
      have hmove : e.isMove.toNat + (isOver tr).toNat ≤
          e.news?.toList.length + (isOver tr || e.isEnd).toNat := by
        cases step.change with
        | others | cancel => cases isOver tr <;> simp [ReactionEvent.isMove]
        | turn hreaction goes =>
            have hgoing : isOver tr = false :=
              Stands.going (hreaction ▸ run.stands hcurrent hfailure)
            cases goes <;> simp [hgoing, ReactionEvent.isMove, ReactionEvent.news?,
              ReactionEvent.isEnd]
      simp only [List.countP_append, List.countP_singleton, newsOf_append_singleton,
        isOver_append_singleton, List.length_append]
      cases hm : e.isMove <;> simp [hm] at hmove ⊢ <;> omega

namespace Stands

/-- A step is to be submitted with all rules before it done. -/
theorem in_turn (h : Stands r₀ tr (some r)) {n : RuleNews}
    (goes : r.Goes q t (some n) res queue reaction) {index : ℕ} {step : LogWarden.Step}
    (hattempt : n.attempt? = some (index, step)) :
    ∃ done rest, r₀.rest = done ++ (index, .ok step) :: rest ∧
      (outcomesOf tr).map (·.1) = done.map (·.1) := by
  have attempted {rest} (hcurrent : r.current = none) (hrest : r.rest = (index, .ok step) :: rest) :
      ∃ done rest, r₀.rest = done ++ (index, .ok step) :: rest ∧
        (outcomesOf tr).map (·.1) = done.map (·.1) := by
    cases h with
    | between split told =>
        obtain rfl := hrest
        exact ⟨_, _, split, told.indices_eq⟩
    | waiting => cases hcurrent
  cases goes with
  | refuse hcurrent hrest | submit hcurrent hrest =>
      obtain ⟨rfl, rfl⟩ := Prod.mk.inj (Option.some.inj hattempt)
      exact attempted hcurrent hrest
  | skip | hear => cases hattempt

/-- What a step returns comes from the queue or from the limit of the step. -/
theorem step_returns (h : Stands r₀ tr (some r)) {index : ℕ} {x : Except ActionError Unit}
    (goes : r.Goes q t (some (.returned index x)) res queue reaction) :
    ∃ t₁ step ticket, LastSubmission tr t₁ index step ticket ∧
      (q.result? ticket = some x ∨
        t₁ + step.limit ≤ t ∧
          x = .error (.timeout (min (step.limit / 1000000) 18446744073709551615))) := by
  cases goes with
  | hear hcurrent hends =>
      cases h with
      | between => cases hcurrent
      | @waiting done rest news index step ticket t₁ split told last going submitted =>
          obtain ⟨rfl, rfl⟩ := Prod.mk.inj (Option.some.inj hcurrent)
          refine ⟨t₁, step, ticket, ⟨submitted, by simp [last]⟩, ?_⟩
          rcases TicketWait.next_eq_ends hends with hres | ⟨-, deadline, d, hlimit, hle, herror⟩
          · exact .inl hres
          · obtain ⟨rfl, rfl⟩ := Prod.mk.inj (Option.some.inj hlimit)
            exact .inr ⟨hle, herror⟩

/-- With the turn in which the reaction returns, it is done with all rules. -/
theorem returns (h : Stands r₀ tr (some r)) {x : Except HandlerError Unit}
    (goes : r.Goes q t news (some x) queue reaction) :
    Told r₀.rest (newsOf tr) ∧ Verdict (outcomesOf tr) x := by
  cases goes with
  | finish hcurrent hrest =>
      cases h with
      | between split told =>
          obtain rfl := hrest
          rw [List.append_nil] at split
          exact ⟨split ▸ told, verdict_firstFailure _⟩
      | waiting => cases hcurrent

/-- Where the reaction has to wait, there is a step without a result, and its limit has not
passed. -/
theorem of_waits (h : Stands r₀ tr (some r)) (hwaits : (r.next q t).2.1 = .waits) :
    ∃ t₁ index step ticket, LastSubmission tr t₁ index step ticket ∧ q.result? ticket = none ∧
      t < t₁ + step.limit := by
  obtain ⟨index, w, hcurrent, hnext⟩ := Reaction.next_eq_waits hwaits
  obtain ⟨hnone, hbefore⟩ := TicketWait.next_eq_waits hnext
  cases h with
  | between => cases hcurrent
  | @waiting done rest news index step ticket t₁ split told last going submitted =>
      obtain ⟨rfl, rfl⟩ := Prod.mk.inj (Option.some.inj hcurrent)
      exact ⟨t₁, index, step, ticket, ⟨submitted, by simp [last]⟩, hnone, hbefore _ rfl⟩

end Stands

/-- Behind its end a reaction does nothing. -/
theorem Run.silent (hcurrent : r₀.current = none) (hfailure : r₀.failure = none)
    (run : Run a r₀ u (tr₁ ++ tr₂) s) (hover : isOver tr₁ = true) :
    (t, .turned news res) ∉ tr₂ := by
  intro hmem
  obtain ⟨tr₃, tr₄, rfl⟩ := List.append_of_mem hmem
  obtain ⟨s₁, r, queue, reaction, run₁, hr, -⟩ := run.exists_turn (List.append_assoc ..).symm
  have hgoing := Stands.going (hr ▸ run₁.stands hcurrent hfailure)
  rw [isOver, List.any_append, Bool.or_eq_false_iff] at hgoing
  exact absurd (hgoing.1.symm.trans hover) Bool.false_ne_true

/-- Whatever others do with the queue, and whenever it is cancelled, a reaction keeps to its
account. -/
theorem Run.account (hcurrent : r₀.current = none) (hfailure : r₀.failure = none)
    (run : Run a r₀ u tr s) {tr₀ : List QueueEvent} (run₀ : Usage.Run a tr₀ u) :
    Account r₀.rest tr₀ tr s := by
  have stands := run.stands hcurrent hfailure
  have hrun := run.queue_run run₀
  have hrequests : ((submissionsOf tr).map requestOf).Sublist
      (books (tr₀ ++ historyOf tr)).accepted := by
    rw [books_append]
    exact (submissions_sublist tr).trans (List.sublist_append_right _ _)
  have reached : ∀ {tr₁ t news res tr₂}, tr = tr₁ ++ (t, .turned news res) :: tr₂ →
      ∃ q r queue reaction, Stands r₀ tr₁ (some r) ∧ r.Goes q t news res queue reaction ∧
        (∃ tr', Queue.Run a tr' q) ∧ ∃ es, Queue.Steps a q es s.usage.queue := by
    intro tr₁ t news res tr₂ htr
    obtain ⟨s₁, r, queue, reaction, run₁, hr, rfl, goes, later⟩ := run.exists_turn htr
    exact ⟨_, r, queue, reaction, hr ▸ run₁.stands hcurrent hfailure, goes,
      ⟨_, run₁.queue_run run₀⟩, later⟩
  exact {
    reported := stands.reported
    attempts := stands.reported.attempts_prefix
    submits := by
      have hnodup := hrun.ledger.tickets_nodup.sublist (hrequests.map (·.ticket))
      rw [List.map_map] at hnodup
      exact ⟨hrequests, hnodup⟩
    in_turn := by
      intro tr₁ t news res tr₂ htr index step hattempt
      obtain ⟨q, r, queue, reaction, stands₁, goes, -⟩ := reached htr
      exact stands₁.in_turn goes hattempt
    refuses := by
      intro t index step res hmem
      obtain ⟨tr₁, tr₂, htr⟩ := List.append_of_mem hmem
      obtain ⟨q, r, queue, reaction, -, goes, -, es, later⟩ := reached htr
      cases goes with
      | refuse _ _ hclosed => exact later.isClosed_mono hclosed
    step_returns := by
      intro tr₁ t index x res tr₂ htr
      obtain ⟨q, r, queue, reaction, stands₁, goes, ⟨tr', hrun₁⟩, es, later⟩ := reached htr
      obtain ⟨t₁, step, ticket, hlast, hres⟩ := stands₁.step_returns goes
      exact ⟨t₁, step, ticket, hlast, hres.imp_left (hrun₁.result?_eq_some later)⟩
    returns := by
      intro tr₁ t news x tr₂ htr
      obtain ⟨q, r, queue, reaction, stands₁, goes, -⟩ := reached htr
      obtain ⟨told, verdict⟩ := stands₁.returns goes
      exact ⟨told, told.attempts_eq, told.indices_eq, verdict⟩
    silent := by
      rintro tr₁ tr₂ rfl hover t news res
      exact run.silent hcurrent hfailure hover
    goes_on := by
      intro hgoing
      revert stands
      cases s.reaction with
      | some r => exact fun _ => rfl
      | none =>
          intro stands
          cases stands with
          | ended _ hover => exact absurd (hgoing.symm.trans hover) Bool.false_ne_true
    waits := by
      intro r hr hwaits
      rw [hr] at stands
      exact stands.of_waits hwaits
    few_turns := by
      have hmoves := run.moves_le hcurrent hfailure
      have hnews := stands.reported.length_le
      have hover := Bool.toNat_le (isOver tr)
      omega }

end ReactionCourse

theorem Reaction.eq_map_of_yields? {outcomes : List (ℕ × Except TriggerFault Step)}
    {fired : List (ℕ × Except CommandError Step)} (h : Reaction.yields? outcomes = some fired) :
    outcomes = fired.map fun x => (x.1, x.2.mapError .command) := by
  fun_induction Reaction.yields? outcomes generalizing fired with
  | case1 =>
      obtain rfl := Option.some.inj h
      rfl
  | case2 index step rest ih | case3 index e rest ih =>
      obtain ⟨fired, hrest, rfl⟩ := Option.map_eq_some_iff.mp h
      rw [List.map_cons, ← ih hrest]
      rfl
  | case4 => cases h

/-- An event stops the program if one of the rules that fire for it comes to a pause that is too
long. Otherwise a reaction to it begins, and whatever others do with the queue, and whenever it is
cancelled, the reaction keeps to its account of what the fired rules yield. -/
theorem fired_rules_run (ts : TriggerSet) (e : Event) :
    (Reaction.start? ts e = none ↔
      ∃ t ∈ ts.rules, t.firesFor e = true ∧ t.StopsFiring ts.channels e) ∧
    ∀ r, Reaction.start? ts e = some r →
      ts.fire e = r.rest.map (fun x => (x.1, x.2.mapError .command)) ∧
      ∀ a tr₀ u tr s, Usage.Run a tr₀ u → ReactionCourse.Run a r u tr s →
        ReactionCourse.Account r.rest tr₀ tr s := by
  refine ⟨?_, fun r hr => ?_⟩
  · simp [Reaction.start?, Reaction.yields?_eq_none_iff, TriggerSet.overflow_mem_fire_iff]
  · obtain ⟨fired, hfired, rfl⟩ := Option.map_eq_some_iff.mp hr
    exact ⟨Reaction.eq_map_of_yields? hfired, fun a tr₀ u tr s run₀ run => run.account rfl rfl run₀⟩

/-- A jump that slips, a payment of nothing and a jump that finds the queue closed: each rule has
its turn, and the reaction returns that the jump slipped. -/
theorem fired_rules_run_of_failures :
    ∃ ts r tr s, TriggerSet.compile [⟨"kick", [], ⟨"jump", [("times", .num (.int 1))], []⟩⟩,
        ⟨"kick", [], ⟨"pay", [], []⟩⟩,
        ⟨"kick", [], ⟨"jump", [("times", .num (.int 1))], []⟩⟩] [] 5 = .ok ts ∧
      Reaction.start? ts ⟨"kick", .kick⟩ = some r ∧
      ReactionCourse.Run (.rehearsal true) r .start tr s ∧
      (ReactionCourse.attemptsOf tr).map (·.1) = [0, 2] ∧
      (ReactionCourse.outcomesOf tr).map (·.1) = [0, 1, 2] ∧
      tr.getLast? = some (0, .turned none (some (.error (.action (.failed "jump" "slipped"))))) ∧
      ReactionCourse.Account r.rest [] tr s := by
  obtain ⟨ts, e, hload, hstart⟩ : ∃ ts e, TriggerSet.compile
      [⟨"kick", [], ⟨"jump", [("times", .num (.int 1))], []⟩⟩, ⟨"kick", [], ⟨"pay", [], []⟩⟩,
        ⟨"kick", [], ⟨"jump", [("times", .num (.int 1))], []⟩⟩] [] 5 = .ok ts ∧
      Reaction.start? ts ⟨"kick", .kick⟩ = some ⟨"kick", [(0, .ok ⟨.jump 1 1000000000, 5⟩),
        (1, .error e), (2, .ok ⟨.jump 1 1000000000, 5⟩)], none, none⟩ := ⟨_, _, rfl, rfl⟩
  let r : Reaction := ⟨"kick", [(0, .ok ⟨.jump 1 1000000000, 5⟩), (1, .error e),
    (2, .ok ⟨.jump 1 1000000000, 5⟩)], none, none⟩
  have submitted := (@ReactionCourse.Run.start (.rehearsal true) r .start).tail (.turn rfl)
  have begun := (submitted.tail (.others (.worker rfl))).tail
    (.others (@Usage.Step.act _ _ 0 _ _ rfl))
  have slipped := (begun.tail (.others (@Usage.Step.act _ _ 0 _ _ rfl))).tail
    (.others (@Usage.Step.act _ _ 0 _ _ rfl))
  have told := (slipped.tail (.others (.worker rfl))).tail (.others (.worker rfl))
  have closed := (told.tail (.turn rfl)).tail (.others .close)
  have returned := ((closed.tail (.turn rfl)).tail (.turn rfl)).tail (.turn rfl)
  have haccount := ((fired_rules_run ts ⟨"kick", .kick⟩).2 r hstart).2 _ _ _ _ _ .refl returned
  refine ⟨ts, r, _, _, hload, hstart, returned, ?_, ?_, ?_, haccount⟩
  · rfl
  · rfl
  · rfl

/-- So it is not true that each step that a fired rule yields is run: the pause of the second rule
is too long, and the jump of the first does not begin. -/
theorem not_fired_rules_run :
    ¬∀ specs channels stepLimit ts e index step,
      TriggerSet.compile specs channels stepLimit = .ok ts → (index, .ok step) ∈ ts.fire e →
        ∃ r, Reaction.start? ts e = some r ∧ (index, .ok step) ∈ r.rest := by
  intro hclaim
  obtain ⟨ts, step, hload, hfire, hstops⟩ : ∃ ts step, TriggerSet.compile
      [⟨"kick", [], ⟨"jump", [], []⟩⟩, ⟨"kick", [], ⟨"jump", [],
        [[.str "interval", .num (.float (.ofDecimal false 1 30))]]⟩⟩] [] 0 = .ok ts ∧
      (ts.fire ⟨"kick", .kick⟩).head? = some (0, .ok step) ∧
      Reaction.start? ts ⟨"kick", .kick⟩ = none := ⟨_, _, rfl, rfl, rfl⟩
  obtain ⟨r, hstart, -⟩ := hclaim _ [] 0 ts _ 0 step hload (List.mem_of_mem_head? hfire)
  cases hstops.symm.trans hstart

end LogWarden
