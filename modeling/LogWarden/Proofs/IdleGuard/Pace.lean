import LogWarden.Action.Rehearsal
import LogWarden.Proofs.IdleGuard.Notes

/-!
# The pace of a loop

Rounds whose jumps end well are apart by as long as the guard holds, at least. A round whose jumps
fail is left before the pause, so the next one begins at that time: where jumps fail at once, the
loop spins, and submits any number of steps before any time has passed.
-/

namespace LogWarden

namespace Vigil

variable {a : Actuator} {g : IdleGuard} {v : Vigil} {i : ℕ} {c : Evasion}
variable {settled : List (ℕ × Except ActionError Unit)}

/-- Before any time has passed, the queue is at rest, with these requests and results. -/
structure AtRest (v : Vigil) (waiting : List Request)
    (settled : List (ℕ × Except ActionError Unit)) : Prop where
  now_eq : v.usage.now = 0
  worker : v.usage.queue.worker = .resting
  cancelled : v.usage.queue.cancelled = false
  waiting : v.usage.queue.waiting = waiting
  acts : v.usage.queue.acts = []
  ended : v.usage.queue.ended = []
  settled : v.usage.queue.settled = settled

theorem AtRest.work {k : ℕ} (h : AtRest v [⟨k, .jump 3 0⟩] settled) :
    ∃ tr v', Steps (.rehearsal true) v tr v' ∧ (∀ x ∈ tr, ∃ es, x.2 = .others es) ∧
      AtRest v' [] ((k, .error (.failed "jump" "slipped")) :: settled) ∧ v'.guard = v.guard ∧
      v'.reactions = v.reactions := by
  obtain ⟨⟨now, ⟨holders, cancelled, accepted, waiting, worker, acts, ended, awaited, executed,
    results, marks⟩, users⟩, guard, reactions⟩ := v
  obtain ⟨hn, hr, hc, hw, ha, he, hs⟩ := h
  simp only at hn hr hc hw ha he hs
  subst hn hr hc hw ha he
  have begun := (@Steps.refl (.rehearsal true) ⟨⟨0, ⟨holders, false, accepted, [⟨k, .jump 3 0⟩],
    .resting, [], [], awaited, executed, results, marks⟩, users⟩, guard, reactions⟩).tail
    (.others (.worker rfl) rfl)
  have acted := ((begun.tail (.others (@Usage.Step.act _ _ 0 _ _ rfl) rfl)).tail
    (.others (@Usage.Step.act _ _ 0 _ _ rfl) rfl)).tail
    (.others (@Usage.Step.act _ _ 0 _ _ rfl) rfl)
  have collects {a : Actuator} {q : Queue} {r : Request} {e : Ending} {now : Nanos}
      (hw : q.worker = .awaiting r) (he : q.ended = [(r.ticket, e)]) :
      q.workerNext a now = some (q.collect r e, some (.collected r e)) := by
    simp [Queue.workerNext, hw, Queue.ending?, he]
  have told := (acted.tail (.others (.worker (collects rfl rfl)) rfl)).tail
    (.others (.worker rfl) rfl)
  refine ⟨_, _, told, by simp, ⟨rfl, rfl, rfl, rfl, rfl, ?_, ?_⟩, rfl, rfl⟩
  · have removes (e : Ending) : [(k, e)].filter (·.1 != k) = [] := by simp
    exact removes _
  · exact congrArg _ hs

theorem Step.of_stage (h : v.reaction? i = some c)
    (hstage : c.IsStage v.guard.pause)
    (hmoves : (c.next v.guard v.usage.queue v.usage.now).2.2.1 ≠ .waits) :
    ∃ o news res guard queue c',
      c.Goes v.guard v.usage.queue v.usage.now o news res guard queue c' ∧
      Step a v (.turned i o news res) ⟨{ v.usage with queue }, guard, v.reactions.set i c'⟩ :=
  ⟨_, _, _, _, _, _, hstage.takes hmoves, .turn h hmoves⟩

/-- Before any time has passed, a loop is about to begin a round of jumps without pauses. -/
structure Spins (v : Vigil) : Prop where
  rest : ∃ settled, v.AtRest [] settled
  idle : v.guard.idle = true
  makes : v.guard.MakesRounds
  jumpInterval : v.guard.jumpInterval = 0
  reactions : v.reactions = [some .between]

theorem Spins.begins (h : Spins v) :
    ∃ v₁ settled w,
      Step a v (.turned 0 (.looked true) (some (.submitted v.guard.jumps w.ticket)) none) v₁ ∧
      v₁.AtRest [⟨w.ticket, .jump 3 0⟩] settled ∧ v₁.guard = v.guard ∧
      v₁.reactions = [some (.jumping v.guard.pause w)] := by
  obtain ⟨⟨settled, rest⟩, hidle, hmakes, hinterval, hreactions⟩ := h
  have hreaction : v.reaction? 0 = some .between := by
    rw [reaction?, hreactions]
    rfl
  obtain ⟨o, news, res, guard, queue, c', goes, begins⟩ :=
    @Step.of_stage a _ _ _ hreaction .between Evasion.nextRound_ne_waits
  cases goes with
  | stop hnot => cases hidle.symm.trans hnot
  | panic _ hnot => exact absurd hmakes hnot
  | refuse _ _ hclosed =>
      simp [Queue.isClosed, rest.cancelled, rest.worker, Worker.hasLeft] at hclosed
  | again _ _ hs =>
      obtain ⟨-, -, rfl⟩ := Queue.submit_eq_some_iff.mp hs
      refine ⟨_, settled, Evasion.waitFor v.guard.jumps v.usage.queue v.usage.now, begins,
        { rest with waiting := ?_ }, rfl, ?_⟩
      · simp [rest.waiting, IdleGuard.jumps, hinterval, Evasion.waitFor]
      · simp [hreactions]

theorem AtRest.fails {e : ActionError} {w : TicketWait}
    {settled : List (ℕ × Except ActionError Unit)}
    (rest : v.AtRest [] ((w.ticket, .error e) :: settled)) (he : e ≠ .queueClosed)
    (hidle : v.guard.idle = true) (hmakes : v.guard.MakesRounds)
    (hinterval : v.guard.jumpInterval = 0)
    (hreactions : v.reactions = [some (.jumping v.guard.pause w)]) :
    ∃ v', Step a v (.turned 0 .wentOn (some (.returned (.error e))) none) v' ∧ Spins v' := by
  have hreaction : v.reaction? 0 = some (.jumping v.guard.pause w) := by
    rw [reaction?, hreactions]
    rfl
  have hends : w.next v.usage.queue v.usage.now = .ends (.error e) := by
    simp [TicketWait.next, Queue.result?, rest.settled]
  have hnext : (Evasion.jumping v.guard.pause w).next v.guard v.usage.queue v.usage.now =
      (v.guard, v.usage.queue, .goes .between, [.roundFailed e]) :=
    Evasion.next_of_error hends he
  have hturn : v.turn 0 (.jumping v.guard.pause w) = { v with reactions := [some .between] } := by
    simp [turn, hnext, hreactions, Turn.rest?]
  refine ⟨{ v with reactions := [some .between] }, ?_, ⟨_, { rest with }⟩, hidle, hmakes, hinterval,
    rfl⟩
  have step := Step.turn (a := a) hreaction (by simp [hnext])
  have hnews : (Evasion.jumping v.guard.pause w).news? v.guard v.usage.queue v.usage.now =
      some (.returned (.error e)) := by
    simp [Evasion.jumping, Evasion.news?, ChainRun.news?, hends, Turn.result?]
  rwa [hturn, hnews, hnext] at step

/-- Where jumps fail, the loop is about to begin a round again. -/
theorem Spins.round {v : Vigil} (h : Spins v) :
    ∃ tr v', Steps (.rehearsal true) v tr v' ∧ IsPrompt tr ∧ Spins v' ∧
      1 ≤ (submissionsOf 0 tr).length := by
  obtain ⟨v₁, settled, w, begins, rest, hguard, hreactions⟩ := @Spins.begins (.rehearsal true) v h
  obtain ⟨tr, v₂, works, hothers, rest₂, hguard₂, hreactions₂⟩ := rest.work
  have hg := hguard₂.trans hguard
  obtain ⟨v₃, fails, spins⟩ := @AtRest.fails (.rehearsal true) v₂ _ w settled rest₂ nofun
    (hg ▸ h.idle) (hg ▸ h.makes) (hg ▸ h.jumpInterval) (by rw [hreactions₂, hreactions, hg])
  have steps := ((Steps.refl.tail begins).trans works).tail fails
  refine ⟨_, v₃, steps, ?_, spins, ?_⟩
  · intro y hy
    simp only [List.nil_append, List.mem_append, List.mem_singleton] at hy
    rcases hy with (rfl | hy) | rfl
    · rfl
    · obtain ⟨es, hes⟩ := hothers y hy
      rw [hes]
      rfl
    · rfl
  · simp [submissionsOf, turnsOf, VigilEvent.turnOf?, Evasion.stepOf?]

theorem turnsOf_eq_nil {tr : List (Nanos × VigilEvent)} (h : ∀ x ∈ tr, ∃ es, x.2 = .others es) :
    turnsOf i tr = [] := by
  rw [turnsOf, List.filterMap_eq_nil_iff]
  intro x hx
  obtain ⟨es, hes⟩ := h x hx
  rw [hes]
  rfl

/-- An idle event makes a guard begin its first round. -/
theorem exists_run_first_round (hmakes : g.MakesRounds) :
    ∃ tr v w, Run a g .start tr v ∧ IsPrompt tr ∧ v.guard = { g with idle := true, evasions := 1 } ∧
      v.AtRest [⟨w.ticket, g.jumps.action⟩] [] ∧ v.reactions = [some (.jumping v.guard.pause w)] ∧
      roundsOf 0 tr = [⟨0, none⟩] := by
  have met := (@Steps.refl a (.start g .start)).tail (.meet ⟨"idle", .playerIdle⟩)
  obtain ⟨o, news, res, guard, queue, c', goes, begins⟩ :=
    @Step.of_stage a { start g .start with reactions := [some .fresh] } 0 .fresh rfl .fresh
      (Evasion.next_fresh (g := { g with idle := false, evasions := 0 }) rfl ▸
        Evasion.nextRound_ne_waits)
  cases goes with
  | ignore h => cases h
  | refuseFirst _ _ hclosed => cases hclosed
  | panicFirst _ hnot => exact absurd hmakes hnot
  | begin _ _ hs =>
      obtain ⟨-, -, rfl⟩ := Queue.submit_eq_some_iff.mp hs
      refine ⟨_, _, _, met.tail begins, ?_, rfl, ⟨rfl, rfl, rfl, rfl, rfl, rfl, rfl⟩, rfl, rfl⟩
      intro x hx
      have hnot := (List.all_eq_true (p := fun x => !x.2.lags)).mp rfl x hx
      exact (Bool.not_eq_true' _).mp hnot

/-- A first round without pauses, whose jumps fail at once. -/
theorem exists_run_failed_round (hg : g.jumpInterval = 0) (hmakes : g.MakesRounds) :
    ∃ tr v, Run (.rehearsal true) g .start tr v ∧ IsPrompt tr ∧ Spins v ∧
      roundsOf 0 tr = [⟨0, some (0, .error (.failed "jump" "slipped"))⟩] := by
  obtain ⟨tr, v, w, run, hprompt, hguard, rest, hreactions, hrounds⟩ :=
    @exists_run_first_round (.rehearsal true) g hmakes
  rw [IdleGuard.jumps, hg] at rest
  obtain ⟨tr₁, v₁, works, hothers, rest₁, hguard₁, hreactions₁⟩ := rest.work
  have hv := hguard₁.trans hguard
  obtain ⟨v₂, fails, spins⟩ := @AtRest.fails (.rehearsal true) v₁ _ w [] rest₁ nofun (by rw [hv])
    (by rwa [hv]) (by rwa [hv]) (by rw [hreactions₁, hreactions, hguard₁])
  refine ⟨_, v₂, (run.trans works).tail fails, ?_, spins, ?_⟩
  · intro y hy
    rcases List.mem_append.mp hy with hy | hy
    · rcases List.mem_append.mp hy with hy | hy
      · exact hprompt y hy
      · obtain ⟨es, hes⟩ := hothers y hy
        rw [hes]
        rfl
    · rw [List.mem_singleton.mp hy]
      rfl
  · have hworks : roundsOf 0 (tr ++ tr₁) = roundsOf 0 tr := by
      rw [roundsOf, turnsOf, List.filterMap_append]
      exact congrArg _ ((congrArg _ (turnsOf_eq_nil hothers)).trans (List.append_nil _))
    rw [roundsOf_append_turned, hworks, hrounds, rest₁.now_eq]
    rfl

/-- Where jumps fail at once, a loop submits any number of steps before any time has passed. -/
theorem exists_run_spinning (hg : g.jumpInterval = 0) (hmakes : g.MakesRounds) (n : ℕ) :
    ∃ tr v, Run (.rehearsal true) g .start tr v ∧ IsPrompt tr ∧ Spins v ∧
      n ≤ (submissionsOf 0 tr).length := by
  induction n with
  | zero =>
      obtain ⟨tr, v, run, hprompt, spins, -⟩ := exists_run_failed_round hg hmakes
      exact ⟨tr, v, run, hprompt, spins, Nat.zero_le _⟩
  | succ n ih =>
      obtain ⟨tr, v, run, hprompt, spins, hle⟩ := ih
      obtain ⟨tr₁, v₁, steps, hprompt₁, spins₁, hle₁⟩ := spins.round
      refine ⟨_, v₁, run.trans steps, List.forall_mem_append.mpr ⟨hprompt, hprompt₁⟩, spins₁, ?_⟩
      rw [submissionsOf_append, List.length_append]
      exact Nat.add_le_add hle hle₁

/-- Two rounds at one time. -/
theorem exists_run_two_rounds_at_once (hg : g.jumpInterval = 0) (hmakes : g.MakesRounds) :
    ∃ tr v, Run (.rehearsal true) g .start tr v ∧ IsPrompt tr ∧
      roundsOf 0 tr = [⟨0, none⟩, ⟨0, some (0, .error (.failed "jump" "slipped"))⟩] := by
  obtain ⟨tr, v, run, hprompt, spins, hrounds⟩ := exists_run_failed_round hg hmakes
  obtain ⟨v₁, settled, w, begins, -⟩ := @Spins.begins (.rehearsal true) v spins
  have hnow : v.usage.now = 0 := spins.rest.choose_spec.now_eq
  refine ⟨_, v₁, run.tail begins, ?_, ?_⟩
  · exact List.forall_mem_append.mpr ⟨hprompt, List.forall_mem_singleton.mpr rfl⟩
  · rw [roundsOf_append_turned, hrounds, hnow]
    rfl

/-- How the rounds of the loop at a place follow one another. -/
structure Pace (g : IdleGuard) (since : Nanos) (tr : List (Nanos × VigilEvent)) (v : Vigil)
    (i : ℕ) : Prop where
  /-- Each round is over where the next one begins. -/
  follows : (roundsOf i tr).IsChain fun y x => x.Over g.hold (IsPrompt tr) y.begun
  /-- Two rounds begin at one time only where the jumps of the first one fail at once. -/
  apart : 0 < g.hold →
    (roundsOf i tr).IsChain fun y x => y.begun = x.begun → x.failsAtOnce = true
  /-- Where they do and time passes promptly, the next round begins at that time. -/
  spins : IsPrompt tr →
    (roundsOf i tr).IsChain fun y x => x.failsAtOnce = true → y.begun = x.begun
  /-- The rounds whose jumps ended well, other than the latest, take their time. -/
  held : since + g.hold * (roundsOf i tr).tail.countP RoundNote.isHeld ≤ v.usage.now
  /-- A loop submits no more than the time and the rounds that fail at once allow. -/
  few : 0 < g.hold → (submissionsOf i tr).length ≤
    2 * (v.usage.now - since + 1 + (roundsOf i tr).countP RoundNote.failsAtOnce)

end Vigil

/-- Whatever happens to a guard, wherever others use its queue, the rounds of its loops are apart
unless jumps fail at once. -/
theorem rounds_apart_unless_jumps_fail {a : Actuator} {g : IdleGuard} {u : Usage} {v : Vigil}
    {tr₀ : List QueueEvent} {tr : List (Nanos × VigilEvent)} (run₀ : Usage.Run a tr₀ u)
    (run : Vigil.Run a g u tr v) (i : ℕ) : Vigil.Pace g u.now tr v i := by
  obtain ⟨⟨spaced, -⟩, -⟩ := run.keeps run₀ (Vigil.IsPrompt tr) id i
  have chain := spaced.chain
  refine ⟨chain, fun hpos => ?_, fun hprompt => ?_, spaced.hold_mul_le, fun hpos => ?_⟩
  · exact chain.imp fun y x hover heq => hover.failsAtOnce heq hpos
  · exact chain.imp fun y x hover hfails => hover.eq_begun hfails hprompt
  · have hle := Nat.le_of_add_right_le (run.length_submissions_le i)
    exact hle.trans (Nat.mul_le_mul_left 2 (spaced.length_le hpos))

/-- The jumps of the first round fail at once, so the second round begins at the same time. -/
theorem rounds_apart_unless_jumps_fail_at_once :
    ∃ tr v, Usage.Run (.rehearsal true) [] .start ∧
      Vigil.Run (.rehearsal true) ⟨0, 41, 5, false, 0⟩ .start tr v ∧
      (Vigil.roundsOf 0 tr).map RoundNote.failsAtOnce = [false, true] ∧
      Vigil.Pace ⟨0, 41, 5, false, 0⟩ 0 tr v 0 := by
  have hmakes : (⟨0, 41, 5, false, 0⟩ : IdleGuard).MakesRounds :=
    (by decide : (41 + 5) / 1000000000 < 18446744073709551616)
  obtain ⟨tr, v, run, -, hrounds⟩ :=
    @Vigil.exists_run_two_rounds_at_once ⟨0, 41, 5, false, 0⟩ rfl hmakes
  refine ⟨tr, v, .refl, run, ?_, rounds_apart_unless_jumps_fail .refl run 0⟩
  rw [hrounds]
  rfl

/-- Where jumps may fail, a loop neither keeps its rounds apart nor submits only as much as the time
allows. -/
theorem not_rounds_apart :
    (¬∀ (a : Actuator) (g : IdleGuard) (u : Usage) (tr₀ : List QueueEvent)
        (tr : List (Nanos × VigilEvent)) (v : Vigil) (i : ℕ), 0 < g.hold → Usage.Run a tr₀ u →
          Vigil.Run a g u tr v → Vigil.IsPrompt tr →
            (Vigil.roundsOf i tr).IsChain fun y x => y.begun ≠ x.begun) ∧
      ¬∀ (a : Actuator) (g : IdleGuard) (u : Usage) (tr₀ : List QueueEvent) (i : ℕ) (t : Nanos),
        0 < g.hold → Usage.Run a tr₀ u → ∃ n, ∀ (tr : List (Nanos × VigilEvent)) (v : Vigil),
          Vigil.Run a g u tr v → Vigil.IsPrompt tr → v.usage.now ≤ t →
            (Vigil.submissionsOf i tr).length ≤ n := by
  have hpos : 0 < (⟨0, 41, 5, false, 0⟩ : IdleGuard).hold := by decide
  have hmakes : (⟨0, 41, 5, false, 0⟩ : IdleGuard).MakesRounds :=
    (by decide : (41 + 5) / 1000000000 < 18446744073709551616)
  constructor
  · intro h
    obtain ⟨tr, v, run, hprompt, hrounds⟩ :=
      @Vigil.exists_run_two_rounds_at_once ⟨0, 41, 5, false, 0⟩ rfl hmakes
    have hchain := h _ _ _ [] tr v 0 hpos .refl run hprompt
    rw [hrounds] at hchain
    exact (List.isChain_cons_cons.mp hchain).1 rfl
  · intro h
    obtain ⟨n, hn⟩ := h (.rehearsal true) ⟨0, 41, 5, false, 0⟩ .start [] 0 0 hpos .refl
    obtain ⟨tr, v, run, hprompt, ⟨⟨settled, rest⟩, -⟩, hle⟩ :=
      @Vigil.exists_run_spinning ⟨0, 41, 5, false, 0⟩ rfl hmakes (n + 1)
    have hmost := hn tr v run hprompt (Nat.le_of_eq rest.now_eq)
    exact Nat.lt_irrefl n (Nat.le_trans hle hmost)

end LogWarden
