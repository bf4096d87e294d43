import LogWarden.Action.Rehearsal
import LogWarden.Proofs.IdleGuard.Vigil

/-!
# The guard obeys its flag

A loop submits jumps only where it finds the flag set. Once the player is back, a loop comes to its
end within a few turns: it submits the pause of its round at most, and waits no longer than the
limits of the steps of a round. Where no round can be made, nothing is submitted, and the reaction
that sets the flag panics.
-/

namespace LogWarden

namespace Evasion

/-- How many turns a loop takes at most while the flag is clear. -/
def movesLeft : Evasion → ℕ
  | .fresh => 0
  | .between => 1
  | .round r => 2 * r.rest.length + r.waiting.isSome.toNat + 2

/-- By when a loop that is served promptly comes to its end while the flag is clear. -/
def due (now : ℕ) : Evasion → ℕ
  | .fresh | .between => now
  | .round r =>
    max now ((r.waiting.bind TicketWait.alarm?).getD now) + r.rest.foldr (·.limit + ·) 0

variable {g g' : IdleGuard} {q queue : Queue} {now d : ℕ} {c : Evasion} {o : Opening}
variable {news : Option StepNews} {res : Option Verdict} {c' : Option Evasion}
variable {c₁ : Evasion} {pause : Step}

theorem le_due : now ≤ c.due now := by
  cases c with
  | fresh | between => exact Nat.le_refl _
  | round r => exact Nat.le_trans (Nat.le_max_left ..) (Nat.le_add_right ..)

theorem due_add_le : c.due (now + d) ≤ c.due now + d := by
  cases c with
  | fresh | between => exact Nat.le_refl _
  | round r =>
      simp only [due]
      cases r.waiting.bind TicketWait.alarm? <;> simp only [Option.getD] <;> omega

/-- While a loop waits for its step, time passes up to the limit of the step. -/
theorem due_add_eq (hstage : c.IsStage g.pause) (hwaits : (c.next g q now).2.2.1 = .waits)
    (halarms : ∀ t : ℕ, t ∈ c.alarms → now + d ≤ t) : c.due (now + d) = c.due now := by
  obtain ⟨w, hc, hlimit, -⟩ := hstage.of_waits hwaits
  obtain ⟨⟨deadline, limit⟩, hlimit⟩ := Option.isSome_iff_exists.mp hlimit
  have halarm : w.alarm? = some deadline := by rw [TicketWait.alarm?, hlimit, Option.map_some]
  have hle : now + d ≤ deadline := by
    apply halarms
    rcases hc with rfl | rfl <;> simp [alarms, jumping, pausing, ChainRun.alarms, halarm]
  have hmax : max (now + d) deadline = max now deadline := by omega
  rcases hc with rfl | rfl <;>
    simp only [due, jumping, pausing, Option.bind_some, halarm, Option.getD_some, hmax]

section Stages
variable (pause : Step) (w : TicketWait)

@[simp] theorem movesLeft_fresh : fresh.movesLeft = 0 := rfl

@[simp] theorem movesLeft_between : between.movesLeft = 1 := rfl

@[simp] theorem movesLeft_jumping : (jumping pause w).movesLeft = 5 := rfl

@[simp] theorem movesLeft_jumped : (jumped pause).movesLeft = 4 := rfl

@[simp] theorem movesLeft_pausing : (pausing w).movesLeft = 3 := rfl

@[simp] theorem movesLeft_paused : paused.movesLeft = 2 := rfl

theorem due_jumping :
    (jumping pause w).due now = max now (w.alarm?.getD now) + pause.limit := rfl

theorem due_jumped : (jumped pause).due now = now + pause.limit :=
  congrArg (· + pause.limit) (Nat.max_self now)

theorem due_pausing : (pausing w).due now = max now (w.alarm?.getD now) := rfl

theorem due_paused : paused.due now = now := Nat.max_self now

theorem due_waitFor (s : Step) (q : Queue) :
    max now ((waitFor s q now).alarm?.getD now) = now + s.limit :=
  Nat.max_eq_right (Nat.le_add_right ..)

end Stages

theorem IsStage.movesLeft_le (h : c.IsStage pause) : c.movesLeft ≤ 5 := by
  cases h <;> simp

theorem IsStage.pausesLeft_le (h : c.IsStage pause) : c.pausesLeft ≤ 1 := by
  cases h <;> simp

/-- What a turn does to a loop while the flag is clear. -/
structure Winds (g : IdleGuard) (now : Nanos) (c : Evasion) (news : Option StepNews)
    (g' : IdleGuard) (c' : Option Evasion) : Prop where
  idle : g'.idle = false
  moves : c'.elim 0 movesLeft < c.movesLeft
  pauses : (stepOf? news).toList.length + c'.elim 0 pausesLeft ≤ c.pausesLeft
  steps : ∀ s ∈ stepOf? news, s = g.pause
  due : ∀ x ∈ c', x.due now ≤ c.due now

theorem Goes.winds (goes : Goes g q now c o news res g' queue c') (hidle : g.idle = false)
    (ho : ∀ b, o ≠ .idled b) : Winds g now c news g' c' := by
  cases goes with
  | ignore | begin | refuseFirst | panicFirst => exact absurd rfl (ho _)
  | again h | refuse h | panic h => cases hidle.symm.trans h
  | stop => exact ⟨hidle, Nat.zero_lt_one, Nat.le_refl _, nofun, nofun⟩
  | jumped =>
      refine ⟨hidle, by simp, by simp [stepOf?], nofun, ?_⟩
      rintro _ ⟨⟩
      rw [due_jumped, due_jumping]
      exact Nat.add_le_add_right (Nat.le_max_left ..) _
  | pause =>
      refine ⟨hidle, by simp, by simp [stepOf?], ?_, ?_⟩
      · rintro _ ⟨⟩
        rfl
      · rintro _ ⟨⟩
        exact Nat.le_of_eq (by rw [due_jumped, due_pausing, due_waitFor])
  | refusePause => exact ⟨rfl, by simp, by simp [stepOf?], nofun, nofun⟩
  | paused =>
      refine ⟨hidle, by simp, by simp [stepOf?], nofun, ?_⟩
      rintro _ ⟨⟩
      rw [due_paused]
      exact le_due
  | finish =>
      refine ⟨hidle, by simp, by simp [stepOf?], nofun, ?_⟩
      rintro _ ⟨⟩
      exact le_due
  | fail =>
      refine ⟨hidle, by simp [movesLeft], by simp [stepOf?], nofun, ?_⟩
      rintro _ ⟨⟩
      exact le_due
  | closed => exact ⟨rfl, by simp [movesLeft], by simp [stepOf?], nofun, nofun⟩

/-- The idle periods that are counted are the events that were taken up with the flag clear. -/
theorem Goes.evasions_eq (goes : Goes g q now c o news res g' queue c') :
    g'.evasions = g.evasions + (o == .idled false).toNat := by
  cases goes <;> rfl

theorem Goes.due_le (goes : Goes g q now c o news res g' queue (some c₁)) :
    c₁.due now ≤ now + g.jumps.limit + g.pause.limit := by
  have hle : now ≤ now + g.jumps.limit + g.pause.limit := by
    rw [Nat.add_assoc]
    exact Nat.le_add_right ..
  cases goes with
  | begin | again => exact Nat.le_of_eq (by rw [due_jumping, due_waitFor])
  | jumped =>
      rw [due_jumped]
      exact Nat.add_le_add_right (Nat.le_add_right ..) _
  | pause =>
      rw [due_pausing, due_waitFor]
      exact Nat.add_le_add_right (Nat.le_add_right ..) _
  | paused => exact due_paused.symm ▸ hle
  | finish | fail => exact hle

/-- What submits jumps has found the flag set, or has set it. -/
theorem Goes.idle_of_submitted {s : Step} {ticket : ℕ}
    (goes : Goes g q now c o (some (.submitted s ticket)) res g' queue c') :
    s = g.jumps ∧ g'.idle = true ∧ (o = .idled false ∨ o = .looked true) ∨
      s = g.pause ∧ o = .wentOn := by
  cases goes with
  | begin => exact .inl ⟨rfl, rfl, .inl rfl⟩
  | again hidle => exact .inl ⟨rfl, hidle, .inr rfl⟩
  | pause => exact .inr ⟨rfl, rfl⟩

/-- Who would begin a round submits the jumps or meets a closed queue, unless no round can be made.
-/
theorem Goes.returned_of_opening (goes : Goes g q now c o news res g' queue c')
    (hmakes : g.MakesRounds) (hnot : ∀ s ticket, news ≠ some (.submitted s ticket))
    (ho : o = .idled false ∨ o = .looked true) :
    news = some (.returned (.error .queueClosed)) := by
  cases goes with
  | refuseFirst | refuse | refusePause | closed => rfl
  | panicFirst _ hpanics | panic _ hpanics => exact absurd hmakes hpanics
  | begin | again | pause => exact absurd rfl (hnot _ _)
  | ignore | stop | jumped | paused | finish | fail => simp at ho

/-- Where no round can be made, who would begin one panics, with the flag set. -/
theorem Goes.panicked_of_opening (goes : Goes g q now c o news res g' queue c')
    (hmakes : ¬g.MakesRounds) (ho : o = .idled false ∨ o = .looked true) :
    news = none ∧ res = some .panicked ∧ g'.idle = true ∧ queue = q ∧ c' = none := by
  cases goes with
  | panicFirst => exact ⟨rfl, rfl, rfl, rfl, rfl⟩
  | panic hidle => exact ⟨rfl, rfl, hidle, rfl, rfl⟩
  | begin _ h | refuseFirst _ h | again _ h | refuse _ h => exact absurd h hmakes
  | ignore | stop | jumped | pause | refusePause | paused | finish | fail | closed => simp at ho

theorem Goes.of_closed
    (goes : Goes g q now c o (some (.returned (.error .queueClosed))) res g' queue c') :
    res = some (.failed (.action .queueClosed)) ∧ g'.idle = false ∧ c' = none := by
  cases goes with
  | refuseFirst | refuse | refusePause | closed => exact ⟨rfl, rfl, rfl⟩
  | fail _ he => exact absurd rfl he

theorem Goes.of_returned {r : Verdict}
    (goes : Goes g q now c o news (some r) g' queue c') :
    c' = none ∧ (r = .ok ∧ news = none ∧ (o = .looked false ∨ o = .idled true) ∨
      r = .failed (.action .queueClosed) ∧ news = some (.returned (.error .queueClosed)) ∨
      r = .panicked ∧ ¬g.MakesRounds ∧ (o = .idled false ∨ o = .looked true)) := by
  cases goes with
  | ignore => exact ⟨rfl, .inl ⟨rfl, rfl, .inr rfl⟩⟩
  | stop => exact ⟨rfl, .inl ⟨rfl, rfl, .inl rfl⟩⟩
  | refuseFirst | refuse | refusePause | closed => exact ⟨rfl, .inr (.inl ⟨rfl, rfl⟩)⟩
  | panicFirst _ hmakes => exact ⟨rfl, .inr (.inr ⟨rfl, hmakes, .inl rfl⟩)⟩
  | panic _ hmakes => exact ⟨rfl, .inr (.inr ⟨rfl, hmakes, .inr rfl⟩)⟩

theorem Goes.ne_fresh (goes : Goes g q now c o news res g' queue c') (ho : ∀ b, o ≠ .idled b) :
    c ≠ .fresh := by
  rintro rfl
  cases goes <;> exact absurd rfl (ho _)

end Evasion

namespace VigilEvent

/-- Whether a reaction took up an idle event. -/
def takes : VigilEvent → Bool
  | .turned _ (.idled _) _ _ => true
  | _ => false

/-- Whether a reaction took up an idle event while the flag was clear. -/
def begins : VigilEvent → Bool
  | .turned _ o _ _ => o == .idled false
  | _ => false

end VigilEvent

namespace Vigil

variable {a : Actuator} {g : IdleGuard} {u : Usage} {v v' v₁ : Vigil} {e : VigilEvent}
variable {tr : List (Nanos × VigilEvent)} {i : ℕ} {c : Evasion}

/-- No reaction took up an idle event. -/
def NoneTaken (tr : List (Nanos × VigilEvent)) : Prop := ∀ x ∈ tr, x.2.takes = false

/-- What became of the loop at a place while the flag was clear. -/
structure Winding (g : IdleGuard) (i : ℕ) (v : Vigil) (tr : List (Nanos × VigilEvent))
    (v' : Vigil) : Prop where
  idle : v'.guard.idle = false
  moves : (turnsOf i tr).length + (v'.reaction? i).elim 0 Evasion.movesLeft ≤
    (v.reaction? i).elim 0 Evasion.movesLeft
  pauses : (submissionsOf i tr).length + (v'.reaction? i).elim 0 Evasion.pausesLeft ≤
    (v.reaction? i).elim 0 Evasion.pausesLeft
  steps : ∀ s ∈ submissionsOf i tr, s = g.pause
  due : IsPrompt tr → ∀ c', v'.reaction? i = some c' → c' ≠ .fresh →
    ∃ c, v.reaction? i = some c ∧ c'.due v'.usage.now ≤ c.due v.usage.now

/-- While the flag is clear and no idle event is taken up, the flag stays clear. -/
theorem Change.idle_eq (change : Change a v e v') (hidle : v.guard.idle = false)
    (hnone : e.takes = false) : v'.guard.idle = false := by
  cases change with
  | resume => rfl
  | turn _ goes => exact (goes.winds hidle (by rintro b rfl; cases hnone)).idle
  | _ => exact hidle

theorem Change.due_le (change : Change a v e v') (fits : Fits g v) (hidle : v.guard.idle = false)
    (hnone : e.takes = false) (hprompt : e.lags = false) {c' : Evasion}
    (hc' : v'.reaction? i = some c') (hloop : c' ≠ .fresh) :
    ∃ c, v.reaction? i = some c ∧ c ≠ .fresh ∧ c'.due v'.usage.now ≤ c.due v.usage.now := by
  have hnow := change.now_eq
  cases change.place i with
  | same h =>
      have hc : v.reaction? i = some c' := h ▸ hc'
      refine ⟨c', hc, hloop, ?_⟩
      rcases hnow with hnow | ⟨d, rfl, rfl | ⟨rfl, hserved⟩⟩
      · exact Nat.le_of_eq (congrArg c'.due hnow)
      · cases hprompt
      · obtain ⟨hwaits, halarms⟩ := hserved i c' hc
        have hstage := fits.stages i c' hc
        rw [← fits.pause_eq] at hstage
        exact Nat.le_of_eq (Evasion.due_add_eq hstage hwaits halarms)
  | opened _ h => exact absurd (Option.some.inj (hc'.symm.trans h)) hloop
  | dropped h => cases hc'.symm.trans h
  | @turned o news res c h goes =>
      have ho : ∀ b, o ≠ .idled b := by
        rintro b rfl
        cases hnone
      refine ⟨c, h, goes.ne_fresh ho, ?_⟩
      rcases hnow with hnow | ⟨d, -, hlag | ⟨hpass, -⟩⟩
      · rw [hnow]
        exact (goes.winds hidle ho).due c' hc'
      · cases hlag
      · cases hpass

theorem Winding.step (h : Winding g i v tr v₁) (change : Change a v₁ e v') (fits : Fits g v₁)
    (hnone : e.takes = false) : Winding g i v (tr ++ [(v₁.usage.now, e)]) v' := by
  have hdue : IsPrompt (tr ++ [(v₁.usage.now, e)]) → ∀ c', v'.reaction? i = some c' →
      c' ≠ .fresh → ∃ c, v.reaction? i = some c ∧ c'.due v'.usage.now ≤ c.due v.usage.now := by
    intro hprompt c' hc' hloop
    have hlag : e.lags = false := hprompt (v₁.usage.now, e) (by simp)
    obtain ⟨c₁, hc₁, hloop₁, hle₁⟩ := change.due_le fits h.idle hnone hlag hc' hloop
    obtain ⟨c, hc, hle⟩ := h.due (fun x hx => hprompt x (by simp [hx])) c₁ hc₁ hloop₁
    exact ⟨c, hc, Nat.le_trans hle₁ hle⟩
  -- what is left does not become more where the reaction takes no turn
  have unturned (he : e.turnOf? i = none)
      (hmoves : (v'.reaction? i).elim 0 Evasion.movesLeft ≤
        (v₁.reaction? i).elim 0 Evasion.movesLeft)
      (hpauses : (v'.reaction? i).elim 0 Evasion.pausesLeft ≤
        (v₁.reaction? i).elim 0 Evasion.pausesLeft) :
      Winding g i v (tr ++ [(v₁.usage.now, e)]) v' := by
    have hturns : turnsOf i (tr ++ [(v₁.usage.now, e)]) = turnsOf i tr := by simp [he]
    have hsubs : submissionsOf i (tr ++ [(v₁.usage.now, e)]) = submissionsOf i tr := by
      simp [submissionsOf_append_singleton, he]
    refine ⟨change.idle_eq h.idle hnone, ?_, ?_, hsubs ▸ h.steps, hdue⟩
    · exact hturns ▸ Nat.le_trans (Nat.add_le_add_left hmoves _) h.moves
    · exact hsubs ▸ Nat.le_trans (Nat.add_le_add_left hpauses _) h.pauses
  cases change.place i with
  | same hsame he =>
      exact unturned he (Nat.le_of_eq (by rw [hsame])) (Nat.le_of_eq (by rw [hsame]))
  | opened hi hfresh he =>
      exact unturned he (by simp [hfresh]) (by simp [hfresh])
  | dropped hend he => exact unturned he (by simp [hend]) (by simp [hend])
  | @turned o news res c hc goes =>
      have ho : ∀ b, o ≠ .idled b := by
        rintro b rfl
        cases hnone
      obtain ⟨hidle, hmoves, hpauses, hsteps, -⟩ := goes.winds h.idle ho
      have hmoves₁ := h.moves
      have hpauses₁ := h.pauses
      rw [hc] at hmoves₁ hpauses₁
      refine ⟨hidle, ?_, ?_, ?_, hdue⟩
      · simp only [turnsOf_append_singleton, VigilEvent.turnOf?, if_true, Option.map_some,
          Option.toList_some, List.length_append, List.length_singleton]
        simp only [Option.elim_some] at hmoves₁
        omega
      · simp only [submissionsOf_append_singleton, VigilEvent.turnOf?, if_true, Option.bind_some,
          List.length_append]
        simp only [Option.elim_some] at hpauses₁
        omega
      · intro s hs
        simp only [submissionsOf_append_singleton, VigilEvent.turnOf?, if_true, Option.bind_some,
          List.mem_append, Option.mem_toList] at hs
        rcases hs with hs | hs
        · exact h.steps s hs
        · exact (hsteps s hs).trans fits.pause_eq

theorem Steps.winding {tr : List (Nanos × VigilEvent)} (steps : Steps a v tr v')
    (fits : Fits g v) (hidle : v.guard.idle = false) (hnone : NoneTaken tr) (i : ℕ) :
    Winding g i v tr v' := by
  induction steps with
  | refl =>
      refine ⟨hidle, ?_, ?_, nofun, fun _ c hc _ => ⟨c, hc, Nat.le_refl _⟩⟩
      · simp [turnsOf]
      · simp [submissionsOf, turnsOf]
  | @tail tr v₁ e v₂ first step ih =>
      have winding := ih fun x hx => hnone x (List.mem_append_left _ hx)
      have fits₁ := first.fits fits
      exact winding.step (step.change fits₁) fits₁ (hnone (v₁.usage.now, e) (by simp))

/-- In all runs, what is left of a round takes no longer than the limits of its steps. -/
theorem Run.due_le (run : Run a g u tr v) :
    ∀ i c, v.reaction? i = some c →
      c.due v.usage.now ≤ v.usage.now + g.jumps.limit + g.pause.limit := by
  induction run with
  | refl => simp [start, reaction?]
  | @tail tr v e v' run step ih =>
      have fits := Run.fits run
      have change := step.change fits
      intro i c hc
      cases change.place i with
      | same h =>
          have hle := ih i c (h ▸ hc)
          rcases change.now_eq with hnow | ⟨d, rfl, -⟩
          · rw [hnow]
            exact hle
          · have hadd := @Evasion.due_add_le v.usage.now d c
            simp only [later]
            omega
      | opened _ h =>
          obtain rfl := Option.some.inj (hc.symm.trans h)
          rw [Nat.add_assoc]
          exact Nat.le_add_right ..
      | dropped h => cases hc.symm.trans h
      | turned h goes =>
          rw [hc] at goes
          have hle := goes.due_le
          rw [fits.jumps_eq, fits.pause_eq] at hle
          rcases change.now_eq with hnow | ⟨d, -, hlag | ⟨hpass, -⟩⟩
          · rw [hnow]
            exact hle
          · cases hlag
          · cases hpass

theorem Run.evasions_eq (run : Run a g u tr v) :
    v.guard.evasions = tr.countP (·.2.begins) := by
  induction run with
  | refl => rfl
  | @tail tr v e v' run step ih =>
      have hstep : v'.guard.evasions = v.guard.evasions + e.begins.toNat := by
        cases step.change (Run.fits run) with
        | turn _ goes => exact goes.evasions_eq
        | _ => rfl
      rw [hstep, ih, List.countP_append, List.countP_singleton]
      cases e.begins <;> rfl

/-- What a loop still does once the player is back. -/
structure LastRound (g : IdleGuard) (i : ℕ) (v : Vigil) (tr : List (Nanos × VigilEvent))
    (v' : Vigil) : Prop where
  /-- It submits the pause of its round at most. -/
  submits : submissionsOf i tr = [] ∨ submissionsOf i tr = [g.pause]
  /-- It ends within so many turns that are not spent waiting. -/
  few_turns : (turnsOf i tr).length ≤ 5
  /-- It has to wait only for a step without a result, within its limit. -/
  waits : ∀ c, v'.reaction? i = some c →
    (c.next v'.guard v'.usage.queue v'.usage.now).2.2.1 = .waits →
      ∃ w deadline, (c = .jumping g.pause w ∨ c = .pausing w) ∧ w.alarm? = some deadline ∧
        v'.usage.queue.result? w.ticket = none ∧ v'.usage.now < deadline
  /-- Where time passes promptly, it ends within the limits of the steps of a round. -/
  on_time : IsPrompt tr → ∀ c, v'.reaction? i = some c → c ≠ .fresh →
    v'.usage.now ≤ v.usage.now + g.jumps.limit + g.pause.limit

/-- How a guard obeys its flag from where it stands. -/
structure Obeys (a : Actuator) (g : IdleGuard) (tr : List (Nanos × VigilEvent)) (v : Vigil) :
    Prop where
  /-- Jumps are submitted only while the flag is set. -/
  jumps : ∀ i o s ticket res v', Step a v (.turned i o (some (.submitted s ticket)) res) v' →
    s = g.jumps ∧ v'.guard.idle = true ∧ (o = .idled false ∨ o = .looked true) ∨
      s = g.pause ∧ o = .wentOn
  /-- Once the player is back and no further idle event is taken up, each loop comes to its end. -/
  resumed : ∀ e v₁ tr₂ v₂, e.payload = .playerResume → Step a v (.met e) v₁ →
    Steps a v₁ tr₂ v₂ → NoneTaken tr₂ →
      v₂.guard.idle = false ∧ ∀ i, LastRound g i v₁ tr₂ v₂
  /-- The idle periods are the idle events that were taken up while the flag was clear. -/
  evasions : v.guard.evasions = tr.countP (·.2.begins)
  /-- A closed queue takes no step, and who would begin a round meets it if a round can be made. -/
  refused : v.usage.queue.isClosed = true → ∀ i o news res v',
    Step a v (.turned i o news res) v' → (∀ s ticket, news ≠ some (.submitted s ticket)) ∧
      (g.MakesRounds → o = .idled false ∨ o = .looked true →
        news = some (.returned (.error .queueClosed)))
  /-- A loop that meets a closed queue clears the flag and returns that it is closed. -/
  closed : ∀ i o res v',
    Step a v (.turned i o (some (.returned (.error .queueClosed))) res) v' →
      res = some (.failed (.action .queueClosed)) ∧ v'.guard.idle = false ∧ v'.reaction? i = none
  /-- Where no round can be made, who would begin one panics before it has met the queue, and leaves
  the flag set. -/
  panics : ¬g.MakesRounds → ∀ i o news res v', Step a v (.turned i o news res) v' →
    o = .idled false ∨ o = .looked true →
      news = none ∧ res = some .panicked ∧ v'.guard.idle = true ∧
        v'.usage.queue = v.usage.queue ∧ v'.reaction? i = none
  /-- A reaction returns for these reasons, or all is well: it finds the flag clear between two
  rounds, or set when it takes up its event. -/
  returns : ∀ i o news r v', Step a v (.turned i o news (some r)) v' → v'.reaction? i = none ∧
    (r = .ok ∧ news = none ∧ (o = .looked false ∨ o = .idled true) ∨
      r = .failed (.action .queueClosed) ∧ news = some (.returned (.error .queueClosed)) ∨
      r = .panicked ∧ ¬g.MakesRounds ∧ (o = .idled false ∨ o = .looked true))

theorem Steps.lastRound (run : Run a g u tr v) {tr₂ : List (Nanos × VigilEvent)}
    (steps : Steps a v tr₂ v') (hidle : v.guard.idle = false) (hnone : NoneTaken tr₂) (i : ℕ) :
    LastRound g i v tr₂ v' := by
  have fits := Run.fits run
  have winding := steps.winding fits hidle hnone i
  have fits' := steps.fits fits
  refine ⟨?_, ?_, ?_, ?_⟩
  · have hle : (submissionsOf i tr₂).length ≤ 1 := by
      refine Nat.le_trans (Nat.le_of_add_right_le winding.pauses) ?_
      cases hc : v.reaction? i with
      | none => exact Nat.zero_le _
      | some c => exact (fits.stages i c hc).pausesLeft_le
    rcases hs : submissionsOf i tr₂ with _ | ⟨s, _ | ⟨s', rest⟩⟩
    · exact .inl rfl
    · obtain rfl := winding.steps s (by simp [hs])
      exact .inr rfl
    · simp [hs] at hle
  · refine Nat.le_trans (Nat.le_of_add_right_le winding.moves) ?_
    cases hc : v.reaction? i with
    | none => exact Nat.zero_le _
    | some c => exact (fits.stages i c hc).movesLeft_le
  · intro c hc hwaits
    have hstage := fits'.stages i c hc
    rw [← fits'.pause_eq] at hstage
    obtain ⟨w, hcase, hlimit, hnext⟩ := hstage.of_waits hwaits
    obtain ⟨hresult, hbefore⟩ := TicketWait.next_eq_waits hnext
    obtain ⟨⟨deadline, limit⟩, hlimit⟩ := Option.isSome_iff_exists.mp hlimit
    have halarm : w.alarm? = some deadline := by rw [TicketWait.alarm?, hlimit, Option.map_some]
    rw [fits'.pause_eq] at hcase
    exact ⟨w, deadline, hcase, halarm, hresult, hbefore deadline halarm⟩
  · intro hprompt c hc hloop
    obtain ⟨c₀, hc₀, hle⟩ := winding.due hprompt c hc hloop
    exact Nat.le_trans Evasion.le_due (Nat.le_trans hle (Run.due_le run i c₀ hc₀))

end Vigil

/-- Whatever happens to a guard that has not seen any event before, wherever others use its queue, it
obeys its flag. -/
theorem guard_obeys_flag {a : Actuator} {g : IdleGuard} {u : Usage}
    {tr : List (Nanos × VigilEvent)} {v : Vigil} (run : Vigil.Run a g u tr v) :
    Vigil.Obeys a g tr v := by
  have fits := Vigil.Run.fits run
  have turned : ∀ {i o news res v'}, Vigil.Step a v (.turned i o news res) v' →
      ∃ c : Evasion, c.Goes v.guard v.usage.queue v.usage.now o news res v'.guard v'.usage.queue
        (v'.reaction? i) := by
    intro i o news res v' step
    obtain ⟨c, -, goes⟩ := (step.change fits).exists_goes
    exact ⟨c, goes⟩
  exact {
    jumps := by
      intro i o s ticket res v' step
      obtain ⟨c, goes⟩ := turned step
      have hsubmitted := goes.idle_of_submitted
      rwa [fits.jumps_eq, fits.pause_eq] at hsubmitted
    resumed := by
      intro e v₁ tr₂ v₂ he step steps hnone
      have run₁ : Vigil.Run a g u (tr ++ [(v.usage.now, .met e)]) v₁ := run.tail step
      have hidle : v₁.guard.idle = false := by
        cases step.change fits with
        | take h => cases h.symm.trans he
        | resume => rfl
        | ignore h => exact absurd he h
      have winding := steps.winding (Vigil.Run.fits run₁) hidle hnone
      exact ⟨(winding 0).idle, Vigil.Steps.lastRound run₁ steps hidle hnone⟩
    evasions := Vigil.Run.evasions_eq run
    refused := by
      intro hclosed i o news res v' step
      obtain ⟨c, goes⟩ := turned step
      rcases goes.submits with ⟨s', -, hs⟩ | ⟨hnot, -⟩
      · cases (Queue.submit_eq_none_iff.mpr hclosed).symm.trans hs
      · exact ⟨hnot, fun hmakes => goes.returned_of_opening (fits.makesRounds_iff.mpr hmakes) hnot⟩
    closed := by
      intro i o res v' step
      obtain ⟨c, goes⟩ := turned step
      exact goes.of_closed
    panics := by
      intro hmakes i o news res v' step
      obtain ⟨c, goes⟩ := turned step
      exact goes.panicked_of_opening (mt fits.makesRounds_iff.mp hmakes)
    returns := by
      intro i o news r v' step
      obtain ⟨c, goes⟩ := turned step
      rw [← fits.makesRounds_iff]
      exact goes.of_returned }

/-- A player who comes back when the jumps of a round have ended: the pause follows, and the loop
comes to its end behind it. A guard whose steps have the longest limit panics and leaves the flag
set. -/
theorem guard_obeys_flag_of_resume :
    (∃ tr v v₁ tr₂ v₂, Vigil.Run (.rehearsal false) ⟨0, 2, 5, false, 0⟩ .start tr v ∧
      Vigil.Step (.rehearsal false) v (.met ⟨"idle-resume", .playerResume⟩) v₁ ∧
      Vigil.Steps (.rehearsal false) v₁ tr₂ v₂ ∧
      Vigil.submissionsOf 0 tr₂ = [⟨.hold 2, 7⟩] ∧ v₂.reaction? 0 = none ∧ v₂.usage.now = 2 ∧
      Vigil.Obeys (.rehearsal false) ⟨0, 2, 5, false, 0⟩ tr v ∧
      Vigil.LastRound ⟨0, 2, 5, false, 0⟩ 0 v₁ tr₂ v₂) ∧
    ∃ tr v, Vigil.Run (.rehearsal false) ⟨0, 1, 18446744073709551615999999999, false, 0⟩ .start
        tr v ∧
      (0, .turned 0 (.idled false) none (some .panicked)) ∈ tr ∧ v.guard.idle = true ∧
      v.guard.evasions = 1 ∧ v.reaction? 0 = none ∧
      Vigil.Obeys (.rehearsal false) ⟨0, 1, 18446744073709551615999999999, false, 0⟩ tr v := by
  have broken := ((@Vigil.Steps.refl (.rehearsal false)
    (.start ⟨0, 1, 18446744073709551615999999999, false, 0⟩ .start)).tail
    (.meet ⟨"idle", .playerIdle⟩)).tail (@Vigil.Step.turn _ _ 0 _ rfl nofun)
  refine ⟨?_, _, _, broken, List.mem_append_right _ (List.mem_singleton.mpr rfl), rfl, rfl, rfl,
    guard_obeys_flag broken⟩
  have first := (@Vigil.Steps.refl (.rehearsal false)
    (.start ⟨0, 2, 5, false, 0⟩ .start)).tail (.meet ⟨"idle", .playerIdle⟩)
  have begun := (first.tail (@Vigil.Step.turn _ _ 0 _ rfl nofun)).tail (.others (.worker rfl) rfl)
  have acted := ((begun.tail (.others (@Usage.Step.act _ _ 0 _ _ rfl) rfl)).tail
    (.others (@Usage.Step.act _ _ 0 _ _ rfl) rfl)).tail
    (.others (@Usage.Step.act _ _ 0 _ _ rfl) rfl)
  have ended := ((acted.tail (.others (@Usage.Step.act _ _ 0 _ _ rfl) rfl)).tail
    (.others (.worker rfl) rfl)).tail (.others (.worker rfl) rfl)
  have back := ended.tail (.meet ⟨"idle-resume", .playerResume⟩)
  have here {v tr v'} (_ : Vigil.Steps (.rehearsal false) v tr v') :
      Vigil.Steps (.rehearsal false) v' [] v' := .refl
  have pausing := (((here back).tail (@Vigil.Step.turn _ _ 0 _ rfl nofun)).tail
    (@Vigil.Step.turn _ _ 0 _ rfl nofun)).tail (.others (.worker rfl) rfl)
  have held := (pausing.tail (.others (@Usage.Step.act _ _ 0 _ _ rfl) rfl)).tail (.lag 2)
  have rested := ((held.tail (.others (@Usage.Step.act _ _ 0 _ _ rfl) rfl)).tail
    (.others (.worker rfl) rfl)).tail (.others (.worker rfl) rfl)
  have stopped := ((rested.tail (@Vigil.Step.turn _ _ 0 _ rfl nofun)).tail
    (@Vigil.Step.turn _ _ 0 _ rfl nofun)).tail (@Vigil.Step.turn _ _ 0 _ rfl nofun)
  have hobeys := guard_obeys_flag ended
  refine ⟨_, _, _, _, _, ended, .meet _, stopped, rfl, rfl, rfl, hobeys, ?_⟩
  refine (hobeys.resumed _ _ _ _ rfl (.meet _) stopped ?_).2 0
  intro x hx
  have hnot := (List.all_eq_true (p := fun x => !x.2.takes)).mp rfl x hx
  exact (Bool.not_eq_true' _).mp hnot

end LogWarden
