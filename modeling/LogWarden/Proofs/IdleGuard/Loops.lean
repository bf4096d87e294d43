import LogWarden.Proofs.IdleGuard.Watch
import Mathlib.Data.List.Induction
import Mathlib.Data.List.Perm.Basic

/-!
# When a second evasion loop begins

The flag of the guard tells whether it takes the player for idle, not whether a loop is still under
way. An event that the player is back clears it at once, while the loop goes on with its round; an
idle event that comes before the loop has ended then begins another one. A history tells of the flag
and of the number of loops, so it tells as well whether there has ever been more than one.
-/

namespace LogWarden

/-- What a history tells of a guard. -/
structure GuardTally where
  idle : Bool
  loops : Nat
  /-- Whether the player has come back since the flag was last set. -/
  resumed : Bool

namespace GuardTally

def start : GuardTally := ⟨false, 0, false⟩

/-- What is told after one more event. -/
def note (t : GuardTally) : GuardEvent → GuardTally
  | .idled isOpen => if t.idle || !isOpen then t else ⟨true, t.loops + 1, false⟩
  | .resumed => { t with idle := false, resumed := true }
  | .panicked => { t with idle := true, resumed := false }
  | .ended => { t with idle := false, loops := t.loops - 1 }
  | .dropped => { t with loops := t.loops - 1 }

/-- What is told after a step. -/
def after (t : GuardTally) (e : Option GuardEvent) : GuardTally := e.elim t t.note

@[simp] theorem after_none (t : GuardTally) : t.after none = t := rfl

@[simp] theorem after_some (t : GuardTally) (x : GuardEvent) : t.after (some x) = t.note x := rfl

/-- What a history tells while there has never been more than one loop. -/
structure Single (t : GuardTally) : Prop where
  loops_le : t.loops ≤ 1
  /-- The flag of a loop is cleared only when the player comes back. -/
  idle_of_loop : 0 < t.loops → t.resumed = false → t.idle = true

end GuardTally

/-- What a history tells of a guard that has not seen any event before. -/
def tally (tr : List GuardEvent) : GuardTally := tr.foldl GuardTally.note .start

@[simp] theorem tally_nil : tally [] = .start := rfl

@[simp] theorem tally_append_singleton (tr : List GuardEvent) (x : GuardEvent) :
    tally (tr ++ [x]) = (tally tr).note x := by
  simp [tally]

theorem tally_append_toList (tr : List GuardEvent) (e : Option GuardEvent) :
    tally (tr ++ e.toList) = (tally tr).after e := by
  cases e <;> simp

/-- The flag is clear as long as no loop has begun since the player came back. -/
theorem idle_of_resumed (tr : List GuardEvent) (h : (tally tr).resumed = true) :
    (tally tr).idle = false := by
  induction tr using List.reverseRecOn with
  | nil => rfl
  | append_singleton tr x ih =>
      rw [tally_append_singleton] at h ⊢
      cases x with
      | idled isOpen =>
          cases hf : ((tally tr).idle || !isOpen) with
          | true =>
              simp only [GuardTally.note, hf, if_true] at h ⊢
              exact ih h
          | false => simp [GuardTally.note, hf] at h
      | resumed | ended => rfl
      | panicked => cases h
      | dropped => exact ih h

/-- There has never been more than one loop if no idle event has met a loop whose flag was clear. -/
theorem tally_single (tr : List GuardEvent)
    (h : ∀ tr₁ tr₂, tr = tr₁ ++ .idled true :: tr₂ →
      ¬(0 < (tally tr₁).loops ∧ (tally tr₁).resumed = true)) : (tally tr).Single := by
  induction tr using List.reverseRecOn with
  | nil => exact ⟨Nat.zero_le _, fun hpos => absurd hpos (Nat.lt_irrefl _)⟩
  | append_singleton tr x ih =>
      have hsingle := ih fun tr₁ tr₂ htr => h tr₁ (tr₂ ++ [x]) (by simp [htr])
      obtain ⟨hle, hidle⟩ := hsingle
      rw [tally_append_singleton]
      cases x with
      | idled isOpen =>
          cases hf : ((tally tr).idle || !isOpen) with
          | true => simpa [GuardTally.note, hf] using ⟨hle, hidle⟩
          | false =>
              obtain ⟨hclear, rfl⟩ : (tally tr).idle = false ∧ isOpen = true := by
                simpa using hf
              -- a loop whose flag is clear has seen the player come back, and was not met
              have hnone : (tally tr).loops = 0 := by
                by_contra hne
                have hpos : 0 < (tally tr).loops := Nat.pos_of_ne_zero hne
                have hnot := h tr [] rfl
                cases hr : (tally tr).resumed with
                | true => exact hnot ⟨hpos, hr⟩
                | false =>
                    have htaken := hidle hpos hr
                    simp [hclear] at htaken
              simp only [GuardTally.note, hf, Bool.false_eq_true, if_false, hnone]
              exact ⟨Nat.le_refl _, fun _ _ => rfl⟩
      | resumed => exact ⟨hle, fun _ hr => nomatch hr⟩
      | panicked => exact ⟨hle, fun _ _ => rfl⟩
      | ended | dropped =>
          have hzero : (tally tr).loops - 1 = 0 := by omega
          simp only [GuardTally.note, hzero]
          exact ⟨Nat.zero_le _, fun hpos => absurd hpos (Nat.lt_irrefl _)⟩

/-- A history tells of more than one loop at some time exactly if an idle event met a loop whose
flag was clear because the player had come back. -/
theorem tally_loops_le_one_iff (tr : List GuardEvent) :
    (∀ tr₁, tr₁ <+: tr → (tally tr₁).loops ≤ 1) ↔
      ∀ tr₁ tr₂, tr = tr₁ ++ .idled true :: tr₂ →
        ¬(0 < (tally tr₁).loops ∧ (tally tr₁).resumed = true) := by
  constructor
  · rintro hle tr₁ tr₂ rfl ⟨hpos, hresumed⟩
    have hafter := hle (tr₁ ++ [.idled true]) ⟨tr₂, by simp⟩
    simp only [tally_append_singleton, GuardTally.note, idle_of_resumed tr₁ hresumed,
      Bool.not_true, Bool.or_false, Bool.false_eq_true, if_false] at hafter
    omega
  · rintro hnot tr₁ ⟨rest, rfl⟩
    refine (tally_single tr₁ fun tr₂ tr₃ htr => hnot tr₂ (tr₃ ++ rest) ?_).loops_le
    simp [htr]

namespace Watch

/-- A history tells the flag of a guard and the number of its loops. -/
structure Tallied (t : GuardTally) (w : Watch) : Prop where
  idle_eq : w.guard.idle = t.idle
  loops_eq : w.loops = t.loops

variable {a : Actuator} {q : Queue} {g g' : IdleGuard} {tr : List GuardEvent} {w w' : Watch}
variable {e : Option GuardEvent} {t : GuardTally} {cs : List Evasion} {i : Nat} {c : Evasion}

theorem loopsAmong_eraseIdx (h : cs[i]? = some c) :
    loopsAmong (cs.eraseIdx i) + (if c.isLoop then 1 else 0) = loopsAmong cs := by
  obtain ⟨hi, rfl⟩ := List.getElem?_eq_some_iff.mp h
  rw [loopsAmong, loopsAmong, ← (List.getElem_cons_eraseIdx_perm hi).countP_eq, List.countP_cons]

theorem loopsAmong_eraseIdx_loop (h : cs[i]? = some c) (hc : c.isLoop = true) :
    loopsAmong (cs.eraseIdx i) = loopsAmong cs - 1 := by
  have herase := loopsAmong_eraseIdx h
  rw [if_pos hc] at herase
  exact Nat.eq_sub_of_add_eq herase

theorem loopsAmong_eraseIdx_fresh (h : cs[i]? = some c) (hc : c.isLoop = false) :
    loopsAmong (cs.eraseIdx i) = loopsAmong cs := by
  have herase := loopsAmong_eraseIdx h
  rwa [hc, if_neg Bool.false_ne_true, Nat.add_zero] at herase

theorem loopsAmong_set (c' : Evasion) (h : cs[i]? = some c) :
    loopsAmong (cs.set i c') + (if c.isLoop then 1 else 0)
      = loopsAmong cs + (if c'.isLoop then 1 else 0) := by
  obtain ⟨hi, rfl⟩ := List.getElem?_eq_some_iff.mp h
  have hless := loopsAmong_eraseIdx h
  simp only [loopsAmong, List.countP_set hi] at hless ⊢
  omega

/-- A turn of a reaction changes the flag and the number of loops as it shows. -/
theorem put_tallied {isOpen : Bool} {turn : Turn Evasion Verdict}
    (h : cs[i]? = some c) (hc : c.Change g isOpen g' turn) (hidle : g.idle = t.idle)
    (hloops : loopsAmong cs = t.loops) :
    g'.idle = (t.after (c.shows isOpen turn)).idle ∧
      loopsAmong (put cs i turn) = (t.after (c.shows isOpen turn)).loops := by
  have hset := fun c' => loopsAmong_set c' h
  cases hc with
  | ignored hi =>
      have htaken : t.idle = true := hidle ▸ hi
      have hsame := (loopsAmong_eraseIdx_fresh h rfl).trans hloops
      simp [Evasion.shows, GuardTally.note, htaken, hi, put, hsame]
  | begins r hi ho =>
      have hclear : t.idle = false := hidle ▸ hi
      have hmore := hset (.round r)
      simp only [Evasion.isLoop, Bool.false_eq_true, if_false, if_true, Nat.add_zero] at hmore
      simp [Evasion.shows, GuardTally.note, hclear, ho, put, hmore, hloops]
  | refused hi ho =>
      have hclear : t.idle = false := hidle ▸ hi
      have hsame := (loopsAmong_eraseIdx_fresh h rfl).trans hloops
      simp [Evasion.shows, GuardTally.note, hclear, ho, put, hsame]
  | panics hi =>
      have hsame := (loopsAmong_eraseIdx_fresh h rfl).trans hloops
      simp [Evasion.shows, GuardTally.note, put, hsame]
  | @goes c c' hc hc' =>
      have hsame := hset c'
      simp only [hc, hc', if_true, Nat.add_right_cancel_iff] at hsame
      cases c with
      | fresh => cases hc
      | between | round => exact ⟨hidle, hsame.trans hloops⟩
  | @waits c hc =>
      cases c with
      | fresh => cases hc
      | between | round => exact ⟨hidle, hloops⟩
  | @ends c hc hi =>
      have hless := hloops ▸ loopsAmong_eraseIdx_loop h hc
      cases c with
      | fresh => cases hc
      | between | round => exact ⟨hi, hless⟩
  | @closed c hc =>
      have hless := hloops ▸ loopsAmong_eraseIdx_loop h hc
      cases c with
      | fresh => cases hc
      | between | round => exact ⟨rfl, hless⟩
  | @breaks c hc =>
      have hless := hloops ▸ loopsAmong_eraseIdx_loop h hc
      cases c with
      | fresh => cases hc
      | between | round => exact ⟨hidle, hless⟩

theorem Step.tallied (step : Step a w e w') (ht : Tallied t w) : Tallied (t.after e) w' := by
  obtain ⟨hidle, hloops⟩ := ht
  cases step with
  | queue | pass => exact ⟨hidle, hloops⟩
  | turn h =>
      obtain ⟨hi, hl⟩ := put_tallied h (Evasion.next_change _ _ _ _) hidle hloops
      exact ⟨hi, hl⟩
  | react e =>
      constructor
      · unfold GuardEvent.ofEvent IdleGuard.react
        cases e.payload <;> simp [GuardTally.note, hidle, IdleGuard.resume]
      · unfold loops loopsAmong at hloops
        unfold GuardEvent.ofEvent IdleGuard.react loops loopsAmong
        cases e.payload <;> simp [GuardTally.note, hloops, Evasion.isLoop]
  | @drop i c h =>
      cases hc : c.isLoop with
      | true =>
          have hless := (loopsAmong_eraseIdx_loop h hc).trans (congrArg (· - 1) hloops)
          exact ⟨hidle, hless⟩
      | false => exact ⟨hidle, (loopsAmong_eraseIdx_fresh h hc).trans hloops⟩

/-- Whatever happens, the history tells the flag and the number of loops. -/
theorem Run.tallied (run : Run a q g tr w) : Tallied (tally tr) w := by
  induction run with
  | start => exact ⟨rfl, rfl⟩
  | tail _ step ih => exact tally_append_toList _ _ ▸ step.tallied ih

/-- The histories of a run are those that its own history begins with. -/
theorem Run.exists_run (run : Run a q g tr w) {tr₁ : List GuardEvent} (h : tr₁ <+: tr) :
    ∃ w₁, Run a q g tr₁ w₁ := by
  induction run with
  | start =>
      obtain rfl := List.prefix_nil.mp h
      exact ⟨_, .start⟩
  | @tail tr e w w' run step ih =>
      cases e with
      | none => exact ih (by simpa using h)
      | some x =>
          rcases List.prefix_concat_iff.mp h with rfl | h
          · exact ⟨w', run.tail step⟩
          · exact ih h

end Watch

/-- In every run, there is at most one loop at any time exactly if no idle event, the queue being
open, was taken up while a loop was under way that the player had come back since. -/
theorem loops_le_one_iff {a : Actuator} {q : Queue} {g : IdleGuard} {tr : List GuardEvent}
    {w : Watch} (run : Watch.Run a q g tr w) :
    (∀ tr₁ w₁, tr₁ <+: tr → Watch.Run a q g tr₁ w₁ → w₁.loops ≤ 1) ↔
      ∀ tr₁ w₁ tr₂, tr = tr₁ ++ .idled true :: tr₂ → Watch.Run a q g tr₁ w₁ →
        ¬(0 < w₁.loops ∧ (tally tr₁).resumed = true) := by
  have hloops : ∀ {tr₁ w₁}, Watch.Run a q g tr₁ w₁ → w₁.loops = (tally tr₁).loops :=
    fun run₁ => run₁.tallied.loops_eq
  constructor
  · intro hle tr₁ w₁ tr₂ htr run₁
    rw [hloops run₁]
    refine (tally_loops_le_one_iff tr).mp (fun tr₀ hpre => ?_) tr₁ tr₂ htr
    obtain ⟨w₀, run₀⟩ := run.exists_run hpre
    exact hloops run₀ ▸ hle tr₀ w₀ hpre run₀
  · intro hnot tr₁ w₁ hpre run₁
    rw [hloops run₁]
    refine (tally_loops_le_one_iff tr).mpr (fun tr₀ tr₂ htr => ?_) tr₁ hpre
    obtain ⟨w₀, run₀⟩ := run.exists_run ⟨_, htr.symm⟩
    exact hloops run₀ ▸ hnot tr₀ w₀ tr₂ htr run₀

/-- The player is taken for idle, comes back during the first round and is taken for idle again. -/
theorem exists_run_two_loops :
    ∃ w, Watch.Run .dryRun .start .start [.idled true, .resumed, .idled true] w ∧
      w.loops = 2 := by
  have first := (Watch.Run.start.tail
    (@Watch.Step.react .dryRun (.start .start .start) ⟨"idle", .playerIdle⟩)).tail
    (@Watch.Step.turn _ _ 0 _ rfl)
  have back := first.tail (.react ⟨"idle-resume", .playerResume⟩)
  have second := (back.tail (.react ⟨"idle", .playerIdle⟩)).tail (@Watch.Step.turn _ _ 1 _ rfl)
  exact ⟨_, second, rfl⟩

/-- In that run an idle event is taken up while a loop goes on with its round. -/
theorem loops_le_one_fails_midway :
    ∃ w, Watch.Run .dryRun .start .start [.idled true, .resumed, .idled true] w ∧
      ¬∀ tr₁ w₁ tr₂, [.idled true, .resumed, .idled true] = tr₁ ++ .idled true :: tr₂ →
        Watch.Run .dryRun .start .start tr₁ w₁ → ¬(0 < w₁.loops ∧ (tally tr₁).resumed = true) := by
  obtain ⟨w, run, htwo⟩ := exists_run_two_loops
  refine ⟨w, run, fun hnot => ?_⟩
  have hle := (loops_le_one_iff run).mpr hnot _ w (List.prefix_refl _) run
  omega

/-- So it is not true that there is never more than one loop. -/
theorem not_loops_le_one :
    ¬∀ (a : Actuator) (q : Queue) (g : IdleGuard) (tr : List GuardEvent) (w : Watch),
      Watch.Run a q g tr w → w.loops ≤ 1 := by
  intro hclaim
  obtain ⟨w, run, htwo⟩ := exists_run_two_loops
  have hle := hclaim _ _ _ _ w run
  omega

end LogWarden
