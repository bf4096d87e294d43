import LogWarden.Proofs.IdleGuard.Vigil
import LogWarden.Proofs.Queue.Holds
import Mathlib.Data.List.Chain

/-!
# What is noted of rounds

Of each round of a loop it is noted when it began, and when and how its jumps were over. The notes
tell where the loop stands, and which rounds are over by when: one whose jumps ended well has taken
as long as the guard holds, at least, and one whose jumps failed is left before the pause.

## Implementation notes

A run need not be prompt. What is true only of prompt runs stands under a proposition from which
promptness follows, so that one induction serves both.
-/

namespace LogWarden

/-- What is noted of a round: when it began, and when and how its jumps were over. -/
structure RoundNote where
  begun : Nanos
  jumped : Option (Nanos × Except ActionError Unit)
  deriving DecidableEq, Repr

namespace RoundNote

/-- Whether the jumps have ended well. -/
def isHeld (x : RoundNote) : Bool :=
  match x.jumped with
  | some (_, .ok _) => true
  | _ => false

/-- Whether the jumps failed at the time at which the round had begun. -/
def failsAtOnce (x : RoundNote) : Bool :=
  match x.jumped with
  | some (t, .error _) => t == x.begun
  | _ => false

/-- What is known of a round that is over. One whose jumps have failed ends at that time if the loop
is served promptly. -/
inductive Over (hold : Nanos) (prompt : Prop) (x : RoundNote) (now : Nanos) : Prop
  | held {t} (hjumped : x.jumped = some (t, .ok ())) (hbegun : x.begun ≤ t) (hnow : t ≤ now)
      (hover : x.begun + hold ≤ now)
  | failed {t e} (hjumped : x.jumped = some (t, .error e)) (hbegun : x.begun ≤ t) (hnow : t ≤ now)
      (hprompt : prompt → now = t)

/-- The notes of a loop after one more turn, the latest first. A round that the queue refuses is
over where it begins. -/
def note (rounds : List RoundNote) :
    Nanos × Opening × Option StepNews × Option Verdict → List RoundNote
  | (t, .wentOn, some (.returned r), _) =>
    match rounds with
    | ⟨begun, none⟩ :: rest => ⟨begun, some (t, r)⟩ :: rest
    | _ => rounds
  | (_, .wentOn, _, _) => rounds
  | (t, _, some (.submitted ..), _) => ⟨t, none⟩ :: rounds
  | (t, _, some (.returned r), _) => ⟨t, some (t, r)⟩ :: rounds
  | (_, _, none, _) => rounds

variable {hold since now now' : ℕ} {prompt : Prop} {x y : RoundNote} {rest rounds : List RoundNote}

theorem length_note_wentOn (t : Nanos) (news : Option StepNews)
    (res : Option Verdict) :
    (note rounds (t, .wentOn, news, res)).length = rounds.length := by
  rcases news with _ | _ | r
  · rfl
  · rfl
  · rcases rounds with _ | ⟨⟨begun, _ | j⟩, rest⟩ <;> rfl

theorem Over.later (h : x.Over hold prompt now) (hle : now ≤ now') (hstill : prompt → now' = now) :
    x.Over hold prompt now' := by
  cases h with
  | held hjumped hbegun hnow hover =>
      exact .held hjumped hbegun (Nat.le_trans hnow hle) (Nat.le_trans hover hle)
  | failed hjumped hbegun hnow hprompt =>
      exact .failed hjumped hbegun (Nat.le_trans hnow hle) fun hp => (hstill hp).trans (hprompt hp)

theorem Over.begun_le (h : x.Over hold prompt now) : x.begun ≤ now := by
  cases h with
  | held _ hbegun hnow | failed _ hbegun hnow => exact Nat.le_trans hbegun hnow

theorem Over.failsAtOnce (h : x.Over hold prompt now) (heq : now = x.begun) (hpos : 0 < hold) :
    x.failsAtOnce = true := by
  subst heq
  cases h with
  | held _ _ _ hover => exact absurd hover (Nat.not_le_of_lt (Nat.lt_add_of_pos_right hpos))
  | failed hjumped hbegun hnow =>
      obtain rfl := Nat.le_antisymm hnow hbegun
      simp [RoundNote.failsAtOnce, hjumped]

theorem Over.eq_begun (h : x.Over hold prompt now) (hfails : x.failsAtOnce = true)
    (hprompt : prompt) : now = x.begun := by
  cases h with
  | held hjumped => simp [RoundNote.failsAtOnce, hjumped] at hfails
  | failed hjumped _ _ hnow =>
      obtain rfl := hnow hprompt
      simpa [RoundNote.failsAtOnce, hjumped] using hfails

theorem Over.add_hold_le (h : x.Over hold prompt now) (hheld : x.isHeld = true) :
    x.begun + hold ≤ now := by
  cases h with
  | held _ _ _ hover => exact hover
  | failed hjumped => simp [isHeld, hjumped] at hheld

theorem hold_mul_le (hchain : (y :: rest).IsChain fun y x => x.Over hold prompt y.begun)
    (hsince : ∀ x ∈ y :: rest, since ≤ x.begun) :
    since + hold * rest.countP isHeld ≤ y.begun := by
  induction rest generalizing y with
  | nil => simpa using hsince
  | cons x rest ih =>
      obtain ⟨hover, hchain⟩ := List.isChain_cons_cons.mp hchain
      have hle := ih hchain fun z hz => hsince z (List.mem_cons_of_mem _ hz)
      rw [List.countP_cons]
      split
      case isTrue hheld =>
        rw [Nat.mul_add_one, ← Nat.add_assoc]
        exact Nat.le_trans (Nat.add_le_add_right hle hold) (hover.add_hold_le hheld)
      case isFalse => exact Nat.le_trans hle hover.begun_le

theorem length_le (hchain : (y :: rest).IsChain fun y x => x.Over hold prompt y.begun)
    (hsince : ∀ x ∈ y :: rest, since ≤ x.begun) (hpos : 0 < hold) :
    since + rest.length ≤ y.begun + rest.countP RoundNote.failsAtOnce := by
  induction rest generalizing y with
  | nil => simpa using hsince
  | cons x rest ih =>
      obtain ⟨hover, hchain⟩ := List.isChain_cons_cons.mp hchain
      have hle := ih hchain fun z hz => hsince z (List.mem_cons_of_mem _ hz)
      rw [List.countP_cons, List.length_cons]
      split
      case isTrue =>
        exact Nat.succ_le_succ (Nat.le_trans hle (Nat.add_le_add_right hover.begun_le _))
      case isFalse hnot =>
        have hne : x.begun ≠ y.begun := fun heq => hnot (hover.failsAtOnce heq.symm hpos)
        have hlt : x.begun < y.begun := Nat.lt_of_le_of_ne hover.begun_le hne
        exact Nat.lt_of_le_of_lt hle (Nat.add_lt_add_right hlt _)

end RoundNote

/-- The rounds of a loop follow one another, from a time on. -/
structure Spaced (hold since : Nanos) (prompt : Prop) (now : Nanos) (rounds : List RoundNote) :
    Prop where
  chain : rounds.IsChain fun y x => x.Over hold prompt y.begun
  begun : ∀ x ∈ rounds, since ≤ x.begun ∧ x.begun ≤ now
  since_le : since ≤ now

namespace Spaced

variable {hold since now now' begun : ℕ} {prompt : Prop} {x : RoundNote}
variable {rest rounds : List RoundNote} {j j' : Option (Nanos × Except ActionError Unit)}

theorem nil (h : since ≤ now) : Spaced hold since prompt now [] := ⟨.nil, nofun, h⟩

theorem later (h : Spaced hold since prompt now rounds) (hle : now ≤ now') :
    Spaced hold since prompt now' rounds :=
  ⟨h.chain, fun x hx => ⟨(h.begun x hx).1, Nat.le_trans (h.begun x hx).2 hle⟩,
    Nat.le_trans h.since_le hle⟩

/-- A further round begins where the latest one is over. -/
theorem cons (h : Spaced hold since prompt now rounds)
    (hover : ∀ x ∈ rounds.head?, x.Over hold prompt now) :
    Spaced hold since prompt now (⟨now, j⟩ :: rounds) where
  chain := List.isChain_cons.mpr ⟨hover, h.chain⟩
  begun := List.forall_mem_cons.mpr ⟨⟨h.since_le, Nat.le_refl _⟩, h.begun⟩
  since_le := h.since_le

/-- What comes of the latest round does not matter to those before it. -/
theorem set (h : Spaced hold since prompt now (⟨begun, j⟩ :: rest)) :
    Spaced hold since prompt now (⟨begun, j'⟩ :: rest) where
  chain := List.isChain_cons.mpr (List.isChain_cons.mp h.chain)
  begun := List.forall_mem_cons.mpr (List.forall_mem_cons.mp h.begun)
  since_le := h.since_le

/-- The rounds whose jumps have ended well, other than the latest, take their time. -/
theorem hold_mul_le (h : Spaced hold since prompt now rounds) :
    since + hold * rounds.tail.countP RoundNote.isHeld ≤ now := by
  cases rounds with
  | nil => exact h.since_le
  | cons y rest =>
      exact (RoundNote.hold_mul_le h.chain fun x hx => (h.begun x hx).1).trans
        (h.begun y List.mem_cons_self).2

/-- There are not more rounds than instants, apart from those that fail at once. -/
theorem length_le (h : Spaced hold since prompt now rounds) (hpos : 0 < hold) :
    rounds.length ≤ now - since + 1 + rounds.countP RoundNote.failsAtOnce := by
  cases rounds with
  | nil => exact Nat.zero_le _
  | cons y rest =>
      have hle : since + rest.length ≤ now + rest.countP RoundNote.failsAtOnce :=
        (RoundNote.length_le h.chain (fun x hx => (h.begun x hx).1) hpos).trans
          (Nat.add_le_add_right (h.begun y List.mem_cons_self).2 _)
      rw [List.length_cons, List.countP_cons]
      have hsince := h.since_le
      omega

end Spaced

namespace Evasion

/-- How the notes of a loop tell where it stands: the latest round is over between two rounds, and
in the pause of a round time passes as long as the guard holds, at least. -/
inductive Stands (hold : Nanos) (prompt : Prop) (pause : Step) (tr : List QueueEvent) (u : Usage) :
    List RoundNote → Evasion → Prop
  | fresh : Stands hold prompt pause tr u [] .fresh
  | between {x rest} (h : x.Over hold prompt u.now) :
      Stands hold prompt pause tr u (x :: rest) .between
  | jumping {begun rest w} (hle : begun ≤ u.now) :
      Stands hold prompt pause tr u (⟨begun, none⟩ :: rest) (jumping pause w)
  | jumped {begun t rest} (hle : begun ≤ t) (hnow : t ≤ u.now) :
      Stands hold prompt pause tr u (⟨begun, some (t, .ok ())⟩ :: rest) (jumped pause)
  | pausing {begun t rest w due} (hle : begun ≤ t) (hnow : t ≤ u.now) (hdue : begun + hold ≤ due)
      (holds : HoldsUntil w.ticket hold due tr u) (hlimit : ∀ x ∈ w.alarm?, due ≤ x) :
      Stands hold prompt pause tr u (⟨begun, some (t, .ok ())⟩ :: rest) (pausing w)
  | paused {begun t rest} (hle : begun ≤ t) (hnow : t ≤ u.now) (hover : begun + hold ≤ u.now) :
      Stands hold prompt pause tr u (⟨begun, some (t, .ok ())⟩ :: rest) paused

/-- What holds of the notes of a loop in all runs. -/
structure Keeps (hold since : Nanos) (prompt : Prop) (pause : Step) (tr : List QueueEvent)
    (u : Usage) (rounds : List RoundNote) (c : Option Evasion) : Prop where
  spaced : Spaced hold since prompt u.now rounds
  stands : ∀ x ∈ c, Stands hold prompt pause tr u rounds x

section Keeps
variable {a : Actuator} {g g' : IdleGuard} {since : Nanos} {prompt : Prop}
variable {tr : List QueueEvent} {u : Usage} {queue : Queue} {rounds : List RoundNote}
variable {c : Evasion} {c' : Option Evasion} {o : Opening} {news : Option StepNews}
variable {res : Option Verdict} {i : ℕ}

theorem Stands.later {hold : Nanos} {pause : Step} {tr' : List QueueEvent} {u' : Usage}
    (h : Stands hold prompt pause tr u rounds c) (hle : u.now ≤ u'.now)
    (hstill : prompt → c = .between → u'.now = u.now)
    (hholds : ∀ {ticket d due}, HoldsUntil ticket d due tr u → HoldsUntil ticket d due tr' u') :
    Stands hold prompt pause tr' u' rounds c := by
  cases h with
  | fresh => exact .fresh
  | between hover => exact .between (hover.later hle fun hp => hstill hp rfl)
  | jumping hbegun => exact .jumping (Nat.le_trans hbegun hle)
  | jumped hbegun hnow => exact .jumped hbegun (Nat.le_trans hnow hle)
  | pausing hbegun hnow hdue holds hlimit =>
      exact .pausing hbegun (Nat.le_trans hnow hle) hdue (hholds holds) hlimit
  | paused hbegun hnow hover =>
      exact .paused hbegun (Nat.le_trans hnow hle) (Nat.le_trans hover hle)

/-- What a turn makes of the notes of a loop. -/
theorem Keeps.goes (h : Keeps g.hold since prompt g.pause tr u rounds (some c))
    (l : Queue.Ledger a (books tr) u.queue)
    (goes : c.Goes g u.queue u.now o news res g' queue c') :
    Keeps g.hold since prompt g.pause (tr ++ (VigilEvent.turned i o news res).history)
      { u with queue } (RoundNote.note rounds (u.now, o, news, res)) c' := by
  obtain ⟨spaced, stands⟩ := h
  have stands := stands c rfl
  cases goes with
  | ignore | stop | panicFirst | panic => exact ⟨spaced, nofun⟩
  | begin =>
      cases stands
      refine ⟨spaced.cons nofun, ?_⟩
      rintro _ ⟨⟩
      exact .jumping (Nat.le_refl _)
  | refuseFirst =>
      cases stands
      exact ⟨spaced.cons nofun, nofun⟩
  | again =>
      cases stands with
      | between hover =>
          refine ⟨spaced.cons (by simpa using hover), ?_⟩
          rintro _ ⟨⟩
          exact .jumping (Nat.le_refl _)
  | refuse =>
      cases stands with
      | between hover => exact ⟨spaced.cons (by simpa using hover), nofun⟩
  | jumped hw =>
      cases stands with
      | jumping hle =>
          refine ⟨spaced.set, ?_⟩
          rintro _ ⟨⟩
          exact .jumped hle (Nat.le_refl _)
  | pause hs =>
      cases stands with
      | jumped hle hnow =>
          refine ⟨spaced, ?_⟩
          rintro _ ⟨⟩
          refine .pausing hle hnow (Nat.add_le_add_right (Nat.le_trans hle hnow) _)
            (.of_submit l hs) ?_
          rintro _ ⟨⟩
          exact Nat.add_le_add_left (Nat.le_add_right ..) _
  | refusePause =>
      cases stands
      exact ⟨spaced, nofun⟩
  | paused hw =>
      cases stands with
      | pausing hle hnow hdue holds hlimit =>
          refine ⟨spaced, ?_⟩
          rintro _ ⟨⟩
          exact .paused hle hnow (Nat.le_trans hdue (holds.due_le_of_ends l hlimit hw nofun))
  | finish =>
      cases stands with
      | paused hle hnow hover =>
          refine ⟨spaced, ?_⟩
          rintro _ ⟨⟩
          exact .between (.held rfl hle hnow hover)
  | fail hw he =>
      cases stands with
      | jumping hle =>
          refine ⟨spaced.set, ?_⟩
          rintro _ ⟨⟩
          exact .between (.failed rfl hle (Nat.le_refl _) fun _ => rfl)
      | pausing hle hnow hdue holds hlimit =>
          refine ⟨spaced, ?_⟩
          rintro _ ⟨⟩
          have hend := holds.due_le_of_ends l hlimit hw (by simpa using he)
          exact .between (.held rfl hle hnow (Nat.le_trans hdue hend))
  | closed hw =>
      cases stands with
      | jumping => exact ⟨spaced.set, nofun⟩
      | pausing => exact ⟨spaced, nofun⟩

/-- A round submits two steps at most. -/
theorem Goes.length_submitted_le {q : Queue} {now : Nanos} (rounds : List RoundNote)
    (goes : c.Goes g q now o news res g' queue c') :
    (stepOf? news).toList.length + c'.elim 0 pausesLeft + 2 * rounds.length ≤
      c.pausesLeft + 2 * (RoundNote.note rounds (now, o, news, res)).length := by
  cases goes with
  | ignore | stop | panicFirst | panic => simp [stepOf?, RoundNote.note]
  | begin | again =>
      change 1 + 1 + 2 * rounds.length ≤ 0 + 2 * (rounds.length + 1)
      omega
  | refuseFirst | refuse =>
      change 0 + 0 + 2 * rounds.length ≤ 0 + 2 * (rounds.length + 1)
      omega
  | jumped | pause | refusePause | paused | finish | fail | closed =>
      simp [stepOf?, RoundNote.length_note_wentOn]

end Keeps

end Evasion

namespace Vigil

variable {a : Actuator} {g : IdleGuard} {u : Usage} {v v' : Vigil} {e : VigilEvent}
variable {tr : List (Nanos × VigilEvent)} {tr₀ : List QueueEvent} {i : ℕ} {prompt : Prop}

/-- The rounds of the reaction at a place, the latest first. -/
def roundsOf (i : ℕ) (tr : List (Nanos × VigilEvent)) : List RoundNote :=
  (turnsOf i tr).foldl RoundNote.note []

theorem roundsOf_append_of_none {x : Nanos × VigilEvent} (h : x.2.turnOf? i = none) :
    roundsOf i (tr ++ [x]) = roundsOf i tr := by
  simp [roundsOf, h]

theorem roundsOf_append_turned {t : Nanos} {o : Opening} {news : Option StepNews}
    {res : Option Verdict} :
    roundsOf i (tr ++ [(t, .turned i o news res)]) =
      RoundNote.note (roundsOf i tr) (t, o, news, res) := by
  simp [roundsOf, VigilEvent.turnOf?]

theorem Fits.hold_eq (h : Fits g v) : v.guard.hold = g.hold := by
  rw [h.guard_eq]

theorem Change.length_le (change : Change a v e v') :
    v.reactions.length ≤ v'.reactions.length := by
  cases change with
  | take => simp
  | turn | drop => simp
  | _ => exact Nat.le_refl _

theorem Change.now_le (change : Change a v e v') : v.usage.now ≤ v'.usage.now := by
  rcases change.now_eq with hnow | ⟨d, rfl, -⟩
  · exact Nat.le_of_eq hnow.symm
  · exact Nat.le_add_right ..

/-- A request to hold goes on in whatever happens. -/
theorem Change.holds (change : Change a v e v') {ticket : ℕ} {d due : Nanos}
    (h : HoldsUntil ticket d due (tr₀ ++ historyOf tr) v.usage) {t : Nanos} :
    HoldsUntil ticket d due (tr₀ ++ historyOf (tr ++ [(t, e)])) v'.usage := by
  rw [historyOf_append_singleton, ← List.append_assoc]
  rcases change.usage_step with step | ⟨husage, hhistory⟩
  · exact h.step step
  · rw [husage, hhistory, List.append_nil]
    exact h

/-- A loop between two rounds keeps time from passing where it is served promptly. -/
theorem Change.now_eq_of_between (change : Change a v e v') (hlag : e.lags = false)
    (hc : v.reaction? i = some .between) : v'.usage.now = v.usage.now := by
  rcases change.now_eq with hnow | ⟨d, -, rfl | ⟨rfl, hserved⟩⟩
  · exact hnow
  · cases hlag
  · exact absurd (hserved i .between hc).1 Evasion.nextRound_ne_waits

/-- In all runs the notes of a loop tell where it stands. A place that nobody has had has none. -/
theorem Run.keeps (run₀ : Usage.Run a tr₀ u) (run : Run a g u tr v) (prompt : Prop)
    (hprompt : prompt → IsPrompt tr) (i : ℕ) :
    Evasion.Keeps g.hold u.now prompt g.pause (tr₀ ++ historyOf tr) v.usage (roundsOf i tr)
        (v.reaction? i) ∧
      (v.reactions.length ≤ i → roundsOf i tr = []) := by
  induction run with
  | refl => exact ⟨⟨.nil (Nat.le_refl _), by simp [start, reaction?]⟩, fun _ => rfl⟩
  | @tail tr v e v' run step ih =>
      obtain ⟨keeps, unused⟩ := ih fun hp x hx => hprompt hp x (List.mem_append_left _ hx)
      have fits := Run.fits run
      have change := step.change fits
      have spaced := keeps.spaced.later change.now_le
      cases change.place i with
      | same h he =>
          rw [roundsOf_append_of_none he, h]
          refine ⟨⟨spaced, fun c hc => ?_⟩, fun hi => unused (change.length_le.trans hi)⟩
          refine (keeps.stands c hc).later change.now_le ?_ fun holds => change.holds holds
          -- a failed round is over at this time only as long as none passes
          rintro hp rfl
          exact change.now_eq_of_between (hprompt hp (v.usage.now, e) (by simp)) hc
      | opened hi h he =>
          rw [roundsOf_append_of_none he, h, unused hi]
          refine ⟨⟨.nil spaced.since_le, ?_⟩, fun _ => rfl⟩
          rintro _ ⟨⟩
          exact .fresh
      | dropped h he =>
          rw [roundsOf_append_of_none he, h]
          exact ⟨⟨spaced, by simp⟩, fun hi => unused (change.length_le.trans hi)⟩
      | @turned o news res c h goes =>
          have husage : v'.usage = { v.usage with queue := v'.usage.queue } := by
            cases change with
            | turn => rfl
          have hlt : i < v.reactions.length :=
            (List.getElem?_eq_some_iff.mp (reaction?_eq_some_iff.mp h)).1
          rw [roundsOf_append_turned, historyOf_append_singleton, ← List.append_assoc, husage]
          rw [h, ← fits.hold_eq, ← fits.pause_eq] at keeps
          refine ⟨?_, fun hi => absurd hlt (Nat.not_lt_of_le (change.length_le.trans hi))⟩
          rw [← fits.hold_eq, ← fits.pause_eq]
          exact keeps.goes (Run.queue_run run run₀).ledger goes

/-- With the pause of a round that is yet to come, no more steps are submitted than two for each
round. -/
theorem Run.length_submissions_le (run : Run a g u tr v) (i : ℕ) :
    (submissionsOf i tr).length + (v.reaction? i).elim 0 Evasion.pausesLeft ≤
      2 * (roundsOf i tr).length := by
  induction run with
  | refl => exact Nat.le_refl _
  | @tail tr v e v' run step ih =>
      have change := step.change (Run.fits run)
      -- nothing becomes more where the reaction takes no turn
      have unturned (he : e.turnOf? i = none)
          (hle : (v'.reaction? i).elim 0 Evasion.pausesLeft ≤
            (v.reaction? i).elim 0 Evasion.pausesLeft) :
          (submissionsOf i (tr ++ [(v.usage.now, e)])).length +
              (v'.reaction? i).elim 0 Evasion.pausesLeft ≤
            2 * (roundsOf i (tr ++ [(v.usage.now, e)])).length := by
        rw [roundsOf_append_of_none he]
        simpa [submissionsOf_append_singleton, he] using
          Nat.le_trans (Nat.add_le_add_left hle _) ih
      cases change.place i with
      | same h he => exact unturned he (Nat.le_of_eq (by rw [h]))
      | opened _ h he => exact unturned he (by simp [h])
      | dropped h he => exact unturned he (by simp [h])
      | @turned o news res c h goes =>
          have hle := goes.length_submitted_le (roundsOf i tr)
          rw [h, Option.elim_some] at ih
          rw [roundsOf_append_turned, submissionsOf_append_singleton]
          simp only [VigilEvent.turnOf?, if_true, Option.bind_some, List.length_append]
          omega

end Vigil

end LogWarden
