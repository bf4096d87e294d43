import LogWarden.Proofs.IdleGuard.Rounds

/-!
# The guard and its loops over time

Events reach the guard at any time, each idle event in a reaction of its own that takes its turns
when it likes and may be dropped. Meanwhile others use the queue. Reactions keep their places, so
what is seen of a loop can be told from what is seen of the others.

## Implementation notes

Time passes in two ways: promptly, while all reactions wait and up to the next limit at most, or
with a lag, by any amount.
-/

namespace LogWarden

/-- What is seen of a guard, its reactions and its queue. -/
inductive VigilEvent
  /-- What others, the worker and the actions did to the queue. -/
  | others (es : List QueueEvent)
  /-- An event reached the guard. -/
  | met (e : Event)
  /-- A reaction took a turn: what it began with, what came of its step and what it returned. -/
  | turned (i : ℕ) (o : Opening) (news : Option StepNews)
      (result : Option Verdict)
  /-- A reaction took a turn in which it just waited. -/
  | waited (i : ℕ)
  | dropped (i : ℕ)
  | passed (d : Nanos)
  /-- Time passed although a reaction could go on. -/
  | lagged (d : Nanos)

/-- What became of the queue. -/
def VigilEvent.history : VigilEvent → List QueueEvent
  | .others es => es
  | .turned _ _ (some (.submitted s ticket)) _ => [.accepted ⟨ticket, s.action⟩]
  | _ => []

/-- Whether time passed although a reaction could go on. -/
def VigilEvent.lags : VigilEvent → Bool
  | .lagged _ => true
  | _ => false

/-- A turn of the reaction at a place. -/
def VigilEvent.turnOf? (i : ℕ) :
    VigilEvent → Option (Opening × Option StepNews × Option Verdict)
  | .turned j o news res => if j = i then some (o, news, res) else none
  | _ => none

/-- A guard with its queue and its reactions, `none` for those that are over. -/
structure Vigil where
  usage : Usage
  guard : IdleGuard
  reactions : List (Option Evasion)

namespace Vigil

/-- A guard that has not seen any event, where others use a queue. -/
def start (g : IdleGuard) (u : Usage) : Vigil := ⟨u, { g with idle := false, evasions := 0 }, []⟩

/-- The reaction at a place, unless it is over. -/
def reaction? (v : Vigil) (i : ℕ) : Option Evasion := v.reactions[i]?.join

/-- A turn of the reaction at a place. -/
def turn (v : Vigil) (i : ℕ) (c : Evasion) : Vigil :=
  let (guard, queue, turn, _) := c.next v.guard v.usage.queue v.usage.now
  ⟨{ v.usage with queue }, guard, v.reactions.set i (turn.rest? c)⟩

/-- Whether all reactions have to wait until a duration has passed. -/
def IsServed (v : Vigil) (d : Nanos) : Prop :=
  ∀ i c, v.reaction? i = some c →
    (c.next v.guard v.usage.queue v.usage.now).2.2.1 = .waits ∧
      ∀ t ∈ c.alarms, v.usage.now + d ≤ t

/-- Some time later. -/
def later (v : Vigil) (d : Nanos) : Vigil :=
  { v with usage := { v.usage with now := v.usage.now + d } }

/-- One step of a guard, its reactions and its queue. -/
inductive Step (a : Actuator) (v : Vigil) : VigilEvent → Vigil → Prop
  | others {es usage} (h : Usage.Step a v.usage es usage) (hnow : usage.now = v.usage.now) :
      Step a v (.others es) { v with usage }
  | meet (e : Event) :
      Step a v (.met e)
        { v with
          guard := (v.guard.react e).1
          reactions := v.reactions ++ (v.guard.react e).2.toList.map some }
  | turn {i} {c : Evasion} (h : v.reaction? i = some c)
      (hmoves : (c.next v.guard v.usage.queue v.usage.now).2.2.1 ≠ .waits) :
      Step a v (.turned i (c.opening v.guard) (c.news? v.guard v.usage.queue v.usage.now)
        (c.next v.guard v.usage.queue v.usage.now).2.2.1.result?) (v.turn i c)
  | wait {i} {c : Evasion} (h : v.reaction? i = some c)
      (hwaits : (c.next v.guard v.usage.queue v.usage.now).2.2.1 = .waits) : Step a v (.waited i) v
  | drop {i c} (h : v.reaction? i = some c) :
      Step a v (.dropped i) { v with reactions := v.reactions.set i none }
  | pass {d} (h : v.IsServed d) : Step a v (.passed d) (v.later d)
  | lag (d : Nanos) : Step a v (.lagged d) (v.later d)

/-- Steps one after another, and what is seen of them, with the time. -/
inductive Steps (a : Actuator) (v : Vigil) : List (Nanos × VigilEvent) → Vigil → Prop
  | refl : Steps a v [] v
  | tail {tr v₁ e v₂} (steps : Steps a v tr v₁) (step : Step a v₁ e v₂) :
      Steps a v (tr ++ [(v₁.usage.now, e)]) v₂

/-- Steps from a guard that has not seen any event. -/
abbrev Run (a : Actuator) (g : IdleGuard) (u : Usage) (tr : List (Nanos × VigilEvent))
    (v : Vigil) : Prop :=
  Steps a (start g u) tr v

section Projections
variable (i : ℕ) (tr : List (Nanos × VigilEvent)) (x : Nanos × VigilEvent)

/-- The history of the queue. -/
def historyOf : List QueueEvent := tr.flatMap (·.2.history)

/-- The turns of the reaction at a place that were not spent waiting, with the time. -/
def turnsOf : List (Nanos × Opening × Option StepNews × Option Verdict) :=
  tr.filterMap fun x => (x.2.turnOf? i).map (x.1, ·)

/-- The steps that the reaction at a place submitted. -/
def submissionsOf : List LogWarden.Step :=
  (turnsOf i tr).filterMap fun x => Evasion.stepOf? x.2.2.1

/-- Time passed only while all reactions had to wait. -/
def IsPrompt : Prop := ∀ x ∈ tr, x.2.lags = false

@[simp] theorem historyOf_append_singleton :
    historyOf (tr ++ [x]) = historyOf tr ++ x.2.history := by
  simp [historyOf]

@[simp] theorem turnsOf_append_singleton :
    turnsOf i (tr ++ [x]) = turnsOf i tr ++ ((x.2.turnOf? i).map (x.1, ·)).toList := by
  cases h : x.2.turnOf? i <;> simp [turnsOf, h]

theorem submissionsOf_append_singleton :
    submissionsOf i (tr ++ [x]) =
      submissionsOf i tr ++ ((x.2.turnOf? i).bind fun y => Evasion.stepOf? y.2.1).toList := by
  rw [submissionsOf, turnsOf_append_singleton, List.filterMap_append, submissionsOf]
  cases h : x.2.turnOf? i with
  | none => rfl
  | some y => cases hs : Evasion.stepOf? y.2.1 <;> simp [hs]

theorem submissionsOf_append (tr tr₁ : List (Nanos × VigilEvent)) :
    submissionsOf i (tr ++ tr₁) = submissionsOf i tr ++ submissionsOf i tr₁ := by
  simp [submissionsOf, turnsOf]

end Projections

/-- What becomes of a guard, its reactions and its queue in one step. -/
inductive Change (a : Actuator) (v : Vigil) : VigilEvent → Vigil → Prop
  | others {es usage} (h : Usage.Step a v.usage es usage) (hnow : usage.now = v.usage.now) :
      Change a v (.others es) { v with usage }
  | take {e : Event} (h : e.payload = .playerIdle) :
      Change a v (.met e) { v with reactions := v.reactions ++ [some .fresh] }
  | resume {e : Event} (h : e.payload = .playerResume) :
      Change a v (.met e) { v with guard := v.guard.resume }
  | ignore {e : Event} (h : e.payload ≠ .playerResume) : Change a v (.met e) v
  | turn {i o news res guard queue c'} {c : Evasion} (h : v.reaction? i = some c)
      (goes : c.Goes v.guard v.usage.queue v.usage.now o news res guard queue c') :
      Change a v (.turned i o news res) ⟨{ v.usage with queue }, guard, v.reactions.set i c'⟩
  | wait {i} {c : Evasion} (h : v.reaction? i = some c)
      (hwaits : (c.next v.guard v.usage.queue v.usage.now).2.2.1 = .waits) :
      Change a v (.waited i) v
  | drop {i c} (h : v.reaction? i = some c) :
      Change a v (.dropped i) { v with reactions := v.reactions.set i none }
  | pass {d} (h : v.IsServed d) : Change a v (.passed d) (v.later d)
  | lag (d : Nanos) : Change a v (.lagged d) (v.later d)

/-- What holds in all runs of a guard: its times are those it was given, and its reactions are in
one of the stages. -/
structure Fits (g : IdleGuard) (v : Vigil) : Prop where
  guard_eq : v.guard = { g with idle := v.guard.idle, evasions := v.guard.evasions }
  stages : ∀ i c, v.reaction? i = some c → c.IsStage g.pause

variable {a : Actuator} {g : IdleGuard} {u : Usage} {v v' v₁ : Vigil} {e : VigilEvent}
variable {tr : List (Nanos × VigilEvent)} {i : ℕ} {c : Evasion}

theorem Fits.jumps_eq (h : Fits g v) : v.guard.jumps = g.jumps := by
  rw [h.guard_eq]
  rfl

theorem Fits.pause_eq (h : Fits g v) : v.guard.pause = g.pause := by
  rw [h.guard_eq]
  rfl

theorem Fits.makesRounds_iff (h : Fits g v) : v.guard.MakesRounds ↔ g.MakesRounds := by
  rw [h.guard_eq]
  rfl

theorem Step.change (step : Step a v e v') (h : Fits g v) : Change a v e v' := by
  cases step with
  | others h hnow => exact .others h hnow
  | meet e =>
      by_cases hidle : e.payload = .playerIdle
      · have hreact : v.guard.react e = (v.guard, some .fresh) := by simp [IdleGuard.react, hidle]
        rw [hreact]
        exact .take hidle
      · by_cases hresume : e.payload = .playerResume
        · have hreact : v.guard.react e = (v.guard.resume, none) := by
            simp [IdleGuard.react, hresume]
          simpa [hreact] using Change.resume hresume
        · have hreact : v.guard.react e = (v.guard, none) := by
            rw [IdleGuard.react]
            split <;> simp_all
          simpa [hreact] using Change.ignore hresume
  | turn hc hmoves =>
      have hstage := h.stages _ _ hc
      rw [← h.pause_eq] at hstage
      exact .turn hc (hstage.takes hmoves)
  | wait hc hwaits => exact .wait hc hwaits
  | drop hc => exact .drop hc
  | pass h => exact .pass h
  | lag d => exact .lag d

/-- What becomes of the reaction at a place in one step. -/
inductive PlaceChange (v v' : Vigil) (i : ℕ) : VigilEvent → Prop
  | same {e : VigilEvent} (h : v'.reaction? i = v.reaction? i) (he : e.turnOf? i = none) :
      PlaceChange v v' i e
  /-- A reaction took the place, which nobody had. -/
  | opened {e : VigilEvent} (hi : v.reactions.length ≤ i) (h : v'.reaction? i = some .fresh)
      (he : e.turnOf? i = none) : PlaceChange v v' i e
  | dropped {e : VigilEvent} (h : v'.reaction? i = none) (he : e.turnOf? i = none) :
      PlaceChange v v' i e
  | turned {o news res} {c : Evasion} (h : v.reaction? i = some c)
      (goes : c.Goes v.guard v.usage.queue v.usage.now o news res v'.guard v'.usage.queue
        (v'.reaction? i)) : PlaceChange v v' i (.turned i o news res)

theorem reaction?_eq_some_iff : v.reaction? i = some c ↔ v.reactions[i]? = some (some c) := by
  rw [reaction?, Option.join_eq_some_iff]

theorem Change.place (change : Change a v e v') (i : ℕ) : PlaceChange v v' i e := by
  cases change with
  | others | resume | ignore | wait | pass | lag => exact .same rfl rfl
  | take =>
      rcases Nat.lt_trichotomy i v.reactions.length with hlt | rfl | hgt
      · exact .same (by simp [reaction?, List.getElem?_append_left hlt]) rfl
      · exact .opened (Nat.le_refl _) (by simp [reaction?]) rfl
      · refine .same ?_ rfl
        have hnone : (v.reactions ++ [some .fresh])[i]? = none := by
          simpa [Nat.succ_le_iff] using hgt
        rw [reaction?, reaction?, hnone, List.getElem?_eq_none (Nat.le_of_lt hgt)]
  | @turn j o news res guard queue c' c hc goes =>
      have hj := (List.getElem?_eq_some_iff.mp (reaction?_eq_some_iff.mp hc)).1
      by_cases hij : j = i
      · subst hij
        refine .turned hc ?_
        rw [reaction?, List.getElem?_set_self hj]
        exact goes
      · exact .same (by simp [reaction?, hij]) (by simp [VigilEvent.turnOf?, hij])
  | @drop j c hc =>
      have hj := (List.getElem?_eq_some_iff.mp (reaction?_eq_some_iff.mp hc)).1
      by_cases hij : j = i
      · subst hij
        exact .dropped (by rw [reaction?, List.getElem?_set_self hj]; rfl) rfl
      · exact .same (by simp [reaction?, hij]) rfl

/-- A turn of a reaction that was seen is one that `Goes` describes. -/
theorem Change.exists_goes {o : Opening} {news : Option StepNews}
    {res : Option Verdict} (change : Change a v (.turned i o news res) v') :
    ∃ c, v.reaction? i = some c ∧ c.Goes v.guard v.usage.queue v.usage.now o news res v'.guard
      v'.usage.queue (v'.reaction? i) := by
  cases change.place i with
  | turned h goes => exact ⟨_, h, goes⟩
  | same _ he | opened _ _ he | dropped _ he => simp [VigilEvent.turnOf?] at he

/-- Time passes only where nothing else happens. -/
theorem Change.now_eq (change : Change a v e v') :
    v'.usage.now = v.usage.now ∨
      ∃ d, v' = v.later d ∧ (e = .lagged d ∨ e = .passed d ∧ v.IsServed d) := by
  cases change with
  | others _ hnow => exact .inl hnow
  | pass h => exact .inr ⟨_, rfl, .inr ⟨rfl, h⟩⟩
  | lag d => exact .inr ⟨d, rfl, .inl rfl⟩
  | _ => exact .inl rfl

theorem Change.fits (change : Change a v e v') (h : Fits g v) : Fits g v' := by
  have hguard :
      v'.guard = { v.guard with idle := v'.guard.idle, evasions := v'.guard.evasions } := by
    cases change with
    | turn hc goes => exact goes.guard_eq
    | _ => rfl
  refine ⟨?_, fun i c hc => ?_⟩
  · rw [hguard, h.guard_eq]
  · rcases change.place i with ⟨hsame, -⟩ | ⟨-, hfresh, -⟩ | ⟨hnone, -⟩ | ⟨hold, goes⟩
    · exact h.stages i c (hsame ▸ hc)
    · obtain rfl := Option.some.inj (hc.symm.trans hfresh)
      exact .fresh
    · cases hc.symm.trans hnone
    · rw [hc] at goes
      exact h.pause_eq ▸ goes.isStage

theorem history_turned {o : Opening} {news : Option StepNews}
    {res : Option Verdict} (h : ∀ s ticket, news ≠ some (.submitted s ticket)) :
    (VigilEvent.turned i o news res).history = [] := by
  rcases news with _ | ⟨s, ticket⟩ | r
  · rfl
  · exact absurd rfl (h s ticket)
  · rfl

/-- A step does something to the queue and its users, or nothing is seen of it there. -/
theorem Change.usage_step (change : Change a v e v') :
    Usage.Step a v.usage e.history v'.usage ∨ v'.usage = v.usage ∧ e.history = [] := by
  cases change with
  | others h => exact .inl h
  | turn _ goes =>
      rcases goes.submits with ⟨s, rfl, hs⟩ | ⟨hnone, rfl⟩
      · exact .inl (.submit hs)
      · exact .inr ⟨rfl, history_turned hnone⟩
  | pass | lag d => exact .inl (.pass _)
  | take | resume | ignore | wait | drop => exact .inr ⟨rfl, rfl⟩

theorem Change.queue_steps (change : Change a v e v') :
    Queue.Steps a v.usage.queue e.history v'.usage.queue := by
  rcases change.usage_step with step | ⟨husage, hhistory⟩
  · exact step.queue_steps
  · rw [husage, hhistory]
    exact .refl

namespace Steps

theorem trans {tr₁ : List (Nanos × VigilEvent)} (first : Steps a v tr v₁)
    (second : Steps a v₁ tr₁ v') : Steps a v (tr ++ tr₁) v' := by
  induction second with
  | refl => simpa using first
  | tail _ step ih => simpa only [List.append_assoc] using ih.tail step

theorem fits (steps : Steps a v tr v') (h : Fits g v) : Fits g v' := by
  induction steps with
  | refl => exact h
  | tail _ step ih => exact (step.change ih).fits ih

theorem queue_steps (steps : Steps a v tr v') (h : Fits g v) :
    Queue.Steps a v.usage.queue (historyOf tr) v'.usage.queue := by
  induction steps with
  | refl => exact .refl
  | tail first step ih =>
      rw [historyOf_append_singleton]
      exact ih.trans (step.change (first.fits h)).queue_steps

end Steps

theorem start_fits (g : IdleGuard) (u : Usage) : Fits g (start g u) :=
  ⟨rfl, by simp [start, reaction?]⟩

theorem Run.fits (run : Run a g u tr v) : Fits g v := Steps.fits run (start_fits g u)

/-- What becomes of the queue is a run of the queue. -/
theorem Run.queue_run (run : Run a g u tr v) {tr₀ : List QueueEvent} (run₀ : Usage.Run a tr₀ u) :
    Queue.Run a (tr₀ ++ historyOf tr) v.usage.queue :=
  run₀.queue_run.trans (Steps.queue_steps run (start_fits g u))

end Vigil

end LogWarden
