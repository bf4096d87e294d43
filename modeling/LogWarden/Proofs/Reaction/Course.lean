import LogWarden.Proofs.Chain.Course
import LogWarden.Trigger.Reaction

/-!
# The course of a reaction

A reaction of triggers runs what the fired rules yield on a queue that others use as they like. It
takes its turns when it likes, and it may be cancelled at any time. What is told of the rules says
where the reaction stands.

## Implementation notes

Time passes with what others do, by any amount. The steps of a reaction have limits of their own;
the reaction has none.
-/

namespace LogWarden

/-- What came of a rule that fired. -/
inductive RuleNews
  | submitted (index : ℕ) (s : Step) (ticket : ℕ)
  /-- The queue refused the step. -/
  | refused (index : ℕ) (s : Step)
  /-- The rule yielded no step. -/
  | unbuilt (index : ℕ) (e : CommandError)
  /-- The wait for the step ended. -/
  | returned (index : ℕ) (r : Except ActionError Unit)
  deriving DecidableEq, Repr

namespace RuleNews

/-- The step that was to be submitted. -/
def attempt? : RuleNews → Option (ℕ × Step)
  | .submitted index s _ | .refused index s => some (index, s)
  | .unbuilt .. | .returned .. => none

def submission? : RuleNews → Option (Step × ℕ)
  | .submitted _ s ticket => some (s, ticket)
  | .refused .. | .unbuilt .. | .returned .. => none

/-- How the rule ended. -/
def outcome? : RuleNews → Option (ℕ × Except HandlerError Unit)
  | .submitted .. => none
  | .refused index _ => some (index, .error (.action .queueClosed))
  | .unbuilt index e => some (index, .error (.command e))
  | .returned index r => some (index, r.mapError .action)

/-- What became of the queue. -/
def history : RuleNews → List QueueEvent
  | .submitted _ s ticket => [.accepted ⟨ticket, s.action⟩]
  | .refused .. | .unbuilt .. | .returned .. => []

end RuleNews

/-- What is seen of a reaction. -/
inductive ReactionEvent
  /-- What others, the worker, the actions and the time did to the queue. -/
  | others (es : List QueueEvent)
  /-- The reaction took a turn: what came of a rule and what the reaction returned. -/
  | turned (news : Option RuleNews) (result : Option (Except HandlerError Unit))
  | cancelled
  deriving DecidableEq, Repr

namespace ReactionEvent

def news? : ReactionEvent → Option RuleNews
  | .turned news _ => news
  | .others _ | .cancelled => none

/-- Whether the reaction is over with this. -/
def isEnd : ReactionEvent → Bool
  | .turned _ (some _) | .cancelled => true
  | .turned _ none | .others _ => false

/-- Whether the reaction took a turn in which it did not just wait. -/
def isMove : ReactionEvent → Bool
  | .turned news result => news.isSome || result.isSome
  | .others _ | .cancelled => false

def history : ReactionEvent → List QueueEvent
  | .others es => es
  | .turned news _ => news.elim [] RuleNews.history
  | .cancelled => []

end ReactionEvent

namespace ReactionCourse

section Projections
variable (tr : List (Nanos × ReactionEvent))

/-- What came of rules, in the order in which it did. -/
def newsOf : List RuleNews := tr.filterMap (·.2.news?)

/-- The steps that were to be submitted, with the rules that yielded them. -/
def attemptsOf : List (ℕ × LogWarden.Step) := (newsOf tr).filterMap (·.attempt?)

/-- The steps that were submitted, with their tickets. -/
def submissionsOf : List (LogWarden.Step × ℕ) := (newsOf tr).filterMap (·.submission?)

/-- How rules ended. -/
def outcomesOf : List (ℕ × Except HandlerError Unit) := (newsOf tr).filterMap (·.outcome?)

/-- Whether the reaction has returned or was cancelled. -/
def isOver : Bool := tr.any (·.2.isEnd)

/-- The history of the queue. -/
def historyOf : List QueueEvent := tr.flatMap (·.2.history)

end Projections

end ReactionCourse

namespace Reaction

/-- What a turn of a reaction shows of a rule. -/
def news? (r : Reaction) (q : Queue) (now : Nanos) : Option RuleNews :=
  match r.current, r.rest with
  | some (index, w), _ => (w.next q now).result?.map (.returned index)
  | none, (index, .ok s) :: _ =>
    match s.submit q now with
    | some (w, _) => some (.submitted index s w.ticket)
    | none => some (.refused index s)
  | none, (index, .error e) :: _ => some (.unbuilt index e)
  | none, [] => none

/-- The error that something ended with. -/
def failure? : Except HandlerError Unit → Option HandlerError
  | .error e => some e
  | .ok _ => none

/-- What a reaction returns, by its first failure. -/
def verdict : Option HandlerError → Except HandlerError Unit
  | some e => .error e
  | none => .ok ()

/-- What a turn of a reaction does: what it shows of a rule, what it returns, and what becomes of
the queue and of the reaction. -/
inductive Goes (r : Reaction) (q : Queue) (now : Nanos) :
    Option RuleNews → Option (Except HandlerError Unit) → Queue → Option Reaction → Prop
  | finish (hcurrent : r.current = none) (hrest : r.rest = []) :
      Goes r q now none (some (verdict r.failure)) q none
  | skip {index e rest} (hcurrent : r.current = none) (hrest : r.rest = (index, .error e) :: rest) :
      Goes r q now (some (.unbuilt index e)) none q
        (some ⟨r.kind, rest, none, r.failure.or (some (.command e))⟩)
  | refuse {index s rest} (hcurrent : r.current = none) (hrest : r.rest = (index, .ok s) :: rest)
      (h : q.isClosed = true) :
      Goes r q now (some (.refused index s)) none q
        (some ⟨r.kind, rest, none, r.failure.or (some (.action .queueClosed))⟩)
  | submit {index s rest queue} (hcurrent : r.current = none)
      (hrest : r.rest = (index, .ok s) :: rest)
      (h : q.submit s.action = some (q.accepted, queue)) :
      Goes r q now (some (.submitted index s q.accepted)) none queue
        (some ⟨r.kind, rest, some (index, ⟨q.accepted, some (now + s.limit, s.limit)⟩), r.failure⟩)
  | hear {index w res} (hcurrent : r.current = some (index, w)) (h : w.next q now = .ends res) :
      Goes r q now (some (.returned index res)) none q
        (some ⟨r.kind, r.rest, none, r.failure.or (failure? (res.mapError .action))⟩)
  | wait {index w} (hcurrent : r.current = some (index, w)) (h : w.next q now = .waits) :
      Goes r q now none none q (some r)

theorem goes (r : Reaction) (q : Queue) (now : Nanos) :
    r.Goes q now (r.news? q now) (r.next q now).2.1.result? (r.next q now).1
      ((r.next q now).2.1.rest? r) := by
  obtain ⟨kind, rest, current, failure⟩ := r
  cases current with
  | none =>
      cases rest with
      | nil => cases failure <;> exact .finish rfl rfl
      | cons x rest =>
          obtain ⟨index, e | s⟩ := x
          · exact .skip rfl rfl
          · cases hs : q.submit s.action with
            | none =>
                simp only [next, news?, failed, Step.submit, hs, Option.map_none]
                exact .refuse rfl rfl (Queue.submit_eq_none_iff.mp hs)
            | some y =>
                obtain ⟨ticket, queue⟩ := y
                obtain ⟨-, rfl, -⟩ := Queue.submit_eq_some_iff.mp hs
                simp only [next, news?, Step.submit, hs, Option.map_some]
                exact .submit rfl rfl hs
  | some x =>
      obtain ⟨index, w⟩ := x
      cases hn : w.next q now with
      | ends res =>
          have hgoes := @Goes.hear ⟨kind, rest, some (index, w), failure⟩ q now index w res rfl hn
          cases res with
          | ok =>
              simp only [Except.mapError, failure?, Option.or_none] at hgoes
              simp only [next, news?, hn]
              exact hgoes
          | error e =>
              simp only [next, news?, failed, hn]
              exact hgoes
      | goes w' => exact absurd hn TicketWait.next_ne_goes
      | waits =>
          simp only [next, news?, hn]
          exact .wait rfl hn

/-- A reaction has to wait only for the step that it submitted last. -/
theorem next_eq_waits {r : Reaction} {q : Queue} {now : Nanos}
    (h : (r.next q now).2.1 = .waits) :
    ∃ index w, r.current = some (index, w) ∧ w.next q now = .waits := by
  revert h
  fun_cases next r q now with
  | case4 index w hcurrent hnext => exact fun _ => ⟨index, w, hcurrent, hnext⟩
  | case1 | case2 | case3 | case5 | case6 | case7 | case8 =>
      intro h
      cases h

end Reaction

/-- A reaction that is run on a queue that others use. -/
structure ReactionCourse where
  usage : Usage
  /-- The reaction, unless it is over. -/
  reaction : Option Reaction

namespace ReactionCourse

/-- A turn of the reaction. -/
def turn (s : ReactionCourse) (r : Reaction) : ReactionCourse :=
  let (queue, turn, _) := r.next s.usage.queue s.usage.now
  ⟨{ s.usage with queue }, turn.rest? r⟩

/-- One step of the course of a reaction. -/
inductive Step (a : Actuator) (s : ReactionCourse) : ReactionEvent → ReactionCourse → Prop
  | others {es usage} (h : Usage.Step a s.usage es usage) : Step a s (.others es) { s with usage }
  | turn {r} (h : s.reaction = some r) :
      Step a s (.turned (r.news? s.usage.queue s.usage.now)
        (r.next s.usage.queue s.usage.now).2.1.result?) (s.turn r)
  | cancel {r} (h : s.reaction = some r) : Step a s .cancelled { s with reaction := none }

/-- The course of a reaction that begins where others use a queue, and what is seen of it, with the
time. -/
inductive Run (a : Actuator) (r : Reaction) (u : Usage) :
    List (Nanos × ReactionEvent) → ReactionCourse → Prop
  | start : Run a r u [] ⟨u, some r⟩
  | tail {tr s e s'} (run : Run a r u tr s) (step : Step a s e s') :
      Run a r u (tr ++ [(s.usage.now, e)]) s'

section Projections
variable (tr : List (Nanos × ReactionEvent)) (x : Nanos × ReactionEvent)

@[simp] theorem newsOf_append_singleton : newsOf (tr ++ [x]) = newsOf tr ++ x.2.news?.toList := by
  cases h : x.2.news? <;> simp [newsOf, h]

@[simp] theorem isOver_append_singleton : isOver (tr ++ [x]) = (isOver tr || x.2.isEnd) := by
  simp [isOver]

@[simp] theorem historyOf_append_singleton :
    historyOf (tr ++ [x]) = historyOf tr ++ x.2.history := by
  simp [historyOf]

end Projections

/-- What is told once the reaction is done with some of the rules that fired: of each of them, in
order, that it yielded no step, that its step was refused, or that its step was submitted and how
the wait for it ended. -/
inductive Told : List (ℕ × Except CommandError LogWarden.Step) → List RuleNews → Prop
  | nil : Told [] []
  | unbuilt {done news index e} (told : Told done news) :
      Told (done ++ [(index, .error e)]) (news ++ [.unbuilt index e])
  | refused {done news index s} (told : Told done news) :
      Told (done ++ [(index, .ok s)]) (news ++ [.refused index s])
  | returned {done news index s ticket r} (told : Told done news) :
      Told (done ++ [(index, .ok s)]) (news ++ [.submitted index s ticket, .returned index r])

/-- What is told of the rules that fired at any time: those that the reaction is done with, and
maybe that the step of the next one was submitted. -/
inductive Reported (fired : List (ℕ × Except CommandError LogWarden.Step)) : List RuleNews → Prop
  | between {done rest news} (split : fired = done ++ rest) (told : Told done news) :
      Reported fired news
  | waiting {done rest news index s ticket} (split : fired = done ++ (index, .ok s) :: rest)
      (told : Told done news) : Reported fired (news ++ [.submitted index s ticket])

/-- The first error that rules ended with. -/
def firstFailure (outcomes : List (ℕ × Except HandlerError Unit)) : Option HandlerError :=
  outcomes.findSome? fun x => Reaction.failure? x.2

/-- Where a reaction stands by what has been seen of it: with which of the rules that fired it is
done, and for the step of which rule it waits. -/
inductive Stands (r₀ : Reaction) (tr : List (Nanos × ReactionEvent)) : Option Reaction → Prop
  /-- The reaction is about to turn to a rule or to return. -/
  | between {done rest} (split : r₀.rest = done ++ rest) (told : Told done (newsOf tr))
      (going : isOver tr = false) :
      Stands r₀ tr (some ⟨r₀.kind, rest, none, firstFailure (outcomesOf tr)⟩)
  /-- The reaction waits for the step that was submitted last. -/
  | waiting {done rest news index s ticket t} (split : r₀.rest = done ++ (index, .ok s) :: rest)
      (told : Told done news) (last : newsOf tr = news ++ [.submitted index s ticket])
      (going : isOver tr = false)
      (submitted : (t, .turned (some (.submitted index s ticket)) none) ∈ tr) :
      Stands r₀ tr
        (some ⟨r₀.kind, rest, some (index, ⟨ticket, some (t + s.limit, s.limit)⟩),
          firstFailure (outcomesOf tr)⟩)
  | ended (reported : Reported r₀.rest (newsOf tr)) (hover : isOver tr = true) : Stands r₀ tr none

variable {a : Actuator} {r₀ : Reaction} {u : Usage} {s s' : ReactionCourse} {e : ReactionEvent}
variable {tr tr₁ tr₂ : List (Nanos × ReactionEvent)} {t : Nanos} {reaction : Option Reaction}
variable {q queue : Queue} {news : Option RuleNews} {res : Option (Except HandlerError Unit)}

theorem firstFailure_append_singleton (outcomes : List (ℕ × Except HandlerError Unit))
    (x : ℕ × Except HandlerError Unit) :
    firstFailure (outcomes ++ [x]) = (firstFailure outcomes).or (Reaction.failure? x.2) := by
  simp [firstFailure, List.findSome?_append]

/-- What becomes of the course of a reaction in one step. -/
inductive Change (a : Actuator) (s : ReactionCourse) : ReactionEvent → ReactionCourse → Prop
  | others {es usage} (h : Usage.Step a s.usage es usage) :
      Change a s (.others es) { s with usage }
  | turn {r : Reaction} {news res queue reaction} (h : s.reaction = some r)
      (goes : r.Goes s.usage.queue s.usage.now news res queue reaction) :
      Change a s (.turned news res) ⟨{ s.usage with queue }, reaction⟩
  | cancel {r} (h : s.reaction = some r) : Change a s .cancelled { s with reaction := none }

theorem Step.change (step : Step a s e s') : Change a s e s' := by
  cases step with
  | others h => exact .others h
  | turn h => exact .turn h (Reaction.goes ..)
  | cancel h => exact .cancel h

namespace Stands

variable {r : Reaction}

theorem reported (h : Stands r₀ tr reaction) : Reported r₀.rest (newsOf tr) := by
  cases h with
  | between split told => exact .between split told
  | waiting split told last => exact last ▸ .waiting split told
  | ended reported => exact reported

theorem going (h : Stands r₀ tr (some r)) : isOver tr = false := by
  cases h with
  | between _ _ going | waiting _ _ _ going => exact going

/-- What is not seen of the reaction itself leaves it where it stands. -/
theorem frame (h : Stands r₀ tr reaction) {x : Nanos × ReactionEvent} (hnews : x.2.news? = none)
    (hend : x.2.isEnd = false) : Stands r₀ (tr ++ [x]) reaction := by
  have hnewsOf : newsOf (tr ++ [x]) = newsOf tr := by simp [hnews]
  have hsame : isOver (tr ++ [x]) = isOver tr := by simp [hend]
  have houtcomes : outcomesOf (tr ++ [x]) = outcomesOf tr := by rw [outcomesOf, hnewsOf, outcomesOf]
  cases h with
  | between split told going =>
      exact houtcomes ▸ .between split (by rwa [hnewsOf]) (by rwa [hsame])
  | waiting split told last going submitted =>
      exact houtcomes ▸ .waiting split told (by rwa [hnewsOf]) (by rwa [hsame])
        (List.mem_append_left _ submitted)
  | ended reported hover => exact .ended (by rwa [hnewsOf]) (by rwa [hsame])

/-- A reaction that returns or is cancelled is over. -/
theorem finish (h : Stands r₀ tr reaction) {x : Nanos × ReactionEvent} (hnews : x.2.news? = none)
    (hend : x.2.isEnd = true) : Stands r₀ (tr ++ [x]) none :=
  .ended (by simpa [hnews] using h.reported) (by simp [hend])

/-- When it is told how a rule ended, the reaction is done with it. -/
theorem settle {done rest : List (ℕ × Except CommandError LogWarden.Step)}
    {x : ℕ × Except CommandError LogWarden.Step} {y : ℕ × Except HandlerError Unit} {n : RuleNews}
    (split : r₀.rest = done ++ x :: rest) (told : Told (done ++ [x]) (newsOf tr ++ [n]))
    (going : isOver tr = false) (hn : n.outcome? = some y) :
    Stands r₀ (tr ++ [(t, .turned (some n) none)])
      (some ⟨r₀.kind, rest, none, (firstFailure (outcomesOf tr)).or (Reaction.failure? y.2)⟩) := by
  have hnews : newsOf (tr ++ [(t, .turned (some n) none)]) = newsOf tr ++ [n] :=
    newsOf_append_singleton ..
  have hfailure : firstFailure (outcomesOf (tr ++ [(t, .turned (some n) none)])) =
      (firstFailure (outcomesOf tr)).or (Reaction.failure? y.2) := by
    rw [← firstFailure_append_singleton]
    simp [outcomesOf, hnews, hn]
  have hgoing : isOver (tr ++ [(t, .turned (some n) none)]) = false := by
    simp [going, ReactionEvent.isEnd]
  rw [← hfailure]
  exact .between (by rw [split, List.append_cons]) (hnews ▸ told) hgoing

/-- A turn takes the reaction to where the news say that it stands. -/
theorem turn (h : Stands r₀ tr (some r)) (goes : r.Goes q t news res queue reaction) :
    Stands r₀ (tr ++ [(t, .turned news res)]) reaction := by
  cases goes with
  | finish => exact h.finish rfl rfl
  | wait => exact h.frame rfl rfl
  | skip hcurrent hrest =>
      cases h with
      | between split told going =>
          obtain rfl := hrest
          exact settle split (.unbuilt told) going rfl
      | waiting => cases hcurrent
  | refuse hcurrent hrest =>
      cases h with
      | between split told going =>
          obtain rfl := hrest
          exact settle split (.refused told) going rfl
      | waiting => cases hcurrent
  | @submit index s rest queue hcurrent hrest =>
      cases h with
      | between split told going =>
          obtain rfl := hrest
          have hlast : newsOf (tr ++ [(t, .turned (some (.submitted index s q.accepted)) none)]) =
              newsOf tr ++ [.submitted index s q.accepted] := newsOf_append_singleton ..
          have houtcomes : outcomesOf tr =
              outcomesOf (tr ++ [(t, .turned (some (.submitted index s q.accepted)) none)]) := by
            simp [outcomesOf, hlast, RuleNews.outcome?]
          rw [houtcomes]
          refine .waiting split told hlast ?_ (by simp)
          simp [going, ReactionEvent.isEnd]
      | waiting => cases hcurrent
  | @hear index w res hcurrent hends =>
      have hn : (RuleNews.returned index res).outcome? = some (index, res.mapError .action) := rfl
      cases h with
      | between => cases hcurrent
      | waiting split told last going =>
          obtain ⟨rfl, -⟩ := Prod.mk.inj (Option.some.inj hcurrent)
          refine settle split ?_ going hn
          rw [last, List.append_assoc]
          exact .returned told

theorem change (h : Stands r₀ tr s.reaction) (change : Change a s e s') :
    Stands r₀ (tr ++ [(s.usage.now, e)]) s'.reaction := by
  cases change with
  | others => exact h.frame rfl rfl
  | turn hreaction goes =>
      rw [hreaction] at h
      exact h.turn goes
  | cancel => exact h.finish rfl rfl

end Stands

theorem Run.stands (hcurrent : r₀.current = none) (hfailure : r₀.failure = none)
    (run : Run a r₀ u tr s) : Stands r₀ tr s.reaction := by
  induction run with
  | start =>
      obtain ⟨kind, rest, current, failure⟩ := r₀
      obtain rfl := hcurrent
      obtain rfl := hfailure
      exact .between rfl .nil rfl
  | tail _ step ih => exact ih.change step.change

theorem Change.queue_steps (change : Change a s e s') :
    Queue.Steps a s.usage.queue e.history s'.usage.queue := by
  cases change with
  | others h => exact h.queue_steps
  | turn _ goes =>
      cases goes with
      | submit _ _ hs => exact .single (.submit hs)
      | finish | skip | refuse | hear | wait => exact .refl
  | cancel => exact .refl

/-- What becomes of the queue is a run of the queue. -/
theorem Run.queue_run (run : Run a r₀ u tr s) {tr₀ : List QueueEvent} (run₀ : Usage.Run a tr₀ u) :
    Queue.Run a (tr₀ ++ historyOf tr) s.usage.queue := by
  induction run with
  | start => simpa [historyOf] using run₀.queue_run
  | tail _ step ih =>
      rw [historyOf_append_singleton, ← List.append_assoc]
      exact ih.trans step.change.queue_steps

/-- What is seen is seen in a step, and what becomes of the queue later are steps of the queue. -/
theorem Run.exists_step (run : Run a r₀ u tr s) (htr : tr = tr₁ ++ (t, e) :: tr₂) :
    ∃ s₁ s₂, Run a r₀ u tr₁ s₁ ∧ s₁.usage.now = t ∧ Change a s₁ e s₂ ∧
      ∃ es, Queue.Steps a s₁.usage.queue es s.usage.queue := by
  induction run generalizing tr₂ with
  | start => simp at htr
  | @tail tr s₁ e' s₂ run step ih =>
      rcases append_singleton_split htr with ⟨-, rfl, hlast⟩ | ⟨tr₃, -, hrest⟩
      · obtain ⟨rfl, rfl⟩ := Prod.mk.inj hlast
        exact ⟨s₁, s₂, run, rfl, step.change, _, step.change.queue_steps⟩
      · obtain ⟨s₀, s₁', run₀, hnow, change, es, steps⟩ := ih hrest
        exact ⟨s₀, s₁', run₀, hnow, change, _, steps.trans step.change.queue_steps⟩

/-- A turn of a reaction that is seen was taken where the reaction went on. -/
theorem Run.exists_turn (run : Run a r₀ u tr s) (htr : tr = tr₁ ++ (t, .turned news res) :: tr₂) :
    ∃ s₁ r queue reaction, Run a r₀ u tr₁ s₁ ∧ s₁.reaction = some r ∧ s₁.usage.now = t ∧
      r.Goes s₁.usage.queue t news res queue reaction ∧
      ∃ es, Queue.Steps a s₁.usage.queue es s.usage.queue := by
  obtain ⟨s₁, s₂, run₁, rfl, change, later⟩ := run.exists_step htr
  cases change with
  | turn hreaction goes => exact ⟨s₁, _, _, _, run₁, hreaction, rfl, goes, later⟩

end ReactionCourse

end LogWarden
