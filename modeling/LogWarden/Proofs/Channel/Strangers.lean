import LogWarden.Proofs.Channel.Asking

/-!
# Others do not reach the tracker

Only the messages of its own user reach a tracker. What others write changes nothing, be it the text
of a probe that is waited for.
-/

namespace LogWarden

/-- Whether a move reaches the tracker of a user. Of all events, only the messages of that user do.
-/
def TrackerMove.reaches (user : String) : TrackerMove → Bool
  | .hear e => (e.messageOf? user).isSome
  | .ask _ | .turn _ | .drop _ | .queue _ | .clock _ => true

namespace Asking

variable {s : Asking} {m : TrackerMove} {moves : List TrackerMove}

theorem step_of_not_reaches (h : m.reaches s.tracker.userId = false) : s.step m = (s, []) := by
  cases m with
  | hear e =>
      have hnone : e.messageOf? s.tracker.userId = none := by
        simpa [TrackerMove.reaches] using h
      simp [step, hnone, ChannelTracker.react_of_stranger hnone]
  | ask | turn | drop | queue | clock => cases h

/-- Without what does not reach the tracker, a run goes the same way and shows the same. -/
theorem filter_reaches (s : Asking) (moves : List TrackerMove) :
    s.run (moves.filter (·.reaches s.tracker.userId)) = s.run moves ∧
      s.history (moves.filter (·.reaches s.tracker.userId)) = s.history moves := by
  induction moves generalizing s with
  | nil => exact ⟨rfl, rfl⟩
  | cons m rest ih =>
      cases h : m.reaches s.tracker.userId with
      | false =>
          rw [List.filter_cons_of_neg (by simp [h]), run_cons, history_cons,
            step_of_not_reaches h]
          exact ih s
      | true =>
          have hrest := ih (s.step m).1
          rw [(s.step_change m).settings.1] at hrest
          rw [List.filter_cons_of_pos h, run_cons, run_cons, history_cons, history_cons, hrest.2]
          exact ⟨hrest.1, rfl⟩

end Asking

/-- If the events are left out that are no messages of the user, then at every time the tracker has
the same channel cached and the same probes pending, and the calls stand where they stood; and the
calls come to the same answers in the same way. -/
theorem strangers_ignored (s : Asking) (moves : List TrackerMove) :
    let own := TrackerMove.reaches s.tracker.userId
    (∀ n, s.run ((moves.take n).filter own) = s.run (moves.take n)) ∧
      s.history (moves.filter own) = s.history moves :=
  ⟨fun n => (s.filter_reaches (moves.take n)).1, (s.filter_reaches moves).2⟩

/-- A stranger who copies the text of a probe does not answer it. -/
example :
    let s := (Asking.start "Steve" 100 .start).run
      [.ask "0badcafe", .hear ⟨"message", .message "" "tc" "" "Alex" "channel_scan:0badcafe"⟩]
    s.tracker.current = "global" ∧ s.tracker.probes.pending = ["0badcafe"] := by
  decide

end LogWarden
