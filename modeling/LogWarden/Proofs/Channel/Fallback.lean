import Mathlib.Data.List.Induction
import LogWarden.Proofs.Channel.Notes

/-!
# Answers without an echo

A call whose probe could not be sent answers with the channel last seen. A call that gives up
waiting for its echo answers with the channel that had been seen when its wait began. The player may
have written in another channel since, and then the answer is not the channel last seen.
-/

namespace LogWarden

/-- The channel of a message of the player's. -/
def TrackerEvent.channel? : TrackerEvent → Option String
  | .heard channel _ => some channel
  | .asked .. | .typed _ | .answered .. | .dropped _ | .clock _ => none

/-- The channel of the last message of the player's, or the one in which a tracker starts. -/
def lastSeen (tr : List TrackerEvent) : String :=
  (tr.filterMap TrackerEvent.channel?).getLast?.getD "global"

variable {user : String} {limit : Nanos} {q : Queue} {moves : List TrackerMove} {m : TrackerMove}
variable {b : Notes} {tr : List TrackerEvent} {n : ℕ} {how : AnswerSource} {v : String}

theorem Notes.seen_afterAll :
    (b.afterAll tr).seen = (tr.filterMap TrackerEvent.channel?).getLast?.getD b.seen := by
  induction tr generalizing b with
  | nil => rfl
  | cons e rest ih =>
      rw [Notes.afterAll_cons, ih]
      cases e with
      | heard channel content => simp [TrackerEvent.channel?, Notes.after, List.getLast?_cons]
      | asked | typed | answered | dropped | clock => rfl

theorem seen_notes : (notes tr).seen = lastSeen tr := Notes.seen_afterAll

/-- What the tracker has cached is the channel of the last message of the player's. -/
theorem current_eq_lastSeen (user : String) (limit : Nanos) (q : Queue) (moves : List TrackerMove) :
    ((Asking.start user limit q).run moves).tracker.current =
      lastSeen ((Asking.start user limit q).history moves) :=
  (notes_fits user limit q moves).current.trans seen_notes

theorem lastSeen_append {tr' : List TrackerEvent} :
    lastSeen (tr ++ tr') = (tr'.filterMap TrackerEvent.channel?).getLast?.getD (lastSeen tr) := by
  rw [← seen_notes, notes_append, Notes.seen_afterAll, seen_notes]

/-- What is shown next begins a wait of which there is a note then, or there was one before. -/
theorem Notes.wait_after {e : TrackerEvent} {k : CallNote} {w : Nanos × String}
    (hk : (b.after e).calls[n]? = some k) (hwait : k.wait = some w) :
    e = .typed n ∧ w.2 = b.seen ∨ ∃ k₀, b.calls[n]? = some k₀ ∧ k₀.wait = some w := by
  cases e with
  | heard channel content =>
      obtain ⟨k₀, hk₀, rfl⟩ := by simpa [Notes.after] using hk
      exact .inr ⟨k₀, hk₀, by simpa using hwait⟩
  | asked _ id =>
      simp only [Notes.after, List.getElem?_append] at hk
      split at hk
      · exact .inr ⟨k, hk, hwait⟩
      · obtain rfl := List.mem_singleton.mp (List.mem_of_getElem? hk)
        cases hwait
  | typed n' =>
      simp only [Notes.after, List.getElem?_modify, Option.map_eq_map, Option.map_eq_some_iff] at hk
      obtain ⟨k₀, hk₀, rfl⟩ := hk
      split at hwait
      · next h =>
          obtain rfl := Option.some.inj hwait
          exact .inl ⟨by rw [h], rfl⟩
      · exact .inr ⟨k₀, hk₀, hwait⟩
  | answered n' | dropped n' =>
      simp only [Notes.after, List.getElem?_modify, Option.map_eq_map, Option.map_eq_some_iff] at hk
      obtain ⟨k₀, hk₀, rfl⟩ := hk
      split at hwait <;> exact .inr ⟨k₀, hk₀, hwait⟩
  | clock now => exact .inr ⟨k, hk, hwait⟩

/-- A wait of which there is a note began as it was shown. -/
theorem exists_typed_of_wait {k : CallNote} {w : Nanos × String}
    (hk : (notes tr).calls[n]? = some k) (hwait : k.wait = some w) :
    ∃ before after, tr = before ++ .typed n :: after ∧ w.2 = lastSeen before := by
  induction tr using List.reverseRecOn generalizing k with
  | nil => cases hk
  | append_singleton tr e ih =>
      rw [notes_append, Notes.afterAll_cons, Notes.afterAll_nil] at hk
      obtain ⟨rfl, hw⟩ | ⟨k₀, hk₀, hwait₀⟩ := Notes.wait_after hk hwait
      · exact ⟨tr, [], rfl, hw.trans seen_notes⟩
      · obtain ⟨before, after, rfl, hw⟩ := ih hk₀ hwait₀
        exact ⟨before, after ++ [e], by simp, hw⟩

/-- A call whose probe could not be sent answers with what the tracker has cached as it answers. A
call that gives up its wait answers with what was cached when the wait began, and this is what is
cached as it answers exactly if the last message of the player's since then, if there is one, was
written in the same channel. -/
theorem unechoed_answer_eq_cached_iff
    (hanswer : .answered n how v ∈ (((Asking.start user limit q).run moves).step m).2)
    (hecho : how ≠ .echoed) :
    let s := (Asking.start user limit q).run (moves ++ [m])
    let tr := (Asking.start user limit q).history (moves ++ [m])
    s.tracker.current = lastSeen tr ∧
      (how = .unsent ∧ v = s.tracker.current ∨
        how = .expired ∧ ∃ before after, tr = before ++ .typed n :: after ∧ v = lastSeen before ∧
          (v = s.tracker.current ↔
            ∀ channel ∈ (after.filterMap TrackerEvent.channel?).getLast?, channel = v)) := by
  intro s tr
  have hseen : s.tracker.current = lastSeen tr := current_eq_lastSeen user limit q _
  refine ⟨hseen, ?_⟩
  obtain ⟨tr₁, tr₂, hstep⟩ := List.append_of_mem hanswer
  have hchange := ((Asking.start user limit q).run moves).step_change m
  rw [hstep] at hchange
  obtain ⟨rfl, k, hk, -, hcases⟩ := (notes_fits user limit q moves).answered hchange
  rw [← notes_append] at hk hcases
  have htr : tr =
      (Asking.start user limit q).history moves ++ tr₁ ++ [.answered n how v] := by
    simp [tr, Asking.history_append, hstep]
  obtain ⟨rfl, -, hv⟩ | ⟨rfl, -⟩ | ⟨rfl, -, -, since, hwait, -⟩ := hcases
  · refine .inl ⟨rfl, ?_⟩
    rw [hv, hseen, htr, lastSeen_append, seen_notes]
    rfl
  · exact absurd rfl hecho
  · obtain ⟨before, after, hbefore, hlast⟩ := exists_typed_of_wait hk hwait
    have hshown : tr = before ++ .typed n :: (after ++ [.answered n .expired v]) := by
      rw [htr, hbefore, List.append_assoc, List.cons_append]
    refine .inr ⟨rfl, before, after ++ [.answered n .expired v], hshown, hlast, ?_⟩
    -- that the wait begins is no message, so what was seen until then is `v` on both sides
    rw [hseen, hshown, lastSeen_append, ← hlast, List.filterMap_cons_none rfl]
    cases (List.filterMap TrackerEvent.channel? _).getLast? with
    | none => simp
    | some channel => simp [eq_comm]

/-- While a call waits for its echo, the player writes in another channel. -/
def writesMeanwhile : List TrackerMove :=
  .ask "0badcafe" :: List.replicate 6 .work ++
    [.turn 0, .hear ⟨"message", .message "" "tc" "" "Steve" "hi"⟩, .clock 100]

/-- The call answers with the channel in which the tracker started. -/
theorem unechoed_answer_of_writesMeanwhile :
    let s := (Asking.start "Steve" 100 .start).run (writesMeanwhile ++ [.turn 0])
    let tr := (Asking.start "Steve" 100 .start).history (writesMeanwhile ++ [.turn 0])
    .answered 0 .expired "global" ∈
        (((Asking.start "Steve" 100 .start).run writesMeanwhile).step (.turn 0)).2 ∧
      s.tracker.current = "tc" ∧
      ∃ before after, tr = before ++ .typed 0 :: after ∧ "global" = lastSeen before := by
  intro s tr
  have hanswer : .answered 0 .expired "global" ∈
      (((Asking.start "Steve" 100 .start).run writesMeanwhile).step (.turn 0)).2 := by decide
  obtain ⟨hseen, ⟨hunsent, -⟩ | ⟨-, before, after, hshown, hlast, -⟩⟩ :=
    unechoed_answer_eq_cached_iff hanswer (by decide)
  · cases hunsent
  · exact ⟨hanswer, hseen, before, after, hshown, hlast⟩

/-- So it is not true that every answer without an echo is the channel that is cached. -/
theorem not_unechoed_answer_eq_cached :
    ¬∀ (user : String) (limit : Nanos) (q : Queue) (moves : List TrackerMove) (m : TrackerMove)
        (n : ℕ) (how : AnswerSource) (v : String),
      .answered n how v ∈ (((Asking.start user limit q).run moves).step m).2 → how ≠ .echoed →
        v = ((Asking.start user limit q).run (moves ++ [m])).tracker.current := by
  intro hclaim
  have hglobal := hclaim "Steve" 100 .start writesMeanwhile (.turn 0) 0 .expired "global"
    (by decide) (by decide)
  exact absurd hglobal (by decide)

end LogWarden
