import LogWarden.Proofs.Channel.Asking
import LogWarden.Proofs.Lists

/-!
# Notes of the calls for a channel

Notes are taken of what a run shows: the channel last seen, and for each call the identifier of its
probe, its echo and when it began to wait. They say what a call is to answer, and they agree with
where the calls stand.
-/

namespace LogWarden

/-- What is known of a call from what it has shown. -/
structure CallNote where
  id : String
  /-- The channel of the first message with the call's probe in it, unless the call was over. -/
  echo : Option String
  /-- When the wait for the echo began, and the channel last seen then. -/
  wait : Option (Nanos × String)
  isOver : Bool
  deriving DecidableEq, Repr

namespace CallNote

def start (id : String) : CallNote := ⟨id, none, none, false⟩

/-- Whether a call is under way and its probe has not been echoed. -/
def isWaiting (k : CallNote) : Bool := !k.isOver && k.echo.isNone

/-- A call behind a message of the player's. -/
def hear (channel content : String) (k : CallNote) : CallNote :=
  if k.isWaiting && isEcho content k.id then { k with echo := some channel } else k

def finish (k : CallNote) : CallNote := { k with isOver := true }

/-- What a call answers if it answers now, and how it comes to that. A call whose probe could not be
sent answers with the channel last seen, and the others with their echo or, without one, with the
channel that had been seen when their wait began. -/
def answer (k : CallNote) (seen : String) : AnswerSource × String :=
  match k.wait, k.echo with
  | none, _ => (.unsent, seen)
  | some _, some channel => (.echoed, channel)
  | some (_, fallback), none => (.expired, fallback)

end CallNote

/-- What is known of a tracker and its calls from what they have shown. -/
structure Notes where
  now : Nanos
  /-- The channel of the last message of the player's. -/
  seen : String
  calls : List CallNote
  deriving DecidableEq, Repr

namespace Notes

def start : Notes := ⟨0, "global", []⟩

def after (b : Notes) : TrackerEvent → Notes
  | .heard channel content =>
    { b with seen := channel, calls := b.calls.map (.hear channel content) }
  | .asked _ id => { b with calls := b.calls ++ [.start id] }
  | .typed n =>
    { b with calls := b.calls.modify n fun k => { k with wait := some (b.now, b.seen) } }
  | .answered n .. | .dropped n => { b with calls := b.calls.modify n .finish }
  | .clock now => { b with now }

/-- The notes of what comes behind notes. -/
def afterAll (b : Notes) (tr : List TrackerEvent) : Notes := tr.foldl after b

end Notes

/-- The notes of what a tracker and its calls have shown. -/
def notes (tr : List TrackerEvent) : Notes := Notes.start.afterAll tr

/-- A note of a call agrees with where the call stands. -/
inductive CallNote.Fits (limit : Nanos) : CallNote → ChannelCall → Prop
  | typing {id echo w} : Fits limit ⟨id, echo, none, false⟩ (.typing id w)
  | listening {id echo since fallback} :
      Fits limit ⟨id, echo, some (since, fallback), false⟩
        (.listening ⟨id, since + limit, fallback⟩)
  | answered {k channel} (h : k.isOver = true) : Fits limit k (.answered channel)
  | dropped {k} (h : k.isOver = true) : Fits limit k .dropped

/-- Notes agree with a tracker and its calls. -/
structure Notes.Fits (b : Notes) (s : Asking) : Prop where
  now : s.now = b.now
  current : s.tracker.current = b.seen
  calls : List.Forall₂ (CallNote.Fits s.tracker.probeTimeout) b.calls s.calls

namespace CallNote

variable {k : CallNote} {channel content : String}

@[simp] theorem hear_id : (k.hear channel content).id = k.id := by
  unfold hear
  split <;> rfl

@[simp] theorem hear_wait : (k.hear channel content).wait = k.wait := by
  unfold hear
  split <;> rfl

@[simp] theorem hear_isOver : (k.hear channel content).isOver = k.isOver := by
  unfold hear
  split <;> rfl

theorem Fits.hear {limit : Nanos} {c : ChannelCall} (h : k.Fits limit c) :
    (k.hear channel content).Fits limit c := by
  cases h with
  | typing => unfold CallNote.hear; split <;> exact .typing
  | listening => unfold CallNote.hear; split <;> exact .listening
  | answered h => exact .answered (by rwa [hear_isOver])
  | dropped h => exact .dropped (by rwa [hear_isOver])

end CallNote

section Runs

variable {s s' : Asking} {b : Notes} {tr tr' : List TrackerEvent}

@[simp] theorem Notes.afterAll_nil : b.afterAll [] = b := rfl

@[simp] theorem Notes.afterAll_cons {e : TrackerEvent} :
    b.afterAll (e :: tr) = (b.after e).afterAll tr := rfl

theorem Notes.afterAll_append : b.afterAll (tr ++ tr') = (b.afterAll tr).afterAll tr' :=
  List.foldl_append

theorem notes_append : notes (tr ++ tr') = (notes tr).afterAll tr' := List.foldl_append

namespace Notes.Fits

theorem start (user : String) (limit : Nanos) (q : Queue) :
    Notes.start.Fits (.start user limit q) :=
  ⟨rfl, rfl, .nil⟩

/-- The note of a call that stands somewhere. -/
theorem note (h : b.Fits s) {n : ℕ} {c : ChannelCall} (hc : s.calls[n]? = some c) :
    ∃ k, b.calls[n]? = some k ∧ k.Fits s.tracker.probeTimeout c :=
  exists_of_forall₂ h.calls hc

theorem change (h : b.Fits s) (c : s.Change tr s') : (b.afterAll tr).Fits s' := by
  obtain ⟨hnow, hcurrent, hcalls⟩ := h
  cases c with
  | quiet => exact ⟨hnow, hcurrent, hcalls⟩
  | heard channel content =>
      exact ⟨hnow, rfl, List.forall₂_map_left_iff.mpr (hcalls.imp fun _ _ hfit => hfit.hear)⟩
  | asked id queue w =>
      exact ⟨hnow, hcurrent, List.rel_append hcalls (.cons .typing .nil)⟩
  | refused id =>
      have hasked : List.Forall₂ (CallNote.Fits s.tracker.probeTimeout) (b.calls ++ [.start id])
          (s.calls ++ [.typing id ⟨0, none⟩]) := List.rel_append hcalls (.cons .typing .nil)
      have hended := forall₂_modify_set (n := s.calls.length) (f := .finish)
        (b := .answered s.tracker.current) hasked fun k hk => .answered rfl
      rw [List.set_append_right _ _ (Nat.le_refl _), Nat.sub_self] at hended
      exact ⟨hnow, hcurrent, hended⟩
  | typed hc =>
      refine ⟨hnow, hcurrent, forall₂_modify_set hcalls fun k hk => ?_⟩
      obtain ⟨k', hk', hfit⟩ := exists_of_forall₂ hcalls hc
      obtain rfl : k' = k := Option.some.inj (hk'.symm.trans hk)
      rw [hnow, hcurrent]
      cases hfit
      exact .listening
  | unsent | echoed | expired =>
      exact ⟨hnow, hcurrent, forall₂_modify_set hcalls fun k hk => .answered rfl⟩
  | dropped =>
      exact ⟨hnow, hcurrent, forall₂_modify_set hcalls fun k hk => .dropped rfl⟩
  | clock now => exact ⟨rfl, hcurrent, hcalls⟩

/-- How a call comes to an answer, and what is noted of it until then. -/
theorem answered (h : b.Fits s) {tr₁ tr₂ : List TrackerEvent} {n : ℕ} {how : AnswerSource}
    {v : String} (c : s.Change (tr₁ ++ .answered n how v :: tr₂) s') :
    tr₂ = [] ∧ ∃ k, (b.afterAll tr₁).calls[n]? = some k ∧ k.isOver = false ∧
      (how = .unsent ∧ k.wait = none ∧ v = (b.afterAll tr₁).seen ∨
        how = .echoed ∧ tr₁ = [] ∧ k.wait.isSome ∧ s.tracker.probes.value? k.id = some v ∨
        how = .expired ∧ tr₁ = [] ∧ s.tracker.probes.value? k.id = none ∧
          ∃ since, k.wait = some (since, v) ∧ since + s.tracker.probeTimeout ≤ b.now) := by
  generalize htr : tr₁ ++ .answered n how v :: tr₂ = tr at c
  cases c with
  | quiet | heard | asked | typed | dropped | clock => simp [List.append_eq_cons_iff] at htr
  | refused id =>
      have hlen : b.calls.length = s.calls.length := h.calls.length_eq
      obtain _ | ⟨first, rest⟩ := tr₁
      · simp at htr
      obtain ⟨rfl, hrest⟩ := List.cons.inj htr
      obtain ⟨rfl, ⟨rfl, rfl, rfl⟩, rfl⟩ := by simpa [List.append_eq_cons_iff] using hrest
      exact ⟨rfl, .start id, by simp [Notes.afterAll, Notes.after, ← hlen], rfl,
        .inl ⟨rfl, rfl, h.current⟩⟩
  | unsent hc =>
      obtain ⟨rfl, ⟨rfl, rfl, rfl⟩, rfl⟩ := by simpa [List.append_eq_cons_iff] using htr
      obtain ⟨k, hk, hfit⟩ := h.note hc
      cases hfit
      exact ⟨rfl, _, hk, rfl, .inl ⟨rfl, rfl, h.current⟩⟩
  | echoed hc hv =>
      obtain ⟨rfl, ⟨rfl, rfl, rfl⟩, rfl⟩ := by simpa [List.append_eq_cons_iff] using htr
      obtain ⟨k, hk, hfit⟩ := h.note hc
      cases hfit
      exact ⟨rfl, _, hk, rfl, .inr (.inl ⟨rfl, rfl, rfl, hv⟩)⟩
  | expired hc hv hlate =>
      obtain ⟨rfl, ⟨rfl, rfl, rfl⟩, rfl⟩ := by simpa [List.append_eq_cons_iff] using htr
      obtain ⟨k, hk, hfit⟩ := h.note hc
      cases hfit with
      | listening =>
          exact ⟨rfl, _, hk, rfl, .inr (.inr ⟨rfl, rfl, hv, _, rfl, h.now ▸ hlate⟩)⟩

theorem run (h : b.Fits s) (moves : List TrackerMove) :
    (b.afterAll (s.history moves)).Fits (s.run moves) := by
  induction moves generalizing b s with
  | nil => exact h
  | cons m rest ih =>
      rw [Asking.history_cons, Notes.afterAll_append]
      exact ih (h.change (s.step_change m))

end Notes.Fits

/-- The notes of a run agree with the tracker and its calls. -/
theorem notes_fits (user : String) (limit : Nanos) (q : Queue) (moves : List TrackerMove) :
    (notes ((Asking.start user limit q).history moves)).Fits
      ((Asking.start user limit q).run moves) :=
  (Notes.Fits.start user limit q).run moves

end Runs

end LogWarden
