import LogWarden.Service.Channel

/-!
# The tracker at work

Events reach the tracker at any time, and any number of calls may ask it for the channel at once.
What happens comes in any order: an event is reacted to, a call begins, takes a turn or is dropped,
others use the queue, the clock goes on.

## Implementation notes

A call begins with its first turn, since before that turn it has done nothing. Nothing is assumed of
the queue: between two turns it may become any queue, so there are more runs here than those in
which its worker and its submitters take turns of their own. Nor need the times be in order.
-/

namespace LogWarden

/-- What happens to a tracker or to those who ask it. -/
inductive TrackerMove
  /-- An event is reacted to. -/
  | hear (e : Event)
  /-- A call begins, with an identifier for its probe. -/
  | ask (id : String)
  /-- The call with a number takes a turn. -/
  | turn (n : Nat)
  | drop (n : Nat)
  /-- Others use the queue, or its worker and its actions go on. -/
  | queue (f : Queue → Queue)
  /-- It is another time. -/
  | clock (now : Nanos)

/-- The worker of the queue, or the action it waits for, goes on with something. -/
def TrackerMove.work : TrackerMove :=
  .queue fun q => ((q.work .dryRun 0).map (·.1)).getD q

/-- How a call came to its answer. -/
inductive AnswerSource
  /-- The probe could not be sent. -/
  | unsent
  | echoed
  /-- The wait for the echo was given up. -/
  | expired
  deriving DecidableEq, Repr

/-- What a run of a tracker shows. -/
inductive TrackerEvent
  /-- A message of the player's was reacted to. -/
  | heard (channel content : String)
  /-- A call began and registered its probe. -/
  | asked (n : Nat) (id : String)
  /-- The probe of a call has been typed, and the wait for its echo begins. -/
  | typed (n : Nat)
  | answered (n : Nat) (source : AnswerSource) (channel : String)
  | dropped (n : Nat)
  | clock (now : Nanos)
  deriving DecidableEq, Repr

/-- The channel and the text of a message that a user wrote. -/
def Event.messageOf? (user : String) (e : Event) : Option (String × String) :=
  match e.payload with
  | .message _ channel _ player content => if player = user then some (channel, content) else none
  | _ => none

namespace ChannelTracker

variable {t : ChannelTracker} {e : Event}

theorem react_of_messageOf? {channel content : String}
    (h : e.messageOf? t.userId = some (channel, content)) :
    t.react e =
      { t with
        current := channel, probes := (t.probes.resolveWhere (isEcho content) channel).2 } := by
  revert h
  fun_cases Event.messageOf? t.userId e with
  | case1 _ channel' _ content' hp =>
      rintro ⟨⟩
      simp [react, hp]
  | case2 | case3 => exact nofun

/-- An event that is no message of the player's leaves the tracker as it is. -/
theorem react_of_stranger (h : e.messageOf? t.userId = none) : t.react e = t := by
  revert h
  fun_cases ChannelTracker.react t e with
  | case1 _ channel _ content hp =>
      intro h
      simp [Event.messageOf?, hp] at h
  | case2 | case3 => exact fun _ => rfl

end ChannelTracker

namespace ChannelQuestion

variable {t : ChannelTracker}

/-- A call that begins registers its probe, and then either waits for it to be typed or gives up. -/
theorem next_fresh (t : ChannelTracker) (q : Queue) (now : Nanos) (id : String) :
    (∃ q' w, (fresh id).next t q now =
      ({ t with probes := t.probes.register id }, q', .goes (.typing id w), [])) ∨
    ∃ notices, (fresh id).next t q now =
      ({ t with probes := (t.probes.register id).drop id }, q, .ends t.current, notices) := by
  unfold next
  dsimp only
  split
  · exact .inr ⟨_, rfl⟩
  · split
    · exact .inr ⟨_, rfl⟩
    · exact .inl ⟨_, _, rfl⟩

theorem next_typing (t : ChannelTracker) (q : Queue) (now : Nanos) (id : String) (w : TicketWait) :
    (typing id w).next t q now =
        (t, q, .goes (.listening ⟨id, now + t.probeTimeout, t.current⟩), []) ∨
      (∃ notices, (typing id w).next t q now =
        ({ t with probes := t.probes.drop id }, q, .ends t.current, notices)) ∨
      (typing id w).next t q now = (t, q, .waits, []) := by
  cases h : w.next q now with
  | goes w' => exact absurd h TicketWait.next_ne_goes
  | waits => exact .inr (.inr (by simp [next, h]))
  | ends r =>
      cases r with
      | ok _ => exact .inl (by simp [next, h])
      | error e => exact .inr (.inl ⟨[.probeNotSent (.action e)], by simp [next, h, giveUp]⟩)

theorem next_listening_of_echo (q : Queue) (now : Nanos) {w : EchoWait} {v : String}
    (h : t.probes.value? w.id = some v) :
    (listening w).next t q now = ({ t with probes := t.probes.drop w.id }, q, .ends v, []) := by
  simp [next, EchoWait.next, h, Turn.map]

theorem next_listening_of_none (q : Queue) (now : Nanos) {w : EchoWait}
    (h : t.probes.value? w.id = none) :
    (listening w).next t q now =
      if w.deadline ≤ now then ({ t with probes := t.probes.drop w.id }, q, .ends w.fallback, [])
      else (t, q, .waits, []) := by
  by_cases hle : w.deadline ≤ now <;> simp [next, EchoWait.next, h, hle, Turn.map]

end ChannelQuestion

/-- A call for the channel that has begun. -/
inductive ChannelCall
  | typing (id : String) (w : TicketWait)
  | listening (w : EchoWait)
  | answered (channel : String)
  | dropped
  deriving DecidableEq, Repr

namespace ChannelCall

/-- Where a call stands that is under way. -/
def question? : ChannelCall → Option ChannelQuestion
  | .typing id w => some (.typing id w)
  | .listening w => some (.listening w)
  | .answered _ | .dropped => none

/-- The identifier of the probe of a call that is under way. -/
def id? : ChannelCall → Option String
  | .typing id _ => some id
  | .listening w => some w.id
  | .answered _ | .dropped => none

/-- Where a call stands behind a turn, unless it stands where it stood. -/
def ofTurn? : Turn ChannelQuestion String → Option ChannelCall
  | .goes (.typing id w) => some (.typing id w)
  | .goes (.listening w) => some (.listening w)
  | .goes (.fresh _) | .waits => none
  | .ends channel => some (.answered channel)

end ChannelCall

/-- What an answer comes from that a call gives now. -/
def ChannelQuestion.source (p : Probes String) : ChannelQuestion → AnswerSource
  | .fresh _ | .typing .. => .unsent
  | .listening w => if (p.value? w.id).isSome then .echoed else .expired

theorem ChannelQuestion.source_of_echo {p : Probes String} {w : EchoWait} {v : String}
    (h : p.value? w.id = some v) : (listening w).source p = .echoed := by
  simp [source, h]

theorem ChannelQuestion.source_of_none {p : Probes String} {w : EchoWait}
    (h : p.value? w.id = none) : (listening w).source p = .expired := by
  simp [source, h]

/-- What a turn of a call shows. -/
def TrackerEvent.ofTurn (n : Nat) (source : AnswerSource) :
    Turn ChannelQuestion String → List TrackerEvent
  | .goes (.listening _) => [.typed n]
  | .goes _ | .waits => []
  | .ends channel => [.answered n source channel]

/-- A tracker with its queue and those who ask it, at a time. -/
structure Asking where
  now : Nanos
  queue : Queue
  tracker : ChannelTracker
  /-- All calls that have begun, by their numbers. -/
  calls : List ChannelCall

namespace Asking

/-- A tracker of a user that has seen nothing and that nobody has asked, on a queue. -/
def start (user : String) (limit : Nanos) (q : Queue) : Asking := ⟨0, q, .start user limit, []⟩

/-- The tracker without the guard of a probe. -/
def release (s : Asking) (id : String) : ChannelTracker :=
  { s.tracker with probes := s.tracker.probes.drop id }

/-- What a move makes of a tracker and its calls, and what it shows. -/
def step (s : Asking) : TrackerMove → Asking × List TrackerEvent
  | .hear e =>
    ({ s with tracker := s.tracker.react e },
      ((e.messageOf? s.tracker.userId).map fun (channel, content) =>
        .heard channel content).toList)
  | .ask id =>
    let (tracker, queue, turn, _) := (ChannelQuestion.fresh id).next s.tracker s.queue s.now
    ({ s with tracker, queue, calls := s.calls ++ (ChannelCall.ofTurn? turn).toList },
      .asked s.calls.length id :: TrackerEvent.ofTurn s.calls.length .unsent turn)
  | .turn n =>
    match s.calls[n]?.bind ChannelCall.question? with
    | none => (s, [])
    | some c =>
      let (tracker, queue, turn, _) := c.next s.tracker s.queue s.now
      ({ s with
          tracker, queue
          calls := ((ChannelCall.ofTurn? turn).map (s.calls.set n)).getD s.calls },
        TrackerEvent.ofTurn n (c.source s.tracker.probes) turn)
  | .drop n =>
    match s.calls[n]?.bind ChannelCall.id? with
    | none => (s, [])
    | some id => ({ s with tracker := s.release id, calls := s.calls.set n .dropped }, [.dropped n])
  | .queue f => ({ s with queue := f s.queue }, [])
  | .clock now => ({ s with now }, [.clock now])

/-- What moves make of a tracker and its calls, one after another. -/
def run (s : Asking) (moves : List TrackerMove) : Asking :=
  moves.foldl (fun s m => (s.step m).1) s

/-- What moves show, one after another. -/
def history (s : Asking) : List TrackerMove → List TrackerEvent
  | [] => []
  | m :: rest => (s.step m).2 ++ (s.step m).1.history rest

/-- What becomes of a tracker and its calls in a move, and what the move shows. -/
inductive Change (s : Asking) : List TrackerEvent → Asking → Prop
  | quiet {queue : Queue} : Change s [] { s with queue }
  | heard (channel content : String) :
      Change s [.heard channel content]
        { s with
          tracker :=
            { s.tracker with
              current := channel
              probes := (s.tracker.probes.resolveWhere (isEcho content) channel).2 } }
  | asked (id : String) (queue : Queue) (w : TicketWait) :
      Change s [.asked s.calls.length id]
        { s with
          queue, tracker := { s.tracker with probes := s.tracker.probes.register id }
          calls := s.calls ++ [.typing id w] }
  | refused (id : String) :
      Change s
        [.asked s.calls.length id, .answered s.calls.length .unsent s.tracker.current]
        { s with
          tracker := { s.tracker with probes := (s.tracker.probes.register id).drop id }
          calls := s.calls ++ [.answered s.tracker.current] }
  | typed {n id w} (h : s.calls[n]? = some (.typing id w)) :
      Change s [.typed n]
        { s with
          calls := s.calls.set n
            (.listening ⟨id, s.now + s.tracker.probeTimeout, s.tracker.current⟩) }
  | unsent {n id w} (h : s.calls[n]? = some (.typing id w)) :
      Change s [.answered n .unsent s.tracker.current]
        { s with
          tracker := s.release id, calls := s.calls.set n (.answered s.tracker.current) }
  | echoed {n w v} (h : s.calls[n]? = some (.listening w))
      (hv : s.tracker.probes.value? w.id = some v) :
      Change s [.answered n .echoed v]
        { s with tracker := s.release w.id, calls := s.calls.set n (.answered v) }
  | expired {n w} (h : s.calls[n]? = some (.listening w))
      (hv : s.tracker.probes.value? w.id = none) (hlate : w.deadline ≤ s.now) :
      Change s [.answered n .expired w.fallback]
        { s with tracker := s.release w.id, calls := s.calls.set n (.answered w.fallback) }
  | dropped {n c id} (h : s.calls[n]? = some c) (hid : c.id? = some id) :
      Change s [.dropped n] { s with tracker := s.release id, calls := s.calls.set n .dropped }
  | clock (now : Nanos) : Change s [.clock now] { s with now }

variable {s : Asking} {m : TrackerMove} {moves moves' : List TrackerMove}

@[simp] theorem run_nil : s.run [] = s := rfl

@[simp] theorem run_cons : s.run (m :: moves) = (s.step m).1.run moves := rfl

@[simp] theorem history_nil : s.history [] = [] := rfl

@[simp] theorem history_cons :
    s.history (m :: moves) = (s.step m).2 ++ (s.step m).1.history moves := rfl

theorem run_append : s.run (moves ++ moves') = (s.run moves).run moves' :=
  List.foldl_append

theorem history_append :
    s.history (moves ++ moves') = s.history moves ++ (s.run moves).history moves' := by
  induction moves generalizing s with
  | nil => rfl
  | cons m rest ih => simp [ih]

/-- What is shown is shown in one of the moves. -/
theorem move_of_history {tr₁ tr₂ : List TrackerEvent} {e : TrackerEvent}
    (h : s.history moves = tr₁ ++ e :: tr₂) :
    ∃ before m after shown shown',
      moves = before ++ m :: after ∧ ((s.run before).step m).2 = shown ++ e :: shown' ∧
        tr₁ = s.history before ++ shown := by
  induction moves generalizing s tr₁ with
  | nil => simp at h
  | cons m rest ih =>
      rw [history_cons, List.append_eq_append_iff] at h
      obtain ⟨behind, rfl, hrest⟩ | ⟨shown', hstep, hrest⟩ := h
      · obtain ⟨before, m', after, shown, shown', rfl, hshown, rfl⟩ := ih hrest
        exact ⟨m :: before, m', after, shown, shown', rfl, hshown, by simp⟩
      · cases shown' with
        | nil =>
            rw [List.append_nil] at hstep
            have hbehind : (s.step m).1.history rest = [] ++ e :: tr₂ := hrest.symm
            obtain ⟨before, m', after, shown, shown', rfl, hshown, hnil⟩ := ih hbehind
            refine ⟨m :: before, m', after, shown, shown', rfl, hshown, ?_⟩
            rw [history_cons, List.append_assoc, ← hnil, List.append_nil, hstep]
        | cons e' shown' =>
            obtain ⟨rfl, -⟩ := List.cons.inj hrest
            exact ⟨[], m, rest, tr₁, shown', rfl, hstep, by simp⟩

theorem step_turn {n : Nat} {c : ChannelQuestion} {tracker : ChannelTracker} {queue : Queue}
    {turn : Turn ChannelQuestion String} {notices : List Notice}
    (hc : s.calls[n]?.bind ChannelCall.question? = some c)
    (hnext : c.next s.tracker s.queue s.now = (tracker, queue, turn, notices)) :
    s.step (.turn n) =
      ({ s with
          tracker, queue
          calls := ((ChannelCall.ofTurn? turn).map (s.calls.set n)).getD s.calls },
        TrackerEvent.ofTurn n (c.source s.tracker.probes) turn) := by
  simp only [step, hc, hnext]

/-- A call whose probe has been typed begins to wait for its echo. -/
theorem step_turn_of_sent {n : Nat} {id : String} {w : TicketWait}
    (h : s.calls[n]? = some (.typing id w)) (hsent : s.queue.result? w.ticket = some (.ok ())) :
    s.step (.turn n) =
      ({ s with
          calls := s.calls.set n
            (.listening ⟨id, s.now + s.tracker.probeTimeout, s.tracker.current⟩) },
        [.typed n]) := by
  have hc : s.calls[n]?.bind ChannelCall.question? = some (.typing id w) := by rw [h]; rfl
  have hnext : (ChannelQuestion.typing id w).next s.tracker s.queue s.now =
      (s.tracker, s.queue,
        .goes (.listening ⟨id, s.now + s.tracker.probeTimeout, s.tracker.current⟩), []) := by
    simp [ChannelQuestion.next, TicketWait.next, hsent]
  rw [step_turn hc hnext]
  rfl

/-- A call that waits answers with its echo as soon as there is one. -/
theorem step_turn_of_echo {n : Nat} {w : EchoWait} {v : String}
    (h : s.calls[n]? = some (.listening w)) (hv : s.tracker.probes.value? w.id = some v) :
    s.step (.turn n) =
      ({ s with tracker := s.release w.id, calls := s.calls.set n (.answered v) },
        [.answered n .echoed v]) := by
  have hc : s.calls[n]?.bind ChannelCall.question? = some (.listening w) := by rw [h]; rfl
  rw [step_turn hc (ChannelQuestion.next_listening_of_echo s.queue s.now hv),
    ChannelQuestion.source_of_echo hv]
  rfl

theorem change_of_typing {n : Nat} {id : String} {w : TicketWait}
    (h : s.calls[n]? = some (.typing id w)) :
    Change s (s.step (.turn n)).2 (s.step (.turn n)).1 := by
  have hc : s.calls[n]?.bind ChannelCall.question? = some (.typing id w) := by rw [h]; rfl
  obtain hnext | ⟨notices, hnext⟩ | hnext :=
    ChannelQuestion.next_typing s.tracker s.queue s.now id w
  · rw [step_turn hc hnext]
    exact .typed h
  · rw [step_turn hc hnext]
    exact .unsent h
  · rw [step_turn hc hnext]
    exact .quiet

theorem change_of_listening {n : Nat} {w : EchoWait} (h : s.calls[n]? = some (.listening w)) :
    Change s (s.step (.turn n)).2 (s.step (.turn n)).1 := by
  have hc : s.calls[n]?.bind ChannelCall.question? = some (.listening w) := by rw [h]; rfl
  cases hv : s.tracker.probes.value? w.id with
  | some v =>
      rw [step_turn_of_echo h hv]
      exact .echoed h hv
  | none =>
      have hnext := ChannelQuestion.next_listening_of_none s.queue s.now hv
      split at hnext
      · next hlate =>
          rw [step_turn hc hnext, ChannelQuestion.source_of_none hv]
          exact .expired h hv hlate
      · rw [step_turn hc hnext]
        exact .quiet

theorem change_of_ask (s : Asking) (id : String) :
    Change s (s.step (.ask id)).2 (s.step (.ask id)).1 := by
  obtain ⟨q, w, hnext⟩ | ⟨notices, hnext⟩ :=
    ChannelQuestion.next_fresh s.tracker s.queue s.now id
  · simp only [step, hnext]
    exact .asked id q w
  · simp only [step, hnext]
    exact .refused id

theorem change_of_hear (s : Asking) (e : Event) :
    Change s (s.step (.hear e)).2 (s.step (.hear e)).1 := by
  cases h : e.messageOf? s.tracker.userId with
  | none =>
      simp only [step, h, ChannelTracker.react_of_stranger h]
      exact .quiet
  | some message =>
      simp only [step, h, ChannelTracker.react_of_messageOf? h]
      exact .heard message.1 message.2

/-- A move is one of the changes. -/
theorem step_change (s : Asking) (m : TrackerMove) : Change s (s.step m).2 (s.step m).1 := by
  cases m with
  | hear e => exact change_of_hear s e
  | ask id => exact change_of_ask s id
  | turn n =>
      match h : s.calls[n]? with
      | some (.typing id w) => exact change_of_typing h
      | some (.listening w) => exact change_of_listening h
      | none | some (.answered _) | some .dropped =>
          simp only [step, h, Option.bind, ChannelCall.question?]
          exact .quiet
  | drop n =>
      cases hid : s.calls[n]?.bind ChannelCall.id? with
      | none =>
          simp only [step, hid]
          exact .quiet
      | some id =>
          obtain ⟨c, hc, hcid⟩ := Option.bind_eq_some_iff.mp hid
          simp only [step, hid]
          exact .dropped hc hcid
  | queue f => exact .quiet
  | clock now => exact .clock now

/-- A tracker stays with its user and its limit. -/
theorem Change.settings {s' : Asking} {tr : List TrackerEvent} (c : s.Change tr s') :
    s'.tracker.userId = s.tracker.userId ∧ s'.tracker.probeTimeout = s.tracker.probeTimeout := by
  cases c <;> exact ⟨rfl, rfl⟩

theorem settings_run (s : Asking) (moves : List TrackerMove) :
    (s.run moves).tracker.userId = s.tracker.userId ∧
      (s.run moves).tracker.probeTimeout = s.tracker.probeTimeout := by
  induction moves generalizing s with
  | nil => exact ⟨rfl, rfl⟩
  | cons m rest ih =>
      obtain ⟨huser, hlimit⟩ := (s.step_change m).settings
      exact ⟨(ih _).1.trans huser, (ih _).2.trans hlimit⟩

end Asking

end LogWarden
