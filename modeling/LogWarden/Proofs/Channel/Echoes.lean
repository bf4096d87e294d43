import LogWarden.Proofs.Channel.Pending

/-!
# Every call gets its own echo

Where calls have identifiers of their own and no message is the echo of two probes that are waited
for, no echo is lost and none reaches another call. A call whose probe has been typed answers with
the first message with its probe in it, no matter how early the message comes, and of a call that is
over nothing is left pending.
-/

namespace LogWarden

namespace TrackerEvent

/-- The channel of an echo of a probe. -/
def echo? (id : String) : TrackerEvent → Option String
  | .heard channel content => if isEcho content id then some channel else none
  | .asked .. | .typed _ | .answered .. | .dropped _ | .clock _ => none

/-- Whether a call is over with this. -/
def ends (n : ℕ) : TrackerEvent → Bool
  | .answered n' .. | .dropped n' => n' == n
  | .heard .. | .asked .. | .typed _ | .clock _ => false

end TrackerEvent

/-- The channel of the first echo of a probe, of those that come before its call is over. -/
def firstEcho? (n : ℕ) (id : String) (tr : List TrackerEvent) : Option String :=
  (tr.takeWhile (!·.ends n)).findSome? (·.echo? id)

theorem TrackerEvent.echo?_of_ends {e : TrackerEvent} {n : ℕ} {id : String} (h : e.ends n = true) :
    e.echo? id = none := by
  cases e with
  | answered | dropped => rfl
  | heard | asked | typed | clock => cases h

theorem firstEcho?_cons {e : TrackerEvent} {n : ℕ} {id : String} {tr : List TrackerEvent} :
    firstEcho? n id (e :: tr) =
      if e.ends n then none else (e.echo? id).or (firstEcho? n id tr) := by
  cases hends : e.ends n with
  | true => simp [firstEcho?, hends]
  | false => cases hecho : e.echo? id <;> simp [firstEcho?, hends, hecho]

/-- What is certain of the calls for a channel, given what has been shown. -/
structure EchoAccount (s : Asking) (tr : List TrackerEvent) : Prop where
  /-- The echo of a call is the first one since its registration. -/
  echo : ∀ tr₁ n id tr₂ tr₃, tr = tr₁ ++ .asked n id :: tr₂ ++ tr₃ →
    ∃ k, (notes (tr₁ ++ .asked n id :: tr₂)).calls[n]? = some k ∧ k.id = id ∧
      k.echo = firstEcho? n id tr₂
  /-- No message is the echo of two calls that wait. -/
  uncrossed : ∀ tr₁ channel content tr₂, tr = tr₁ ++ .heard channel content :: tr₂ →
    ∀ (n n' : ℕ) (k k' : CallNote), (notes tr₁).calls[n]? = some k →
      (notes tr₁).calls[n']? = some k' → k.isWaiting → k'.isWaiting →
        isEcho content k.id → isEcho content k'.id → n = n'
  /-- A call that waited answers with its echo, or without one with what it falls back on. -/
  answered : ∀ tr₁ n how v tr₂, tr = tr₁ ++ .answered n how v :: tr₂ →
    ∃ k, (notes tr₁).calls[n]? = some k ∧ k.isOver = false ∧
      (how, v) = k.answer (notes tr₁).seen
  /-- A wait is not given up before its limit has passed. -/
  patient : ∀ tr₁ n v tr₂, tr = tr₁ ++ .answered n .expired v :: tr₂ →
    ∃ k since, (notes tr₁).calls[n]? = some k ∧ k.wait = some (since, v) ∧
      since + s.tracker.probeTimeout ≤ (notes tr₁).now
  /-- A call that waits with an echo answers with it in its next turn. -/
  returns : ∀ n k v, (notes tr).calls[n]? = some k → k.isOver = false → k.wait.isSome →
    k.echo = some v → (s.step (.turn n)).2 = [.answered n .echoed v]
  /-- A call whose echo came before its probe had been typed does not wait at all. -/
  returns_early : ∀ n k v id w, (notes tr).calls[n]? = some k → k.echo = some v →
    s.calls[n]? = some (.typing id w) → s.queue.result? w.ticket = some (.ok ()) →
      s.history [.turn n, .turn n] = [.typed n, .answered n .echoed v]
  pending : s.tracker.probes.pending.length = (notes tr).calls.countP (·.isWaiting)
  settled : (∀ k ∈ (notes tr).calls, k.isOver = true) → s.tracker.probes.pending = []

namespace Notes

variable {s s' : Asking} {b : Notes} {tr tr₁ tr₂ : List TrackerEvent} {n n' : ℕ} {k k' : CallNote}

theorem hear_echo {channel content : String} :
    (k.hear channel content).echo =
      if k.isOver then k.echo
      else k.echo.or (TrackerEvent.echo? k.id (.heard channel content)) := by
  obtain ⟨id, echo, wait, isOver⟩ := k
  cases isOver <;> cases echo <;> cases h : isEcho content id <;>
    simp [CallNote.hear, CallNote.isWaiting, TrackerEvent.echo?, h]

/-- What is shown next changes the note of a call in this way. -/
theorem note_after (e : TrackerEvent) (hk : b.calls[n]? = some k) :
    ∃ k', (b.after e).calls[n]? = some k' ∧ k'.id = k.id ∧ k'.isOver = (k.isOver || e.ends n) ∧
      k'.echo = if k.isOver then k.echo else k.echo.or (e.echo? k.id) := by
  cases e with
  | heard channel content =>
      refine ⟨k.hear channel content, ?_, CallNote.hear_id, ?_, hear_echo⟩
      · simp [after, hk]
      · simp [TrackerEvent.ends]
  | asked _ id =>
      refine ⟨k, ?_, rfl, by simp [TrackerEvent.ends], by simp [TrackerEvent.echo?]⟩
      simp only [after]
      rw [List.getElem?_append_left (List.getElem?_eq_some_iff.mp hk).1, hk]
  | typed n' =>
      refine ⟨if n' = n then { k with wait := some (b.now, b.seen) } else k, ?_, ?_⟩
      · simp [after, List.getElem?_modify, hk]
      · split <;> simp [TrackerEvent.ends, TrackerEvent.echo?]
  | answered n' | dropped n' =>
      refine ⟨if n' = n then k.finish else k, ?_, ?_⟩
      · simp [after, List.getElem?_modify, hk]
      · split <;> simp [TrackerEvent.ends, TrackerEvent.echo?, CallNote.finish, *]
  | clock now => exact ⟨k, hk, rfl, by simp [TrackerEvent.ends], by simp [TrackerEvent.echo?]⟩

theorem echo_afterAll (hk : b.calls[n]? = some k) :
    ∃ k', (b.afterAll tr).calls[n]? = some k' ∧ k'.id = k.id ∧
      k'.echo = if k.isOver then k.echo else k.echo.or (firstEcho? n k.id tr) := by
  induction tr generalizing b k with
  | nil => exact ⟨k, hk, rfl, by simp [firstEcho?]⟩
  | cons e rest ih =>
      obtain ⟨k₁, hk₁, hid₁, hover₁, hecho₁⟩ := note_after e hk
      obtain ⟨k₂, hk₂, hid₂, hecho₂⟩ := ih hk₁
      refine ⟨k₂, hk₂, hid₂.trans hid₁, ?_⟩
      rw [hecho₂, hecho₁, hid₁, hover₁, firstEcho?_cons]
      cases k.isOver with
      | true => rfl
      | false =>
          cases hends : e.ends n with
          | true => simp [TrackerEvent.echo?_of_ends hends]
          | false => simp [Option.or_assoc]

namespace Guards

/-- A call that begins is noted under its number. -/
theorem asked (h : b.Guards s) {id : String} (c : s.Change (tr₁ ++ .asked n id :: tr₂) s') :
    ((b.afterAll tr₁).after (.asked n id)).calls[n]? = some (.start id) := by
  generalize htr : tr₁ ++ .asked n id :: tr₂ = tr at c
  have hmem : .asked n id ∈ tr := by simp [← htr]
  have hlen : b.calls.length = s.calls.length := h.calls.length_eq
  cases c with
  | asked =>
      obtain ⟨rfl, ⟨rfl, rfl⟩, -⟩ := by simpa [List.append_eq_cons_iff] using htr
      simp [after, ← hlen]
  | refused =>
      obtain _ | ⟨first, rest⟩ := tr₁
      · obtain ⟨rfl, rfl⟩ := TrackerEvent.asked.inj (List.cons.inj htr).1
        simp [after, ← hlen]
      · have hrest := (List.cons.inj htr).2
        simp [List.append_eq_cons_iff] at hrest
  | _ => simp at hmem

theorem answered (h : b.Guards s) {how : AnswerSource} {v : String}
    (c : s.Change (tr₁ ++ .answered n how v :: tr₂) s') :
    ∃ k, (b.afterAll tr₁).calls[n]? = some k ∧ k.isOver = false ∧
      (how, v) = k.answer (b.afterAll tr₁).seen ∧
      (how = .expired →
        ∃ since, k.wait = some (since, v) ∧
          since + s.tracker.probeTimeout ≤ (b.afterAll tr₁).now) := by
  obtain ⟨-, k, hk, hover, hcases⟩ := h.toFits.answered c
  refine ⟨k, hk, hover, ?_⟩
  obtain ⟨rfl, hwait, rfl⟩ | ⟨rfl, rfl, hwait, hv⟩ | ⟨rfl, rfl, hv, since, hwait, hlate⟩ := hcases
  · exact ⟨by simp [CallNote.answer, hwait], nofun⟩
  · rw [h.value_eq_echo hk hover] at hv
    obtain ⟨wait, hwait⟩ := Option.isSome_iff_exists.mp hwait
    exact ⟨by simp [CallNote.answer, hwait, hv], nofun⟩
  · rw [h.value_eq_echo hk hover] at hv
    exact ⟨by simp [CallNote.answer, hwait, hv], fun _ => ⟨since, hwait, hlate⟩⟩

theorem uncrossed (h : b.Guards s) {channel content : String}
    (c : s.Change (tr₁ ++ .heard channel content :: tr₂) s')
    (hapart : b.KeptApart (tr₁ ++ .heard channel content :: tr₂))
    (hk : (b.afterAll tr₁).calls[n]? = some k) (hk' : (b.afterAll tr₁).calls[n']? = some k')
    (hwait : k.isWaiting) (hwait' : k'.isWaiting) (hecho : isEcho content k.id)
    (hecho' : isEcho content k'.id) : n = n' := by
  have hid : k.id = k'.id :=
    (keptApart_append.mp hapart).2.1 k (List.mem_of_getElem? hk) k' (List.mem_of_getElem? hk')
      hwait hwait' hecho hecho'
  obtain ⟨hover, -⟩ := by simpa [CallNote.isWaiting] using hwait
  obtain ⟨hover', -⟩ := by simpa [CallNote.isWaiting] using hwait'
  generalize htr : tr₁ ++ .heard channel content :: tr₂ = tr at c
  have hmem : .heard channel content ∈ tr := by simp [← htr]
  cases c with
  | heard =>
      obtain ⟨rfl, -⟩ := by simpa [List.append_eq_cons_iff] using htr
      exact index_unique h.guards.nodup hk hk' hover hover' hid
  | _ => simp at hmem

theorem returns (h : b.Guards s) {v : String} (hk : b.calls[n]? = some k)
    (hover : k.isOver = false) (hwait : k.wait.isSome) (hecho : k.echo = some v) :
    (s.step (.turn n)).2 = [.answered n .echoed v] := by
  obtain ⟨c, hc, hfit⟩ := exists_of_forall₂ h.calls.flip hk
  have hvalue : s.tracker.probes.value? k.id = some v := (h.value_eq_echo hk hover).trans hecho
  cases hfit with
  | typing => cases hwait
  | listening => rw [Asking.step_turn_of_echo hc hvalue]
  | answered hended | dropped hended => simp [hover] at hended

theorem returns_early (h : b.Guards s) {v id : String} {w : TicketWait}
    (hk : b.calls[n]? = some k) (hecho : k.echo = some v) (hc : s.calls[n]? = some (.typing id w))
    (hsent : s.queue.result? w.ticket = some (.ok ())) :
    s.history [.turn n, .turn n] = [.typed n, .answered n .echoed v] := by
  have htyped := Asking.step_turn_of_sent hc hsent
  obtain ⟨k', hk', hfit⟩ := h.note hc
  obtain rfl : k' = k := Option.some.inj (hk'.symm.trans hk)
  obtain @⟨id, echo, _⟩ := hfit
  have hlater : (b.after (.typed n)).Guards (s.step (.turn n)).1 := by
    have hchange := s.step_change (.turn n)
    rw [congrArg Prod.snd htyped] at hchange
    exact h.change hchange ⟨trivial, trivial⟩
  have hnote : (b.after (.typed n)).calls[n]? =
      some ⟨id, echo, some (b.now, b.seen), false⟩ := by
    simp [after, hk]
  have hanswer := hlater.returns hnote rfl rfl hecho
  simp [hanswer, congrArg Prod.snd htyped]

end Guards

end Notes

section Runs

variable {user : String} {limit : Nanos} {q : Queue} {moves : List TrackerMove}

/-- Before a move of a run the guards of the calls live, and so on. -/
theorem exists_guards_of_history {tr₁ tr₂ : List TrackerEvent} {e : TrackerEvent}
    (hapart : Notes.start.KeptApart ((Asking.start user limit q).history moves))
    (h : (Asking.start user limit q).history moves = tr₁ ++ e :: tr₂) :
    ∃ b s s' shown shown', Notes.Guards b s ∧ s.Change (shown ++ e :: shown') s' ∧
      b.KeptApart (shown ++ e :: shown') ∧ notes tr₁ = b.afterAll shown ∧
      s.tracker.probeTimeout = limit := by
  obtain ⟨before, m, after, shown, shown', rfl, hshown, rfl⟩ := Asking.move_of_history h
  rw [Asking.history_append, Notes.keptApart_append, Asking.history_cons,
    Notes.keptApart_append, hshown] at hapart
  have hchange := ((Asking.start user limit q).run before).step_change m
  rw [hshown] at hchange
  exact ⟨_, _, _, shown, shown', (Notes.Guards.start user limit q).run hapart.1, hchange,
    hapart.2.1, notes_append, (Asking.settings_run _ before).2⟩

/-- In every run whose calls have identifiers of their own, and whose messages are the echo of at
most one probe that is waited for, echoes are neither lost nor crossed, and what is pending are the
calls that are under way without an echo. -/
theorem echoes_accounted
    (hapart : Notes.start.KeptApart ((Asking.start user limit q).history moves)) :
    EchoAccount ((Asking.start user limit q).run moves)
      ((Asking.start user limit q).history moves) := by
  have hguards := (Notes.Guards.start user limit q).run hapart
  exact {
    echo := by
      intro tr₁ n id tr₂ tr₃ htr
      rw [List.append_assoc] at htr
      obtain ⟨b, s, s', shown, shown', hb, hchange, -, hnotes, -⟩ :=
        exists_guards_of_history hapart htr
      have hnote := hb.asked hchange
      rw [← hnotes] at hnote
      obtain ⟨k, hk, hid, hecho⟩ := Notes.echo_afterAll hnote
      refine ⟨k, ?_, hid, hecho⟩
      rw [notes_append, Notes.afterAll_cons]
      exact hk
    uncrossed := by
      intro tr₁ channel content tr₂ htr n n' k k' hk hk'
      obtain ⟨b, s, s', shown, shown', hb, hchange, hapart, hnotes, -⟩ :=
        exists_guards_of_history hapart htr
      rw [hnotes] at hk hk'
      exact hb.uncrossed hchange hapart hk hk'
    answered := by
      intro tr₁ n how v tr₂ htr
      obtain ⟨b, s, s', shown, shown', hb, hchange, -, hnotes, -⟩ :=
        exists_guards_of_history hapart htr
      obtain ⟨k, hk, hover, hanswer, -⟩ := hb.answered hchange
      exact ⟨k, hnotes ▸ hk, hover, hnotes ▸ hanswer⟩
    patient := by
      intro tr₁ n v tr₂ htr
      obtain ⟨b, s, s', shown, shown', hb, hchange, -, hnotes, hlimit⟩ :=
        exists_guards_of_history hapart htr
      obtain ⟨k, hk, -, -, hpatient⟩ := hb.answered hchange
      obtain ⟨since, hwait, hlate⟩ := hpatient rfl
      rw [(Asking.settings_run _ moves).2, hnotes]
      exact ⟨k, since, hk, hwait, hlimit ▸ hlate⟩
    returns := fun n k v hk hover hwait hecho => hguards.returns hk hover hwait hecho
    returns_early := fun n k v id w hk hecho hc hsent => hguards.returns_early hk hecho hc hsent
    pending := by
      rw [hguards.pending_eq, List.length_map, ← List.countP_eq_length_filter]
      rfl
    settled := by
      intro hover
      rw [hguards.pending_eq, List.map_eq_nil_iff, List.filter_eq_nil_iff]
      intro k hk
      simp [CallNote.isWaiting, hover k hk] }

/-- Two calls at once. The second one is echoed before its probe has been typed, the first one after
it has begun to wait, and between the two the player writes something else. -/
def twoCalls : List TrackerMove :=
  [.ask "0badcafe", .ask "0ddba115",
    .hear ⟨"message", .message "" "tc" "" "Steve" "channel_scan:0ddba115"⟩,
    .hear ⟨"message", .message "" "rp" "" "Steve" "hi"⟩] ++
  List.replicate 12 .work ++
  [.turn 0, .turn 1, .turn 1,
    .hear ⟨"message", .message "" "local" "" "Steve" "channel_scan:0badcafe"⟩, .turn 0]

/-- Each of the calls answers with its own echo. -/
theorem echoes_accounted_of_twoCalls :
    let s := (Asking.start "Steve" 100 .start).run twoCalls
    let tr := (Asking.start "Steve" 100 .start).history twoCalls
    .answered 1 .echoed "tc" ∈ tr ∧ .answered 0 .echoed "local" ∈ tr ∧
      s.tracker.probes.pending = [] ∧ EchoAccount s tr := by
  intro s tr
  have account : EchoAccount s tr := echoes_accounted (by decide)
  exact ⟨by decide, by decide, account.settled (by decide), account⟩

end Runs

end LogWarden
