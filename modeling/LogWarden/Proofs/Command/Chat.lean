import LogWarden.Proofs.Command.Faults

/-!
# What a chat command says

What a chat command types depends on all of its calls: whom it speaks to on the last that turned to
a player or to everybody, the channel on the last switch behind the last turn to everybody, and
whether it is typed at all on each of them. A switch is looked at before the slashes in front of the
channel are taken away, so one to nothing but slashes is made.
-/

namespace LogWarden

/-! ## What calls say -/

/-- Whom a call makes a chat command speak to: a player, or everybody. -/
def Call.audience? : Call → Option (Option String)
  | .sendTo player => some (some player)
  | .toAll => some none
  | _ => none

/-- The channel to which a call switches. -/
def Call.channel? : Call → Option String
  | .switchChannel channel => some channel
  | _ => none

/-- The pause that a call sets. -/
def Call.pause? : Call → Option Nanos
  | .interval d => some d
  | _ => none

/-- A line that a chat command types. -/
inductive Utterance
  | whisper (player : String)
  | switch (channel : String)
  | speech
  deriving DecidableEq, Repr

/-- The text of a line of a chat command. -/
def Utterance.line (content : String) : Utterance → String
  | .whisper player => "/m " ++ Text.trim player ++ " " ++ content
  | .switch channel => "/" ++ ChatCommand.channelPrefix channel
  | .speech => content

namespace ChatCommand

/-- The player to whom a chat command speaks after calls, unless it speaks to everybody. -/
def listener? (calls : List Call) : Option String :=
  (calls.reverse.findSome? Call.audience?).join

/-- The channel of the last switch behind the last turn to everybody. -/
def switched? (calls : List Call) : Option String :=
  (calls.reverse.takeWhile (· != .toAll)).findSome? Call.channel?

/-- The last pause that calls set. -/
def pauseOf (calls : List Call) : Nanos := (calls.reverse.findSome? Call.pause?).getD 0

/-- The lines that a chat command types after calls. -/
def utterances (calls : List Call) : List Utterance :=
  match listener? calls, switched? calls with
  | some player, _ => [.whisper player]
  | none, some channel => [.switch channel, .speech]
  | none, none => [.speech]

/-- What a chat command types after calls. -/
def typed (content : String) (calls : List Call) : Action :=
  .type ((utterances calls).map (·.line content)) (pauseOf calls)

/-- What is wrong with a call behind others: it speaks to a player without a name, or switches to a
blank channel while speaking to everybody. -/
def faultBehind? (before : List Call) : Call → Option CommandError
  | .sendTo player => if Text.isBlank player then some .emptyRecipient else none
  | .switchChannel channel =>
    if (listener? before).isNone && Text.isBlank channel then
      some (.invalidArgument "switch_channel" "channel prefix is empty")
    else none
  | _ => none

/-- What is wrong first with calls behind others. -/
def firstFault? (before : List Call) : List Call → Option CommandError
  | [] => none
  | c :: rest => (faultBehind? before c).or (firstFault? (before ++ [c]) rest)

variable {c : ChatCommand} {content channel : String} {before calls after : List Call}
  {call : Call}

theorem listener?_append :
    listener? (calls ++ [call]) = (call.audience?.or (some (listener? calls))).join := by
  rw [listener?, List.reverse_append, List.reverse_singleton, List.singleton_append,
    List.findSome?_cons]
  cases call.audience? <;> rfl

theorem switched?_append (h : call ≠ .toAll) :
    switched? (calls ++ [call]) = call.channel?.or (switched? calls) := by
  rw [switched?, List.reverse_append, List.reverse_singleton, List.singleton_append,
    List.takeWhile_cons_of_pos (by simpa using h), List.findSome?_cons]
  cases call.channel? <;> rfl

theorem pauseOf_append : pauseOf (calls ++ [call]) = call.pause?.getD (pauseOf calls) := by
  rw [pauseOf, List.reverse_append, List.reverse_singleton, List.singleton_append,
    List.findSome?_cons]
  cases call.pause? <;> rfl

theorem firstFault?_append :
    firstFault? before (calls ++ after) =
      (firstFault? before calls).or (firstFault? (before ++ calls) after) := by
  induction calls generalizing before with
  | nil => simp [firstFault?]
  | cons c rest ih =>
      rw [List.cons_append, firstFault?, ih, firstFault?, Option.or_assoc, List.append_assoc]
      rfl

theorem firstFault?_append_singleton :
    firstFault? [] (calls ++ [call]) = (firstFault? [] calls).or (faultBehind? calls call) := by
  rw [firstFault?_append, firstFault?, firstFault?, Option.or_none, List.nil_append]

/-- A switch of channels to everybody is wrong if its channel is blank. -/
theorem firstFault?_switch (hfault : firstFault? [] calls = none)
    (hpublic : listener? calls = none) :
    firstFault? [] (calls ++ .switchChannel channel :: after) =
      if Text.isBlank channel then
        some (.invalidArgument "switch_channel" "channel prefix is empty")
      else firstFault? (calls ++ [.switchChannel channel]) after := by
  rw [firstFault?_append, hfault, Option.none_or, List.nil_append, firstFault?, faultBehind?,
    hpublic]
  cases Text.isBlank channel <;> rfl

/-- Nothing is wrong with calls if nothing is wrong with any of them behind those before it. -/
theorem firstFault?_eq_none_iff :
    firstFault? before calls = none ↔
      ∀ done c rest, calls = done ++ c :: rest → faultBehind? (before ++ done) c = none := by
  induction calls generalizing before with
  | nil => simp [firstFault?]
  | cons c rest ih =>
      rw [firstFault?, Option.or_eq_none_iff, ih]
      constructor
      · rintro ⟨hfirst, hrest⟩ done c' rest' heq
        cases done with
        | nil =>
            obtain ⟨rfl, -⟩ := List.cons.inj heq
            rwa [List.append_nil]
        | cons d done =>
            obtain ⟨rfl, htail⟩ := List.cons.inj heq
            simpa using hrest done c' rest' htail
      · intro h
        refine ⟨by simpa using h [] c rest rfl, fun done c' rest' heq => ?_⟩
        simpa using h (c :: done) c' rest' (by rw [heq, List.cons_append])

/-! ## What is kept of the calls -/

/-- What a chat command in the making keeps of its content and of its calls. Whom it speaks to and
where does not matter once something was wrong. -/
structure Made (c : ChatCommand) (content : String) (calls : List Call) : Prop where
  content_eq : c.content = content
  pause_eq : c.pause = pauseOf calls
  error_eq : c.error = (Start.chat content).fault?.or (firstFault? [] calls)
  recipient_eq : c.error = none → c.recipient = (listener? calls).map Text.trim
  channel_eq : c.error = none → listener? calls = none →
    c.channel = (switched? calls).map channelPrefix

theorem start_made (content : String) : (start content).Made content [] :=
  ⟨rfl, rfl, Option.or_none.symm, fun _ => rfl, fun _ _ => rfl⟩

theorem Made.append {c' : ChatCommand} (h : c.Made content calls)
    (hcontent : c'.content = c.content) (hpause : c'.pause = call.pause?.getD c.pause)
    (herror : c'.error = c.error.or (faultBehind? calls call))
    (hrecipient : c'.error = none →
      c'.recipient = (listener? (calls ++ [call])).map Text.trim)
    (hchannel : c'.error = none → listener? (calls ++ [call]) = none →
      c'.channel = (switched? (calls ++ [call])).map channelPrefix) :
    c'.Made content (calls ++ [call]) where
  content_eq := hcontent.trans h.content_eq
  pause_eq := by rw [hpause, pauseOf_append, h.pause_eq]
  error_eq := by rw [herror, h.error_eq, Option.or_assoc, firstFault?_append_singleton]
  recipient_eq := hrecipient
  channel_eq := hchannel

theorem Made.sendTo (h : c.Made content calls) (player : String) :
    (c.sendTo player).Made content (calls ++ [.sendTo player]) := by
  unfold ChatCommand.sendTo
  split_ifs with hblank
  · refine h.append rfl rfl ?_ (fun herror => ?_) (fun herror => ?_)
    · rw [faultBehind?, if_pos hblank]
      rfl
    all_goals simp [fail] at herror
  · refine h.append rfl rfl ?_ (fun _ => ?_) (fun _ hpublic => ?_)
    · rw [faultBehind?, if_neg hblank, Option.or_none]
    · rw [listener?_append]
      rfl
    · simp [listener?_append, Call.audience?] at hpublic

theorem Made.toAll (h : c.Made content calls) : c.toAll.Made content (calls ++ [.toAll]) := by
  refine h.append rfl rfl Option.or_none.symm (fun _ => ?_) (fun _ _ => ?_)
  · rw [listener?_append]
    rfl
  · simp [switched?, ChatCommand.toAll]

/-- As long as nothing was wrong, a chat command speaks to a player if its calls say so. -/
theorem Made.isSome_recipient (h : c.Made content calls) (herror : c.error = none) :
    c.recipient.isSome = (listener? calls).isSome := by
  rw [h.recipient_eq herror, Option.isSome_map]

theorem Made.switchChannel (h : c.Made content calls) (channel : String) :
    (c.switchChannel channel).Made content (calls ++ [.switchChannel channel]) := by
  unfold ChatCommand.switchChannel
  split_ifs with hprivate hblank
  · refine h.append rfl rfl ?_ (fun herror => ?_) (fun herror hpublic => ?_)
    · cases herror : c.error with
      | some err => rfl
      | none =>
          rw [h.isSome_recipient herror, Option.isSome_iff_ne_none] at hprivate
          simp [faultBehind?, hprivate]
    · rw [listener?_append]
      exact h.recipient_eq herror
    · rw [listener?_append] at hpublic
      rw [h.isSome_recipient herror, show listener? calls = none from hpublic] at hprivate
      cases hprivate
  · refine h.append rfl rfl ?_ (fun herror => ?_) (fun herror => ?_)
    · cases herror : c.error with
      | some err => simp [fail, herror]
      | none =>
          have hpublic : listener? calls = none := by
            rwa [h.isSome_recipient herror, Option.not_isSome_iff_eq_none] at hprivate
          simp [fail, herror, faultBehind?, hpublic, hblank]
    all_goals simp [fail] at herror
  · refine h.append rfl rfl ?_ (fun herror => ?_) (fun _ _ => ?_)
    · rw [faultBehind?, if_neg (by simp [hblank]), Option.or_none]
    · rw [listener?_append]
      exact h.recipient_eq herror
    · rw [switched?_append (by simp)]
      rfl

theorem Made.every (h : c.Made content calls) (d : Nanos) :
    (c.every d).Made content (calls ++ [.interval d]) := by
  refine h.append rfl rfl Option.or_none.symm (fun herror => ?_) (fun herror hpublic => ?_)
  · rw [listener?_append]
    exact h.recipient_eq herror
  · rw [listener?_append] at hpublic
    rw [switched?_append (by simp)]
    exact h.channel_eq herror hpublic

theorem Made.lines_eq (h : c.Made content calls) (herror : c.error = none) :
    c.lines = (utterances calls).map (·.line content) := by
  rw [lines, h.recipient_eq herror, h.content_eq, utterances]
  cases hlistener : listener? calls with
  | some player => rfl
  | none =>
      rw [h.channel_eq herror hlistener]
      cases switched? calls <;> rfl

/-- Two lines are typed only if the first one switches to a channel. -/
theorem exists_switched_of_typed {first second : String} {pause : Nanos}
    (h : typed content calls = .type [first, second] pause) :
    ∃ channel, switched? calls = some channel ∧ first = "/" ++ channelPrefix channel := by
  obtain ⟨hlines, -⟩ := Action.type.inj h
  rw [utterances] at hlines
  cases hlistener : listener? calls with
  | some player => simp [hlistener] at hlines
  | none =>
      cases hswitched : switched? calls with
      | none => simp [hlistener, hswitched] at hlines
      | some channel =>
          simp only [hlistener, hswitched, List.map_cons, List.cons.injEq] at hlines
          exact ⟨channel, rfl, hlines.1.symm⟩

/-- The channel to which a chat command switches is one that a call names. -/
theorem mem_of_switched? (h : switched? calls = some channel) : .switchChannel channel ∈ calls := by
  obtain ⟨call, hmem, hchannel⟩ := List.exists_of_findSome?_eq_some h
  have hcall : call = .switchChannel channel := by
    cases call <;> simp [Call.channel?] at hchannel
    rw [hchannel]
  exact hcall ▸ List.mem_reverse.mp ((List.takeWhile_sublist _).subset hmem)

/-- A chat command is typed unless its content is blank or something is wrong with a call. -/
theorem Made.build_eq (h : c.Made content calls) :
    c.build = match (Start.chat content).fault?.or (firstFault? [] calls) with
      | some err => .error err
      | none => .ok (typed content calls).step := by
  rw [build, ← h.error_eq]
  cases herror : c.error with
  | some err => rfl
  | none =>
      rw [h.lines_eq herror, h.pause_eq]
      rfl

end ChatCommand

/-- What a chat command in the making keeps of its start and of its calls. -/
def Stage.KeepsChat (a : Start) : (s : Stage) → s.Making → List Call → Prop
  | .chat, c, calls => ∃ content, a = .chat content ∧ ChatCommand.Made c content calls
  | _, _, _ => True

theorem StageCall.keepsChat {a : Start} {s s' : Stage} (c : StageCall s s') {x : s.Making}
    {calls : List Call} (h : s.KeepsChat a x calls) :
    s'.KeepsChat a (c.make x) (calls ++ [c.call]) := by
  cases c
  case sendTo player =>
      obtain ⟨content, rfl, hmade⟩ := h
      exact ⟨content, rfl, hmade.sendTo player⟩
  case toAll =>
      obtain ⟨content, rfl, hmade⟩ := h
      exact ⟨content, rfl, hmade.toAll⟩
  case switchChannel channel =>
      obtain ⟨content, rfl, hmade⟩ := h
      exact ⟨content, rfl, hmade.switchChannel channel⟩
  case pause d =>
      obtain ⟨content, rfl, hmade⟩ := h
      exact ⟨content, rfl, hmade.every d⟩
  all_goals trivial

/-! ## Channels -/

/-- Whether a line switches to a channel: behind its slash stands what is neither another one nor
white space. -/
def IsSwitchLine (line : String) : Prop :=
  ∃ x rest, line.toList = '/' :: x :: rest ∧ x ≠ '/' ∧ Unicode.isWhiteSpace x = false

/-- Whether a text names a channel: behind the white space and then the slashes with which it starts
stands what is neither. -/
def NamesChannel (text : String) : Prop :=
  ∃ blanks slashes x rest, text.toList = blanks ++ slashes ++ x :: rest ∧
    (∀ c ∈ blanks, Unicode.isWhiteSpace c = true) ∧ (∀ c ∈ slashes, c = '/') ∧ x ≠ '/' ∧
    Unicode.isWhiteSpace x = false

namespace Text

/-- Before what is left of a text stands white space. -/
theorem exists_trimChars (cs : List Char) :
    ∃ blanks after, cs = blanks ++ trimChars cs ++ after ∧
      ∀ c ∈ blanks, Unicode.isWhiteSpace c = true := by
  refine ⟨cs.takeWhile Unicode.isWhiteSpace,
    ((trimStart cs).reverse.takeWhile Unicode.isWhiteSpace).reverse, ?_,
    fun c hc => List.mem_takeWhile_imp hc⟩
  rw [trimChars, trimEnd, List.append_assoc, ← List.reverse_append, List.takeWhile_append_dropWhile,
    List.reverse_reverse, trimStart, List.takeWhile_append_dropWhile]

/-- White space at the end is taken away behind the last character that is none. -/
theorem trimEnd_append_cons {cs ds : List Char} {x : Char} (hx : Unicode.isWhiteSpace x = false) :
    trimEnd (cs ++ x :: ds) = cs ++ x :: trimEnd ds := by
  have hstop : (ds.reverse ++ x :: cs.reverse).dropWhile Unicode.isWhiteSpace =
      ds.reverse.dropWhile Unicode.isWhiteSpace ++ x :: cs.reverse := by
    rw [List.dropWhile_append]
    split_ifs with hempty
    · rw [List.isEmpty_iff.mp hempty, List.dropWhile_cons_of_neg (by simp [hx]), List.nil_append]
    · rfl
  rw [trimEnd, List.reverse_append, List.reverse_cons, List.append_assoc, List.singleton_append,
    hstop]
  simp [trimEnd]

theorem trimStart_append {blanks cs : List Char}
    (hblanks : ∀ c ∈ blanks, Unicode.isWhiteSpace c = true)
    (hcs : ∀ c ∈ cs.head?, Unicode.isWhiteSpace c = false) : trimStart (blanks ++ cs) = cs := by
  rw [trimStart, List.dropWhile_append_of_pos hblanks]
  cases cs with
  | nil => rfl
  | cons c cs => exact List.dropWhile_cons_of_neg (by simp [hcs c rfl])

end Text

/-- A switch is made to what names a channel exactly if this is what its line does. -/
theorem isSwitchLine_iff (channel : String) :
    IsSwitchLine ("/" ++ ChatCommand.channelPrefix channel) ↔ NamesChannel channel := by
  have hline : ("/" ++ ChatCommand.channelPrefix channel).toList =
      '/' :: (Text.trimChars channel.toList).dropWhile (· == '/') := by
    simp [ChatCommand.channelPrefix]
  rw [IsSwitchLine, hline, NamesChannel]
  constructor
  · rintro ⟨x, rest, hprefix, hslash, hblank⟩
    obtain ⟨blanks, after, htext, hblanks⟩ := Text.exists_trimChars channel.toList
    generalize Text.trimChars channel.toList = trimmed at *
    refine ⟨blanks, trimmed.takeWhile (· == '/'), x, rest ++ after, ?_, hblanks,
      fun c hc => eq_of_beq (List.mem_takeWhile_imp (p := (· == '/')) hc), hslash, hblank⟩
    calc channel.toList
      _ = blanks ++ (trimmed.takeWhile (· == '/') ++ trimmed.dropWhile (· == '/')) ++ after := by
        rw [List.takeWhile_append_dropWhile, htext]
      _ = blanks ++ trimmed.takeWhile (· == '/') ++ x :: (rest ++ after) := by
        rw [(List.cons.inj hprefix).2]
        simp
  · rintro ⟨blanks, slashes, x, rest, htext, hblanks, hslashes, hslash, hblank⟩
    have hstart : ∀ c ∈ (slashes ++ x :: rest).head?, Unicode.isWhiteSpace c = false := by
      cases slashes with
      | nil => simpa using hblank
      | cons c slashes =>
          rw [hslashes c List.mem_cons_self]
          simp only [List.cons_append, List.head?_cons, Option.mem_some_iff, forall_eq']
          decide
    have htrimmed : Text.trimChars channel.toList = slashes ++ x :: Text.trimEnd rest := by
      rw [Text.trimChars, htext, List.append_assoc, Text.trimStart_append hblanks hstart,
        Text.trimEnd_append_cons hblank]
    refine ⟨x, Text.trimEnd rest, ?_, hslash, hblank⟩
    rw [htrimmed, List.dropWhile_append_of_pos (by simpa using hslashes),
      List.dropWhile_cons_of_neg (by simpa using hslash)]

namespace Fluent

open ChatCommand

variable {content : String} {step : Step}

theorem keepsChat {a : Start} {s : Stage} (f : Fluent a s) : s.KeepsChat a f.make f.calls := by
  induction f with
  | start =>
      cases a with
      | chat content => exact ⟨content, rfl, start_made content⟩
      | _ => trivial
  | call f c ih => exact c.keepsChat ih

theorem build_chat_eq (f : Fluent (.chat content) .chat) (h : Stage.chat ≠ .landEdit) :
    f.build h = match (Start.chat content).fault?.or (firstFault? [] f.calls) with
      | some err => .error err
      | none => .ok (typed content f.calls).step := by
  obtain ⟨_, ⟨⟩, hmade⟩ := f.keepsChat
  exact hmade.build_eq

theorem build_chat_eq_error_iff (f : Fluent (.chat content) .chat) (h : Stage.chat ≠ .landEdit)
    {err : CommandError} : f.build h = .error err ↔
      (Start.chat content).fault?.or (firstFault? [] f.calls) = some err := by
  rw [build_chat_eq]
  cases (Start.chat content).fault?.or (firstFault? [] f.calls) <;> simp

theorem build_chat_eq_ok_iff (f : Fluent (.chat content) .chat) (h : Stage.chat ≠ .landEdit) :
    f.build h = .ok step ↔ Text.isBlank content = false ∧ firstFault? [] f.calls = none ∧
      step = (typed content f.calls).step := by
  rw [build_chat_eq, Start.fault?]
  cases Text.isBlank content with
  | true => simp
  | false => cases firstFault? [] f.calls <;> simp [eq_comm]

end Fluent

/-- A chat command is typed exactly if its content is not blank and nothing is wrong with a call
behind those before it. What is typed is one line to the player to whom it turned last, unless it
then turned to everybody; otherwise it is the content as it was given, behind the line of the
channel to which it switched last since it turned to everybody. The pause is the one set last. -/
theorem chat_is_typed_iff {content : String} (f : Fluent (.chat content) .chat) (step : Step) :
    f.build (by decide) = .ok step ↔ Text.isBlank content = false ∧
      (∀ before c after, f.calls = before ++ c :: after →
        ChatCommand.faultBehind? before c = none) ∧
      step = (Action.type
        (match ChatCommand.listener? f.calls, ChatCommand.switched? f.calls with
          | some player, _ => ["/m " ++ Text.trim player ++ " " ++ content]
          | none, some channel => ["/" ++ ChatCommand.channelPrefix channel, content]
          | none, none => [content])
        ((f.calls.reverse.findSome? Call.pause?).getD 0)).step := by
  have hlines : (ChatCommand.utterances f.calls).map (·.line content) =
      match ChatCommand.listener? f.calls, ChatCommand.switched? f.calls with
        | some player, _ => ["/m " ++ Text.trim player ++ " " ++ content]
        | none, some channel => ["/" ++ ChatCommand.channelPrefix channel, content]
        | none, none => [content] := by
    rw [ChatCommand.utterances]
    cases ChatCommand.listener? f.calls with
    | some player => rfl
    | none => cases ChatCommand.switched? f.calls <;> rfl
  rw [f.build_chat_eq_ok_iff, ChatCommand.firstFault?_eq_none_iff, ← hlines]
  rfl

/-- A switch of channels says nothing while one player is spoken to, nor before everybody is. -/
example :
    (((((Fluent.start : Fluent (.chat "hi") .chat).call (.switchChannel "a")).call
      (.sendTo " Bob ")).call (.switchChannel "b")).build (by decide) =
        .ok (Action.line "/m Bob hi").step) ∧
    ((((Fluent.start : Fluent (.chat "hi") .chat).call (.switchChannel "a")).call .toAll).build
      (by decide) = .ok (Action.line "hi").step) := ⟨rfl, rfl⟩

end LogWarden
