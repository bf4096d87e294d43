import LogWarden.Proofs.Command.Chat
import LogWarden.Proofs.Rules.ChatLines
import LogWarden.Proofs.Trigger.Money

/-!
# Rules that chat

A rule that chats types what its chat command types. Its switch of channels names a channel exactly
if behind the white space and the slashes with which the channel starts there is something; and what
it says is typed as it is, so that what a player writes is entered as a command if it is one and the
rule repeats it to everybody.
-/

namespace LogWarden

open ChatCommand

/-- Whether a line is entered as a command. -/
def IsCommandLine (line : String) : Prop := line.toList.head? = some '/'

/-- A step that a rule yields types what its chat command types: its content is a text that is not
blank, and nothing is wrong with its calls. -/
def Trigger.Chats (t : Trigger) (channels : Aliases) (limit : Nanos) (e : Event) (step : Step) :
    Prop :=
  ∃ content, ∃ f : Fluent (.chat content) .chat,
    Argument.text "chat" (t.argument e) = .ok content ∧
    Method.callEach channels t.calls = .ok f.calls ∧ Text.isBlank content = false ∧
    firstFault? [] f.calls = none ∧ step = ⟨typed content f.calls, t.limit.getD limit⟩

variable {s : Stage} {ms : List Method} {t : Trigger} {channels : Aliases} {limit : Nanos}
  {e : Event} {step : Step} {content : String}

/-- Every call upon a chat command is one of chat. -/
theorem Stage.eq_chat_of_after? (h : Stage.chat.after? ms = some s) : s = .chat := by
  induction ms with
  | nil => exact (Option.some.inj h).symm
  | cons m ms ih =>
      rw [after?] at h
      split_ifs at h with hm
      have hnext : m.next .chat = .chat := by
        cases m <;> simp [methods] at hm <;> rfl
      exact ih (hnext ▸ h)

theorem Trigger.build_chat_eq_ok_iff (hchat : t.command = .chat)
    (hafter : t.command.stage.after? (t.calls.map Prod.fst) = some s) :
    t.build channels limit e = .ok step ↔ t.Chats channels limit e step := by
  obtain rfl := Stage.eq_chat_of_after? (hchat ▸ hafter)
  have hs : Stage.chat ≠ .landEdit := by decide
  rw [buildCalls_eq_ok_iff hafter hs]
  constructor
  · rintro ⟨a, f, step', hstart, hcalls, hbuild, rfl⟩
    rw [hchat] at hstart
    obtain ⟨content, hcontent, rfl⟩ := map_eq_ok_iff.mp hstart
    obtain ⟨hblank, hfault, rfl⟩ := (f.build_chat_eq_ok_iff hs).mp hbuild
    exact ⟨content, f, hcontent, hcalls, hblank, hfault, rfl⟩
  · rintro ⟨content, f, hcontent, hcalls, hblank, hfault, rfl⟩
    have hstart : t.command.read (t.argument e) = .ok (.chat content) := by
      rw [hchat]
      exact map_eq_ok_iff.mpr ⟨content, hcontent, rfl⟩
    exact ⟨_, f, _, hstart, hcalls, (f.build_chat_eq_ok_iff hs).mpr ⟨hblank, hfault, rfl⟩, rfl⟩

/-- What a rule that chats yields for an event for which it fires. -/
theorem TriggerSet.mem_fire_chat_iff [PatternWording] {specs : List TriggerSpec} {ts : TriggerSet}
    (hload : compile specs channels limit = .ok ts) {i : Nat} (ht : ts.rules[i]? = some t)
    (hchat : t.command = .chat) (hfires : t.firesFor e = true) :
    (i, .ok step) ∈ ts.fire e ↔ t.Chats channels limit e step := by
  obtain ⟨spec, -, hrule⟩ := exists_compile_of_getElem? hload ht
  obtain ⟨-, -, s, hafter, -⟩ := Trigger.compile_ok hrule
  rw [mem_fire_iff hload ht hfires, eq_comm]
  exact Trigger.build_chat_eq_ok_iff hchat hafter

/-- A switch of channels in a rule is one of its calls, whose channel is looked up. -/
theorem Method.exists_switchChannel {calls : List (Method × List Json)} {cs : List Call}
    {channel : String} (h : callEach channels calls = .ok cs) (hc : .switchChannel channel ∈ cs) :
    ∃ args name, (.switchChannel, args) ∈ calls ∧
      Argument.text "switch_channel" args.head? = .ok name ∧
      channel = (channels.get? name).getD name := by
  obtain ⟨⟨m, args⟩, hmem, hcall⟩ := exists_of_mem_callEach h hc
  obtain rfl : Method.switchChannel = m := call_method hcall
  obtain ⟨name, hname, heq⟩ := map_eq_ok_iff.mp hcall
  exact ⟨args, name, hmem, hname, (Call.switchChannel.inj heq).symm⟩

/-! ## Switches of channels -/

/-- Where a chat command, or a rule that chats, types two lines, the first is that of the channel to
which it switched last; and this line names a channel exactly if the channel does behind its white
space and slashes. A switch is refused, whatever follows it, exactly if its channel is blank. -/
theorem channel_switch_names_channel_iff [PatternWording] {specs : List TriggerSpec}
    {channels : Aliases}
    {stepLimit : Nanos} {ts : TriggerSet}
    (hload : TriggerSet.compile specs channels stepLimit = .ok ts) :
    (∀ content (f : Fluent (.chat content) .chat) step first second pause,
      f.build (by decide) = .ok step → step.action = .type [first, second] pause →
      ∃ channel, switched? f.calls = some channel ∧ first = "/" ++ channelPrefix channel ∧
        (IsSwitchLine first ↔ NamesChannel channel)) ∧
    (∀ i t e step first second pause, ts.rules[i]? = some t → t.command = .chat →
      t.firesFor e = true → (i, .ok step) ∈ ts.fire e → step.action = .type [first, second] pause →
      ∃ cs channel args name, Method.callEach channels t.calls = .ok cs ∧
        switched? cs = some channel ∧ (.switchChannel, args) ∈ t.calls ∧
        Argument.text "switch_channel" args.head? = .ok name ∧
        channel = (channels.get? name).getD name ∧ first = "/" ++ channelPrefix channel ∧
        (IsSwitchLine first ↔ NamesChannel channel)) ∧
    ∀ content (f : Fluent (.chat content) .chat) step channel, f.build (by decide) = .ok step →
      listener? f.calls = none →
      ((∀ (g : Fluent (.chat content) .chat) after,
        g.calls = f.calls ++ .switchChannel channel :: after →
        g.build (by decide) =
          .error (.invalidArgument "switch_channel" "channel prefix is empty")) ↔
        Text.isBlank channel = true) := by
  refine ⟨fun content f step first second pause hbuild htype => ?_,
    fun i t e step first second pause ht hchat hfires hstep htype => ?_,
    fun content f step channel hbuild hpublic => ?_⟩
  · obtain ⟨-, -, rfl⟩ := (f.build_chat_eq_ok_iff (by decide)).mp hbuild
    obtain ⟨channel, hswitched, rfl⟩ := exists_switched_of_typed htype
    exact ⟨channel, hswitched, rfl, isSwitchLine_iff channel⟩
  · obtain ⟨content, f, -, hcalls, -, -, rfl⟩ :=
      (TriggerSet.mem_fire_chat_iff hload ht hchat hfires).mp hstep
    obtain ⟨channel, hswitched, rfl⟩ := exists_switched_of_typed htype
    obtain ⟨args, name, hmem, hname, hchannel⟩ :=
      Method.exists_switchChannel hcalls (mem_of_switched? hswitched)
    exact ⟨_, channel, args, name, hcalls, hswitched, hmem, hname, hchannel, rfl,
      isSwitchLine_iff channel⟩
  · obtain ⟨hblank, hfault, -⟩ := (f.build_chat_eq_ok_iff (by decide)).mp hbuild
    have hstart : (Start.chat content).fault? = none := by simp [Start.fault?, hblank]
    constructor
    · intro h
      have herror := (Fluent.build_chat_eq_error_iff _ _).mp
        (h (f.call (.switchChannel channel)) [] rfl)
      by_contra hnamed
      have hnone : firstFault? [] (f.calls ++ [.switchChannel channel]) = none := by
        rw [firstFault?_switch hfault hpublic, if_neg hnamed]
        rfl
      rw [hstart, Option.none_or] at herror
      cases hnone.symm.trans herror
    · intro hchannel g after hcalls
      rw [Fluent.build_chat_eq_error_iff, hstart, Option.none_or, hcalls,
        firstFault?_switch hfault hpublic, if_pos hchannel]

/-- A rule that says `hi` in a channel when we are kicked. -/
def switchRule : TriggerSpec :=
  ⟨"kick", [], ⟨"chat", [("content", .str "hi")], [[.str "switch_channel", .str "G"]]⟩⟩

/-- The rule that says `hi` in a channel, loaded. -/
def switchTrigger : Trigger :=
  ⟨0, "kick", [], .chat, [("content", .str "hi")], [(.switchChannel, [.str "G"])], none⟩

/-- Where the table has white space behind the slash, the line names no channel. -/
theorem channel_switch_of_spaced_channel :
    ∃ ts, TriggerSet.compile [switchRule] [("G", "/ tc")] 0 = .ok ts ∧
      (0, .ok ⟨.type ["/ tc", "hi"] 0, 0⟩) ∈ ts.fire ⟨"kick", .kick⟩ ∧
      ¬NamesChannel "/ tc" := by
  have hload : TriggerSet.compile [switchRule] [("G", "/ tc")] 0 =
      .ok ⟨[switchTrigger], [("G", "/ tc")], 0⟩ := rfl
  have hfire : (0, .ok ⟨.type ["/ tc", "hi"] 0, 0⟩) ∈
      TriggerSet.fire ⟨[switchTrigger], [("G", "/ tc")], 0⟩ ⟨"kick", .kick⟩ :=
    List.mem_singleton.mpr rfl
  refine ⟨_, hload, hfire, ?_⟩
  obtain ⟨cs, channel, -, -, hcalls, hswitched, -, -, -, -, hiff⟩ :=
    (channel_switch_names_channel_iff hload).2.1 0 switchTrigger _ _ _ _ _ rfl rfl rfl hfire rfl
  obtain rfl : [.switchChannel "/ tc"] = cs := Except.ok.inj hcalls
  obtain rfl : "/ tc" = channel := Option.some.inj hswitched
  rw [← hiff]
  rintro ⟨x, rest, hline, -, hblank⟩
  obtain rfl : ' ' = x := (List.cons.inj (List.cons.inj hline).2).1
  exact absurd hblank (by decide)

/-- So a switch may go to no channel at all: one slash is not blank, and the line is nothing but
another. -/
theorem not_channel_switch_names_channel :
    (¬∀ content (f : Fluent (.chat content) .chat) step first second pause,
      f.build (by decide) = .ok step → step.action = .type [first, second] pause →
      IsSwitchLine first) ∧
    ¬∀ content (f : Fluent (.chat content) .chat) channel, listener? f.calls = none →
      channelPrefix channel = "" →
      (f.call (.switchChannel channel)).build (by decide) =
        .error (.invalidArgument "switch_channel" "channel prefix is empty") := by
  have hbuild : ((Fluent.start : Fluent (.chat "hi") .chat).call (.switchChannel "/")).build
      (by decide) = .ok (Action.type ["/", "hi"] 0).step := rfl
  constructor
  · intro hclaim
    obtain ⟨x, rest, hline, -⟩ := hclaim _ _ _ _ _ _ hbuild rfl
    cases hline
  · intro hclaim
    cases hbuild.symm.trans (hclaim _ _ "/" rfl rfl)

/-! ## What is said -/

/-- Only a message has a content. -/
theorem Payload.field?_content {p : Payload} {v : Json} (h : p.field? "content" = some v) :
    ∃ server channel tag player content,
      p = .message server channel tag player content ∧ v = .str content := by
  cases p <;> simp [field?, members] at h
  case message server channel tag player content =>
      exact ⟨server, channel, tag, player, content, rfl, h.symm⟩

theorem ChatCommand.speech_mem_utterances_iff {calls : List Call} :
    .speech ∈ utterances calls ↔ listener? calls = none := by
  rw [utterances]
  cases listener? calls <;> cases switched? calls <;> simp

/-- The content that an event gives to a rule is that of a message. -/
theorem Trigger.message_of_argument (hchat : t.command = .chat)
    (hfilled : valueOf? t.args "content" = none)
    (hcontent : Argument.text "chat" (t.argument e) = .ok content) :
    ∃ server channel tag player, e.payload = .message server channel tag player content := by
  have hargument : t.argument e = e.payload.field? "content" := by
    simp [argument, hchat, Command.params, hfilled]
  rw [hargument] at hcontent
  cases hfield : e.payload.field? "content" with
  | none =>
      rw [hfield] at hcontent
      cases hcontent
  | some v =>
      obtain ⟨server, channel, tag, player, content', hpayload, rfl⟩ :=
        Payload.field?_content hfield
      rw [hfield] at hcontent
      cases hcontent
      exact ⟨server, channel, tag, player, hpayload⟩

/-- What a rule that chats repeats of an event is what a player wrote. It is entered as a command
exactly if it is one and the rule says it to everybody; all other lines with a slash in front are
those of private messages and switches of channels. -/
theorem chat_rule_only_speaks_iff [PatternWording] {specs : List TriggerSpec} {channels : Aliases}
    {stepLimit : Nanos} {ts : TriggerSet}
    (hload : TriggerSet.compile specs channels stepLimit = .ok ts) {i : Nat} {t : Trigger}
    (ht : ts.rules[i]? = some t) (hchat : t.command = .chat)
    (hfilled : valueOf? t.args "content" = none) {e : Event} (hfires : t.firesFor e = true)
    {step : Step} (hstep : (i, .ok step) ∈ ts.fire e) :
    ∃ server channel tag player content calls pause,
      e.payload = .message server channel tag player content ∧
      Method.callEach channels t.calls = .ok calls ∧
      step.action = .type ((utterances calls).map (·.line content)) pause ∧
      ((∀ u ∈ utterances calls, IsCommandLine (u.line content) → u ≠ .speech) ↔
        (listener? calls).isSome ∨ ¬IsCommandLine content) := by
  obtain ⟨content, f, hcontent, hcalls, -, -, rfl⟩ :=
    (TriggerSet.mem_fire_chat_iff hload ht hchat hfires).mp hstep
  obtain ⟨server, channel, tag, player, hpayload⟩ :=
    Trigger.message_of_argument hchat hfilled hcontent
  refine ⟨server, channel, tag, player, content, f.calls, _, hpayload, hcalls, rfl, ?_⟩
  constructor
  · intro h
    by_contra hneither
    simp only [not_or, not_not, Option.not_isSome_iff_eq_none] at hneither
    obtain ⟨hpublic, hcommand⟩ := hneither
    exact h .speech (speech_mem_utterances_iff.mpr hpublic) hcommand rfl
  · rintro (hprivate | hplain) u hmem hcommand rfl
    · rw [speech_mem_utterances_iff.mp hmem] at hprivate
      cases hprivate
    · exact hplain hcommand

/-- A rule that repeats to everybody what is said. -/
def echoRule : TriggerSpec := ⟨"message", [], ⟨"chat", [], []⟩⟩

/-- The rule that repeats what is said, loaded. -/
def echoTrigger : Trigger := ⟨0, "message", [], .chat, [], [], none⟩

/-- The line `[CHAT] [Lobby] [G] [VIP] Mallory> /pay Mallory 1000`, in which a player says a
command. -/
def commandLine : ChatLine :=
  { fullLine with
    player := "Mallory"
    content := "/pay Mallory 1000"
    player_length := by decide
    player_plain := List.all_eq_true.mp (by decide)
    content_fits := ⟨by decide, by rintro _ ⟨⟩; decide⟩ }

theorem echoTrigger_loads (channels : Aliases) (stepLimit : Nanos) :
    TriggerSet.compile [echoRule] channels stepLimit =
      .ok ⟨[echoTrigger], channels, stepLimit⟩ := rfl

theorem mem_fire_commandLine :
    (0, .ok (⟨.type ["/pay Mallory 1000"] 0, 0⟩ : Step)) ∈
      TriggerSet.fire ⟨[echoTrigger], [], 0⟩ ⟨"message", commandLine.payload []⟩ :=
  List.mem_singleton.mpr rfl

/-- What is said in the line is entered as a command. -/
theorem chat_rule_enters_command :
    commandLine.line = "[CHAT] [Lobby] [G] [VIP] Mallory> /pay Mallory 1000" ∧
      ∃ server channel tag player content,
        commandLine.payload [] = .message server channel tag player content ∧
        IsCommandLine content ∧
        ¬∀ u ∈ utterances [], IsCommandLine (u.line content) → u ≠ .speech := by
  obtain ⟨server, channel, tag, player, content, calls, pause, hpayload, hcalls, -, hiff⟩ :=
    chat_rule_only_speaks_iff (echoTrigger_loads [] 0) (i := 0) rfl rfl rfl rfl mem_fire_commandLine
  obtain rfl : [] = calls := Except.ok.inj hcalls
  obtain ⟨-, -, -, -, rfl⟩ := Payload.message.inj hpayload
  refine ⟨by decide +kernel, _, _, _, _, _, hpayload, rfl, ?_⟩
  rw [hiff]
  exact fun h => h.elim nofun fun hplain => hplain rfl

/-- So a player can make the rule enter a command by saying it: from the line of the log to the line
that is typed, nothing looks at what is said. -/
theorem not_chat_rule_only_speaks :
    ¬∀ table, RuleTable.compile RuleSetSpec.builtin = .ok table →
      ∀ specs ts, TriggerSet.compile specs [] 0 = .ok ts → ∀ i t, ts.rules[i]? = some t →
        t.command = .chat → valueOf? t.args "content" = none → t.calls = [] → ∀ line,
          ∀ e ∈ (⟨table, .builtin []⟩ : Classifier).classify line, ∀ step lines pause,
            (i, .ok step) ∈ ts.fire e → step.action = .type lines pause →
              ∀ entered ∈ lines, ¬IsCommandLine entered := by
  intro hclaim
  obtain ⟨table, hcompile⟩ := RuleTable.compile_builtin
  have htag : ¬commandLine.TagIsChannel := by
    rintro ⟨hserver, -⟩
    cases hserver
  have hcontent : ¬commandLine.ContentIsSpeech := by
    rintro ⟨htag, -⟩
    cases htag
  have hmessage := commandLine.filter_classify hcompile [] htag hcontent
  have hmem : ⟨"message", commandLine.payload []⟩ ∈
      (⟨table, .builtin []⟩ : Classifier).classify commandLine.line :=
    (List.mem_filter.mp (hmessage ▸ List.mem_singleton_self _)).1
  exact hclaim table hcompile _ _ (echoTrigger_loads [] 0) 0 echoTrigger rfl rfl rfl rfl _ _ hmem _
    _ _ mem_fire_commandLine rfl _ (List.mem_singleton_self _) rfl

end LogWarden
