import LogWarden.Proofs.Rules.Builtin
import LogWarden.Proofs.Rules.ChatPattern

/-!
# Chat lines

A line of chat names a server and a rank tag or leaves them out. The pattern of messages takes each
of the two for present wherever the line can be read so. Such a line has two readings: a channel tag
in brackets may stand where the rank tag stands, and then the channel in front of it is read as a
server; and what is said may itself start with a name and a separator, and then the speaker is read
as a rank tag. Of every other line the parts are found as they were put together, whatever is said.
-/

namespace LogWarden

open Pattern

/-- The parts of a line of chat. -/
structure ChatLine where
  server : Option String
  channel : String
  tag : Option String
  player : String
  separator : Separator
  content : String
  server_fits : ∀ s ∈ server, s ≠ "" ∧ ']' ∉ s.toList
  channel_fits : channel ∈ channelTags ∨
    2 ≤ channel.length ∧ ∀ x ∈ channel.toList, x.isUpper = true
  tag_fits : ∀ t ∈ tag, t ≠ "" ∧ ∀ x ∈ t.toList, Unicode.isWhiteSpace x = false ∧ x ≠ ':'
  player_length : 3 ≤ player.length ∧ player.length ≤ 16
  player_plain : ∀ x ∈ player.toList, Unicode.isPlainWordChar x = true
  content_fits : '\n' ∉ content.toList ∧
    ∀ x ∈ content.toList.head?, Unicode.isWhiteSpace x = false

namespace ChatLine

/-- A line of chat, put together from its parts. -/
def line (l : ChatLine) : String :=
  "[CHAT] " ++ (l.server.elim "" fun s => "[" ++ s ++ "] ") ++ "[" ++ l.channel ++ "] " ++
    (l.tag.elim "" fun t => t ++ " ") ++ l.player ++ l.separator.text ++ l.content

/-- What a line of chat says. -/
def payload (aliases : Aliases) (l : ChatLine) : Payload :=
  .message (l.server.getD "主服") ((aliases.get? l.channel).getD "global") (l.tag.getD "流浪者")
    l.player l.content

/-- Whether a line without a server has a channel tag in brackets for its rank tag. -/
def TagIsChannel (l : ChatLine) : Prop :=
  l.server = none ∧ ∃ cs, LooksLikeChannel cs ∧ l.tag = some (String.ofList ('[' :: cs ++ [']']))

/-- Whether in a line without a rank tag what is said, behind an arrow, starts with a speaker. -/
def ContentIsSpeech (l : ChatLine) : Prop :=
  l.tag = none ∧ l.separator = .arrow ∧ StartsWithSpeaker l.content.toList

/-! ## What a line holds behind each of its parts -/

section Texts

variable (l : ChatLine)

/-- The speaker and what is said. -/
def speechText : List Char :=
  l.player.toList ++ l.separator.text.toList ++ l.content.toList

/-- What stands behind the channel. -/
def messageText : List Char :=
  (l.tag.elim [] fun t => t.toList ++ [' ']) ++ l.speechText

/-- The channel and what stands behind it. -/
def channelText : List Char :=
  '[' :: l.channel.toList ++ ']' :: ' ' :: l.messageText

/-- What stands behind the mark of the line. -/
def addressText : List Char :=
  (l.server.elim [] fun s => '[' :: s.toList ++ [']', ' ']) ++ l.channelText

theorem toList_line : l.line.toList = "[CHAT] ".toList ++ l.addressText := by
  unfold line addressText channelText messageText speechText
  cases l.server <;> cases l.tag <;> simp

theorem player_ne_nil : l.player.toList ≠ [] :=
  List.ne_nil_of_length_pos (Nat.lt_of_lt_of_le (Nat.succ_pos 2) l.player_length.1)

theorem tag_ne_nil {t : String} (ht : l.tag = some t) : t.toList ≠ [] := fun h =>
  (l.tag_fits t ht).1 (String.toList_inj.mp h)

/-- The speaker's name comes first and starts with no blank and no bracket. -/
theorem speechText_head : ∃ x r, l.speechText = x :: r ∧ Unicode.isWhiteSpace x = false ∧
    x ≠ '[' := by
  obtain ⟨x, name, hname⟩ := List.exists_cons_of_ne_nil l.player_ne_nil
  have hplain := l.player_plain x (hname ▸ List.mem_cons_self)
  refine ⟨x, name ++ l.separator.text.toList ++ l.content.toList, ?_,
    Unicode.isWhiteSpace_of_isPlainWordChar hplain, ?_⟩
  · rw [speechText, hname]
    rfl
  · rintro rfl
    exact absurd hplain (by decide)

theorem run_space_speechText : CharClass.space.run l.speechText = 0 := by
  obtain ⟨x, r, hspeech, hx, -⟩ := l.speechText_head
  exact hspeech ▸ Expr.run_space_cons hx

theorem run_space_messageText : CharClass.space.run l.messageText = 0 := by
  rw [messageText]
  cases htag : l.tag with
  | none => exact l.run_space_speechText
  | some t =>
      obtain ⟨x, r, ht⟩ := List.exists_cons_of_ne_nil (l.tag_ne_nil htag)
      rw [Option.elim_some, ht]
      exact Expr.run_space_cons ((l.tag_fits t htag).2 x (ht ▸ List.mem_cons_self)).1

theorem looksLikeChannel_channel : LooksLikeChannel l.channel.toList := by
  rcases l.channel_fits with hlisted | ⟨hlength, hupper⟩
  · exact .inl ⟨l.channel, hlisted, List.forall₂_same.mpr fun x _ => Unicode.sameUpToCase_self x⟩
  · refine .inr ⟨hlength, fun x hx => ?_⟩
    rw [Unicode.upToCase, hupper x hx, Bool.true_or]

theorem channel_ne_nil : l.channel.toList ≠ [] := by
  have hlisted : ∀ tag ∈ channelTags, tag.toList ≠ [] := by
    decide
  rcases l.channel_fits with h | ⟨hlength, -⟩
  · exact hlisted l.channel h
  · exact List.ne_nil_of_length_pos (Nat.lt_of_lt_of_le Nat.two_pos hlength)

theorem run_space_content : CharClass.space.run l.content.toList = 0 :=
  CharClass.run_eq_zero_iff.mpr l.content_fits.2

end Texts

/-! ## The places behind each part -/

section Places

open Cursor

variable (l : ChatLine)

/-- The place behind the mark of the line. -/
def atAddress : Cursor :=
  (start l.line.toList).skip 7

/-- The place in front of the channel. -/
def atChannel : Cursor :=
  match l.server with
  | none => l.atAddress
  | some s => ((l.atAddress.skip 1).pass 1 s.toList.length).skip 2

/-- The place behind the channel. -/
def atMessage : Cursor :=
  ((l.atChannel.skip 1).pass 2 l.channel.toList.length).skip 2

/-- The place in front of the speaker. -/
def atSpeech : Cursor :=
  match l.tag with
  | none => l.atMessage
  | some t => (l.atMessage.pass 3 t.toList.length).skip 1

/-- The end of the line. -/
def atEnd : Cursor :=
  ((l.atSpeech.pass 4 l.player.toList.length).skip l.separator.text.length).pass 5
    l.content.toList.length

theorem atAddress_rest : l.atAddress.rest = l.addressText := by
  rw [atAddress, skip_rest, start, toList_line]
  rfl

theorem atChannel_rest : l.atChannel.rest = l.channelText := by
  have haddress := l.atAddress_rest
  unfold atChannel
  rw [addressText] at haddress
  cases hserver : l.server with
  | none => rwa [hserver] at haddress
  | some s =>
      rw [hserver] at haddress
      rw [skip_rest, pass_rest, skip_rest, haddress]
      simp

theorem atMessage_rest : l.atMessage.rest = l.messageText := by
  rw [atMessage, skip_rest, pass_rest, skip_rest, atChannel_rest, channelText]
  simp

theorem atSpeech_rest : l.atSpeech.rest = l.speechText := by
  have hmessage := l.atMessage_rest
  unfold atSpeech
  rw [messageText] at hmessage
  cases htag : l.tag with
  | none => rwa [htag] at hmessage
  | some t =>
      rw [htag] at hmessage
      rw [skip_rest, pass_rest, hmessage]
      simp

theorem atAddress_isAt : l.atAddress.IsAt l.line.toList :=
  (isAt_start _).skip 7

theorem atChannel_isAt : l.atChannel.IsAt l.line.toList := by
  unfold atChannel
  cases l.server with
  | none => exact l.atAddress_isAt
  | some s => exact ((l.atAddress_isAt.skip 1).pass 1 _).skip 2

theorem atMessage_isAt : l.atMessage.IsAt l.line.toList :=
  ((l.atChannel_isAt.skip 1).pass 2 _).skip 2

theorem atSpeech_isAt : l.atSpeech.IsAt l.line.toList := by
  unfold atSpeech
  cases l.tag with
  | none => exact l.atMessage_isAt
  | some t => exact (l.atMessage_isAt.pass 3 _).skip 1

end Places

/-! ## How a line is read -/

section Reading

open Expr Cursor Message

variable {l : ChatLine}

theorem first_atSpeech (l : ChatLine) : (seqs speech).first some l.atSpeech = some l.atEnd :=
  first_speech l.separator l.player_length l.player_plain l.run_space_content l.content_fits.1
    l.atSpeech_rest

theorem first_atMessage (hcontent : ¬l.ContentIsSpeech) :
    (seqs message).first some l.atMessage = some l.atEnd := by
  have hspeech := l.first_atSpeech
  have hrest := l.atMessage_rest
  unfold atSpeech at hspeech
  rw [messageText] at hrest
  cases htag : l.tag with
  | none =>
      rw [htag] at hspeech hrest
      rw [first_message_untagged l.separator l.player_ne_nil l.player_plain l.run_space_content
        (fun harrow hstart => hcontent ⟨htag, harrow, hstart⟩) hrest, hspeech]
  | some t =>
      rw [htag] at hspeech hrest
      have hrest' : l.atMessage.rest = t.toList ++ ' ' :: l.speechText := by
        simpa using hrest
      rw [first_message_tagged (l.tag_ne_nil htag) (l.tag_fits t htag).2 hrest'
        l.run_space_speechText (Option.isSome_of_eq_some hspeech), hspeech]

theorem first_atChannel (hcontent : ¬l.ContentIsSpeech) :
    (seqs (Message.channel ++ message)).first some l.atChannel = some l.atEnd := by
  rw [first_seqs_append, first_channel l.looksLikeChannel_channel l.atChannel_rest
    l.run_space_messageText fun d r hd => first_message_eq_none hd]
  exact first_atMessage hcontent

/-- Behind the channel no further channel is read, unless the rank tag is read as one. -/
theorem first_channel_messageText {c : Cursor} (hserver : l.server = none)
    (htag : ¬l.TagIsChannel) (hc : c.rest = l.messageText) :
    (seqs (Message.channel ++ message)).first some c = none := by
  rw [messageText] at hc
  cases hlt : l.tag with
  | none =>
      rw [hlt] at hc
      obtain ⟨x, r, hspeech, -, hx⟩ := l.speechText_head
      apply first_channel_eq_none
      rw [hc, hspeech]
      simpa using hx
  | some t =>
      rw [hlt] at hc
      by_contra hsome
      have hc' : c.rest = t.toList ++ ' ' :: l.speechText := by
        simpa using hc
      obtain ⟨u, hu, ht⟩ := tag_of_first (fun x hx => ((l.tag_fits t hlt).2 x hx).1) hc'
        (Option.isSome_iff_ne_none.mpr hsome)
      refine htag ⟨hserver, u, hu, ?_⟩
      rw [hlt, ← ht, String.ofList_toList]

theorem first_atAddress (htag : ¬l.TagIsChannel) (hcontent : ¬l.ContentIsSpeech) :
    (seqs address).first some l.atAddress = some l.atEnd := by
  have hchannel := first_atChannel hcontent
  have hrest := l.atAddress_rest
  have hblank (d : Cursor) (r : List Char) (hd : d.rest = ' ' :: r) :
      (seqs (Message.channel ++ message)).first some d = none :=
    first_channel_eq_none (by simp [hd])
  unfold atChannel at hchannel
  rw [addressText] at hrest
  rw [address, first_seqs_cons, first_optional]
  cases hserver : l.server with
  | none =>
      rw [hserver] at hchannel hrest
      have hbracket : ']' ∉ l.channel.toList := fun hmem =>
        (ends_of_looksLikeChannel l.looksLikeChannel_channel hmem).2 rfl
      rw [first_server l.channel_ne_nil hbracket hrest l.run_space_messageText hblank,
        first_channel_messageText hserver htag, Option.none_or, hchannel]
      rw [skip_rest, pass_rest, skip_rest, hrest, Option.elim_none, List.nil_append, channelText]
      simp
  | some s =>
      rw [hserver] at hchannel hrest
      obtain ⟨hne, hbracket⟩ := l.server_fits s hserver
      have hrest' : l.atAddress.rest = '[' :: s.toList ++ ']' :: ' ' :: l.channelText := by
        simpa using hrest
      have hne' : s.toList ≠ [] := fun h => hne (String.toList_inj.mp h)
      rw [first_server hne' hbracket hrest' (run_space_cons (by decide)) hblank, hchannel,
        Option.some_or]

theorem first_line (htag : ¬l.TagIsChannel) (hcontent : ¬l.ContentIsSpeech) :
    expr.first some (start l.line.toList) = some l.atEnd := by
  have hbracket : ∃ w, l.addressText = '[' :: w := by
    rw [addressText]
    cases l.server <;> exact ⟨_, rfl⟩
  obtain ⟨w, hw⟩ := hbracket
  have hline : (start l.line.toList).rest = "[CHAT] ".toList ++ '[' :: w :=
    hw ▸ l.toList_line
  rw [first_expr hline]
  exact first_atAddress htag hcontent

end Reading

/-! ## What a line says -/

section Captures

open Cursor

variable (l : ChatLine)

theorem spanText_content : spanText l.line.toList l.atEnd 5 = some l.content := by
  have hrest : ((l.atSpeech.pass 4 l.player.toList.length).skip l.separator.text.length).rest =
      l.content.toList ++ [] := by
    rw [skip_rest, pass_rest, atSpeech_rest, speechText, List.append_assoc, List.drop_left,
      List.append_nil]
    exact List.drop_left
  rw [atEnd, spanText_pass ((l.atSpeech_isAt.pass 4 _).skip _) hrest, String.ofList_toList]

theorem spanText_player : spanText l.line.toList l.atEnd 4 = some l.player := by
  have hrest : l.atSpeech.rest =
      l.player.toList ++ (l.separator.text.toList ++ l.content.toList) := by
    rw [atSpeech_rest, speechText, List.append_assoc]
  rw [atEnd, spanText_pass_of_ne (by decide), spanText_skip, spanText_pass l.atSpeech_isAt hrest,
    String.ofList_toList]

/-- What was captured in front of the speaker stays. -/
theorem spanText_atEnd {i : Nat} (h : i < 4) :
    spanText l.line.toList l.atEnd i = spanText l.line.toList l.atSpeech i := by
  rw [atEnd, spanText_pass_of_ne (by omega), spanText_skip, spanText_pass_of_ne (by omega)]

theorem spanText_atSpeech {i : Nat} (h : i ≠ 3) :
    spanText l.line.toList l.atSpeech i = spanText l.line.toList l.atMessage i := by
  unfold atSpeech
  cases l.tag with
  | none => rfl
  | some t => rw [spanText_skip, spanText_pass_of_ne h.symm]

theorem spanText_atMessage {i : Nat} (h : i ≠ 2) :
    spanText l.line.toList l.atMessage i = spanText l.line.toList l.atChannel i := by
  rw [atMessage, spanText_skip, spanText_pass_of_ne h.symm, spanText_skip]

theorem spanText_atChannel {i : Nat} (h : i ≠ 1) :
    spanText l.line.toList l.atChannel i = none := by
  have hstart : spanText l.line.toList l.atAddress i = none := by
    rw [atAddress, spanText_skip, spanText_start]
  unfold atChannel
  cases l.server with
  | none => exact hstart
  | some s => rw [spanText_skip, spanText_pass_of_ne h.symm, spanText_skip, hstart]

theorem spanText_tag : spanText l.line.toList l.atEnd 3 = l.tag := by
  have hrest := l.atMessage_rest
  have hbefore : spanText l.line.toList l.atMessage 3 = none := by
    rw [spanText_atMessage l (by decide), spanText_atChannel l (by decide)]
  rw [spanText_atEnd l (by decide), atSpeech]
  rw [messageText] at hrest
  cases htag : l.tag with
  | none => exact hbefore
  | some t =>
      rw [htag, Option.elim_some, List.append_assoc] at hrest
      rw [spanText_skip, spanText_pass l.atMessage_isAt hrest, String.ofList_toList]

theorem spanText_channel : spanText l.line.toList l.atEnd 2 = some l.channel := by
  have hrest : (l.atChannel.skip 1).rest = l.channel.toList ++ ']' :: ' ' :: l.messageText := by
    rw [skip_rest, atChannel_rest]
    rfl
  rw [spanText_atEnd l (by decide), spanText_atSpeech l (by decide), atMessage, spanText_skip,
    spanText_pass (l.atChannel_isAt.skip 1) hrest, String.ofList_toList]

theorem spanText_server : spanText l.line.toList l.atEnd 1 = l.server := by
  have hrest := l.atAddress_rest
  rw [spanText_atEnd l (by decide), spanText_atSpeech l (by decide),
    spanText_atMessage l (by decide), atChannel]
  rw [addressText] at hrest
  cases hserver : l.server with
  | none => rw [atAddress, spanText_skip, spanText_start]
  | some s =>
      rw [hserver] at hrest
      have hname : (l.atAddress.skip 1).rest = s.toList ++ ']' :: ' ' :: l.channelText := by
        rw [skip_rest, hrest]
        simp
      rw [spanText_skip, spanText_pass (l.atAddress_isAt.skip 1) hname, String.ofList_toList]

end Captures

/-- A line that has one reading yields the event of its parts. -/
theorem filter_classify [PatternWording] {table : RuleTable}
    (hcompile : RuleTable.compile RuleSetSpec.builtin = .ok table) (aliases : Aliases)
    (l : ChatLine) (htag : ¬l.TagIsChannel) (hcontent : ¬l.ContentIsSpeech) :
    ((⟨table, .builtin aliases⟩ : Classifier).classify l.line).filter (·.kind == "message") =
      [⟨"message", l.payload aliases⟩] := by
  obtain ⟨rule, hsingle, hread, hfields⟩ := Message.exists_rule
  refine Classifier.filter_classify_of_first hcompile hsingle hread hfields
    Message.loopsOverChars_expr (first_line htag hcontent) ?_
  refine Registry.outcome_builtin (b := ⟨"message", ⟨.message, Builtin.message aliases⟩⟩)
    (by simp [Builtin.bindings]) ?_
  have hcaps {field : String} {index : Nat} (h : (field, index) ∈
      [("server_name", 1), ("channel", 2), ("tag", 3), ("player", 4), ("content", 5)]) :=
    Captures.get?_spanText (by decide) h l.line.toList l.atEnd
  have hserver := (hcaps (.head _)).trans l.spanText_server
  have hchannel := (hcaps (.tail _ (.head _))).trans l.spanText_channel
  have htag := (hcaps (.tail _ (.tail _ (.head _)))).trans l.spanText_tag
  have hplayer := (hcaps (.tail _ (.tail _ (.tail _ (.head _))))).trans l.spanText_player
  have hcontent :=
    (hcaps (.tail _ (.tail _ (.tail _ (.tail _ (.head _)))))).trans l.spanText_content
  simp only [Builtin.message, Builtin.channel, Captures.required_eq_ok hplayer, hserver, hchannel,
    htag, hcontent, payload]
  rfl

end ChatLine

/-- A line of chat yields one event of the kind, which holds the parts of the line as they were put
together, whatever is said. Two kinds of lines are left out, which can be read in another way: lines
without a server whose rank tag is a channel tag in brackets, and lines without a rank tag in which
what is said behind an arrow starts with a speaker. -/
theorem chat_line_attributed [PatternWording] :
    ∃ table, RuleTable.compile RuleSetSpec.builtin = .ok table ∧
      ∀ aliases (l : ChatLine), ¬l.TagIsChannel → ¬l.ContentIsSpeech →
        ((⟨table, .builtin aliases⟩ : Classifier).classify l.line).filter (·.kind == "message") =
          [⟨"message", l.payload aliases⟩] := by
  obtain ⟨table, hcompile⟩ := RuleTable.compile_builtin
  exact ⟨table, hcompile, fun aliases l => l.filter_classify hcompile aliases⟩

/-- A line with all parts, in which what is said starts with another speaker. -/
def fullLine : ChatLine where
  server := some "Lobby"
  channel := "G"
  tag := some "[VIP]"
  player := "Steve"
  separator := .arrow
  content := "Bob: hi"
  server_fits := by simp
  channel_fits := .inl (by decide)
  tag_fits := by simp; decide
  player_length := by decide
  player_plain := List.all_eq_true.mp (by decide)
  content_fits := by simp; decide

theorem chat_line_of_full :
    ∃ table, RuleTable.compile RuleSetSpec.builtin = .ok table ∧ ¬fullLine.TagIsChannel ∧
      ¬fullLine.ContentIsSpeech ∧
      ((⟨table, .builtin [("G", "global")]⟩ : Classifier).classify
        "[CHAT] [Lobby] [G] [VIP] Steve> Bob: hi").filter (·.kind == "message") =
          [⟨"message", .message "Lobby" "global" "[VIP]" "Steve" "Bob: hi"⟩] := by
  obtain ⟨table, hcompile, h⟩ := chat_line_attributed
  have htag : ¬fullLine.TagIsChannel := fun htag => Option.some_ne_none _ htag.1
  have hcontent : ¬fullLine.ContentIsSpeech := fun hcontent => Option.some_ne_none _ hcontent.1
  have hline : fullLine.line = "[CHAT] [Lobby] [G] [VIP] Steve> Bob: hi" := by
    decide +kernel
  refine ⟨table, hcompile, htag, hcontent, ?_⟩
  rw [← hline, h [("G", "global")] fullLine htag hcontent]
  decide +kernel

/-- The line `[CHAT] [G] [RP] Steve: hi`, without a server and with a channel tag in brackets for
its rank tag. -/
def bracketedLine : ChatLine where
  server := none
  channel := "G"
  tag := some "[RP]"
  player := "Steve"
  separator := .colon
  content := "hi"
  server_fits := by simp
  channel_fits := .inl (by decide)
  tag_fits := by simp; decide
  player_length := by decide
  player_plain := List.all_eq_true.mp (by decide)
  content_fits := by simp; decide

/-- The parts that are read in it instead. -/
def servedLine : ChatLine :=
  { bracketedLine with
    server := some "G"
    channel := "RP"
    tag := none
    server_fits := by simp
    channel_fits := .inl (by decide)
    tag_fits := by simp }

/-- The line `[CHAT] [G] Steve> Bob: hi`, without a rank tag and with a speaker behind the arrow. -/
def quotingLine : ChatLine :=
  { bracketedLine with
    tag := none
    separator := .arrow
    content := "Bob: hi"
    tag_fits := by simp
    content_fits := by simp; decide }

/-- The parts that are read in it instead. -/
def rankedLine : ChatLine :=
  { bracketedLine with
    tag := some "Steve>"
    player := "Bob"
    tag_fits := by simp; decide
    player_length := by decide
    player_plain := List.all_eq_true.mp (by decide) }

/-- Two lines, put together in two ways each, are read in one of them only. -/
theorem chat_line_of_two_readings :
    ∃ table, RuleTable.compile RuleSetSpec.builtin = .ok table ∧
      ((⟨table, .builtin []⟩ : Classifier).classify bracketedLine.line).filter
        (·.kind == "message") ≠ [⟨"message", bracketedLine.payload []⟩] ∧
      ((⟨table, .builtin []⟩ : Classifier).classify quotingLine.line).filter
        (·.kind == "message") ≠ [⟨"message", quotingLine.payload []⟩] := by
  obtain ⟨table, hcompile⟩ := RuleTable.compile_builtin
  refine ⟨table, hcompile, ?_, ?_⟩
  · have hline : bracketedLine.line = servedLine.line := by
      decide +kernel
    rw [hline, servedLine.filter_classify hcompile []]
    · decide +kernel
    · exact fun htag => Option.some_ne_none _ htag.1
    · exact fun hcontent => nomatch hcontent.2.1
  · have hline : quotingLine.line = rankedLine.line := by
      decide +kernel
    rw [hline, rankedLine.filter_classify hcompile []]
    · decide +kernel
    · rintro ⟨-, cs, -, htag⟩
      have hhead := congrArg (fun t : String => t.toList.head?) (Option.some_inj.mp htag)
      simp at hhead
    · exact fun hcontent => Option.some_ne_none _ hcontent.1

end LogWarden
