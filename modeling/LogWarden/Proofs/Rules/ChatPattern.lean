import LogWarden.Proofs.Pattern.Words
import LogWarden.Rules.Table

/-!
# The pattern of chat messages

A chat message names a server, which may be missing, a channel, a rank tag, which may be missing, a
speaker and what is said. The pattern takes the server and the rank tag for present wherever the
rest of the message still fits, and it reads each part up to the sign that ends it.
-/

namespace LogWarden

namespace Unicode

/-- Whether a property holds of a character or of one that is equal to it up to case. -/
def upToCase (p : Char → Bool) (c : Char) : Bool :=
  p c || (caseVariants c).any p

end Unicode

/-- The channel tags that have no form of their own. -/
def channelTags : List String :=
  ["G", "L", "交易", "RP", "国家"]

/-- Whether a text is a channel tag up to case: a listed one, or two letters or more. -/
def LooksLikeChannel (cs : List Char) : Prop :=
  (∃ tag ∈ channelTags,
    List.Forall₂ (fun x y => Unicode.sameUpToCase x y = true) cs tag.toList) ∨
  2 ≤ cs.length ∧ ∀ x ∈ cs, Unicode.upToCase Char.isUpper x = true

/-- Whether a text starts with a player's name, up to case, and what separates a speaker from what
is said. -/
def StartsWithSpeaker (cs : List Char) : Prop :=
  ∃ name blanks mark rest, cs = name ++ blanks ++ mark :: rest ∧
    3 ≤ name.length ∧ name.length ≤ 16 ∧
    (∀ x ∈ name, Unicode.upToCase Unicode.isPlainWordChar x = true) ∧
    (∀ x ∈ blanks, Unicode.isWhiteSpace x = true) ∧
    (mark = ':' ∨ mark = '>' ∨ mark = '说' ∧ blanks ≠ [])

/-- What stands between a speaker and what is said. -/
inductive Separator
  | colon | arrow | spoken

/-- A separator with its blanks. -/
def Separator.text : Separator → String
  | .colon => ": "
  | .arrow => "> "
  | .spoken => " 说 "

theorem exists_mem_of_forall₂ {α β : Type} {R : α → β → Prop} {as : List α} {bs : List β} {a : α}
    (h : List.Forall₂ R as bs) (ha : a ∈ as) : ∃ b ∈ bs, R a b := by
  induction h with
  | nil => cases ha
  | cons hab _ ih =>
      rcases List.mem_cons.mp ha with rfl | ha
      · exact ⟨_, List.mem_cons_self, hab⟩
      · obtain ⟨b, hb, hab⟩ := ih ha
        exact ⟨b, List.mem_cons_of_mem _ hb, hab⟩

open Pattern.Expr Pattern.Cursor

namespace Pattern.Message

/-! ## The pattern -/

/-- The characters of a server's name. -/
def serverClass : CharClass :=
  .compl (.folded (.union .none (.one ']')))

/-- The characters of a rank tag. -/
def tagClass : CharClass :=
  .compl (.folded (.union (.union .none .space) (.one ':')))

/-- The capitals of a channel tag. -/
def capitalClass : CharClass :=
  .folded (.union .none (.range 'A' 'Z'))

/-- The characters of a player's name. -/
def nameClass : CharClass :=
  .folded (.union (.union (.union (.union .none (.range 'A' 'Z')) (.range 'a' 'z'))
    (.range '0' '9')) (.one '_'))

/-- The signs that follow a speaker. -/
def markClass : CharClass :=
  .folded (.union (.union .none (.one ':')) (.one '>'))

/-- The name of a server in brackets. -/
def server : List Expr :=
  [letter '[', group 1 (repeated (.chars serverClass) 1 none false), letter ']', spaces 0 true]

/-- A channel tag. -/
def channelTag : Expr :=
  alts (channelTags.map (fun tag => seqs (word tag.toList)) ++
    [repeated (.chars capitalClass) 2 none true])

/-- A channel tag in brackets. -/
def channel : List Expr :=
  [letter '[', group 2 channelTag, letter ']', spaces 1 true]

/-- A rank tag. -/
def tag : List Expr :=
  [group 3 (repeated (.chars tagClass) 1 none true), spaces 1 true]

/-- What separates a speaker from what is said. -/
def separator : Expr :=
  .alt (seqs [spaces 0 true, .chars markClass]) (seqs [spaces 1 true, letter '说'])

/-- What is said. -/
def content : List Expr :=
  [group 5 (repeated (.chars (.compl (.one '\n'))) 0 none true), .look .textEnd]

/-- A speaker and what is said. -/
def speech : List Expr :=
  group 4 (repeated (.chars nameClass) 3 (some 16) true) :: separator :: spaces 0 true :: content

/-- What stands behind the channel. -/
def message : List Expr :=
  repeated (seqs tag) 0 (some 1) true :: speech

/-- What stands behind the mark of a chat line. -/
def address : List Expr :=
  repeated (seqs server) 0 (some 1) true :: (channel ++ message)

/-- The pattern of messages. -/
def expr : Expr :=
  seqs (word "[CHAT]".toList ++ spaces 0 false :: address)

/-- The single rule of messages has this pattern. -/
theorem exists_rule :
    ∃ rule : RuleSpec,
      RuleSetSpec.builtin.filter (Text.trim ·.name == "message") = [⟨"message", [rule]⟩] ∧
      read? true rule.regex.toList = some (expr,
        [("server_name", 1), ("channel", 2), ("tag", 3), ("player", 4), ("content", 5)]) ∧
      rule.groups = ["server_name", "channel", "tag", "player", "content"] := by
  refine ⟨_, rfl, ?_, rfl⟩
  unfold expr
  simp only [String.toList_append, -String.reduceAppend, -String.reduceToList]
  repeat rw [String.toList_ofList]
  decide +kernel

theorem loopsOverChars_expr : expr.LoopsOverChars := by
  simp [expr, address, server, channelTag, channelTags, channel, tag, separator, content, speech,
    message, word, seqs, alts, LoopsOverChars, spaces, letter]

variable {c d r : Cursor} {text u v w : List Char} {k : Way} {x : Char} {least : Nat}
  {greedy : Bool}

/-! ## Characters -/

theorem caseless : ∀ x ∈ "[]:>说".toList, Unicode.isCaseless x = true :=
  List.all_eq_true.mp (by decide +kernel)

theorem mem_letter_iff {y : Char} (hy : y ∈ "[]:>说".toList) :
    (CharClass.folded (.one y)).mem x = true ↔ x = y :=
  Unicode.sameUpToCase_iff (caseless y hy)

theorem mem_serverClass : serverClass.mem x = true ↔ x ≠ ']' := by
  have hfolded : (CharClass.folded (.union .none (.one ']'))).mem x = (x == ']') := by
    rw [CharClass.mem_folded]
    · simp [CharClass.mem]
    · intro v hv
      obtain rfl : v = ']' := by simpa [CharClass.mem] using hv
      exact caseless ']' (by simp)
  rw [serverClass, CharClass.mem, hfolded]
  simp

theorem mem_tagClass : tagClass.mem x = true ↔ Unicode.isWhiteSpace x = false ∧ x ≠ ':' := by
  have hfolded : (CharClass.folded (.union (.union .none .space) (.one ':'))).mem x =
      (Unicode.isWhiteSpace x || x == ':') := by
    rw [CharClass.mem_folded]
    · rfl
    · intro v hv
      rcases Bool.or_eq_true_iff.mp hv with hv | hv
      · exact Unicode.isCaseless_of_isWhiteSpace hv
      · obtain rfl : v = ':' := eq_of_beq hv
        exact caseless ':' (by simp)
  rw [tagClass, CharClass.mem, hfolded]
  simp

theorem mem_markClass : markClass.mem x = true ↔ x = ':' ∨ x = '>' := by
  rw [markClass, CharClass.mem_folded]
  · simp [CharClass.mem]
  · intro v hv
    have hmark : v = ':' ∨ v = '>' := by simpa [CharClass.mem] using hv
    rcases hmark with rfl | rfl
    · exact caseless ':' (by simp)
    · exact caseless '>' (by simp)

theorem mem_nameClass : nameClass.mem x = Unicode.upToCase Unicode.isPlainWordChar x := by
  have hplain : (CharClass.union (.union (.union (.union .none (.range 'A' 'Z')) (.range 'a' 'z'))
      (.range '0' '9')) (.one '_')).mem = Unicode.isPlainWordChar := by
    funext x
    simp only [CharClass.mem, Unicode.isPlainWordChar_eq, Bool.false_or]
  rw [nameClass, CharClass.mem_folded_of_ne_one (by simp), hplain]
  rfl

theorem mem_capitalClass : capitalClass.mem x = Unicode.upToCase Char.isUpper x := by
  have hupper : (CharClass.union .none (.range 'A' 'Z')).mem = Char.isUpper := by
    funext x
    simp only [CharClass.mem, Unicode.isUpper_eq, Bool.false_or]
  rw [capitalClass, CharClass.mem_folded_of_ne_one (by simp), hupper]
  rfl

theorem mem_nameClass_of_plain (h : Unicode.isPlainWordChar x = true) :
    nameClass.mem x = true := by
  rw [mem_nameClass, Unicode.upToCase, h, Bool.true_or]

theorem nameClass_marks (hx : x ∈ "[ :>说".toList) : nameClass.mem x = false := by
  have hall : "[ :>说".toList.all (!nameClass.mem ·) = true := by
    decide +kernel
  simpa using List.all_eq_true.mp hall x hx

theorem markClass_of_name (h : nameClass.mem x = true) : markClass.mem x = false := by
  rw [← Bool.not_eq_true, mem_markClass]
  rintro (rfl | rfl)
  · rw [nameClass_marks (x := ':') (by simp)] at h
    cases h
  · rw [nameClass_marks (x := '>') (by simp)] at h
    cases h

/-! ## Blanks -/

/-- One blank is read where the way on cannot start with it. -/
theorem first_blank (hc : c.rest = ' ' :: w) (hw : CharClass.space.run w = 0) (hleast : least ≤ 1)
    (hk : ∀ d r, d.rest = ' ' :: r → k d = none) :
    (spaces least greedy).first k c = k (c.skip 1) := by
  refine first_repeated_of_fails (v := [' ']) hc ?_ hw hleast nofun ?_
  · simpa using by decide
  · simpa using hk

theorem first_blank_of_isSome (hc : c.rest = ' ' :: w) (hw : CharClass.space.run w = 0)
    (hk : (k (c.skip 1)).isSome) : (spaces 0 true).first k c = k (c.skip 1) := by
  refine first_repeated_of_isSome (v := [' ']) hc ?_ hw (Nat.zero_le 1) nofun hk
  simpa using by decide

theorem first_no_blank (hc : CharClass.space.run c.rest = 0) :
    (spaces 0 greedy).first k c = k c := by
  refine first_repeated_of_fails (v := []) rfl ?_ hc (Nat.le_refl 0) nofun ?_ <;> simp

/-! ## What is said -/

/-- What is said goes on to the end of the line. -/
theorem first_content (hc : c.rest = v) (hv : '\n' ∉ v) :
    (seqs content).first some c = some (c.pass 5 v.length) := by
  have hclass : ∀ x ∈ v, (CharClass.compl (.one '\n')).mem x = true := by
    intro x hx
    have hne : x ≠ '\n' := fun heq => hv (heq ▸ hx)
    simpa [CharClass.mem] using hne
  have hpass : (c.pass 5 v.length).rest = [] := by
    rw [pass_rest, hc, List.drop_length]
  calc (seqs content).first some c
      _ = (Expr.look .textEnd).first some (c.pass 5 v.length) :=
        first_group_of_fails (hc.trans (List.append_nil v).symm) hclass rfl (Nat.zero_le _) nofun
          fun x _ d r hd => first_end_of_cons hd
      _ = some (c.pass 5 v.length) := first_end_of_nil hpass

/-- A sign that separates, and the blank behind it. -/
theorem first_separator_mark {m : Char} (hm : m = ':' ∨ m = '>') (hc : c.rest = m :: ' ' :: v)
    (hv : CharClass.space.run v = 0) (hk : (k (c.skip 2)).isSome) :
    separator.first ((spaces 0 true).first k) c = k (c.skip 2) := by
  have hspace : CharClass.space.run c.rest = 0 := by
    rw [hc]
    apply run_space_cons
    rcases hm with rfl | rfl <;> decide
  have hmark : (seqs [spaces 0 true, .chars markClass]).first ((spaces 0 true).first k) c =
      k (c.skip 2) := by
    rw [first_seqs_cons, first_no_blank hspace]
    refine (first_chars_of_mem hc (mem_markClass.mpr hm)).trans ?_
    rw [first_blank_of_isSome, skip_skip]
    · rw [skip_rest, hc]
      rfl
    · exact hv
    · rwa [skip_skip]
  obtain ⟨r, hr⟩ := Option.isSome_iff_exists.mp hk
  rw [separator, first_alt, hmark, hr, Option.some_or]

/-- The word that separates, and the blanks around it. -/
theorem first_separator_spoken (hc : c.rest = ' ' :: '说' :: ' ' :: v)
    (hv : CharClass.space.run v = 0) (hk : (k (c.skip 3)).isSome) :
    separator.first ((spaces 0 true).first k) c = k (c.skip 3) := by
  have hrest : (c.skip 1).rest = '说' :: ' ' :: v := by
    rw [skip_rest, hc]
    rfl
  have hword : CharClass.space.run ('说' :: ' ' :: v) = 0 :=
    run_space_cons (by decide)
  have hmark : ∀ {x : Char} {d : Cursor} {r : List Char}, x ≠ ':' → x ≠ '>' → d.rest = x :: r →
      (Expr.chars markClass).first ((spaces 0 true).first k) d = none := by
    intro x d r hcolon harrow hd
    apply first_chars_eq_none
    rw [hd]
    apply CharClass.run_cons_of_not_mem
    rw [← Bool.not_eq_true, mem_markClass]
    exact not_or.mpr ⟨hcolon, harrow⟩
  have hleft :
      (seqs [spaces 0 true, .chars markClass]).first ((spaces 0 true).first k) c = none := by
    rw [first_seqs_cons]
    refine (first_blank hc hword (Nat.zero_le 1) fun d r hd => ?_).trans ?_
    · exact hmark (by decide) (by decide) hd
    · exact hmark (by decide) (by decide) hrest
  rw [separator, first_alt, hleft, Option.none_or, first_seqs_cons,
    first_blank hc hword (Nat.le_refl 1)]
  · refine (first_letter hrest).trans ?_
    rw [first_blank_of_isSome, skip_skip, skip_skip]
    · rw [skip_rest, hrest]
      rfl
    · exact hv
    · rwa [skip_skip, skip_skip]
  · intro d r hd
    apply first_chars_eq_none
    rw [hd]
    exact CharClass.run_cons_of_not_mem (by decide +kernel)

/-- A separator, whichever it is, and the blanks around it. -/
theorem first_separator (sep : Separator) (hc : c.rest = sep.text.toList ++ v)
    (hv : CharClass.space.run v = 0) (hk : (k (c.skip sep.text.length)).isSome) :
    separator.first ((spaces 0 true).first k) c = k (c.skip sep.text.length) := by
  cases sep with
  | colon => exact first_separator_mark (.inl rfl) hc hv hk
  | arrow => exact first_separator_mark (.inr rfl) hc hv hk
  | spoken => exact first_separator_spoken hc hv hk

theorem first_separator_eq_none (hspace : CharClass.space.run c.rest = 0)
    (hmark : markClass.run c.rest = 0) : separator.first k c = none := by
  have hleft : (seqs [spaces 0 true, .chars markClass]).first k c = none := by
    rw [first_seqs_cons, first_no_blank hspace]
    exact first_chars_eq_none hmark
  have hright : (seqs [spaces 1 true, letter '说']).first k c = none := by
    rw [first_seqs_cons]
    exact first_repeated_eq_none (hspace.trans_lt Nat.one_pos)
  rw [separator, first_alt, hleft, hright, Option.or_none]

/-- A speaker and what is said are read as such. -/
theorem first_speech (sep : Separator) {name : List Char}
    (hlength : 3 ≤ name.length ∧ name.length ≤ 16)
    (hname : ∀ x ∈ name, Unicode.isPlainWordChar x = true)
    (hspace : CharClass.space.run v = 0) (hv : '\n' ∉ v)
    (hc : c.rest = name ++ sep.text.toList ++ v) :
    (seqs speech).first some c =
      some (((c.pass 4 name.length).skip sep.text.length).pass 5 v.length) := by
  have hname' : ∀ x ∈ name, nameClass.mem x = true := fun x hx =>
    mem_nameClass_of_plain (hname x hx)
  rw [List.append_assoc] at hc
  have hrest : (c.pass 4 name.length).rest = sep.text.toList ++ v := by
    rw [pass_rest, hc, List.drop_left]
  have hcontent : (seqs content).first some ((c.pass 4 name.length).skip sep.text.length) =
      some (((c.pass 4 name.length).skip sep.text.length).pass 5 v.length) := by
    refine first_content ?_ hv
    rw [skip_rest, hrest]
    exact List.drop_left
  have hsep : nameClass.run (sep.text.toList ++ v) = 0 := by
    cases sep with
    | colon => exact CharClass.run_cons_of_not_mem (nameClass_marks (x := ':') (by simp))
    | arrow => exact CharClass.run_cons_of_not_mem (nameClass_marks (x := '>') (by simp))
    | spoken => exact CharClass.run_cons_of_not_mem (nameClass_marks (x := ' ') (by simp))
  calc (seqs speech).first some c
      _ = separator.first ((spaces 0 true).first ((seqs content).first some))
            (c.pass 4 name.length) := by
        refine first_group_of_fails hc hname' hsep hlength.1 ?_ fun x hx d r hd => ?_
        · rintro _ ⟨⟩
          exact hlength.2.trans (Nat.le_max_right 3 16)
        · refine first_separator_eq_none ?_ ?_
          · exact hd ▸ run_space_cons (Unicode.isWhiteSpace_of_isPlainWordChar (hname x hx))
          · exact hd ▸ CharClass.run_cons_of_not_mem (markClass_of_name (hname' x hx))
      _ = _ := by
        rw [first_separator sep hrest hspace (Option.isSome_of_eq_some hcontent), hcontent]

/-- What is read where a separator is. -/
theorem reads_of_leads_separator (h : separator.Leads c d) :
    ∃ blanks mark, (∀ x ∈ blanks, Unicode.isWhiteSpace x = true) ∧
      (mark = ':' ∨ mark = '>' ∨ mark = '说' ∧ blanks ≠ []) ∧ c.Reads (blanks ++ [mark]) d := by
  rcases h with h | h
  · obtain ⟨m, hm, hd⟩ := leads_seqs_cons.mp h
    obtain ⟨blanks, hblanks, -, -, hm⟩ := leads_repeated.mp hm
    obtain ⟨x, hx, hd⟩ := leads_chars.mp hd
    have hmark : x = ':' ∨ x = '>' ∨ x = '说' ∧ blanks ≠ [] :=
      (mem_markClass.mp hx).imp_right .inl
    exact ⟨blanks, x, hblanks, hmark, reads_append.mpr ⟨m, hm, hd⟩⟩
  · obtain ⟨m, hm, hd⟩ := leads_seqs_cons.mp h
    obtain ⟨blanks, hblanks, hleast, -, hm⟩ := leads_repeated.mp hm
    obtain ⟨x, hx, hd⟩ := leads_chars.mp hd
    obtain rfl := (mem_letter_iff (by simp)).mp hx
    have hne : blanks ≠ [] := List.ne_nil_of_length_pos hleast
    exact ⟨blanks, '说', hblanks, .inr (.inr ⟨rfl, hne⟩), reads_append.mpr ⟨m, hm, hd⟩⟩

/-- Where a speaker is read, the text starts with one. -/
theorem startsWithSpeaker_of_first (h : (seqs speech).first k c = some r) :
    StartsWithSpeaker c.rest := by
  have hloops : (seqs speech).LoopsOverChars := by
    simp [separator, content, speech, seqs, LoopsOverChars, spaces, letter]
  obtain ⟨_, hd, -⟩ := (follows_first hloops).sound h
  obtain ⟨_, ⟨m, hm, rfl⟩, hd⟩ := leads_seqs_cons.mp hd
  obtain ⟨name, hname, hleast, hmost, hrest, -⟩ := leads_repeated.mp hm
  obtain ⟨d, hd, -⟩ := leads_seqs_cons.mp hd
  obtain ⟨blanks, mark, hblanks, hmark, hrest', -⟩ := reads_of_leads_separator hd
  refine ⟨name, blanks, mark, d.rest, ?_, hleast, hmost 16 rfl, fun x hx => ?_, hblanks, hmark⟩
  · rw [hrest, show m.rest = _ from hrest']
    simp
  · rw [← mem_nameClass]
    exact hname x hx

/-! ## Rank tags -/

/-- No speaker's name starts with a sign or a blank. -/
theorem first_speech_eq_none (hc : c.rest = x :: w) (hx : x ∈ "[ :>说".toList) :
    (seqs speech).first k c = none := by
  apply first_repeated_eq_none
  rw [hc, CharClass.run_cons_of_not_mem (nameClass_marks hx)]
  exact Nat.succ_pos 2

/-- The longest text that may be a rank tag is read, and blanks have to follow. -/
theorem first_tag (hne : v ≠ []) (hv : ∀ x ∈ v, Unicode.isWhiteSpace x = false ∧ x ≠ ':')
    (hw : tagClass.run w = 0) (hc : c.rest = v ++ w) :
    (seqs tag).first k c = (spaces 1 true).first k (c.pass 3 v.length) := by
  refine first_group_of_fails hc (fun x hx => mem_tagClass.mpr (hv x hx)) hw
    (List.length_pos_of_ne_nil hne) nofun fun x hx d r hd => ?_
  apply first_repeated_eq_none
  rw [hd, run_space_cons (hv x hx).1]
  exact Nat.one_pos

theorem tagClass_marks : tagClass.mem ':' = false ∧ tagClass.mem ' ' = false := by
  simp only [← Bool.not_eq_true, mem_tagClass]
  decide

/-- A text that may be a rank tag is read as one with the blank behind it. -/
theorem first_tag_blank (hne : v ≠ []) (hv : ∀ x ∈ v, Unicode.isWhiteSpace x = false ∧ x ≠ ':')
    (hc : c.rest = v ++ ' ' :: w) (hw : CharClass.space.run w = 0) :
    (seqs tag).first ((seqs speech).first k) c =
      (seqs speech).first k ((c.pass 3 v.length).skip 1) := by
  have hrest : (c.pass 3 v.length).rest = ' ' :: w := by
    rw [pass_rest, hc, List.drop_left]
  rw [first_tag hne hv (CharClass.run_cons_of_not_mem tagClass_marks.2) hc]
  exact first_blank hrest hw (Nat.le_refl 1) fun d r hd => first_speech_eq_none hd (by simp)

/-- What stands behind a channel does not start with a blank. -/
theorem first_message_eq_none (hc : c.rest = ' ' :: w) : (seqs message).first k c = none := by
  have htag : (seqs tag).first ((seqs speech).first k) c = none := by
    rw [tag, first_seqs_cons, first_group]
    apply first_repeated_eq_none
    rw [hc, CharClass.run_cons_of_not_mem tagClass_marks.2]
    exact Nat.one_pos
  rw [message, first_seqs_cons, first_optional, htag, Option.none_or]
  exact first_speech_eq_none hc (by simp)

/-- A rank tag is read as one where a speaker follows. -/
theorem first_message_tagged (hne : v ≠ [])
    (hv : ∀ x ∈ v, Unicode.isWhiteSpace x = false ∧ x ≠ ':') (hc : c.rest = v ++ ' ' :: w)
    (hw : CharClass.space.run w = 0)
    (hk : ((seqs speech).first k ((c.pass 3 v.length).skip 1)).isSome) :
    (seqs message).first k c = (seqs speech).first k ((c.pass 3 v.length).skip 1) := by
  obtain ⟨r, hr⟩ := Option.isSome_iff_exists.mp hk
  rw [message, first_seqs_cons, first_optional, first_tag_blank hne hv hc hw, hr, Option.some_or]

/-- Without a rank tag the speaker is read as such, unless what is said behind an arrow starts with
a speaker. -/
theorem first_message_untagged (sep : Separator) {name : List Char} (hne : name ≠ [])
    (hname : ∀ x ∈ name, Unicode.isPlainWordChar x = true)
    (hspace : CharClass.space.run v = 0) (hspeaker : sep = .arrow → ¬StartsWithSpeaker v)
    (hc : c.rest = name ++ sep.text.toList ++ v) :
    (seqs message).first k c = (seqs speech).first k c := by
  have hplain : ∀ x ∈ name, Unicode.isWhiteSpace x = false ∧ x ≠ ':' := by
    intro x hx
    refine ⟨Unicode.isWhiteSpace_of_isPlainWordChar (hname x hx), ?_⟩
    rintro rfl
    exact absurd (hname ':' hx) (by decide)
  have htag : (seqs tag).first ((seqs speech).first k) c = none := by
    cases sep with
    | colon =>
        rw [List.append_assoc] at hc
        rw [first_tag hne hplain (CharClass.run_cons_of_not_mem tagClass_marks.1) hc]
        apply first_repeated_eq_none
        rw [pass_rest, hc, List.drop_left]
        exact (run_space_cons (by decide)).trans_lt Nat.one_pos
    | arrow =>
        -- The speaker and the arrow would be the rank tag, and then a speaker has to follow.
        have hc' : c.rest = (name ++ ['>']) ++ ' ' :: v := by
          simpa [Separator.text] using hc
        have hne' : name ++ ['>'] ≠ [] := by
          simp
        have hplain' : ∀ x ∈ name ++ ['>'], Unicode.isWhiteSpace x = false ∧ x ≠ ':' := by
          rw [List.forall_mem_append]
          exact ⟨hplain, List.forall_mem_singleton.mpr (by decide)⟩
        rw [first_tag_blank hne' hplain' hc' hspace]
        by_contra hsome
        obtain ⟨r, hr⟩ := Option.ne_none_iff_exists'.mp hsome
        have hstart := startsWithSpeaker_of_first hr
        rw [skip_rest, pass_rest, hc', List.drop_left] at hstart
        exact hspeaker rfl hstart
    | spoken =>
        rw [List.append_assoc] at hc
        have hc' : c.rest = name ++ ' ' :: '说' :: ' ' :: v := hc
        have hword : CharClass.space.run ('说' :: ' ' :: v) = 0 :=
          run_space_cons (by decide)
        rw [first_tag_blank hne hplain hc' hword]
        refine first_speech_eq_none (x := '说') (w := ' ' :: v) ?_ (by simp)
        rw [skip_rest, pass_rest, hc', List.drop_left]
        rfl
  rw [message, first_seqs_cons, first_optional, htag, Option.none_or]

/-! ## Channels -/

theorem leads_channelTag : channelTag.Leads c d ↔ ∃ v, LooksLikeChannel v ∧ c.Reads v d := by
  rw [channelTag, leads_alts (by simp)]
  constructor
  · rintro ⟨e, he, hd⟩
    rcases List.mem_append.mp he with he | he
    · obtain ⟨tag, htag, rfl⟩ := List.mem_map.mp he
      obtain ⟨v, hv, hd⟩ := leads_word.mp hd
      exact ⟨v, .inl ⟨tag, htag, hv⟩, hd⟩
    · obtain rfl := List.mem_singleton.mp he
      obtain ⟨v, hv, hleast, -, hd⟩ := leads_repeated.mp hd
      exact ⟨v, .inr ⟨hleast, fun x hx => mem_capitalClass ▸ hv x hx⟩, hd⟩
  · rintro ⟨v, ⟨tag, htag, hv⟩ | ⟨hleast, hv⟩, hd⟩
    · refine ⟨_, List.mem_append_left _ (List.mem_map_of_mem htag), leads_word.mpr ⟨v, hv, hd⟩⟩
    · refine ⟨_, List.mem_append_right _ (List.mem_singleton_self _), leads_repeated.mpr ?_⟩
      exact ⟨v, fun x hx => mem_capitalClass.trans (hv x hx), hleast, nofun, hd⟩

/-- What looks like a channel tag holds no character that ends one. -/
theorem ends_of_looksLikeChannel (h : LooksLikeChannel v) (hx : x ∈ v) :
    Unicode.isWhiteSpace x = false ∧ x ≠ ']' := by
  by_contra hends
  have hcaseless : Unicode.isCaseless x = true := by
    rcases not_and_or.mp hends with hspace | hclose
    · exact Unicode.isCaseless_of_isWhiteSpace (eq_true_of_ne_false hspace)
    · rw [not_not.mp hclose]
      exact caseless ']' (by simp)
  rcases h with ⟨tag, htag, hv⟩ | ⟨-, hv⟩
  · have hlisted : (channelTags.all fun tag => tag.toList.all fun y =>
        !Unicode.isWhiteSpace y && y != ']') = true := by
      decide
    obtain ⟨y, hy, hxy⟩ := exists_mem_of_forall₂ hv hx
    rw [(Unicode.sameUpToCase_iff_of_isCaseless hcaseless).mp hxy] at hends
    exact hends (by simpa using List.all_eq_true.mp (List.all_eq_true.mp hlisted tag htag) y hy)
  · have hupper : x.isUpper = true := by
      have hx := hv x hx
      rw [Unicode.upToCase, Unicode.caseVariants_of_isCaseless hcaseless] at hx
      simpa using hx
    have halpha : (x.isUpper || x.isLower) = false := (Unicode.isCaseless_iff.mp hcaseless).2.1
    rw [hupper, Bool.true_or] at halpha
    cases halpha

theorem first_letter_eq_none (hx : x ∈ "[]:>说".toList) (hc : ∀ y ∈ c.rest.head?, y ≠ x) :
    (letter x).first k c = none := by
  refine first_chars_eq_none (CharClass.run_eq_zero_iff.mpr fun y hy => ?_)
  rw [← Bool.not_eq_true, mem_letter_iff hx]
  exact hc y hy

theorem rest_of_first_letter (hx : x ∈ "[]:>说".toList) (h : ((letter x).first k c).isSome) :
    ∃ r, c.rest = x :: r := by
  cases hrest : c.rest with
  | nil =>
      rw [first_letter_eq_none hx (by simp [hrest])] at h
      cases h
  | cons y r =>
      by_cases hy : y = x
      · exact ⟨r, by rw [hy]⟩
      · rw [first_letter_eq_none hx (by simpa [hrest] using hy)] at h
        cases h

/-- A text in brackets is read up to the first closing one. -/
theorem first_closed (hc : c.rest = ']' :: ' ' :: w) (hw : CharClass.space.run w = 0)
    (hleast : least ≤ 1) (hk : ∀ d r, d.rest = ' ' :: r → k d = none) :
    (seqs [letter ']', spaces least true]).first k c = k (c.skip 2) := by
  have hrest : (c.skip 1).rest = ' ' :: w := by
    rw [skip_rest, hc]
    rfl
  rw [first_seqs_cons, first_letter hc]
  exact (first_blank hrest hw hleast hk).trans (by rw [skip_skip])

/-- A channel tag in brackets is read as one. -/
theorem first_channel (hv : LooksLikeChannel v) (hc : c.rest = '[' :: v ++ ']' :: ' ' :: w)
    (hw : CharClass.space.run w = 0) (hk : ∀ d r, d.rest = ' ' :: r → k d = none) :
    (seqs channel).first k c = k (((c.skip 1).pass 2 v.length).skip 2) := by
  have hrest : (c.skip 1).rest = v ++ ']' :: ' ' :: w := by
    rw [skip_rest, hc]
    rfl
  have hclosed : ((c.skip 1).pass 2 v.length).rest = ']' :: ' ' :: w := by
    rw [pass_rest, hrest, List.drop_left]
  have hgroup : (group 2 channelTag).first ((seqs [letter ']', spaces 1 true]).first k) (c.skip 1) =
      (seqs [letter ']', spaces 1 true]).first k ((c.skip 1).pass 2 v.length) := by
    have hloops : (group 2 channelTag).LoopsOverChars := by
      simp [channelTag, channelTags, word, seqs, alts, LoopsOverChars, letter]
    have hleads := leads_channelTag.mpr ⟨v, hv, reads_skip hrest⟩
    refine first_eq_of_unique hloops ⟨_, hleads, rfl⟩ ?_
    rintro _ ⟨m, hm, rfl⟩ hsome
    obtain ⟨u, hu, hrest', rfl⟩ := leads_channelTag.mp hm
    -- A closing bracket has to follow, and neither tag holds one.
    rw [first_seqs_cons] at hsome
    obtain ⟨r, hnext⟩ := rest_of_first_letter (by simp) hsome
    have hboth : v ++ ']' :: ' ' :: w = u ++ ']' :: r := hrest ▸ hnext ▸ hrest'
    rw [eq_of_append_cons_eq (p := (· = ']')) (fun x hx => (ends_of_looksLikeChannel hv hx).2)
      (fun x hx => (ends_of_looksLikeChannel hu hx).2) rfl rfl hboth]
    rfl
  rw [channel, first_seqs_cons, first_letter hc, first_seqs_cons, hgroup,
    first_closed hclosed hw (Nat.le_refl 1) hk]

/-- What is read where a channel tag in brackets is. -/
theorem reads_of_leads_channel (h : (seqs channel).Leads c d) :
    ∃ v blank rest, LooksLikeChannel v ∧ Unicode.isWhiteSpace blank = true ∧
      c.rest = '[' :: v ++ ']' :: blank :: rest := by
  obtain ⟨m₁, h₁, h⟩ := leads_seqs_cons.mp h
  obtain ⟨_, ⟨m₂, h₂, rfl⟩, h⟩ := leads_seqs_cons.mp h
  obtain ⟨m₃, h₃, h₄⟩ := leads_seqs_cons.mp h
  obtain ⟨x, hx, h₁⟩ := leads_chars.mp h₁
  obtain rfl := (mem_letter_iff (by simp)).mp hx
  obtain ⟨v, hv, h₂⟩ := leads_channelTag.mp h₂
  obtain ⟨y, hy, h₃⟩ := leads_chars.mp h₃
  obtain rfl := (mem_letter_iff (by simp)).mp hy
  obtain ⟨blanks, hblanks, hleast, -, h₄⟩ := leads_repeated.mp h₄
  obtain ⟨blank, blanks, rfl⟩ := List.exists_cons_of_length_pos hleast
  refine ⟨v, blank, blanks ++ d.rest, hv, hblanks blank List.mem_cons_self, ?_⟩
  have h₃ : m₂.rest = ']' :: m₃.rest := h₃.1
  rw [h₁.1, h₂.1, h₃, h₄.1]
  simp

/-! ## Servers -/

/-- A text in brackets in front of a channel is read as a server. -/
theorem first_server (hne : v ≠ []) (hv : ']' ∉ v) (hc : c.rest = '[' :: v ++ ']' :: ' ' :: w)
    (hw : CharClass.space.run w = 0) (hk : ∀ d r, d.rest = ' ' :: r → k d = none) :
    (seqs server).first k c = k (((c.skip 1).pass 1 v.length).skip 2) := by
  have hrest : (c.skip 1).rest = v ++ ']' :: ' ' :: w := by
    rw [skip_rest, hc]
    rfl
  have hclosed : ((c.skip 1).pass 1 v.length).rest = ']' :: ' ' :: w := by
    rw [pass_rest, hrest, List.drop_left]
  have hname : ∀ x ∈ v, x ≠ ']' := fun x hx heq => hv (heq ▸ hx)
  have hend : serverClass.mem ']' = false := by
    rw [← Bool.not_eq_true, mem_serverClass]
    simp
  have hgroup : (group 1 (repeated (.chars serverClass) 1 none false)).first
      ((seqs [letter ']', spaces 0 true]).first k) (c.skip 1) =
        (seqs [letter ']', spaces 0 true]).first k ((c.skip 1).pass 1 v.length) := by
    refine first_group_of_fails hrest (fun x hx => mem_serverClass.mpr (hname x hx))
      (CharClass.run_cons_of_not_mem hend) (List.length_pos_of_ne_nil hne) nofun
      fun x hx d r hd => ?_
    rw [first_seqs_cons, first_letter_eq_none (by simp)]
    simpa [hd] using hname x hx
  rw [server, first_seqs_cons, first_letter hc, first_seqs_cons, hgroup,
    first_closed hclosed hw (Nat.zero_le 1) hk]

theorem first_channel_eq_none (hc : ∀ y ∈ c.rest.head?, y ≠ '[') :
    (seqs (channel ++ message)).first k c = none := by
  rw [channel, List.cons_append, first_seqs_cons]
  exact first_letter_eq_none (by simp) hc

/-- A rank tag that is read as a channel is a channel tag in brackets. -/
theorem tag_of_first (hv : ∀ x ∈ v, Unicode.isWhiteSpace x = false) (hc : c.rest = v ++ ' ' :: w)
    (h : ((seqs (channel ++ message)).first k c).isSome) :
    ∃ u, LooksLikeChannel u ∧ v = '[' :: u ++ [']'] := by
  have hloops : (seqs channel).LoopsOverChars := by
    simp [channel, channelTag, channelTags, word, seqs, alts, LoopsOverChars, spaces, letter]
  rw [first_seqs_append] at h
  obtain ⟨r, hr⟩ := Option.isSome_iff_exists.mp h
  obtain ⟨d, hd, -⟩ := (follows_first hloops).sound hr
  obtain ⟨u, blank, rest, hu, hblank, hrest⟩ := reads_of_leads_channel hd
  have hboth : v ++ ' ' :: w = ('[' :: u ++ [']']) ++ blank :: rest := by
    rw [← hc, hrest]
    simp
  refine ⟨u, hu, eq_of_append_cons_eq (p := (Unicode.isWhiteSpace · = true)) ?_ ?_ (by decide)
    hblank hboth⟩
  · intro x hx
    simp [hv x hx]
  · intro x hx
    have hx : x = '[' ∨ x ∈ u ∨ x = ']' := by simpa using hx
    rcases hx with rfl | hx | rfl
    · decide
    · simp [(ends_of_looksLikeChannel hu hx).1]
    · decide

/-! ## The whole pattern -/

theorem first_address_eq_none (hc : ∀ y ∈ c.rest.head?, y ≠ '[') :
    (seqs address).first k c = none := by
  have hserver : (seqs server).first ((seqs (channel ++ message)).first k) c = none := by
    rw [server, first_seqs_cons]
    exact first_letter_eq_none (by simp) hc
  rw [address, first_seqs_cons, first_optional, hserver, first_channel_eq_none hc, Option.or_none]

/-- A chat line is read behind its mark. -/
theorem first_expr (hc : c.rest = "[CHAT] ".toList ++ '[' :: w) :
    expr.first some c = (seqs address).first some (c.skip 7) := by
  have hmark : c.rest = "[CHAT]".toList ++ ' ' :: '[' :: w := hc
  have hrest : (c.skip 6).rest = ' ' :: '[' :: w := by
    rw [skip_rest, hmark]
    rfl
  rw [expr, first_seqs_append, first_word hmark, first_seqs_cons]
  refine (first_blank hrest (run_space_cons (by decide)) (Nat.zero_le 1) fun d r hd => ?_).trans ?_
  · exact first_address_eq_none (by simp [hd])
  · exact congrArg _ (c.skip_skip 6 1)

end Pattern.Message

end LogWarden
