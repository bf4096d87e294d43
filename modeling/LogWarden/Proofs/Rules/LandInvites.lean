import LogWarden.Proofs.Pattern.Words
import LogWarden.Proofs.Rules.Builtin

/-!
# Land invitations

The pattern of land invitations may start anywhere in a line and takes for the inviter the first
characters that a name may have. In a line of chat these are the letters of the mark that the line
starts with. The land is what stands behind the words of the invitation, unless the inviter's name
holds such words itself.
-/

namespace LogWarden

/-- An invitation into a land. -/
structure LandInvitation where
  inviter : String
  land : String
  inviter_length : 2 ≤ inviter.length ∧ inviter.length ≤ 16
  inviter_word : ∀ x ∈ inviter.toList, Unicode.isWordChar x = true
  land_length : 2 ≤ land.length ∧ land.length ≤ 30
  land_plain : ∀ x ∈ land.toList, Unicode.isPlainWordChar x = true

namespace LandInvitation

/-- The line of chat that announces an invitation. -/
def line (i : LandInvitation) : String :=
  "[CHAT] " ++ i.inviter ++ " 邀请你加入 " ++ i.land ++ " 领土"

/-- Whether the name of the inviter holds words of an invitation itself. -/
def NameInvites (i : LandInvitation) : Prop :=
  ∃ u v w, i.inviter.toList = u ++ "邀请".toList ++ v ++ "加入".toList ++ w

theorem mem_of_nameInvites {i : LandInvitation} (h : i.NameInvites) : '邀' ∈ i.inviter.toList := by
  obtain ⟨u, v, w, h⟩ := h
  rw [h]
  simp

end LandInvitation

open Pattern.Expr Pattern.Cursor

namespace Pattern.LandInvite

/-! ## The pattern -/

/-- As few characters as possible. -/
def gap : Expr :=
  repeated (.chars (.compl (.one '\n'))) 0 none false

/-- The characters of an inviter's name. -/
def inviterClass : CharClass :=
  .folded (.union (.union .none (.having .word)) (.range '一' '鿿'))

/-- The characters of a land's name. -/
def landClass : CharClass :=
  .folded (.union (.union (.union (.union (.union .none (.having .word)) (.range '一' '鿿')) .space)
    (.one '·')) (.one '-'))

/-- The words of an invitation. -/
def words : List Expr :=
  gap :: word "邀请".toList ++ gap :: word "加入".toList

/-- What follows the name of the land. -/
def closing : List Expr :=
  gap :: word "领土".toList

/-- The name of the land and what stands around it. -/
def destination : List Expr :=
  gap :: group 2 (repeated (.chars landClass) 2 (some 32) true) :: closing

/-- The pattern of land invitations. -/
def expr : Expr :=
  seqs (gap :: group 1 (repeated (.chars inviterClass) 2 (some 16) true) :: (words ++ destination))

/-- The single rule of land invitations has this pattern. -/
theorem exists_rule :
    ∃ rule : RuleSpec,
      RuleSetSpec.builtin.filter (Text.trim ·.name == "land-invite") =
        [⟨"land-invite", [rule]⟩] ∧
      read? true rule.regex.toList = some (expr, [("inviter", 1), ("land_name", 2)]) ∧
      rule.groups = ["inviter", "land_name"] := by
  refine ⟨_, rfl, ?_, rfl⟩
  unfold expr words destination closing
  simp only [String.toList_append, -String.reduceAppend, -String.reduceToList]
  repeat rw [String.toList_ofList]
  decide +kernel

theorem loopsOverChars_expr : expr.LoopsOverChars := by
  simp [expr, words, destination, closing, word, seqs, LoopsOverChars, gap, letter]

variable {c d r : Cursor} {text v w : List Char} {k : Way} {n : Nat}

/-! ## Words between gaps -/

theorem caseless {w : String} (hw : w ∈ ["邀请", "加入", "领土"]) :
    ∀ x ∈ w.toList, Unicode.isCaseless x = true := by
  have hall : (["邀请", "加入", "领土"].all fun w => w.toList.all Unicode.isCaseless) = true := by
    decide +kernel
  exact List.all_eq_true.mp (List.all_eq_true.mp hall w hw)

theorem leads_gap : gap.Leads c d ↔ ∃ v, '\n' ∉ v ∧ c.Reads v d := by
  have hmem (v : List Char) :
      (∀ x ∈ v, (CharClass.compl (.one '\n')).mem x = true) ↔ '\n' ∉ v := by
    simp only [CharClass.mem, Bool.not_eq_true', beq_eq_false_iff_ne, ne_eq]
    exact ⟨fun h hx => h _ hx rfl, fun h x hx heq => h (heq ▸ hx)⟩
  simp only [gap, leads_repeated, hmem, Nat.zero_le, Option.not_mem_none, false_imp_iff,
    implies_true, true_and]

/-- A gap ends where a word without case starts. -/
theorem leads_gap_word (hw : ∀ x ∈ w, Unicode.isCaseless x = true) :
    (seqs (gap :: word w)).Leads c d ↔ ∃ v, '\n' ∉ v ∧ c.Reads (v ++ w) d := by
  simp only [leads_seqs_cons, leads_gap, leads_word_of_caseless hw, reads_append]
  constructor
  · rintro ⟨m, ⟨v, hv, hm⟩, hd⟩
    exact ⟨v, hv, m, hm, hd⟩
  · rintro ⟨v, hv, m, hm, hd⟩
    exact ⟨m, ⟨v, hv, hm⟩, hd⟩

theorem leads_words :
    (seqs words).Leads c d ↔ ∃ u v, '\n' ∉ u ∧ '\n' ∉ v ∧
      c.Reads (u ++ "邀请".toList ++ (v ++ "加入".toList)) d := by
  have hwords : words = (gap :: word "邀请".toList) ++ (gap :: word "加入".toList) := rfl
  rw [hwords, leads_seqs_append]
  simp only [leads_gap_word (caseless (w := "邀请") (by simp)),
    leads_gap_word (caseless (w := "加入") (by simp)), reads_append (v := _ ++ "邀请".toList)]
  constructor
  · rintro ⟨m, ⟨u, hu, hm⟩, v, hv, hd⟩
    exact ⟨u, v, hu, hv, m, hm, hd⟩
  · rintro ⟨u, v, hu, hv, m, hm, hd⟩
    exact ⟨m, ⟨u, hu, hm⟩, v, hv, hd⟩

/-- A gap is passed over where the way on needs none. -/
theorem first_gap_of_isSome (hk : (k c).isSome) : gap.first k c = k c :=
  first_repeated_chars (n := 0) ⟨Nat.le_refl 0, nofun, Nat.zero_le _⟩ hk fun _ _ h =>
    absurd h (Nat.not_lt_zero _)

theorem first_closing (h : c.rest = "领土".toList) :
    (seqs closing).first some c = some (c.skip 2) := by
  have hword : (seqs (word "领土".toList)).first some c = some (c.skip 2) :=
    first_word (h.trans (List.append_nil _).symm)
  rw [closing, first_seqs_cons, first_gap_of_isSome (hword ▸ rfl), hword]

theorem first_closing_eq_none (h : c.rest.length < 2) : (seqs closing).first some c = none := by
  by_contra hsome
  obtain ⟨r, hr⟩ := Option.ne_none_iff_exists'.mp hsome
  have hloops : (seqs closing).LoopsOverChars := by
    simp [closing, word, seqs, LoopsOverChars, gap, letter]
  obtain ⟨d, hd, -⟩ := (follows_first hloops).sound hr
  obtain ⟨v, -, hrest, -⟩ := (leads_gap_word (caseless (w := "领土") (by simp))).mp hd
  rw [hrest] at h
  simp at h
  omega

/-! ## The name of the land -/

theorem landClass_of_plain {x : Char} (h : Unicode.isPlainWordChar x = true) :
    landClass.mem x = true := by
  apply CharClass.mem_folded_of_mem
  simp only [CharClass.mem, ComputedProperty.holds, Unicode.isWordChar_of_isPlainWordChar h,
    Bool.or_true, Bool.true_or]

theorem landClass_closing : ∀ x ∈ " 领土".toList, landClass.mem x = true :=
  List.all_eq_true.mp (by decide +kernel)

/-- The name of a land is read with the blanks around it. -/
theorem first_destination {land : List Char}
    (hplain : ∀ x ∈ land, Unicode.isPlainWordChar x = true) (hlength : land.length ≤ 30)
    (hc : c.rest = ' ' :: land ++ " 领土".toList) :
    (seqs destination).first some c = some ((c.pass 2 (land.length + 2)).skip 2) := by
  have hrun : landClass.run c.rest = land.length + 4 := by
    have hall : ∀ x ∈ ' ' :: land ++ " 领土".toList, landClass.mem x = true := by
      intro x hx
      rcases List.mem_append.mp hx with hx | hx
      · rcases List.mem_cons.mp hx with rfl | hx
        · exact landClass_closing ' ' (by decide)
        · exact landClass_of_plain (hplain x hx)
      · exact landClass_closing x hx
    rw [hc, ← List.append_nil (' ' :: land ++ _), CharClass.run_append hall]
    simp
  have hend : (seqs closing).first some (c.pass 2 (land.length + 2)) =
      some ((c.pass 2 (land.length + 2)).skip 2) := by
    apply first_closing
    rw [pass_rest, hc]
    have hsplit : ' ' :: land ++ " 领土".toList = (' ' :: land ++ [' ']) ++ "领土".toList := by
      simp
    rw [hsplit, List.drop_left' (by simp)]
  have hgroup : (group 2 (repeated (.chars landClass) 2 (some 32) true)).first
      ((seqs closing).first some) c = some ((c.pass 2 (land.length + 2)).skip 2) := by
    have hname : CanRead landClass 2 (some 32) c.rest (land.length + 2) := by
      refine ⟨Nat.le_add_left 2 _, ?_, ?_⟩
      · rintro _ ⟨⟩
        omega
      · omega
    rw [first, ← hend]
    refine first_repeated_chars hname (Option.isSome_of_eq_some hend) fun m hm hpreferred => ?_
    -- Behind more characters than these the closing word no longer fits.
    apply first_closing_eq_none
    have hlt : land.length + 2 < m := hpreferred
    have hlength : c.rest.length = land.length + 4 := by
      simp [hc]
    rw [record, skip_rest, List.length_drop, hlength]
    omega
  rw [destination, first_seqs_cons, first_gap_of_isSome, first_seqs_cons, hgroup]
  rw [first_seqs_cons, hgroup]
  rfl

/-- Whatever is read of a land and around it, the land's name is captured and what was captured
before stays. -/
theorem spanText_destination (hc : c.IsAt text) (h : (seqs destination).first some c = some r) :
    spanText text r 1 = spanText text c 1 ∧ ∃ v, spanText text r 2 = some v := by
  have hloops : (seqs destination).LoopsOverChars := by
    simp [destination, closing, word, seqs, LoopsOverChars, gap, letter]
  obtain ⟨_, hd, ⟨⟩⟩ := (follows_first hloops).sound h
  obtain ⟨m, hm, hd⟩ := leads_seqs_cons.mp hd
  obtain ⟨v, -, hm⟩ := leads_gap.mp hm
  obtain ⟨m', ⟨e, he, rfl⟩, hd⟩ := leads_seqs_cons.mp hd
  obtain ⟨name, -, -, -, hname⟩ := leads_repeated.mp he
  obtain ⟨v', -, hd⟩ := (leads_gap_word (caseless (w := "领土") (by simp))).mp hd
  obtain rfl := hname.2
  constructor
  · rw [spanText_congr hd.spans, ← spanText_congr hm.spans]
    exact spanText_pass_of_ne (by decide)
  · rw [spanText_congr hd.spans]
    exact ⟨_, spanText_pass (hm.isAt hc) hname.1 2⟩

/-! ## The name of the inviter -/

theorem inviterClass_mark : (∀ x ∈ "CHAT".toList, inviterClass.mem x = true) ∧
    inviterClass.mem '[' = false ∧ inviterClass.mem ']' = false :=
  ⟨List.all_eq_true.mp (by decide +kernel), by decide, by decide⟩

/-- The letters of the mark of a chat line are taken for the inviter. -/
theorem first_expr (h : c.rest = "[CHAT]".toList ++ w)
    (hk : ((seqs (words ++ destination)).first some ((c.skip 1).pass 1 4)).isSome) :
    expr.first some c = (seqs (words ++ destination)).first some ((c.skip 1).pass 1 4) := by
  obtain ⟨hmark, hopen, hclose⟩ := inviterClass_mark
  have hgroup : (group 1 (repeated (.chars inviterClass) 2 (some 16) true)).first
      ((seqs (words ++ destination)).first some) (c.skip 1) =
        (seqs (words ++ destination)).first some ((c.skip 1).pass 1 4) := by
    have hrest : (c.skip 1).rest = "CHAT".toList ++ ']' :: w := by
      rw [skip_rest, h]
      rfl
    refine first_repeated_of_isSome hrest hmark (CharClass.run_cons_of_not_mem hclose)
      (by decide) ?_ hk
    rintro _ ⟨⟩
    decide
  rw [expr, first_seqs_cons, ← hgroup, ← first_seqs_cons]
  have hrest : c.rest = '[' :: ("CHAT]".toList ++ w) := h
  have hgap : CanRead (.compl (.one '\n')) 0 none c.rest 1 := by
    refine ⟨Nat.zero_le 1, nofun, ?_⟩
    rw [hrest, CharClass.run_cons (by decide)]
    exact Nat.le_add_left 1 _
  refine first_repeated_chars hgap ?_ fun m _ hpreferred => ?_
  · rw [first_seqs_cons, hgroup]
    exact hk
  · -- The mark itself starts with a bracket, which no name has.
    have hm : m < 1 := hpreferred
    obtain rfl := Nat.lt_one_iff.mp hm
    rw [first_seqs_cons, skip_zero]
    apply first_repeated_eq_none
    rw [hrest, CharClass.run_cons_of_not_mem hopen]
    decide

end Pattern.LandInvite

/-- Text between two blanks. -/
theorem Text.trimChars_padded {cs : List Char}
    (h : ∀ x ∈ cs, Unicode.isWhiteSpace x = false) : trimChars (' ' :: cs ++ [' ']) = cs := by
  have hkept (w : List Char) (hw : ∀ x ∈ w.head?, Unicode.isWhiteSpace x = false) :
      w.dropWhile Unicode.isWhiteSpace = w := by
    cases w with
    | nil => rfl
    | cons x w => exact List.dropWhile_cons_of_neg (by simp [hw x rfl])
  cases cs with
  | nil => decide
  | cons x w =>
      have hstart : trimStart (' ' :: (x :: w) ++ [' ']) = x :: w ++ [' '] := by
        rw [trimStart, List.cons_append, List.dropWhile_cons_of_pos (by decide)]
        apply hkept
        rintro _ ⟨⟩
        exact h x List.mem_cons_self
      rw [trimChars, hstart, trimEnd, List.reverse_append, List.reverse_singleton,
        List.singleton_append, List.dropWhile_cons_of_pos (by decide), hkept, List.reverse_reverse]
      intro y hy
      exact h y (List.mem_reverse.mp (List.mem_of_mem_head? hy))

namespace LandInvitation

open Pattern Expr Cursor LandInvite

/-! ## The line of an invitation -/

/-- Words of an invitation that stand before those of the line stand in the name of the inviter. -/
theorem name_of_words {inviter u v w : List Char}
    (h : "] ".toList ++ inviter ++ " 邀请你".toList =
      u ++ "邀请".toList ++ v ++ "加入".toList ++ w) :
    ∃ u w, inviter = u ++ "邀请".toList ++ v ++ "加入".toList ++ w := by
  rcases u with _ | ⟨x, _ | ⟨y, u⟩⟩
  · simp at h
  · simp at h
  · have hname : inviter ++ " 邀请你".toList = (u ++ "邀请".toList ++ v ++ "加入".toList) ++ w :=
      (List.cons.inj (List.cons.inj h).2).2
    rcases List.append_eq_append_iff.mp hname with ⟨more, hhead, htail⟩ | ⟨more, hhead, -⟩
    · rcases List.eq_nil_or_concat more with rfl | ⟨more, z, rfl⟩
      · exact ⟨u, [], by simpa using hhead.symm⟩
      · have hlast : z = '入' := by
          have hboth : (u ++ "邀请".toList ++ v ++ ['加']) ++ ['入'] =
              (inviter ++ more) ++ [z] := by
            simpa using hhead
          simpa using (List.append_inj' hboth rfl).2.symm
        have hmem : '入' ∈ " 邀请你".toList := by
          rw [htail, ← hlast]
          simp
        exact absurd hmem (by decide)
    · exact ⟨u, more, hhead⟩

/-- The words of an invitation end where they stand in its line, unless the name of the inviter
holds such words. -/
theorem eq_of_words {inviter land u v rest : List Char}
    (hinviter : ∀ u v w, inviter ≠ u ++ "邀请".toList ++ v ++ "加入".toList ++ w)
    (hland : ∀ x ∈ land, Unicode.isPlainWordChar x = true)
    (h : "] ".toList ++ inviter ++ " 邀请你加入 ".toList ++ land ++ " 领土".toList =
      u ++ "邀请".toList ++ (v ++ "加入".toList) ++ rest) :
    rest = ' ' :: land ++ " 领土".toList := by
  have hsplit : ("] ".toList ++ inviter ++ " 邀请你".toList) ++
      '加' :: '入' :: (' ' :: land ++ " 领土".toList) =
        (u ++ "邀请".toList ++ v) ++ '加' :: '入' :: rest := by
    simpa using h
  rcases List.append_eq_append_iff.mp hsplit with ⟨more, -, htail⟩ | ⟨more, hhead, htail⟩
  · cases more with
    | nil =>
        simp only [List.nil_append, List.cons.injEq, true_and] at htail
        exact htail.symm
    | cons x more =>
        -- The words would stand in the name of the land or behind it.
        have hmem : '加' ∈ '入' :: (' ' :: land ++ " 领土".toList) := by
          rw [(List.cons.inj htail).2]
          simp
        have hname : '加' ∈ land := by
          simpa using hmem
        exact absurd (hland _ hname) (by decide)
  · rcases more with _ | ⟨x, _ | ⟨y, more⟩⟩
    · simp only [List.nil_append, List.cons.injEq, true_and] at htail
      exact htail
    · simp at htail
    · have hx : x = '加' := (List.cons.inj htail).1.symm
      have hy : y = '入' := (List.cons.inj (List.cons.inj htail).2).1.symm
      subst hx hy
      have hwords : "] ".toList ++ inviter ++ " 邀请你".toList =
          u ++ "邀请".toList ++ v ++ "加入".toList ++ more := by
        simpa using hhead
      obtain ⟨u', w, hname⟩ := name_of_words hwords
      exact absurd hname (hinviter u' v w)

variable (i : LandInvitation)

theorem toList_line : i.line.toList = "[CHAT] ".toList ++ i.inviter.toList ++
    " 邀请你加入 ".toList ++ i.land.toList ++ " 领土".toList := by
  simp only [line, String.toList_append]

/-- The place behind the letters of the mark in the line of an invitation, with these captured. -/
def behindMark : Cursor :=
  ((start i.line.toList).skip 1).pass 1 4

theorem behindMark_rest : i.behindMark.rest = "] ".toList ++ i.inviter.toList ++
    " 邀请你加入 ".toList ++ i.land.toList ++ " 领土".toList := by
  rw [behindMark, pass_rest, skip_rest, start, toList_line]
  rfl

theorem behindMark_isAt : i.behindMark.IsAt i.line.toList :=
  ((isAt_start _).skip 1).pass 1 4

/-- The mark is captured for the inviter. -/
theorem spanText_behindMark : spanText i.line.toList i.behindMark 1 = some "CHAT" := by
  have hrest : ((start i.line.toList).skip 1).rest = "CHAT".toList ++ i.behindMark.rest := by
    rw [behindMark_rest, skip_rest, start, toList_line]
    rfl
  exact spanText_pass ((isAt_start _).skip 1) hrest 1

/-- The pattern finds an invitation behind the mark of its line. -/
theorem exists_first : ∃ d r, (seqs words).Leads i.behindMark d ∧
    (seqs destination).first some d = some r ∧ expr.first some (start i.line.toList) = some r := by
  have hnewline : '\n' ∉ "] ".toList ++ i.inviter.toList ++ " ".toList := by
    have hname : '\n' ∉ i.inviter.toList := fun hmem =>
      absurd (i.inviter_word _ hmem) (by decide)
    simpa using hname
  have hrest : i.behindMark.rest =
      ("] ".toList ++ i.inviter.toList ++ " ".toList) ++ "邀请".toList ++ ("你".toList ++
        "加入".toList) ++ (' ' :: i.land.toList ++ " 领土".toList) := by
    rw [behindMark_rest]
    simp
  have hreads := reads_skip hrest
  have hwords := leads_words.mpr ⟨_, _, hnewline, by decide, hreads⟩
  have hland : (seqs destination).first some _ = some _ :=
    first_destination i.land_plain i.land_length.2
      (List.append_cancel_left (hreads.1.symm.trans hrest))
  have hloops : (seqs words).LoopsOverChars := by
    simp [words, word, seqs, LoopsOverChars, gap, letter]
  have hsome := (follows_first hloops).complete hwords (Option.isSome_of_eq_some hland)
  have hfirst : expr.first some (start i.line.toList) =
      (seqs words).first ((seqs destination).first some) i.behindMark := by
    have hmark : (start i.line.toList).rest = "[CHAT]".toList ++ (" ".toList ++ i.inviter.toList ++
        " 邀请你加入 ".toList ++ i.land.toList ++ " 领土".toList) := i.toList_line
    rw [← first_seqs_append] at hsome ⊢
    exact first_expr hmark hsome
  obtain ⟨r, hr⟩ := Option.isSome_iff_exists.mp hsome
  obtain ⟨d, hd, hdr⟩ := (follows_first hloops).sound hr
  exact ⟨d, r, hd, hdr, hfirst.trans hr⟩

/-- The land is found where it stands in the line. -/
theorem spanText_land {d r : Cursor} (hname : ¬i.NameInvites)
    (hd : (seqs words).Leads i.behindMark d) (hr : (seqs destination).first some d = some r) :
    spanText i.line.toList r 2 = some (String.ofList (' ' :: i.land.toList ++ [' '])) := by
  obtain ⟨u, v, -, -, hreads⟩ := leads_words.mp hd
  have hrest : d.rest = ' ' :: i.land.toList ++ " 领土".toList := by
    have hwords := i.behindMark_rest.symm.trans hreads.1
    exact eq_of_words (fun u v w heq => hname ⟨u, v, w, heq⟩) i.land_plain hwords
  rw [first_destination i.land_plain i.land_length.2 hrest] at hr
  cases hr
  have hsplit : d.rest = (' ' :: i.land.toList ++ [' ']) ++ "领土".toList := by
    simpa using hrest
  have hlength : (' ' :: i.land.toList ++ [' ']).length = i.land.toList.length + 2 := by
    simp
  rw [spanText_skip, ← hlength]
  exact spanText_pass (hreads.isAt i.behindMark_isAt) hsplit 2

theorem trim_land : Text.trim (String.ofList (' ' :: i.land.toList ++ [' '])) = i.land := by
  have hblank : ∀ x ∈ i.land.toList, Unicode.isWhiteSpace x = false := fun x hx =>
    Unicode.isWhiteSpace_of_isPlainWordChar (i.land_plain x hx)
  rw [Text.trim, String.toList_ofList, Text.trimChars_padded hblank, String.ofList_toList]

/-- The event of the line of an invitation. -/
theorem exists_event [PatternWording] {table : RuleTable}
    (hcompile : RuleTable.compile RuleSetSpec.builtin = .ok table) (aliases : Aliases) :
    ∃ land, ((⟨table, .builtin aliases⟩ : Classifier).classify i.line).filter
        (·.kind == "land-invite") = [⟨"land-invite", .landInvite "CHAT" land⟩] ∧
      (¬i.NameInvites → land = i.land) := by
  obtain ⟨rule, hsingle, hread, hfields⟩ := exists_rule
  obtain ⟨d, r, hd, hdr, hfirst⟩ := i.exists_first
  obtain ⟨u, v, -, -, hreads⟩ := leads_words.mp hd
  obtain ⟨hinviter, name, hland⟩ := spanText_destination (hreads.isAt i.behindMark_isAt) hdr
  rw [spanText_congr hreads.spans, i.spanText_behindMark] at hinviter
  refine ⟨Text.trim name, ?_, fun hname => ?_⟩
  · refine Classifier.filter_classify_of_first hcompile hsingle hread hfields
      loopsOverChars_expr hfirst ?_
    refine Registry.outcome_builtin (b := ⟨"land-invite", ⟨.landInvite, Builtin.landInvite⟩⟩)
      (by simp [Builtin.bindings]) ?_
    have hcaps {field : String} {index : Nat}
        (h : (field, index) ∈ [("inviter", 1), ("land_name", 2)]) :=
      Captures.get?_spanText (by decide) h i.line.toList r
    simp only [Builtin.landInvite,
      Captures.required_eq_ok ((hcaps (.head _)).trans hinviter),
      Captures.required_eq_ok ((hcaps (.tail _ (.head _))).trans hland)]
    rfl
  · rw [i.spanText_land hname hd hdr] at hland
    rw [← Option.some_inj.mp hland, i.trim_land]

end LandInvitation

/-- The line of an invitation yields one event of the kind, with the letters of the mark for the
inviter, whoever invites, and with the land of the invitation unless the name of the inviter holds
words of an invitation itself. So the event is the one that is meant exactly where the inviter has
the name of the mark. -/
theorem land_invite_meant_iff [PatternWording] (aliases : Aliases) (i : LandInvitation) :
    ∃ table, RuleTable.compile RuleSetSpec.builtin = .ok table ∧
      (∃ land, ((⟨table, .builtin aliases⟩ : Classifier).classify i.line).filter
          (·.kind == "land-invite") = [⟨"land-invite", .landInvite "CHAT" land⟩] ∧
        (¬i.NameInvites → land = i.land)) ∧
      (((⟨table, .builtin aliases⟩ : Classifier).classify i.line).filter
          (·.kind == "land-invite") = [⟨"land-invite", .landInvite i.inviter i.land⟩] ↔
        i.inviter = "CHAT") := by
  obtain ⟨table, hcompile⟩ := RuleTable.compile_builtin
  obtain ⟨land, hevents, hland⟩ := i.exists_event hcompile aliases
  refine ⟨table, hcompile, ⟨land, hevents, hland⟩, ?_⟩
  rw [hevents, List.singleton_inj, Event.mk.injEq, Payload.landInvite.injEq]
  constructor
  · rintro ⟨-, hinviter, -⟩
    exact hinviter.symm
  · intro hinviter
    have hname : ¬i.NameInvites := fun h =>
      absurd (hinviter ▸ LandInvitation.mem_of_nameInvites h) (by decide)
    exact ⟨rfl, hinviter.symm, hland hname⟩

/-- An invitation by a player whose name is no word of an invitation. -/
def steveInvites : LandInvitation where
  inviter := "Steve"
  land := "Home"
  inviter_length := by decide
  inviter_word := List.all_eq_true.mp (by decide)
  land_length := by decide
  land_plain := List.all_eq_true.mp (by decide)

theorem land_invite_of_steve :
    ∃ table, RuleTable.compile RuleSetSpec.builtin = .ok table ∧ ¬steveInvites.NameInvites ∧
      ((⟨table, .builtin []⟩ : Classifier).classify steveInvites.line).filter
        (·.kind == "land-invite") = [⟨"land-invite", .landInvite "CHAT" "Home"⟩] := by
  obtain ⟨table, hcompile, ⟨land, hevents, hland⟩, -⟩ := land_invite_meant_iff [] steveInvites
  have hname : ¬steveInvites.NameInvites := fun h =>
    absurd (LandInvitation.mem_of_nameInvites h) (by decide)
  rw [hland hname] at hevents
  exact ⟨table, hcompile, hname, hevents⟩

/-- The event of an invitation by a player does not name the player. -/
theorem land_invite_misnames_steve :
    ∃ table, RuleTable.compile RuleSetSpec.builtin = .ok table ∧
      ((⟨table, .builtin []⟩ : Classifier).classify "[CHAT] Steve 邀请你加入 Home 领土").filter
        (·.kind == "land-invite") ≠ [⟨"land-invite", .landInvite "Steve" "Home"⟩] := by
  obtain ⟨table, hcompile⟩ := RuleTable.compile_builtin
  obtain ⟨land, hevents, -⟩ := steveInvites.exists_event hcompile []
  refine ⟨table, hcompile, ?_⟩
  have hline : steveInvites.line = "[CHAT] Steve 邀请你加入 Home 领土" := rfl
  rw [← hline, hevents]
  simp

end LogWarden
