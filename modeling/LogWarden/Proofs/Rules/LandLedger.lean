import LogWarden.Proofs.Number.Amounts
import LogWarden.Proofs.Pattern.Taking
import LogWarden.Proofs.Rules.Builtin

/-!
# The ledger of a land

What players put into the account of a land and take out of it is shown in lines of one form. The
patterns of the two kinds differ in one word, and where this word stands in a line is settled by
what stands before it: the name of the land ends at the first colon, and from there blanks and words
take turns. So no line is of both kinds. A line that was put together from its parts is read as
these parts, whatever words the names of the land and of the player hold.
-/

namespace LogWarden

/-- The two ways in which the account of a land changes. -/
inductive Booking
  | deposit | withdrawal
  deriving DecidableEq, Repr

namespace Booking

/-- What a line says of the player. -/
def verb : Booking → String
  | .deposit => "存入了"
  | .withdrawal => "取出了"

def kind : Booking → String
  | .deposit => "land-deposit"
  | .withdrawal => "land-withdraw"

/-- The name of the group that captures the amount that was moved. -/
def field : Booking → String
  | .deposit => "in_value"
  | .withdrawal => "out_value"

/-- What the kind is bound to. -/
def registration : Booking → Registration
  | .deposit => ⟨.landDeposit, Builtin.landDeposit⟩
  | .withdrawal => ⟨.landWithdraw, Builtin.landWithdraw⟩

def payload : Booking → String → String → Binary64 → String → Payload
  | .deposit => .landDeposit
  | .withdrawal => .landWithdraw

end Booking

/-- What a line of the ledger reports. -/
structure LedgerEntry where
  booking : Booking
  land : String
  player : String
  moved : Amount
  left : Amount
  land_ne : land ≠ ""
  land_plain : ':' ∉ land.toList
  land_start : ∀ x ∈ land.toList.head?, Unicode.isWhiteSpace x = false
  player_ne : player ≠ ""
  player_word : ∀ x ∈ player.toList, Unicode.isWordChar x = true

/-- The line that reports an entry of the ledger. -/
def LedgerEntry.line (l : LedgerEntry) : String :=
  "[CHAT] 领土>> 收件箱 - 领土 " ++ l.land ++ ": 玩家 " ++ l.player ++ " " ++ l.booking.verb ++ " $" ++
    l.moved.text ++ ".当前余额: $" ++ l.left.text

open Pattern.Expr Pattern.Cursor

namespace Pattern.LandLedger

/-! ## The pattern -/

/-- White space between words. -/
def blanks : Expr :=
  spaces 1 true

/-- The characters of the name of a land. -/
def landClass : CharClass :=
  .compl (.folded (.union .none (.one ':')))

/-- The digits and commas in front of the point of an amount. -/
def wholeClass : CharClass :=
  .folded (.union (.union .none .digit) (.one ','))

/-- What stands in front of the name of the land. -/
def mark : List Expr :=
  word "[CHAT]".toList ++ blanks :: (word "领土>>".toList ++ blanks :: (word "收件箱".toList ++
    .chars .space :: letter '-' :: .chars .space :: (word "领土".toList ++ [blanks])))

/-- Everything up to the end of the name of the land. -/
def opening : List Expr :=
  mark ++ [group 1 (repeated (.chars landClass) 1 none true)]

/-- The name of the player and what stands around it. -/
def owner : List Expr :=
  letter ':' :: blanks :: (word "玩家".toList ++ blanks ::
    group 2 (repeated (.chars .word) 1 none true) :: [blanks])

/-- An amount of money. -/
def amount (index : Nat) : Expr :=
  group index (seqs [repeated (.chars wholeClass) 1 none true, letter '.',
    repeated (.chars .digit) 2 (some 2) true])

/-- The amounts and what stands around them. -/
def balance : List Expr :=
  blanks :: letter '$' :: amount 3 :: (word ".当前余额:".toList ++ blanks :: letter '$' ::
    amount 4 :: [look .textEnd])

/-- The pattern of the lines with a verb. -/
def expr (verb : String) : Expr :=
  seqs (look .textStart :: (opening ++ (owner ++ (word verb.toList ++ balance))))

/-- The single rule of each kind has the pattern with its verb. -/
theorem exists_rule (b : Booking) :
    ∃ rule : RuleSpec,
      RuleSetSpec.builtin.filter (Text.trim ·.name == b.kind) = [⟨b.kind, [rule]⟩] ∧
      read? true rule.regex.toList =
        some (expr b.verb, [("land_name", 1), ("player", 2), (b.field, 3), ("now_value", 4)]) ∧
      rule.groups = ["land_name", "player", b.field, "now_value"] := by
  cases b
  all_goals
    refine ⟨_, rfl, ?_, rfl⟩
    unfold expr opening owner balance mark Booking.verb
    simp only [String.toList_append, -String.reduceAppend, -String.reduceToList]
    repeat rw [String.toList_ofList]
    decide +kernel

theorem loopsOverChars_expr (b : Booking) : (expr b.verb).LoopsOverChars := by
  cases b <;> simp [expr, opening, mark, owner, balance, amount, blanks, Booking.verb, word, seqs,
    LoopsOverChars, spaces, letter]

/-- At the start of a line the pattern has only its parts to read. -/
theorem first_expr (verb : String) (k : Way) (text : List Char) :
    (expr verb).first k (start text) =
      (seqs (opening ++ (owner ++ (word verb.toList ++ balance)))).first k (start text) := by
  change (seqs (look .textStart :: _)).first k (start text) = _
  rw [first_seqs_cons, first_textStart]

/-! ## Where the verb stands -/

variable {text : List Char} {c d : Cursor} {b b' : Booking}

/-- Whether a text is nonempty and has characters of one kind only. -/
def IsRun (p : Char → Bool) (v : List Char) : Prop :=
  v ≠ [] ∧ ∀ x ∈ v, p x = true

/-- Whether a text has the verb of a booking where the pattern looks for it: behind the first colon
and the name that follows it. -/
inductive Reports (b : Booking) (text : List Char) : Prop
  | behindName {head gap gap' name gap'' : List Char} (rest : List Char) (head_plain : ':' ∉ head)
      (gap_run : IsRun Unicode.isWhiteSpace gap) (gap_run' : IsRun Unicode.isWhiteSpace gap')
      (name_run : IsRun Unicode.isWordChar name) (gap_run'' : IsRun Unicode.isWhiteSpace gap'')
      (text_eq : text = head ++ ([':'] ++ (gap ++ ("玩家".toList ++ (gap' ++ (name ++ (gap'' ++
        (b.verb.toList ++ rest))))))))

theorem exists_run_of_leads_blanks (h : blanks.Leads c d) :
    ∃ v, IsRun Unicode.isWhiteSpace v ∧ c.rest = v ++ d.rest := by
  obtain ⟨v, hv, hlength, -, hd⟩ := leads_repeated.mp h
  exact ⟨v, ⟨List.ne_nil_of_length_pos hlength, hv⟩, hd.1⟩

theorem exists_run_of_leads_name {index : Nat}
    (h : (group index (repeated (.chars .word) 1 none true)).Leads c d) :
    ∃ v, IsRun Unicode.isWordChar v ∧ c.rest = v ++ d.rest := by
  obtain ⟨m, hm, rfl⟩ := h
  obtain ⟨v, hv, hlength, -, hm⟩ := leads_repeated.mp hm
  exact ⟨v, ⟨List.ne_nil_of_length_pos hlength, hv⟩, hm.1⟩

theorem rest_of_leads_word {w : List Char} (hw : w.all Unicode.isCaseless = true)
    (h : (seqs (word w)).Leads c d) : c.rest = w ++ d.rest :=
  ((leads_word_of_caseless (List.all_eq_true.mp hw)).mp h).1

/-- Whatever way leads through the pattern, it finds the verb in its place. -/
theorem reports_of_leads (hc : c.IsAt text) (h : (expr b.verb).Leads c d) : Reports b text := by
  obtain ⟨_, hstart, h⟩ := leads_seqs_cons.mp h
  obtain ⟨rfl, hrest⟩ := leads_textStart hc hstart
  obtain ⟨m, hopening, h⟩ := leads_seqs_append.mp h
  obtain ⟨m₆, howner, h⟩ := leads_seqs_append.mp h
  obtain ⟨m₇, hverb, -⟩ := leads_seqs_append.mp h
  -- The parts of the owner, one after another.
  obtain ⟨m₁, hcolon, howner⟩ := leads_seqs_cons.mp howner
  obtain ⟨m₂, hgap, howner⟩ := leads_seqs_cons.mp howner
  obtain ⟨m₃, hplayer, howner⟩ := leads_seqs_append.mp howner
  obtain ⟨m₄, hgap', howner⟩ := leads_seqs_cons.mp howner
  obtain ⟨m₅, hname, hgap''⟩ := leads_seqs_cons.mp howner
  have havoids : (seqs opening).avoids ':' = true := by
    decide +kernel
  have hcaseless : b.verb.toList.all Unicode.isCaseless = true := by
    cases b <;> decide +kernel
  obtain ⟨head, hhead, h₀⟩ := exists_rest_of_avoids havoids hopening
  have h₁ := rest_of_leads_word (w := [':']) (by decide) hcolon
  obtain ⟨gap, hgap, h₂⟩ := exists_run_of_leads_blanks hgap
  have h₃ := rest_of_leads_word (by decide +kernel) hplayer
  obtain ⟨gap', hgap', h₄⟩ := exists_run_of_leads_blanks hgap'
  obtain ⟨name, hname, h₅⟩ := exists_run_of_leads_name hname
  obtain ⟨gap'', hgap'', h₆⟩ := exists_run_of_leads_blanks hgap''
  have h₇ := rest_of_leads_word hcaseless hverb
  refine .behindName m₇.rest hhead hgap hgap' hname hgap'' ?_
  rw [← hrest, h₀, h₁, h₂, h₃, h₄, h₅, h₆, h₇]

theorem IsRun.any_head? {p q : Char → Bool} {v : List Char} (h : IsRun p v)
    (hpq : ∀ x, p x = true → q x = true) : v.head?.any q = true := by
  obtain ⟨x, v, rfl⟩ := List.exists_cons_of_ne_nil h.1
  exact hpq x (h.2 x List.mem_cons_self)

theorem any_head?_append {q : Char → Bool} {v : List Char} (h : v.head?.any q = true)
    (w : List Char) : (v ++ w).head?.any q = true := by
  cases v with
  | nil => cases h
  | cons x v => exact h

theorem any_head?_verb (b : Booking) :
    b.verb.toList.head?.any (!Unicode.isWhiteSpace ·) = true := by
  cases b <;> decide

theorem booking_eq_of_verb {rest rest' : List Char}
    (h : b.verb.toList ++ rest = b'.verb.toList ++ rest') : b = b' := by
  have hhead (b : Booking) (w : List Char) :
      (b.verb.toList ++ w).head? = b.verb.toList.head? := by
    have hsome : b.verb.toList.head?.isSome = true := by
      cases b <;> decide
    rw [List.head?_append, Option.or_of_isSome hsome]
  have hfirst := congrArg List.head? h
  rw [hhead, hhead] at hfirst
  revert hfirst
  cases b <;> cases b' <;> decide

/-- A text reports one booking. -/
theorem Reports.booking_eq (h : Reports b text) (h' : Reports b' text) : b = b' := by
  obtain ⟨_, hhead, hgap₁, hgap₂, hname, hgap₃, heq⟩ := h
  obtain ⟨_, hhead', hgap₁', hgap₂', hname', hgap₃', heq'⟩ := h'
  have hcolon {v : List Char} (hv : ':' ∉ v) : ∀ x ∈ v, (x != ':') = true :=
    fun x hx => bne_iff_ne.mpr fun heq => hv (heq ▸ hx)
  have hplayer : "玩家".toList.head?.any (!Unicode.isWhiteSpace ·) = true := by
    decide
  have hword {v : List Char} (hv : IsRun Unicode.isWordChar v) :
      v.head?.any (!Unicode.isWhiteSpace ·) = true :=
    hv.any_head? fun x hx => by simp [Unicode.isWhiteSpace_of_isWordChar hx]
  have hblank {v : List Char} (hv : IsRun Unicode.isWhiteSpace v) :
      v.head?.any (!Unicode.isWordChar ·) = true :=
    hv.any_head? fun x hx => by simp [Unicode.isWordChar_of_isWhiteSpace hx]
  -- Each part ends where the next one starts, in both ways to split the text.
  have h₁ := rest_eq_of_append_eq (hcolon hhead) (hcolon hhead') rfl rfl (heq.symm.trans heq')
  have h₂ := rest_eq_of_append_eq hgap₁.2 hgap₁'.2 (any_head?_append hplayer _)
    (any_head?_append hplayer _) (List.append_cancel_left h₁)
  have h₃ := rest_eq_of_append_eq hgap₂.2 hgap₂'.2 (any_head?_append (hword hname) _)
    (any_head?_append (hword hname') _) (List.append_cancel_left h₂)
  have h₄ := rest_eq_of_append_eq hname.2 hname'.2 (any_head?_append (hblank hgap₃) _)
    (any_head?_append (hblank hgap₃') _) h₃
  have h₅ := rest_eq_of_append_eq hgap₃.2 hgap₃'.2 (any_head?_append (any_head?_verb b) _)
    (any_head?_append (any_head?_verb b') _) h₄
  exact booking_eq_of_verb h₅

/-! ## Lines that are put together from their parts -/

variable {land player moved left w : List Char}

theorem takes_mark (hw : CharClass.space.run w = 0) :
    Takes (seqs mark) "[CHAT] 领土>> 收件箱 - 领土 ".toList w [] := by
  have hparts : "[CHAT] 领土>> 收件箱 - 领土 ".toList = "[CHAT]".toList ++ ([' '] ++
      ("领土>>".toList ++ ([' '] ++ ("收件箱".toList ++ ([' '] ++ (['-'] ++ ([' '] ++
        ("领土".toList ++ ([' '] ++ []))))))))) := by
    simp
  have hblank (v u : List Char) (h : v.head?.any (!CharClass.space.mem ·) = true) :
      Takes blanks [' '] (v ++ u ++ w) [] := by
    rw [List.append_assoc]
    exact takes_blank (CharClass.run_append_eq_zero h) (Nat.le_refl 1)
  have hspace (v : List Char) : Takes (.chars .space) [' '] (v ++ w) [] :=
    takes_chars (by decide) _
  rw [hparts]
  refine .afterWord _ (.skip (hblank "领土>>".toList _ (by decide)) ?_)
  refine .afterWord _ (.skip (hblank "收件箱".toList _ (by decide)) ?_)
  refine .afterWord _ (.skip (hspace _) (.skip (takes_letter _ _) (.skip (hspace _) ?_)))
  exact .afterWord _ (.skip (takes_blank hw (Nat.le_refl 1)) (takes_nil w))

theorem landClass_mem {x : Char} : landClass.mem x = true ↔ x ≠ ':' := by
  have hcaseless : ∀ v, (CharClass.union .none (.one ':')).mem v = true →
      Unicode.isCaseless v = true := by
    intro v hv
    obtain rfl : v = ':' := by simpa [CharClass.mem] using hv
    decide
  rw [landClass, CharClass.mem, CharClass.mem_folded hcaseless]
  simp [CharClass.mem]

theorem wholeClass_of_plain {x : Char} (h : x.isDigit = true ∨ x = ',') :
    wholeClass.mem x = true := by
  apply CharClass.mem_folded_of_mem
  rcases h with h | rfl
  · refine Unicode.forall_of_isDigit
      (P := fun x => (CharClass.union (.union .none .digit) (.one ',')).mem x = true) ?_ h
    decide
  · decide

theorem digit_of_isDigit {x : Char} (h : x.isDigit = true) : CharClass.digit.mem x = true := by
  refine Unicode.forall_of_isDigit (P := fun x => CharClass.digit.mem x = true) ?_ h
  decide

/-- The name of a land is taken whole, and with the blanks at its end. -/
theorem takes_opening (hland : land ≠ []) (hplain : ':' ∉ land)
    (hstart : ∀ x ∈ land.head?, Unicode.isWhiteSpace x = false) (hw : landClass.run w = 0) :
    Takes (seqs opening) ("[CHAT] 领土>> 收件箱 - 领土 ".toList ++ (land ++ [])) w
      [(1, land)] := by
  have hname : Takes (group 1 (repeated (.chars landClass) 1 none true)) land w [(1, land)] := by
    refine (takes_unbounded (fun x hx => landClass_mem.mpr ?_) hw
      (List.length_pos_iff.mpr hland)).group 1
    rintro rfl
    exact hplain hx
  refine (takes_mark ?_).append (hname.cons (takes_nil w))
  obtain ⟨x, land, rfl⟩ := List.exists_cons_of_ne_nil hland
  exact CharClass.run_cons_of_not_mem (hstart x rfl)

/-- The name of the player is a whole word. -/
theorem takes_owner (hplayer : player ≠ []) (hword : ∀ x ∈ player, Unicode.isWordChar x = true)
    (hw : CharClass.space.run w = 0) :
    Takes (seqs owner) (": 玩家 ".toList ++ (player ++ " ".toList)) w [(2, player)] := by
  have hparts : ": 玩家 ".toList ++ (player ++ " ".toList) =
      [':'] ++ ([' '] ++ ("玩家".toList ++ ([' '] ++ (player ++ ([' '] ++ []))))) := by
    have hmark : ": 玩家 ".toList = [':'] ++ ([' '] ++ ("玩家".toList ++ [' '])) := by
      simp
    simp only [hmark, List.append_assoc, List.append_nil]
    rfl
  have hname : Takes (group 2 (repeated (.chars .word) 1 none true)) player
      ([' '] ++ [] ++ w) [(2, player)] := by
    refine (takes_unbounded hword ?_ (List.length_pos_iff.mpr hplayer)).group 2
    exact CharClass.run_cons_of_not_mem (by decide)
  have hstart : CharClass.space.run (player ++ ([' '] ++ []) ++ w) = 0 := by
    obtain ⟨x, player, rfl⟩ := List.exists_cons_of_ne_nil hplayer
    exact CharClass.run_cons_of_not_mem
      (Unicode.isWhiteSpace_of_isWordChar (hword x List.mem_cons_self))
  rw [hparts]
  refine .skip (takes_letter _ _) (.skip (takes_blank ?_ (Nat.le_refl 1)) (.afterWord _ ?_))
  · rw [List.append_assoc]
    exact CharClass.run_append_eq_zero (by decide)
  refine .skip (takes_blank hstart (Nat.le_refl 1)) (hname.cons (.skip ?_ (takes_nil w)))
  exact takes_blank hw (Nat.le_refl 1)

theorem takes_amount (a : Amount) (index : Nat) (hw : CharClass.digit.run w = 0) :
    Takes (amount index) a.text.toList w [(index, a.text.toList)] := by
  have hparts : a.text.toList = a.whole.toList ++ (['.'] ++ (a.cents.toList ++ [])) := by
    rw [a.toList_text, List.append_nil, List.singleton_append]
  have hwhole : 1 ≤ a.whole.toList.length :=
    List.length_pos_iff.mpr (by simpa using a.whole_ne)
  have hcents : a.cents.toList.length = 2 := a.cents_length ▸ String.length_toList
  rw [amount]
  refine Takes.group ?_ index
  rw [hparts]
  refine .skip (takes_unbounded (fun x hx => wholeClass_of_plain (a.whole_plain x hx)) ?_ hwhole)
    (.skip (takes_letter _ _) (.skip ?_ (takes_nil w)))
  · exact CharClass.run_cons_of_not_mem (by decide)
  · refine takes_run (fun x hx => digit_of_isDigit (a.cents_digit x hx)) hw hcents.ge ?_
    rintro _ ⟨⟩
    exact hcents.le

theorem takes_balance (moved left : Amount) :
    Takes (seqs balance)
      (" $".toList ++ (moved.text.toList ++ (".当前余额: $".toList ++ left.text.toList))) []
      ([(4, left.text.toList)] ++ [(3, moved.text.toList)]) := by
  have hparts : " $".toList ++ (moved.text.toList ++ (".当前余额: $".toList ++ left.text.toList)) =
      [' '] ++ (['$'] ++ (moved.text.toList ++ (".当前余额:".toList ++ ([' '] ++ (['$'] ++
        (left.text.toList ++ ([] ++ []))))))) := by
    have hmark : ".当前余额: $".toList = ".当前余额:".toList ++ ([' '] ++ ['$']) := by
      simp
    have hsign : " $".toList = [' '] ++ ['$'] := by
      decide
    simp only [hmark, hsign, List.append_assoc, List.append_nil]
  rw [hparts]
  have hblank (v : List Char) : Takes blanks [' '] (['$'] ++ v ++ []) [] :=
    takes_blank (CharClass.run_cons_of_not_mem (by decide)) (Nat.le_refl 1)
  refine .skip (hblank _) (.skip (takes_letter _ _) ((takes_amount moved 3 ?_).cons ?_))
  · rw [List.append_assoc]
    exact CharClass.run_append_eq_zero (by decide)
  refine .afterWord _ (.skip (hblank _) (.skip (takes_letter _ _) ?_))
  exact (takes_amount left 4 rfl).cons (.skip takes_end (takes_nil []))

/-- The line of an entry is taken part by part. -/
theorem takes_line (l : LedgerEntry) :
    Takes (seqs (opening ++ (owner ++ (word l.booking.verb.toList ++ balance)))) l.line.toList []
      ([(4, l.left.text.toList)] ++ [(3, l.moved.text.toList)] ++ [(2, l.player.toList)] ++
        [(1, l.land.toList)]) := by
  have hverb : l.booking.verb.toList.head?.any (!CharClass.space.mem ·) = true := by
    cases l.booking <;> decide
  have hland : l.land.toList ≠ [] := by simpa using l.land_ne
  have hplayer : l.player.toList ≠ [] := by simpa using l.player_ne
  have hline : l.line.toList = "[CHAT] 领土>> 收件箱 - 领土 ".toList ++ (l.land.toList ++ []) ++
      (": 玩家 ".toList ++ (l.player.toList ++ " ".toList) ++ (l.booking.verb.toList ++
        (" $".toList ++ (l.moved.text.toList ++ (".当前余额: $".toList ++
          l.left.text.toList))))) := by
    unfold LedgerEntry.line
    simp only [String.toList_append, List.append_assoc, List.append_nil]
  rw [hline]
  refine (takes_opening hland l.land_plain l.land_start ?_).append
    ((takes_owner hplayer l.player_word ?_).append (.afterWord _ (takes_balance l.moved l.left)))
  · simp only [List.append_assoc]
    exact CharClass.run_append_eq_zero (by decide)
  · rw [List.append_assoc]
    exact CharClass.run_append_eq_zero hverb

end Pattern.LandLedger

open Pattern.LandLedger

namespace LedgerEntry

variable (l : LedgerEntry) {table : RuleTable}

/-- What the constructor of a kind makes of what was found. -/
theorem construct_eq_ok {b : Booking} {kind : String} {caps : Captures}
    {land player moved left : String} {x : Binary64} (hland : caps.get? "land_name" = some land)
    (hplayer : caps.get? "player" = some player) (hmoved : caps.get? b.field = some moved)
    (hleft : caps.get? "now_value" = some left)
    (hamount : Builtin.amount kind b.field moved = .ok x) :
    b.registration.construct kind caps = .ok (b.payload land player x left) := by
  have hread : caps.required kind b.field = .ok moved := Captures.required_eq_ok hmoved
  cases b
  all_goals
    dsimp only [Booking.field] at hread hamount
    simp only [Booking.registration, Builtin.landDeposit, Builtin.landWithdraw, hread, hamount,
      Captures.required_eq_ok hland, Captures.required_eq_ok hplayer,
      Captures.required_eq_ok hleft, bind, Except.bind]
    rfl

/-- The event that an entry of the ledger becomes. -/
theorem exists_event [PatternWording] (hcompile : RuleTable.compile RuleSetSpec.builtin = .ok table)
    (aliases : Aliases) :
    ∃ x, Binary64.ofText? (l.moved.text.toList.filter (· != ',')) = some x ∧
      ((⟨table, .builtin aliases⟩ : Classifier).classify l.line).filter
        (·.kind == l.booking.kind) =
          [⟨l.booking.kind, l.booking.payload l.land l.player x l.left.text⟩] := by
  obtain ⟨rule, hsingle, hread, hfields⟩ := exists_rule l.booking
  obtain ⟨x, hx, hamount⟩ := l.moved.exists_value
  refine ⟨x, hx, ?_⟩
  obtain ⟨place, hplace, hspans⟩ := (takes_line l).exists_first
  have hfirst : (expr l.booking.verb).first some (start l.line.toList) = some place := by
    rw [first_expr, hplace]
  have hnodup : (["land_name", "player", l.booking.field, "now_value"]).Nodup := by
    cases l.booking <;> decide
  have hbound : ⟨l.booking.kind, l.booking.registration⟩ ∈ Builtin.bindings aliases := by
    cases l.booking <;> simp [Builtin.bindings, Booking.kind, Booking.registration]
  refine Classifier.filter_classify_of_captured hcompile hsingle hread hfields
    (loopsOverChars_expr l.booking) hnodup ⟨place, hfirst, hspans⟩ fun caps hcaps => ?_
  have hland : caps.get? "land_name" = some l.land :=
    (hcaps _ (.head _)).trans (congrArg some String.ofList_toList)
  have hplayer : caps.get? "player" = some l.player :=
    (hcaps _ (.tail _ (.head _))).trans (congrArg some String.ofList_toList)
  have hmoved : caps.get? l.booking.field = some l.moved.text :=
    (hcaps _ (.tail _ (.tail _ (.head _)))).trans (congrArg some String.ofList_toList)
  have hleft : caps.get? "now_value" = some l.left.text :=
    (hcaps _ (.tail _ (.tail _ (.tail _ (.head _))))).trans (congrArg some String.ofList_toList)
  exact Registry.outcome_builtin (b := ⟨l.booking.kind, l.booking.registration⟩) hbound
    (construct_eq_ok hland hplayer hmoved hleft (hamount l.booking.kind _))

end LedgerEntry

/-- A line yields one event of a kind of the ledger at most, and only if it has the verb of the kind
in its place. -/
theorem filter_classify_booking [PatternWording] {table : RuleTable}
    (hcompile : RuleTable.compile RuleSetSpec.builtin = .ok table) (registry : Registry)
    (line : String) (b : Booking) :
    ((⟨table, registry⟩ : Classifier).classify line).filter (·.kind == b.kind) = [] ∨
      (∃ e, ((⟨table, registry⟩ : Classifier).classify line).filter (·.kind == b.kind) = [e]) ∧
        Reports b line.toList := by
  obtain ⟨rule, hsingle, hread, -⟩ := exists_rule b
  have hevents := Classifier.filter_classify_of_single hcompile hsingle hread
    (loopsOverChars_expr b) registry line
  refine hevents.imp_right fun ⟨hsome, c, d, hc, hd⟩ => ⟨hsome, reports_of_leads hc hd⟩

/-- No line yields more than one event of the two kinds of the ledger together, and the line of an
entry yields the event of the entry: its land, its player, the amount that is left as it stands in
the line, and for the amount that was moved the number that it is without its commas. -/
theorem land_ledger_booked_once [PatternWording] (aliases : Aliases) :
    ∃ table, RuleTable.compile RuleSetSpec.builtin = .ok table ∧
      (∀ line, (((⟨table, .builtin aliases⟩ : Classifier).classify line).filter
          (·.kind == "land-deposit")).length +
        (((⟨table, .builtin aliases⟩ : Classifier).classify line).filter
          (·.kind == "land-withdraw")).length ≤ 1) ∧
      ∀ l : LedgerEntry, ∃ x, Binary64.ofText? (l.moved.text.toList.filter (· != ',')) = some x ∧
        ((⟨table, .builtin aliases⟩ : Classifier).classify l.line).filter
          (·.kind == l.booking.kind) =
            [⟨l.booking.kind, l.booking.payload l.land l.player x l.left.text⟩] := by
  obtain ⟨table, hcompile⟩ := RuleTable.compile_builtin
  refine ⟨table, hcompile, fun line => ?_, fun l => l.exists_event hcompile aliases⟩
  have hdeposit := filter_classify_booking hcompile (.builtin aliases) line .deposit
  have hwithdrawal := filter_classify_booking hcompile (.builtin aliases) line .withdrawal
  simp only [Booking.kind] at hdeposit hwithdrawal
  rcases hdeposit with h | ⟨⟨e, h⟩, hreports⟩ <;>
    rcases hwithdrawal with h' | ⟨⟨e', h'⟩, hreports'⟩
  · simp [h, h']
  · simp [h, h']
  · simp [h, h']
  · cases hreports.booking_eq hreports'

/-- A deposit whose names hold the words of the lines of the ledger. -/
def wordyDeposit : LedgerEntry where
  booking := .deposit
  land := "玩家 取出了 $1.00"
  player := "存入了"
  moved := ⟨"1,234", "50", by decide, by simp, by decide, by simp⟩
  left := ⟨",", "00", by decide, by simp, by decide, by simp⟩
  land_ne := by decide
  land_plain := by decide
  land_start := by
    rintro _ ⟨⟩
    decide
  player_ne := by decide
  player_word := List.all_eq_true.mp (by decide +kernel)

theorem land_ledger_of_wordyDeposit :
    ∃ table x, RuleTable.compile RuleSetSpec.builtin = .ok table ∧
      Binary64.ofText? "1234.50".toList = some x ∧
      ((⟨table, .builtin []⟩ : Classifier).classify
        ("[CHAT] 领土>> 收件箱 - 领土 玩家 取出了 $1.00: " ++
          "玩家 存入了 存入了 $1,234.50.当前余额: $,.00")).filter (·.kind == "land-deposit") =
        [⟨"land-deposit", .landDeposit "玩家 取出了 $1.00" "存入了" x ",.00"⟩] := by
  obtain ⟨table, hcompile, -, hentries⟩ := land_ledger_booked_once []
  obtain ⟨x, hx, hevents⟩ := hentries wordyDeposit
  have hdigits : wordyDeposit.moved.text.toList.filter (· != ',') = "1234.50".toList := by
    decide
  have hline : wordyDeposit.line = "[CHAT] 领土>> 收件箱 - 领土 玩家 取出了 $1.00: " ++
      "玩家 存入了 存入了 $1,234.50.当前余额: $,.00" := rfl
  rw [hdigits] at hx
  rw [hline] at hevents
  exact ⟨table, x, hcompile, hx, hevents⟩

end LogWarden
