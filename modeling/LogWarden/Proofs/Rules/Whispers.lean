import LogWarden.Proofs.Pattern.Taking
import LogWarden.Proofs.Rules.Builtin

/-!
# Whispers

The sender of a whisper is the whole run of word characters in front of the phrase, and its text is
everything behind it. A text that repeats the phrase stays one text, since the first phrase of the
line is the one that the sender stands in front of.
-/

namespace LogWarden

/-- A whisper as a player sends it. -/
structure Whisper where
  sender : String
  text : String
  sender_ne : sender ≠ ""
  sender_word : ∀ x ∈ sender.toList, Unicode.isWordChar x = true
  text_ne : text ≠ ""
  text_single : '\n' ∉ text.toList

/-- The line that shows a whisper. -/
def Whisper.line (w : Whisper) : String :=
  w.sender ++ " 悄悄的对 我 说: " ++ w.text

open Pattern.Expr

namespace Pattern.Whisper

/-- The characters of a line. -/
def lineClass : CharClass :=
  .compl (.one '\n')

/-- What stands between the sender and the text. -/
def phrase : String :=
  " 悄悄的对 我 说: "

/-- The text of a whisper, up to the end of the line. -/
def content : Expr :=
  group 2 (repeated (.chars lineClass) 1 none true)

/-- The pattern of whispers. -/
def expr : Expr :=
  seqs (group 1 (repeated (.chars .word) 1 none true) :: (word phrase.toList ++ [content]))

/-- The single rule of whispers has this pattern. -/
theorem exists_rule :
    ∃ rule : RuleSpec,
      RuleSetSpec.builtin.filter (Text.trim ·.name == "whisper") = [⟨"whisper", [rule]⟩] ∧
      read? true rule.regex.toList = some (expr, [("sender", 1), ("text", 2)]) ∧
      rule.groups = ["sender", "text"] := by
  refine ⟨_, rfl, ?_, rfl⟩
  unfold expr phrase
  repeat rw [String.toList_ofList]
  decide +kernel

theorem loopsOverChars_expr : expr.LoopsOverChars := by
  simp [expr, content, phrase, word, seqs, LoopsOverChars, letter]

/-- The pattern takes a whisper as it was sent. -/
theorem takes_expr (sender text : List Char) (hsender : sender ≠ [])
    (hword : ∀ x ∈ sender, Unicode.isWordChar x = true) (htext : text ≠ []) (hline : '\n' ∉ text) :
    Takes expr (sender ++ (phrase.toList ++ (text ++ []))) [] ([(2, text)] ++ [(1, sender)]) := by
  have hname : Takes (group 1 (repeated (.chars .word) 1 none true)) sender
      (phrase.toList ++ (text ++ []) ++ []) [(1, sender)] := by
    refine (takes_unbounded hword ?_ (List.length_pos_iff.mpr hsender)).group 1
    exact CharClass.run_cons_of_not_mem (by decide)
  have hcontent : Takes content text ([] ++ []) [(2, text)] := by
    refine (takes_unbounded (fun x hx => ?_) rfl (List.length_pos_iff.mpr htext)).group 2
    simp only [lineClass, CharClass.mem, Bool.not_eq_true', beq_eq_false_iff_ne]
    exact fun heq => hline (heq ▸ hx)
  exact hname.cons (.afterWord phrase.toList (hcontent.cons (takes_nil _)))

end Pattern.Whisper

open Pattern.Whisper

/-- Whoever sends a whisper and whatever its text says, its line yields one whisper, with the sender
and the text that it was sent with. -/
theorem Whisper.classify_line [PatternWording] (aliases : Aliases) (w : Whisper) :
    ∃ table, RuleTable.compile RuleSetSpec.builtin = .ok table ∧
      ((⟨table, .builtin aliases⟩ : Classifier).classify w.line).filter (·.kind == "whisper") =
        [⟨"whisper", .whisper w.sender w.text⟩] := by
  obtain ⟨table, hcompile⟩ := RuleTable.compile_builtin
  obtain ⟨rule, hsingle, hread, hfields⟩ := exists_rule
  have htakes := takes_expr w.sender.toList w.text.toList
    (by simpa using w.sender_ne) w.sender_word (by simpa using w.text_ne) w.text_single
  have hline : w.line.toList = w.sender.toList ++ (phrase.toList ++ (w.text.toList ++ [])) := by
    rw [line, String.toList_append, String.toList_append, List.append_assoc, List.append_nil,
      phrase]
  rw [← hline] at htakes
  refine ⟨table, hcompile, ?_⟩
  refine Classifier.filter_classify_of_captured hcompile hsingle hread hfields
    loopsOverChars_expr (by decide) htakes.exists_first fun caps hcaps => ?_
  refine Registry.outcome_builtin (b := ⟨"whisper", ⟨.whisper, Builtin.whisper⟩⟩)
    (by simp [Builtin.bindings]) ?_
  have hsender : caps.get? "sender" = some w.sender :=
    (hcaps _ (.head _)).trans (congrArg some String.ofList_toList)
  have htext : caps.get? "text" = some w.text :=
    (hcaps _ (.tail _ (.head _))).trans (congrArg some String.ofList_toList)
  simp only [Builtin.whisper, Captures.required_eq_ok hsender, Captures.required_eq_ok htext]
  rfl

/-- A whisper whose text is the line of another one. -/
def quotedWhisper : Whisper where
  sender := "Alice"
  text := "Bob 悄悄的对 我 说: hi"
  sender_ne := by decide
  sender_word := List.all_eq_true.mp (by decide)
  text_ne := by decide
  text_single := by decide

theorem classify_quotedWhisper :
    ∃ table, RuleTable.compile RuleSetSpec.builtin = .ok table ∧
      ((⟨table, .builtin []⟩ : Classifier).classify
        "Alice 悄悄的对 我 说: Bob 悄悄的对 我 说: hi").filter (·.kind == "whisper") =
          [⟨"whisper", .whisper "Alice" "Bob 悄悄的对 我 说: hi"⟩] := by
  have hline : quotedWhisper.line = "Alice 悄悄的对 我 说: Bob 悄悄的对 我 说: hi" := rfl
  exact hline ▸ quotedWhisper.classify_line []

end LogWarden
