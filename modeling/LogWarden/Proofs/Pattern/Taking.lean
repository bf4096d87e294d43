import LogWarden.Proofs.Pattern.Words

/-!
# What a pattern takes

A greedy repetition takes the whole run of its characters if there is a way on behind it. So a text
that is put together from words and from runs, each of which ends where the next part starts, is
taken part by part, and no other way has to be tried. What was read while a group was open is what
the group has captured behind it.
-/

namespace LogWarden.Pattern

open Cursor

/-- A place behind a text that stood at another one, with what was captured on the way: groups with
the texts that were read in them, the last one first. -/
structure Cursor.Behind (text : List Char) (c : Cursor) (v : List Char)
    (captured : List (Nat × List Char)) (d : Cursor) : Prop where
  isAt : d.IsAt text
  pos_eq : d.pos = c.pos + v.length
  spanText_eq : ∀ i,
    spanText text d i = ((captured.lookup i).map String.ofList).or (spanText text c i)

namespace Cursor

variable {text v w : List Char} {a b : List (Nat × List Char)} {c d m : Cursor}

theorem Behind.rest_eq (h : Behind text c v a d) (hc : c.IsAt text) (hrest : c.rest = v ++ w) :
    d.rest = w := by
  have hdrop : text.drop c.pos = v ++ w := hc.2.2.symm.trans hrest
  calc d.rest
    _ = text.drop d.pos := h.isAt.2.2
    _ = (text.drop c.pos).drop v.length := by rw [h.pos_eq, List.drop_drop]
    _ = w := by rw [hdrop, List.drop_left]

theorem Behind.trans (hm : Behind text c v a m) (hd : Behind text m w b d) :
    Behind text c (v ++ w) (b ++ a) d := by
  refine ⟨hd.isAt, ?_, fun i => ?_⟩
  · rw [hd.pos_eq, hm.pos_eq, List.length_append, Nat.add_assoc]
  · rw [hd.spanText_eq, hm.spanText_eq, List.lookup_append]
    cases b.lookup i <;> rfl

theorem behind_skip (hc : c.IsAt text) (hrest : c.rest = v ++ w) :
    Behind text c v [] (c.skip v.length) := by
  refine ⟨hc.skip _, skip_pos ?_, fun i => spanText_skip text c _ i⟩
  rw [hrest, List.length_append]
  exact Nat.le_add_right _ _

/-- A group captures what was read since it was opened. -/
theorem Behind.record (h : Behind text c v a d) (hc : c.IsAt text) (hrest : c.rest = v ++ w)
    (index : Nat) : Behind text c v ((index, v) :: a) (d.record index c.pos) := by
  refine ⟨h.isAt, h.pos_eq, fun i => ?_⟩
  by_cases hi : i = index
  · subst hi
    have hdrop : text.drop c.pos = v ++ w := hc.2.2.symm.trans hrest
    rw [spanText, Cursor.record, List.find?_cons_of_pos (by simp)]
    simp [hdrop, h.pos_eq]
  · have hspan : spanText text (d.record index c.pos) i = spanText text d i := by
      rw [spanText, Cursor.record, List.find?_cons_of_neg (by simpa using Ne.symm hi), spanText]
    rw [hspan, h.spanText_eq, List.lookup_cons, beq_eq_false_iff_ne.mpr hi]

end Cursor

/-- A run ends in front of a text that starts with no character of the class. -/
theorem CharClass.run_append_eq_zero {cls : CharClass} {v w : List Char}
    (h : v.head?.any (!cls.mem ·) = true) : cls.run (v ++ w) = 0 := by
  cases v with
  | nil => cases h
  | cons x v => exact run_cons_of_not_mem ((Bool.not_eq_true' _).mp h)

namespace Expr

/-- Whether a pattern takes a text in front of another: wherever both stand, a way that leads on
behind the text is the preferred one. -/
def Takes (e : Expr) (v w : List Char) (captured : List (Nat × List Char)) : Prop :=
  ∀ text c, c.IsAt text → c.rest = v ++ w →
    ∃ d, Behind text c v captured d ∧ ∀ k r, k d = some r → e.first k c = some r

variable {e : Expr} {es fs : List Expr} {cls : CharClass} {v w u : List Char} {x : Char}
  {a b : List (Nat × List Char)} {least : Nat} {most : Option Nat}

theorem takes_nil (w : List Char) : Takes (seqs []) [] w [] := fun _ c hc _ =>
  ⟨c, ⟨hc, rfl, fun _ => rfl⟩, fun _ _ h => h⟩

theorem Takes.cons (he : Takes e v (u ++ w) a) (hes : Takes (seqs es) u w b) :
    Takes (seqs (e :: es)) (v ++ u) w (b ++ a) := by
  intro text c hc hrest
  rw [List.append_assoc] at hrest
  obtain ⟨m, hm, hfirst⟩ := he text c hc hrest
  obtain ⟨d, hd, hnext⟩ := hes text m hm.isAt (hm.rest_eq hc hrest)
  refine ⟨d, hm.trans hd, fun k r hk => ?_⟩
  rw [first_seqs_cons]
  exact hfirst _ r (hnext k r hk)

/-- A part without groups captures nothing. -/
theorem Takes.skip (he : Takes e v (u ++ w) []) (hes : Takes (seqs es) u w b) :
    Takes (seqs (e :: es)) (v ++ u) w b := by
  have h := he.cons hes
  rwa [List.append_nil] at h

theorem Takes.append (hes : Takes (seqs es) v (u ++ w) a) (hfs : Takes (seqs fs) u w b) :
    Takes (seqs (es ++ fs)) (v ++ u) w (b ++ a) := by
  intro text c hc hrest
  rw [List.append_assoc] at hrest
  obtain ⟨m, hm, hfirst⟩ := hes text c hc hrest
  obtain ⟨d, hd, hnext⟩ := hfs text m hm.isAt (hm.rest_eq hc hrest)
  refine ⟨d, hm.trans hd, fun k r hk => ?_⟩
  rw [first_seqs_append]
  exact hfirst _ r (hnext k r hk)

theorem Takes.group (h : Takes e v w a) (index : Nat) :
    Takes (group index e) v w ((index, v) :: a) := by
  intro text c hc hrest
  obtain ⟨d, hd, hfirst⟩ := h text c hc hrest
  exact ⟨_, hd.record hc hrest index, fun k r hk => hfirst _ r hk⟩

theorem takes_chars (hx : cls.mem x = true) (w : List Char) : Takes (chars cls) [x] w [] := by
  intro text c hc hrest
  refine ⟨_, behind_skip hc hrest, fun k r hk => ?_⟩
  rw [first_chars_of_mem hrest hx]
  exact hk

theorem takes_letter (x : Char) (w : List Char) : Takes (letter x) [x] w [] :=
  takes_chars (show (CharClass.folded (.one x)).mem x = true from Unicode.sameUpToCase_self x) w

/-- A word takes itself. -/
theorem takes_word (v w : List Char) : Takes (seqs (word v)) v w [] := by
  intro text c hc hrest
  refine ⟨_, behind_skip hc hrest, fun k r hk => ?_⟩
  rw [first_word hrest]
  exact hk

/-- A word in front of other parts. -/
theorem Takes.afterWord (v : List Char) (hes : Takes (seqs es) u w b) :
    Takes (seqs (word v ++ es)) (v ++ u) w b := by
  have h := (takes_word v (u ++ w)).append hes
  rwa [List.append_nil] at h

/-- A greedy repetition takes a run that the text behind it does not go on. -/
theorem takes_run (hv : ∀ x ∈ v, cls.mem x = true) (hw : cls.run w = 0) (hleast : least ≤ v.length)
    (hmost : ∀ bound ∈ most, v.length ≤ max least bound) :
    Takes (repeated (chars cls) least most true) v w [] := by
  intro text c hc hrest
  refine ⟨_, behind_skip hc hrest, fun k r hk => ?_⟩
  rw [first_repeated_of_isSome hrest hv hw hleast hmost (Option.isSome_of_eq_some hk)]
  exact hk

theorem takes_unbounded (hv : ∀ x ∈ v, cls.mem x = true) (hw : cls.run w = 0)
    (hleast : least ≤ v.length) : Takes (repeated (chars cls) least none true) v w [] :=
  takes_run hv hw hleast nofun

/-- One blank, where blanks may stand. -/
theorem takes_blank (hw : CharClass.space.run w = 0) (hleast : least ≤ 1) :
    Takes (spaces least true) [' '] w [] :=
  takes_unbounded (List.forall_mem_singleton.mpr (by decide)) hw hleast

theorem takes_end : Takes (look .textEnd) [] [] [] := by
  intro text c hc hrest
  refine ⟨c, ⟨hc, rfl, fun _ => rfl⟩, fun k r hk => ?_⟩
  rw [first_end_of_nil hrest]
  exact hk

/-- The way through a text that a pattern takes to its end is the preferred one. -/
theorem Takes.exists_first (h : Takes e v [] a) :
    ∃ d, e.first some (start v) = some d ∧
      ∀ i, spanText v d i = (a.lookup i).map String.ofList := by
  obtain ⟨d, hd, hfirst⟩ := h v (start v) (isAt_start v) (List.append_nil v).symm
  refine ⟨d, hfirst some d rfl, fun i => ?_⟩
  rw [hd.spanText_eq, spanText_start, Option.or_none]

end Expr

end LogWarden.Pattern
