import LogWarden.Proofs.Pattern.Expressions
import Mathlib.Data.List.TakeWhile

/-!
# Runs of characters

A repetition of a class of characters reads part of the run of such characters at a place: as much
as it can if it is greedy, as little as it can if it is lazy, and another part only where what comes
behind it fails.
-/

namespace LogWarden.Pattern

namespace Cursor

/-- The place some characters further on. -/
def skip (c : Cursor) : Nat → Cursor
  | 0 => c
  | n + 1 =>
    match c.rest with
    | [] => c
    | x :: rest => (c.read x rest).skip n

variable {c : Cursor} {text : List Char} {x : Char} {rest : List Char}

@[simp] theorem skip_zero (c : Cursor) : c.skip 0 = c :=
  rfl

theorem skip_nil (h : c.rest = []) (n : Nat) : c.skip n = c := by
  cases n with
  | zero => rfl
  | succ n => simp only [skip, h]

theorem skip_cons (h : c.rest = x :: rest) (n : Nat) :
    c.skip (n + 1) = (c.read x rest).skip n := by
  simp only [skip, h]

@[simp] theorem skip_rest (c : Cursor) (n : Nat) : (c.skip n).rest = c.rest.drop n := by
  induction n generalizing c with
  | zero => rfl
  | succ n ih =>
      cases h : c.rest with
      | nil => rw [skip_nil h, h, List.drop_nil]
      | cons x rest =>
          rw [skip_cons h, ih, List.drop_succ_cons]
          rfl

@[simp] theorem skip_spans (c : Cursor) (n : Nat) : (c.skip n).spans = c.spans := by
  induction n generalizing c with
  | zero => rfl
  | succ n ih =>
      cases h : c.rest with
      | nil => rw [skip_nil h]
      | cons x rest =>
          rw [skip_cons h, ih]
          rfl

theorem skip_pos {n : Nat} (h : n ≤ c.rest.length) : (c.skip n).pos = c.pos + n := by
  induction n generalizing c with
  | zero => rfl
  | succ n ih =>
      cases hrest : c.rest with
      | nil => simp [hrest] at h
      | cons x rest =>
          have hle : n ≤ (c.read x rest).rest.length := by
            rw [hrest, List.length_cons] at h
            exact Nat.le_of_succ_le_succ h
          calc ((c.skip (n + 1)).pos)
              _ = c.pos + 1 + n := by rw [skip_cons hrest, ih hle]; rfl
              _ = c.pos + (n + 1) := by omega

theorem skip_skip (c : Cursor) (m n : Nat) : (c.skip m).skip n = c.skip (m + n) := by
  induction m generalizing c with
  | zero => rw [Nat.zero_add, skip_zero]
  | succ m ih =>
      cases h : c.rest with
      | nil => rw [skip_nil h, skip_nil h, skip_nil h]
      | cons x rest => rw [skip_cons h, ih, Nat.succ_add, skip_cons h]

theorem IsAt.skip (h : c.IsAt text) (n : Nat) : (c.skip n).IsAt text := by
  induction n generalizing c with
  | zero => exact h
  | succ n ih =>
      cases hrest : c.rest with
      | nil => rwa [skip_nil hrest]
      | cons x rest =>
          rw [skip_cons hrest]
          exact ih (h.read hrest)

end Cursor

/-! ## Runs -/

/-- How many characters of a class a text starts with. -/
def CharClass.run (cls : CharClass) (cs : List Char) : Nat :=
  (cs.takeWhile cls.mem).length

namespace CharClass

variable {cls : CharClass} {cs w : List Char} {x : Char}

@[simp] theorem run_nil : cls.run [] = 0 :=
  rfl

theorem run_cons (h : cls.mem x = true) : cls.run (x :: cs) = cls.run cs + 1 := by
  rw [run, List.takeWhile_cons_of_pos h, List.length_cons, run]

theorem run_cons_of_not_mem (h : cls.mem x = false) : cls.run (x :: cs) = 0 := by
  rw [run, List.takeWhile_cons_of_neg (by simp [h]), List.length_nil]

/-- A run goes through a part of a text that is all of the class. -/
theorem run_append (h : ∀ x ∈ w, cls.mem x = true) : cls.run (w ++ cs) = w.length + cls.run cs := by
  rw [run, List.takeWhile_append_of_pos h, List.length_append, run]

/-- A run that is not empty starts with a character of the class. -/
theorem exists_of_succ_le_run {n : Nat} (h : n + 1 ≤ cls.run cs) :
    ∃ x rest, cs = x :: rest ∧ cls.mem x = true ∧ n ≤ cls.run rest := by
  cases cs with
  | nil => exact absurd h (Nat.not_succ_le_zero n)
  | cons x rest =>
      cases hx : cls.mem x with
      | false =>
          rw [run_cons_of_not_mem hx] at h
          exact absurd h (Nat.not_succ_le_zero n)
      | true =>
          rw [run_cons hx] at h
          exact ⟨x, rest, rfl, hx, Nat.le_of_succ_le_succ h⟩

theorem run_drop {n : Nat} (h : n ≤ cls.run cs) : cls.run (cs.drop n) = cls.run cs - n := by
  induction n generalizing cs with
  | zero => rfl
  | succ n ih =>
      obtain ⟨x, rest, rfl, hx, h⟩ := exists_of_succ_le_run h
      rw [run_cons hx, List.drop_succ_cons, ih h]
      omega

theorem run_le_length (cls : CharClass) (cs : List Char) : cls.run cs ≤ cs.length :=
  (List.takeWhile_sublist cls.mem).length_le

end CharClass

namespace Expr

open Way

variable {cls : CharClass} {k : Way} {c d : Cursor} {least n : Nat} {most : Option Nat}
  {greedy : Bool}

theorem roundsLead_chars_iff :
    RoundsLead (chars cls).Leads n c d ↔ n ≤ cls.run c.rest ∧ c.skip n = d := by
  induction n generalizing c with
  | zero => simp [RoundsLead]
  | succ n ih =>
      constructor
      · rintro ⟨m, ⟨x, rest, hrest, hx, rfl⟩, h⟩
        obtain ⟨hle, hd⟩ := ih.mp h
        rw [hrest, CharClass.run_cons hx, Cursor.skip_cons hrest]
        exact ⟨Nat.succ_le_succ hle, hd⟩
      · rintro ⟨hle, hd⟩
        obtain ⟨x, rest, hrest, hx, hle⟩ := CharClass.exists_of_succ_le_run hle
        rw [Cursor.skip_cons hrest] at hd
        exact ⟨c.read x rest, ⟨x, rest, hrest, hx, rfl⟩, ih.mpr ⟨hle, hd⟩⟩

/-- Whether a repetition of a class may read a number of characters of a text. -/
structure CanRead (cls : CharClass) (least : Nat) (most : Option Nat) (cs : List Char)
    (n : Nat) : Prop where
  enough : least ≤ n
  bounded : ∀ bound ∈ most, n ≤ max least bound
  inRun : n ≤ cls.run cs

theorem leads_repeated_chars :
    (repeated (chars cls) least most greedy).Leads c d ↔
      ∃ n, CanRead cls least most c.rest n ∧ c.skip n = d := by
  constructor
  · rintro ⟨n, henough, hbounded, hd⟩
    obtain ⟨hrun, hd⟩ := roundsLead_chars_iff.mp hd
    exact ⟨n, ⟨henough, hbounded, hrun⟩, hd⟩
  · rintro ⟨n, ⟨henough, hbounded, hrun⟩, hd⟩
    exact ⟨n, henough, hbounded, roundsLead_chars_iff.mpr ⟨hrun, hd⟩⟩

theorem inARow_chars (h : n ≤ cls.run c.rest) :
    inARow (chars cls).first k n c = k (c.skip n) := by
  induction n generalizing c with
  | zero => rfl
  | succ n ih =>
      obtain ⟨x, rest, hrest, hx, h⟩ := CharClass.exists_of_succ_le_run h
      rw [inARow, first, Plan.first_chars_cons hrest, if_pos hx, Cursor.skip_cons hrest]
      exact ih h

/-- Whether one number of rounds is preferred to another. -/
def IsPreferred (greedy : Bool) (m n : Nat) : Prop :=
  if greedy then n < m else m < n

theorem IsPreferred.succ {m : Nat} (h : IsPreferred greedy m n) :
    IsPreferred greedy (m + 1) (n + 1) := by
  cases greedy with
  | true => exact Nat.succ_lt_succ h
  | false => exact Nat.succ_lt_succ h

theorem IsPreferred.add {m : Nat} (h : IsPreferred greedy m n) (least : Nat) :
    IsPreferred greedy (least + m) (least + n) := by
  cases greedy with
  | true => exact Nat.add_lt_add_left h least
  | false => exact Nat.add_lt_add_left h least

/-- One round more leads nowhere if no number of characters, one or more, does. -/
theorem first_moreRounds_eq_none {bound : Nat}
    (h : ∀ m < bound + 1, m + 1 ≤ cls.run c.rest → k (c.skip (m + 1)) = none) :
    (chars cls).first (moreRounds (chars cls).first greedy k bound) c = none := by
  by_contra hsome
  obtain ⟨r, hr⟩ := Option.ne_none_iff_exists'.mp hsome
  obtain ⟨m, hm, hr⟩ := (follows_chars cls).sound hr
  obtain ⟨d, ⟨j, hj, hd⟩, hr⟩ := ((follows_chars cls).moreRounds greedy bound).sound hr
  have hround : RoundsLead (chars cls).Leads (j + 1) c d := ⟨m, hm, hd⟩
  obtain ⟨hrun, rfl⟩ := roundsLead_chars_iff.mp hround
  rw [h j (Nat.lt_succ_of_le hj) hrun] at hr
  cases hr

/-- Where more rounds may read, the preferred number of characters behind which there is a way is
read. -/
theorem moreRounds_chars {bound : Nat} (hn : n ≤ bound) (hrun : n ≤ cls.run c.rest)
    (hk : (k (c.skip n)).isSome)
    (hothers : ∀ m ≤ bound, m ≤ cls.run c.rest → IsPreferred greedy m n → k (c.skip m) = none) :
    moreRounds (chars cls).first greedy k bound c = k (c.skip n) := by
  obtain ⟨r, hr⟩ := Option.isSome_iff_exists.mp hk
  induction bound generalizing c n with
  | zero =>
      obtain rfl := Nat.le_zero.mp hn
      rfl
  | succ bound ih =>
      rw [moreRounds_succ, hr]
      cases n with
      | zero =>
          rw [Cursor.skip_zero] at hr
          cases greedy with
          | false => simp only [prefer, hr, Bool.false_eq_true, if_false, Option.some_or]
          | true =>
              have hmore : (chars cls).first (moreRounds (chars cls).first true k bound) c = none :=
                first_moreRounds_eq_none fun m hm hmrun => hothers (m + 1) hm hmrun (Nat.succ_pos m)
              rw [hmore, hr]
              rfl
      | succ n =>
          obtain ⟨x, rest, hrest, hx, hrun⟩ := CharClass.exists_of_succ_le_run hrun
          have hround : moreRounds (chars cls).first greedy k bound (c.read x rest) = some r := by
            rw [Cursor.skip_cons hrest] at hk hr
            rw [← hr]
            refine ih (Nat.le_of_succ_le_succ hn) hrun hk (fun m hm hmrun hpreferred => ?_) hr
            rw [← Cursor.skip_cons hrest]
            refine hothers (m + 1) (Nat.succ_le_succ hm) ?_ hpreferred.succ
            rw [hrest, CharClass.run_cons hx]
            exact Nat.succ_le_succ hmrun
          rw [first, Plan.first_chars_cons hrest, if_pos hx, hround]
          cases greedy with
          | true => rfl
          | false =>
              have hnone : k c = none :=
                hothers 0 (Nat.zero_le _) (Nat.zero_le _) (Nat.succ_pos n)
              rw [hnone]
              rfl

/-- A repetition of a class reads the preferred number of characters behind which there is a way. -/
theorem first_repeated_chars (hn : CanRead cls least most c.rest n) (hk : (k (c.skip n)).isSome)
    (hothers : ∀ m, CanRead cls least most c.rest m → IsPreferred greedy m n →
      k (c.skip m) = none) :
    (repeated (chars cls) least most greedy).first k c = k (c.skip n) := by
  obtain ⟨j, rfl⟩ := Nat.exists_eq_add_of_le hn.enough
  have hleast : least ≤ cls.run c.rest := Nat.le_trans hn.enough hn.inRun
  have hrun : cls.run (c.skip least).rest = cls.run c.rest - least := by
    rw [Cursor.skip_rest, CharClass.run_drop hleast]
  have hj : j ≤ cls.run (c.skip least).rest := by
    have := hn.inRun
    omega
  rw [← Cursor.skip_skip] at hk ⊢
  have hrest (bound : Nat) (hbound : j ≤ bound)
      (hmost : ∀ m ≤ bound, ∀ b ∈ most, least + m ≤ max least b) :
      moreRounds (chars cls).first greedy k bound (c.skip least) = k ((c.skip least).skip j) := by
    refine moreRounds_chars hbound hj hk fun m hm hmrun hpreferred => ?_
    rw [Cursor.skip_skip]
    refine hothers (least + m) ⟨Nat.le_add_right _ _, hmost m hm, by omega⟩ ?_
    exact hpreferred.add least
  cases most with
  | some most =>
      have hbounded := hn.bounded most rfl
      rw [first, inARow_chars hleast]
      refine hrest _ (by omega) fun m hm b hb => ?_
      cases hb
      omega
  | none =>
      rw [first, inARow_chars hleast, again]
      exact hrest _ (Nat.le_trans hj (CharClass.run_le_length _ _)) fun _ _ b hb =>
        absurd hb (Option.not_mem_none b)

/-- A repetition of a class leads nowhere if no number of characters that it may read does. -/
theorem first_repeated_chars_eq_none
    (h : ∀ m, CanRead cls least most c.rest m → k (c.skip m) = none) :
    (repeated (chars cls) least most greedy).first k c = none := by
  by_contra hsome
  obtain ⟨r, hr⟩ := Option.ne_none_iff_exists'.mp hsome
  have hloops : (repeated (chars cls) least most greedy).LoopsOverChars := by
    cases most with
    | some => trivial
    | none => exact ⟨cls, rfl⟩
  obtain ⟨d, hd, hr⟩ := (follows_first hloops).sound hr
  obtain ⟨n, hn, rfl⟩ := leads_repeated_chars.mp hd
  rw [h n hn] at hr
  cases hr

end Expr

end LogWarden.Pattern
