import LogWarden.Pattern.Basic
import LogWarden.Proofs.Pattern.Runs
import LogWarden.Proofs.Unicode.Caseless

/-!
# Words and captures

A word is read letter by letter, and a sequence part by part. Where only one way through a part can
be followed by the rest, that way is taken, whether the part prefers it or not: so a repetition
stops where the next part has to start. What a group has captured is the part of the text that was
read while the group was open.
-/

namespace LogWarden

/-- A text has one first part that ends where a property holds for the first time. -/
theorem eq_of_append_cons_eq {α : Type} {p : α → Prop} {v w r s : List α} {x y : α}
    (hv : ∀ a ∈ v, ¬p a) (hw : ∀ a ∈ w, ¬p a) (hx : p x) (hy : p y)
    (h : v ++ x :: r = w ++ y :: s) : v = w := by
  induction v generalizing w with
  | nil =>
      cases w with
      | nil => rfl
      | cons b w =>
          obtain ⟨rfl, -⟩ := List.cons.inj h
          exact absurd hx (hw x List.mem_cons_self)
  | cons a v ih =>
      cases w with
      | nil =>
          obtain ⟨rfl, -⟩ := List.cons.inj h
          exact absurd hy (hv a List.mem_cons_self)
      | cons b w =>
          obtain ⟨rfl, htail⟩ := List.cons.inj h
          rw [ih (fun c hc => hv c (List.mem_cons_of_mem a hc))
            (fun c hc => hw c (List.mem_cons_of_mem a hc)) htail]

/-- What stands behind the first run of a text does not depend on how the text is split. -/
theorem rest_eq_of_append_eq {α : Type} {p : α → Bool} {v w r s : List α}
    (hv : ∀ a ∈ v, p a = true) (hw : ∀ a ∈ w, p a = true) (hr : r.head?.any (!p ·) = true)
    (hs : s.head?.any (!p ·) = true) (h : v ++ r = w ++ s) : r = s := by
  obtain ⟨x, hx, hpx⟩ := (Option.any_eq_true _ _).mp hr
  obtain ⟨y, hy, hpy⟩ := (Option.any_eq_true _ _).mp hs
  obtain ⟨r, rfl⟩ := List.head?_eq_some_iff.mp hx
  obtain ⟨s, rfl⟩ := List.head?_eq_some_iff.mp hy
  have hvw : v = w := by
    refine eq_of_append_cons_eq (p := fun a => (!p a) = true) ?_ ?_ hpx hpy h
    · exact fun a ha => by simp [hv a ha]
    · exact fun a ha => by simp [hw a ha]
  rw [hvw] at h
  exact List.append_cancel_left h

namespace Pattern

namespace Cursor

/-- Whether reading a text leads from one place to another. -/
def Reads (c : Cursor) (v : List Char) (d : Cursor) : Prop :=
  c.rest = v ++ d.rest ∧ c.skip v.length = d

/-- The place some characters further on, with a group that ran over them. -/
def pass (c : Cursor) (index n : Nat) : Cursor :=
  (c.skip n).record index c.pos

variable {c d : Cursor} {v w text : List Char} {index n : Nat}

@[simp] theorem pass_rest (c : Cursor) (index n : Nat) : (c.pass index n).rest = c.rest.drop n :=
  c.skip_rest n

theorem IsAt.pass (h : c.IsAt text) (index n : Nat) : (c.pass index n).IsAt text :=
  h.skip n

theorem reads_skip (h : c.rest = v ++ w) : c.Reads v (c.skip v.length) := by
  refine ⟨?_, rfl⟩
  rw [skip_rest, h, List.drop_left]

theorem reads_nil : c.Reads [] d ↔ c = d := by
  constructor
  · exact And.right
  · rintro rfl
    exact ⟨rfl, rfl⟩

theorem reads_append : c.Reads (v ++ w) d ↔ ∃ m, c.Reads v m ∧ m.Reads w d := by
  constructor
  · rintro ⟨hrest, rfl⟩
    rw [List.append_assoc] at hrest
    refine ⟨c.skip v.length, reads_skip hrest, ?_, ?_⟩
    · rw [skip_rest, hrest, List.drop_left]
    · rw [skip_skip, List.length_append]
  · rintro ⟨m, ⟨hrest, rfl⟩, hrest', rfl⟩
    refine ⟨?_, ?_⟩
    · rw [hrest, hrest', List.append_assoc]
    · rw [skip_skip, List.length_append]

theorem Reads.spans (h : c.Reads v d) : d.spans = c.spans := by
  rw [← h.2, skip_spans]

theorem Reads.isAt (h : c.Reads v d) (hc : c.IsAt text) : d.IsAt text :=
  h.2 ▸ hc.skip _

end Cursor

open Cursor

/-! ## Captures -/

section Captures

variable {text v w : List Char} {c d : Cursor} {i j n : Nat}

theorem spanText_congr (h : c.spans = d.spans) (i : Nat) :
    spanText text c i = spanText text d i := by
  rw [spanText, spanText, h]

@[simp] theorem spanText_start (text : List Char) (i : Nat) :
    spanText text (start text) i = none :=
  rfl

@[simp] theorem spanText_skip (text : List Char) (c : Cursor) (n i : Nat) :
    spanText text (c.skip n) i = spanText text c i :=
  spanText_congr (c.skip_spans n) i

theorem spanText_pass_of_ne (h : i ≠ j) :
    spanText text (c.pass i n) j = spanText text c j := by
  rw [spanText, Cursor.pass, record, List.find?_cons_of_neg (by simpa using h), skip_spans,
    spanText]

/-- What a group has captured is what was read while it was open. -/
theorem spanText_pass (hc : c.IsAt text) (h : c.rest = v ++ w) (i : Nat) :
    spanText text (c.pass i v.length) i = some (String.ofList v) := by
  have hpos : (c.skip v.length).pos = c.pos + v.length := by
    apply skip_pos
    rw [h, List.length_append]
    exact Nat.le_add_right _ _
  have hdrop : text.drop c.pos = v ++ w := hc.2.2.symm.trans h
  rw [spanText, Cursor.pass, record, List.find?_cons_of_pos (by simp)]
  simp only [Option.map_some, hpos, hdrop, Nat.add_sub_cancel_left, List.take_left]

end Captures

namespace CharClass

variable {cls : CharClass} {x : Char} {n : Nat} {r v : List Char}

theorem run_eq_zero_iff : cls.run v = 0 ↔ ∀ x ∈ v.head?, cls.mem x = false := by
  cases v with
  | nil => simp
  | cons x r => cases hx : cls.mem x <;> simp [run_cons, run_cons_of_not_mem, hx]

/-- What a repetition reads of a run is of the class. -/
theorem mem_of_mem_take (cls : CharClass) (hn : n ≤ cls.run v) (hx : x ∈ v.take n) :
    cls.mem x = true := by
  rw [← List.takeWhile_append_dropWhile (p := cls.mem) (l := v),
    List.take_append_of_le_length hn] at hx
  exact List.mem_takeWhile_imp (List.mem_of_mem_take hx)

end CharClass

namespace Expr

open Way

variable {e : Expr} {es : List Expr} {cls : CharClass} {k : Way} {c d : Cursor}
  {least index n : Nat} {most : Option Nat} {greedy : Bool} {v w r : List Char} {x : Char}

/-! ## Sequences -/

theorem first_seqs_cons (e : Expr) (es : List Expr) (k : Way) :
    (seqs (e :: es)).first k = e.first ((seqs es).first k) := by
  cases es <;> rfl

theorem leads_seqs_cons :
    (seqs (e :: es)).Leads c d ↔ ∃ m, e.Leads c m ∧ (seqs es).Leads m d := by
  cases es with
  | nil => simp [seqs, Leads]
  | cons e' es => rfl

theorem first_seqs_append (es fs : List Expr) (k : Way) :
    (seqs (es ++ fs)).first k = (seqs es).first ((seqs fs).first k) := by
  induction es with
  | nil => rfl
  | cons e es ih => rw [List.cons_append, first_seqs_cons, ih, first_seqs_cons]

theorem leads_seqs_append {fs : List Expr} :
    (seqs (es ++ fs)).Leads c d ↔ ∃ m, (seqs es).Leads c m ∧ (seqs fs).Leads m d := by
  induction es generalizing c with
  | nil => simp [seqs, Leads]
  | cons e es ih =>
      simp only [List.cons_append, leads_seqs_cons, ih]
      constructor
      · rintro ⟨x, hx, y, hy, hd⟩
        exact ⟨y, ⟨x, hx, hy⟩, hd⟩
      · rintro ⟨y, ⟨x, hx, hy⟩, hd⟩
        exact ⟨x, hx, y, hy, hd⟩

theorem first_alt (a b : Expr) (k : Way) (c : Cursor) :
    (alt a b).first k c = (a.first k c).or (b.first k c) :=
  rfl

theorem leads_alts (hne : es ≠ []) : (alts es).Leads c d ↔ ∃ e ∈ es, e.Leads c d := by
  induction es with
  | nil => exact absurd rfl hne
  | cons e es ih =>
      cases es with
      | nil => simp [alts]
      | cons e' es =>
          change e.Leads c d ∨ (alts (e' :: es)).Leads c d ↔ _
          simp only [ih (List.cons_ne_nil e' es), List.mem_cons (b := e), exists_eq_or_imp]

theorem first_group (index : Nat) (e : Expr) (k : Way) (c : Cursor) :
    (group index e).first k c = e.first (fun d => k (d.record index c.pos)) c :=
  rfl

theorem first_optional (e : Expr) (k : Way) (c : Cursor) :
    (repeated e 0 (some 1) true).first k c = (e.first k c).or (k c) :=
  rfl

/-- Where only one way through a pattern can be followed by the rest, it is taken. -/
theorem first_eq_of_unique (h : e.LoopsOverChars) (hd : e.Leads c d)
    (hunique : ∀ m, e.Leads c m → (k m).isSome → m = d) : e.first k c = k d := by
  cases hfirst : e.first k c with
  | none =>
      by_contra hk
      have hsome := (follows_first h).complete hd (Option.isSome_iff_ne_none.mpr (Ne.symm hk))
      rw [hfirst] at hsome
      cases hsome
  | some r =>
      obtain ⟨m, hm, hr⟩ := (follows_first h).sound hfirst
      rw [← hunique m hm (Option.isSome_of_eq_some hr), hr]

/-! ## Single characters -/

theorem first_chars_of_mem (h : c.rest = x :: r) (hx : cls.mem x = true) :
    (chars cls).first k c = k (c.skip 1) := by
  rw [first, Plan.first_chars_cons h, if_pos hx, skip_cons h, skip_zero]

theorem first_chars_eq_none (h : cls.run c.rest = 0) : (chars cls).first k c = none := by
  cases hrest : c.rest with
  | nil => exact Plan.first_chars_nil hrest
  | cons x r =>
      have hx : cls.mem x = false := CharClass.run_eq_zero_iff.mp h x (by simp [hrest])
      rw [first, Plan.first_chars_cons hrest, hx]
      rfl

theorem leads_chars :
    (chars cls).Leads c d ↔ ∃ x, cls.mem x = true ∧ c.Reads [x] d := by
  constructor
  · rintro ⟨x, r, hrest, hx, rfl⟩
    refine ⟨x, hx, hrest, ?_⟩
    exact skip_cons hrest 0
  · rintro ⟨x, hx, hrest, rfl⟩
    exact ⟨x, _, hrest, hx, (skip_cons hrest 0).symm⟩

/-! ## Repetitions of characters -/

theorem leads_repeated :
    (repeated (chars cls) least most greedy).Leads c d ↔
      ∃ v, (∀ x ∈ v, cls.mem x = true) ∧ least ≤ v.length ∧
        (∀ bound ∈ most, v.length ≤ max least bound) ∧ c.Reads v d := by
  rw [leads_repeated_chars]
  constructor
  · rintro ⟨n, ⟨henough, hbounded, hrun⟩, rfl⟩
    have hlength : (c.rest.take n).length = n :=
      List.length_take_of_le (hrun.trans (cls.run_le_length c.rest))
    refine ⟨c.rest.take n, fun x hx => cls.mem_of_mem_take hrun hx, ?_, ?_, ?_⟩
    · rwa [hlength]
    · rwa [hlength]
    · rw [Reads, hlength, skip_rest, List.take_append_drop]
      exact ⟨rfl, rfl⟩
  · rintro ⟨v, hv, henough, hbounded, hrest, rfl⟩
    refine ⟨v.length, ⟨henough, hbounded, ?_⟩, rfl⟩
    rw [hrest, CharClass.run_append hv]
    exact Nat.le_add_right _ _

theorem first_repeated_eq_none (h : cls.run c.rest < least) :
    (repeated (chars cls) least most greedy).first k c = none :=
  first_repeated_chars_eq_none fun _ hm =>
    absurd (Nat.lt_of_le_of_lt hm.inRun h) (Nat.not_lt.mpr hm.enough)

/-- A greedy repetition reads the whole run if there is a way on behind it. -/
theorem first_repeated_of_isSome (hc : c.rest = v ++ w) (hv : ∀ x ∈ v, cls.mem x = true)
    (hw : cls.run w = 0) (henough : least ≤ v.length)
    (hbounded : ∀ bound ∈ most, v.length ≤ max least bound) (hk : (k (c.skip v.length)).isSome) :
    (repeated (chars cls) least most true).first k c = k (c.skip v.length) := by
  have hrun : cls.run c.rest = v.length := by
    rw [hc, CharClass.run_append hv, hw, Nat.add_zero]
  refine first_repeated_chars ⟨henough, hbounded, hrun.ge⟩ hk fun m hm hpreferred => ?_
  exact absurd (hm.inRun.trans_eq hrun) (Nat.not_le.mpr hpreferred)

/-- A repetition reads the whole run if the rest cannot start within it. -/
theorem first_repeated_of_fails (hc : c.rest = v ++ w) (hv : ∀ x ∈ v, cls.mem x = true)
    (hw : cls.run w = 0) (henough : least ≤ v.length)
    (hbounded : ∀ bound ∈ most, v.length ≤ max least bound)
    (hk : ∀ x ∈ v, ∀ d r, d.rest = x :: r → k d = none) :
    (repeated (chars cls) least most greedy).first k c = k (c.skip v.length) := by
  have hrun : cls.run c.rest = v.length := by
    rw [hc, CharClass.run_append hv, hw, Nat.add_zero]
  have hothers : ∀ m, CanRead cls least most c.rest m → m ≠ v.length → k (c.skip m) = none := by
    intro m hm hne
    have hlt : m < v.length := Nat.lt_of_le_of_ne (hm.inRun.trans_eq hrun) hne
    refine hk v[m] (List.getElem_mem hlt) _ (v.drop (m + 1) ++ w) ?_
    rw [skip_rest, hc, List.drop_append_of_le_length hlt.le, List.drop_eq_getElem_cons hlt,
      List.cons_append]
  cases hend : k (c.skip v.length) with
  | none =>
      apply first_repeated_chars_eq_none
      intro m hm
      by_cases heq : m = v.length
      · rw [heq, hend]
      · exact hothers m hm heq
  | some r =>
      rw [← hend]
      refine first_repeated_chars ⟨henough, hbounded, hrun.ge⟩ (hend ▸ rfl)
        fun m hm hpreferred => ?_
      apply hothers m hm
      rintro rfl
      cases greedy <;> exact Nat.lt_irrefl _ hpreferred

/-- A group whose repetition reads the whole run. -/
theorem first_group_of_fails (hc : c.rest = v ++ w) (hv : ∀ x ∈ v, cls.mem x = true)
    (hw : cls.run w = 0) (henough : least ≤ v.length)
    (hbounded : ∀ bound ∈ most, v.length ≤ max least bound)
    (hk : ∀ x ∈ v, ∀ d r, d.rest = x :: r → k d = none) :
    (group index (repeated (chars cls) least most greedy)).first k c = k (c.pass index v.length) :=
  first_repeated_of_fails hc hv hw henough hbounded fun x hx d r hd =>
    hk x hx (d.record index c.pos) r hd

/-! ## Blanks and ends -/

/-- White space. -/
def spaces (least : Nat) (greedy : Bool) : Expr :=
  repeated (.chars .space) least none greedy

theorem run_space_cons (h : Unicode.isWhiteSpace x = false) : CharClass.space.run (x :: w) = 0 :=
  CharClass.run_cons_of_not_mem h

theorem first_textStart (text : List Char) :
    (look .textStart).first k (start text) = k (start text) :=
  rfl

/-- Only the start of a text has nothing in front of it. -/
theorem leads_textStart {text : List Char} (hc : c.IsAt text)
    (h : (look .textStart).Leads c d) : c = d ∧ c.rest = text := by
  obtain ⟨hbefore, rfl⟩ := h
  have htake : text.take c.pos = [] := by
    rw [Look.holds, hc.2.1, place, Option.isNone_iff_eq_none] at hbefore
    exact List.getLast?_eq_none_iff.mp hbefore
  refine ⟨rfl, ?_⟩
  calc c.rest
    _ = text.take c.pos ++ text.drop c.pos := by rw [htake, hc.2.2, place, List.nil_append]
    _ = text := List.take_append_drop c.pos text

theorem first_end_of_nil (hc : c.rest = []) : (look .textEnd).first k c = k c := by
  simp [first, Plan.first, Look.holds, hc]

theorem first_end_of_cons (hc : c.rest = x :: v) : (look .textEnd).first k c = none := by
  simp [first, Plan.first, Look.holds, hc]

/-! ## Words -/

/-- A letter, up to case. -/
def letter (x : Char) : Expr :=
  chars (.folded (.one x))

/-- The letters of a word, up to case. -/
def word (w : List Char) : List Expr :=
  w.map letter

theorem first_letter (h : c.rest = x :: r) : (letter x).first k c = k (c.skip 1) :=
  first_chars_of_mem h (Unicode.sameUpToCase_self x)

theorem first_word (h : c.rest = v ++ w) :
    (seqs (word v)).first k c = k (c.skip v.length) := by
  induction v generalizing c with
  | nil => rfl
  | cons x v ih =>
      rw [word, List.map_cons, first_seqs_cons, first_letter h]
      have hskip : (c.skip 1).rest = v ++ w := by
        rw [skip_rest, h]
        rfl
      rw [← word, ih hskip, skip_skip, Nat.add_comm, List.length_cons]

theorem leads_word :
    (seqs (word w)).Leads c d ↔
      ∃ v, List.Forall₂ (fun x y => Unicode.sameUpToCase x y = true) v w ∧ c.Reads v d := by
  induction w generalizing c with
  | nil =>
      constructor
      · rintro rfl
        exact ⟨[], .nil, reads_nil.mpr rfl⟩
      · rintro ⟨v, hv, h⟩
        cases hv
        exact reads_nil.mp h
  | cons y w ih =>
      rw [word, List.map_cons, leads_seqs_cons]
      constructor
      · rintro ⟨m, hm, hd⟩
        obtain ⟨x, hx, hm⟩ := leads_chars.mp hm
        obtain ⟨v, hv, hd⟩ := ih.mp hd
        exact ⟨x :: v, .cons hx hv, reads_append.mpr ⟨m, hm, hd⟩⟩
      · rintro ⟨v, hv, h⟩
        cases hv with
        | cons hx hv =>
            obtain ⟨m, hm, hd⟩ := reads_append.mp (show c.Reads ([_] ++ _) d from h)
            exact ⟨m, leads_chars.mpr ⟨_, hx, hm⟩, ih.mpr ⟨_, hv, hd⟩⟩

/-- A word without letters that have a case is read as it is. -/
theorem leads_word_of_caseless (hw : ∀ x ∈ w, Unicode.isCaseless x = true) :
    (seqs (word w)).Leads c d ↔ c.Reads w d := by
  rw [leads_word]
  constructor
  · rintro ⟨v, hv, hd⟩
    rwa [← Unicode.eq_of_forall₂_sameUpToCase hw hv]
  · intro hd
    exact ⟨w, List.forall₂_same.mpr fun x _ => Unicode.sameUpToCase_self x, hd⟩

end Expr

end Pattern

end LogWarden
