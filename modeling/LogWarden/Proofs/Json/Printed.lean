import LogWarden.Json.Decode
import LogWarden.Json.Printer
import Mathlib.Data.List.Basic

/-!
# Reading what was printed

A text spells a value if it has the parts of the value in their order, with blanks between them. A
floating-point number is spelled by every text that reads as it, which the printed one need not be.
A text that spells a value reads as the tree of the value, and both the compact and the pretty text
of a value whose numbers are whole and fit 64 bits spell it. So a reader makes of either text what
it makes of the value.

## Implementation notes

A reader is told where a number ends by what stands behind it, so the lemmas are about texts that
are followed by anything that does not go on with a number. Every value that nests takes two steps
of fuel and two characters, so a text has fuel enough if its length does.
-/

namespace LogWarden

/-- Whether a text cannot go on with a number that ends before it. -/
def EndsNumber (cs : List Char) : Prop :=
  ∀ c ∈ cs.head?, c.isDigit = false ∧ c ≠ '.' ∧ c ≠ 'e' ∧ c ≠ 'E'

theorem endsNumber_nil : EndsNumber [] := by
  intro c hc
  cases hc

theorem le_ofDigitChars (ds : List Char) (n : Nat) : n ≤ Nat.ofDigitChars 10 ds n := by
  induction ds generalizing n with
  | nil => exact Nat.le_refl _
  | cons c ds ih =>
      rw [Nat.ofDigitChars_cons]
      have hle := ih (10 * n + (c.toNat - '0'.toNat))
      omega

theorem decimalDigits_isDigit {n : Nat} : ∀ c ∈ decimalDigits n, c.isDigit = true :=
  fun _ hc => Nat.isDigit_of_mem_toDigits (b := 10) (by decide) (by decide) hc

theorem ofDigitChars_decimalDigits (n : Nat) : Nat.ofDigitChars 10 (decimalDigits n) 0 = n :=
  Nat.ofDigitChars_toDigits (b := 10) (by decide) (by decide)

/-- Only zero begins with a zero. -/
theorem head?_decimalDigits {n : Nat} (h : (decimalDigits n).head? = some '0') : n = 0 := by
  induction n using Nat.strongRecOn with
  | ind n ih =>
      by_cases hlt : n < 10
      · rw [decimalDigits, Nat.toDigits_of_lt_base hlt] at h
        exact Nat.digitChar_eq_zero.mp (Option.some.inj h)
      · have hle : 10 ≤ n := Nat.le_of_not_lt hlt
        rw [decimalDigits, Nat.toDigits_of_base_le (by decide) hle,
          List.head?_append_of_ne_nil _ Nat.toDigits_ne_nil] at h
        have hzero := ih (n / 10) (by omega) h
        omega

namespace Json

/-- Whether the numbers of a value are whole and fit 64 bits, with a sign or without one. -/
def IsWhole : Json → Prop
  | .null | .bool _ | .str _ => True
  | .num (.int n) => -9223372036854775808 ≤ n ∧ n ≤ Reader.maxWord
  | .num (.float _) => False
  | .arr items => wholeItems items
  | .obj members => wholeMembers members
where
  wholeItems : List Json → Prop
    | [] => True
    | v :: rest => v.IsWhole ∧ wholeItems rest
  wholeMembers : List (String × Json) → Prop
    | [] => True
    | (_, v) :: rest => v.IsWhole ∧ wholeMembers rest

theorem isWhole_arr_iff {vs : List Json} : (Json.arr vs).IsWhole ↔ ∀ v ∈ vs, v.IsWhole := by
  rw [IsWhole]
  induction vs with
  | nil => simp [IsWhole.wholeItems]
  | cons v vs ih => simp [IsWhole.wholeItems, ih]

theorem isWhole_obj_iff {ms : List (String × Json)} :
    (Json.obj ms).IsWhole ↔ ∀ m ∈ ms, m.2.IsWhole := by
  rw [IsWhole]
  induction ms with
  | nil => simp [IsWhole.wholeMembers]
  | cons m ms ih =>
      obtain ⟨key, v⟩ := m
      simp [IsWhole.wholeMembers, ih]

namespace Reader

variable {cs rest ds : List Char} {c : Char} {fuel n count dropped : Nat}

/-! ## Numbers -/

theorem digits_append (hdigits : ∀ c ∈ ds, c.isDigit = true)
    (hrest : ∀ c ∈ rest.head?, c.isDigit = false)
    (hle : Nat.ofDigitChars 10 ds n ≤ maxWord) :
    digits ⟨n, false, dropped⟩ count (ds ++ rest) =
      (⟨Nat.ofDigitChars 10 ds n, false, dropped⟩, count + ds.length, rest) := by
  induction ds generalizing n count with
  | nil =>
      cases rest with
      | nil => rfl
      | cons c rest =>
          have hc : c.isDigit = false := hrest c rfl
          simp [digits, hc]
  | cons c ds ih =>
      have hc : c.isDigit = true := hdigits c List.mem_cons_self
      rw [Nat.ofDigitChars_cons, Nat.mul_comm] at hle
      have hfits : n * 10 + (c.toNat - '0'.toNat) ≤ maxWord :=
        Nat.le_trans (le_ofDigitChars ds _) hle
      have hadd : Significand.add ⟨n, false, dropped⟩ (c.toNat - '0'.toNat) =
          ⟨n * 10 + (c.toNat - '0'.toNat), false, dropped⟩ := by
        rw [Significand.add, Bool.false_or, if_neg]
        simpa only [decide_eq_true_eq, Nat.not_lt] using hfits
      rw [List.cons_append, digits, if_pos hc, hadd,
        ih (fun c hc => hdigits c (List.mem_cons_of_mem _ hc)) hle, Nat.ofDigitChars_cons,
        Nat.mul_comm 10 n, List.length_cons, Nat.add_assoc, Nat.add_comm 1]

theorem number_decimalDigits (negative : Bool) (hle : n ≤ maxWord) (hrest : EndsNumber rest) :
    number negative (decimalDigits n ++ rest) =
      .ok (wholeNumber negative ⟨n, false, 0⟩, rest) := by
  have hread := @digits_append rest (decimalDigits n) 0 0 0 decimalDigits_isDigit
    (fun c hc => (hrest c hc).1) (Nat.le_trans (Nat.le_of_eq (ofDigitChars_decimalDigits n)) hle)
  rw [ofDigitChars_decimalDigits, Nat.zero_add] at hread
  obtain ⟨c, ds, hds⟩ := List.exists_cons_of_ne_nil (Nat.toDigits_ne_nil (b := 10) (n := n))
  have hc : c.isDigit = true := decimalDigits_isDigit c (hds ▸ List.mem_cons_self)
  -- a leading zero stands alone
  have hzero : (c = '0' && 1 < (decimalDigits n).length) = false := by
    rw [Bool.eq_false_iff, Ne, Bool.and_eq_true, decide_eq_true_eq, decide_eq_true_eq]
    rintro ⟨rfl, hlong⟩
    have hn : n = 0 := head?_decimalDigits (by rw [decimalDigits, hds, List.head?_cons])
    subst hn
    exact absurd hlong (by decide)
  rw [decimalDigits] at hread hzero ⊢
  rw [hds] at hread hzero ⊢
  rw [List.cons_append] at hread ⊢
  simp only [number, hc, hread, hzero, Bool.not_true, Bool.false_eq_true, if_false]
  cases rest with
  | nil => rfl
  | cons d rest =>
      obtain ⟨-, hpoint, hlower, hupper⟩ := hrest d rfl
      simp [hpoint, hlower, hupper]

theorem skipBlanks_of_isDigit (hc : c.isDigit = true) : skipBlanks (c :: cs) = c :: cs := by
  rw [skipBlanks, if_neg]
  intro h
  simp only [Bool.or_eq_true, beq_iff_eq] at h
  rcases h with ((rfl | rfl) | rfl) | rfl <;> exact absurd hc (by decide)

/-- A value that begins with a digit is a number. -/
theorem value_of_isDigit (hc : c.isDigit = true) :
    value (fuel + 1) (c :: cs) = numberValue false (c :: cs) := by
  rw [value, skipBlanks_of_isDigit hc]
  split
  case h_9 heq =>
    obtain ⟨rfl, rfl⟩ := List.cons.inj heq
    rw [if_pos hc]
  case h_1 heq => cases heq
  all_goals
    rename_i heq
    obtain ⟨rfl, -⟩ := List.cons.inj heq
    exact absurd hc (by decide)

/-- A whole number that fits 64 bits reads as what was printed. -/
theorem value_intText {k : Int} (hlow : -9223372036854775808 ≤ k) (hhigh : k ≤ maxWord)
    (hrest : EndsNumber rest) :
    value (fuel + 1) (intText k ++ rest) = (.num (.ok (.int k)), some rest) := by
  have hle : k.natAbs ≤ maxWord := by
    have hmax : maxWord = 18446744073709551615 := rfl
    omega
  by_cases hneg : k < 0
  · have hwhole : wholeNumber true ⟨k.natAbs, false, 0⟩ = .ok (.int k) := by
      have hzero : (k.natAbs = 0 || 9223372036854775808 < k.natAbs) = false := by
        simp only [Bool.or_eq_false_iff, decide_eq_false_iff_not]
        omega
      simp only [wholeNumber, hzero, Bool.not_true, Bool.false_eq_true, if_false]
      rw [show -(k.natAbs : Int) = k by omega]
    rw [intText, if_pos hneg, List.cons_append]
    have hminus : value (fuel + 1) ('-' :: (decimalDigits k.natAbs ++ rest)) =
        numberValue true (decimalDigits k.natAbs ++ rest) := rfl
    rw [hminus, numberValue, number_decimalDigits true hle hrest, hwhole]
  · have hwhole : wholeNumber false ⟨k.natAbs, false, 0⟩ = .ok (.int k) := by
      simp only [wholeNumber, Bool.not_false, Bool.false_eq_true, if_false, if_true]
      rw [show (k.natAbs : Int) = k by omega]
    rw [intText, if_neg hneg]
    obtain ⟨c, ds, hds⟩ := List.exists_cons_of_ne_nil
      (Nat.toDigits_ne_nil (b := 10) (n := k.natAbs))
    have hc : c.isDigit = true := decimalDigits_isDigit c (hds ▸ List.mem_cons_self)
    have hread := number_decimalDigits false hle hrest
    rw [decimalDigits, hds, List.cons_append] at hread ⊢
    rw [value_of_isDigit hc, numberValue, hread, hwhole]

/-- A text of digits and what stands between them that is read as a floating-point number, whatever
follows it. -/
structure ReadsFloat (negative : Bool) (body : List Char) (y : Binary64) : Prop where
  head : ∃ c ds, body = c :: ds ∧ c.isDigit = true
  number_eq : ∀ rest, EndsNumber rest → number negative (body ++ rest) = .ok (.ok (.float y), rest)

/-- The text of a number with its sign. -/
def signed (negative : Bool) (body : List Char) : List Char :=
  if negative then '-' :: body else body

theorem value_signed {negative : Bool} {body : List Char} {y : Binary64}
    (h : ReadsFloat negative body y) (hrest : EndsNumber rest) :
    value (fuel + 1) (signed negative body ++ rest) = (.num (.ok (.float y)), some rest) := by
  have hread := h.number_eq rest hrest
  obtain ⟨c, ds, rfl, hc⟩ := h.head
  cases negative with
  | true =>
      have hminus : value (fuel + 1) ('-' :: (c :: ds ++ rest)) = numberValue true (c :: ds ++ rest) :=
        rfl
      rw [signed, if_pos rfl, List.cons_append, hminus, numberValue, hread]
  | false =>
      rw [signed, if_neg Bool.false_ne_true, List.cons_append, value_of_isDigit hc, numberValue,
        ← List.cons_append, hread]

/-! ## Quoted texts -/

theorem hexDigit?_hexChar : ∀ d < 16, hexDigit? (hexChar d) = some d := by
  decide

theorem hexUnit_hexChar {n : Nat} (h : n < 32) :
    hexUnit ('0' :: '0' :: hexChar (n / 16) :: hexChar (n % 16) :: rest) = .ok (n, rest) := by
  have hzero : hexDigit? '0' = some 0 := rfl
  have hhigh := hexDigit?_hexChar (n / 16) (by omega)
  have hlow := hexDigit?_hexChar (n % 16) (by omega)
  simp only [hexUnit, hzero, hhigh, hlow]
  rw [show ((0 * 16 + 0) * 16 + n / 16) * 16 + n % 16 = n by omega]

/-- A character is read in one step as what was printed. -/
theorem quoted_escapeChar (c : Char) (acc rest : List Char) :
    quoted (fuel + 1) false (.ok acc) (escapeChar c ++ rest) =
      quoted fuel false (.ok (c :: acc)) rest := by
  fun_cases escapeChar c with
  | case8 c _ _ _ _ _ _ _ hlow =>
      have hunit := @hexUnit_hexChar rest c.toNat hlow
      have hpair : ¬(0xDC00 ≤ c.toNat) ∧ ¬(0xD800 ≤ c.toNat) := by omega
      simp only [List.cons_append, List.nil_append]
      simp only [quoted, hunit, hpair, Sofar.add, Except.map, Char.ofNat_toNat, Char.reduceEq,
        decide_false, Bool.false_and, Bool.false_eq_true, if_false, if_true]
  | case9 c hquote hbackslash _ _ _ _ _ hlow =>
      simp only [List.cons_append, List.nil_append]
      rw [quoted.eq_def]
      simp only [hlow, Sofar.add, Except.map, if_false]
      rw [if_neg hquote, if_neg hbackslash]
  | case1 | case2 | case3 | case4 | case5 | case6 | case7 => rfl

theorem quoted_flatMap (s acc rest : List Char) (h : s.length < fuel) :
    quoted fuel false (.ok acc) (s.flatMap escapeChar ++ '"' :: rest) =
      (⟨.ok (String.ofList (acc.reverse ++ s)), none⟩, some rest) := by
  induction s generalizing acc fuel with
  | nil =>
      obtain ⟨fuel, rfl⟩ := Nat.exists_eq_add_of_lt h
      rw [List.append_nil]
      rfl
  | cons c s ih =>
      rw [List.length_cons] at h
      obtain ⟨fuel, rfl⟩ : ∃ n, fuel = n + 1 := ⟨fuel - 1, by omega⟩
      rw [List.flatMap_cons, List.append_assoc, quoted_escapeChar, ih _ (by omega),
        List.reverse_cons, List.append_assoc, List.singleton_append]

theorem length_le_flatMap (s : List Char) : s.length ≤ (s.flatMap escapeChar).length := by
  induction s with
  | nil => exact Nat.le_refl _
  | cons c s ih =>
      have hpos : 0 < (escapeChar c).length := by
        fun_cases escapeChar c <;> exact Nat.succ_pos _
      rw [List.flatMap_cons, List.length_append, List.length_cons]
      omega

/-- A text in quotes reads as the text. -/
theorem quotedText_quote (s : String) (rest : List Char) :
    quotedText (s.toList.flatMap escapeChar ++ '"' :: rest) = (⟨.ok s, none⟩, some rest) := by
  have hlength := length_le_flatMap s.toList
  rw [quotedText, quoted_flatMap, List.reverse_nil, List.nil_append, String.ofList_toList]
  rw [List.length_append]
  omega

/-! ## Blanks -/

/-- Blanks, which may stand between the parts of a text. -/
def AreBlanks (cs : List Char) : Prop :=
  ∀ c ∈ cs, c = ' ' ∨ c = '\n' ∨ c = '\t' ∨ c = '\r'

theorem areBlanks_nil : AreBlanks [] := by
  intro c hc
  cases hc

theorem skipBlanks_append {bs : List Char} (h : AreBlanks bs) (cs : List Char) :
    skipBlanks (bs ++ cs) = skipBlanks cs := by
  induction bs with
  | nil => rfl
  | cons b bs ih =>
      have hblank : (b == ' ' || b == '\n' || b == '\t' || b == '\r') = true := by
        rcases h b List.mem_cons_self with rfl | rfl | rfl | rfl <;> decide
      rw [List.cons_append, skipBlanks, if_pos hblank]
      exact ih fun c hc => h c (List.mem_cons_of_mem _ hc)

/-- Where a number ends, blanks may follow. -/
theorem endsNumber_append {bs : List Char} (hbs : AreBlanks bs) (h : EndsNumber cs) :
    EndsNumber (bs ++ cs) := by
  cases bs with
  | nil => exact h
  | cons b bs =>
      intro c hc
      obtain rfl : b = c := Option.some.inj hc
      rcases hbs b List.mem_cons_self with rfl | rfl | rfl | rfl <;> decide

theorem value_append {bs : List Char} (h : AreBlanks bs) :
    value fuel (bs ++ cs) = value fuel cs := by
  cases fuel with
  | zero => rfl
  | succ fuel => simp only [value, skipBlanks_append h]

theorem items_append {bs : List Char} (h : AreBlanks bs) (first : Bool) :
    items fuel first (bs ++ cs) = items fuel first cs := by
  cases fuel with
  | zero => rfl
  | succ fuel => simp only [items, skipBlanks_append h]

theorem members_append {bs : List Char} (h : AreBlanks bs) (first : Bool) :
    members fuel first (bs ++ cs) = members fuel first cs := by
  cases fuel with
  | zero => rfl
  | succ fuel => simp only [members, skipBlanks_append h]

/-! ## Values that nest -/

theorem value_quote :
    value (fuel + 1) ('"' :: cs) = (.str (quotedText cs).1, (quotedText cs).2) := by
  rfl

theorem value_bracket :
    value (fuel + 1) ('[' :: cs) =
      (.arr (items fuel true cs).1.1 (items fuel true cs).1.2, (items fuel true cs).2) := by
  rfl

theorem value_brace :
    value (fuel + 1) ('\x7b' :: cs) =
      (.obj (members fuel true cs).1.1 (members fuel true cs).1.2, (members fuel true cs).2) := by
  rfl

section

variable {d : Document} {k : QuotedText} {vs : List Document} {ms : List (QuotedText × Document)}
  {tail : Tail} {after : Option (List Char)}

theorem items_cons (hc : c ≠ ']') (hblank : skipBlanks (c :: cs) = c :: cs)
    (hv : value fuel (c :: cs) = (d, some rest))
    (hvs : items fuel false rest = ((vs, tail), after)) :
    items (fuel + 1) true (c :: cs) = ((d :: vs, tail), after) := by
  simp only [items, hblank, hv, hvs, if_true]

/-- Behind a comma an item is read as at the start of an array. -/
theorem items_comma {bs : List Char} (hbs : AreBlanks bs) (hc : c ≠ ']')
    (hblank : skipBlanks (c :: cs) = c :: cs) :
    items (fuel + 1) false (',' :: (bs ++ c :: cs)) = items (fuel + 1) true (c :: cs) := by
  have hcomma : skipBlanks (',' :: (bs ++ c :: cs)) = ',' :: (bs ++ c :: cs) := rfl
  simp [items, skipBlanks_append hbs, hblank, hcomma, hc]

theorem members_cons {bs : List Char} (hbs : AreBlanks bs)
    (hk : quotedText cs = (k, some (bs ++ ':' :: ds))) (hv : value fuel ds = (d, some rest))
    (hms : members fuel false rest = ((ms, tail), after)) :
    members (fuel + 1) true ('"' :: cs) = (((k, d) :: ms, tail), after) := by
  have hquote : skipBlanks ('"' :: cs) = '"' :: cs := rfl
  have hcolon : skipBlanks (':' :: ds) = ':' :: ds := rfl
  simp only [members, hquote, hk, skipBlanks_append hbs, hcolon, hv, hms, if_true]

/-- Behind a comma a member is read as at the start of an object. -/
theorem members_comma {bs : List Char} (hbs : AreBlanks bs) :
    members (fuel + 1) false (',' :: (bs ++ '"' :: cs)) =
      members (fuel + 1) true ('"' :: cs) := by
  have hcomma : skipBlanks (',' :: (bs ++ '"' :: cs)) = ',' :: (bs ++ '"' :: cs) := rfl
  have hquote : skipBlanks ('"' :: cs) = '"' :: cs := rfl
  simp [members, skipBlanks_append hbs, hcomma, hquote]

end

end Reader

/-! ## Spelled values -/

open Reader (AreBlanks areBlanks_nil)

mutual

/-- The texts that spell a value. -/
inductive Spells : Json → List Char → Prop
  | null : Spells .null ['n', 'u', 'l', 'l']
  | bool {b : Bool} : Spells (.bool b) (compact (.bool b))
  | int {n : Int} (hlow : -9223372036854775808 ≤ n) (hhigh : n ≤ Reader.maxWord) :
      Spells (.num (.int n)) (intText n)
  | float {negative : Bool} {body : List Char} {y : Binary64}
      (h : Reader.ReadsFloat negative body y) : Spells (.num (.float y)) (Reader.signed negative body)
  | str {s : String} : Spells (.str s) (quote s.toList)
  | arr {vs : List Json} {cs : List Char} (h : SpellsItems true vs cs) :
      Spells (.arr vs) ('[' :: cs)
  | obj {ms : List (String × Json)} {cs : List Char} (h : SpellsMembers true ms cs) :
      Spells (.obj ms) ('\x7b' :: cs)

/-- The texts that spell items and the bracket behind them; the flag says that no item stands in
front of them. -/
inductive SpellsItems : Bool → List Json → List Char → Prop
  | nil {first : Bool} {bs : List Char} (hbs : AreBlanks bs) : SpellsItems first [] (bs ++ [']'])
  | first {bs cs ds : List Char} {v : Json} {vs : List Json} (hbs : AreBlanks bs)
      (hv : Spells v cs) (hvs : SpellsItems false vs ds) :
      SpellsItems true (v :: vs) (bs ++ (cs ++ ds))
  | next {bs bs' cs ds : List Char} {v : Json} {vs : List Json} (hbs : AreBlanks bs)
      (hbs' : AreBlanks bs') (hv : Spells v cs) (hvs : SpellsItems false vs ds) :
      SpellsItems false (v :: vs) (bs ++ ',' :: (bs' ++ (cs ++ ds)))

/-- The texts that spell members and the brace behind them. -/
inductive SpellsMembers : Bool → List (String × Json) → List Char → Prop
  | nil {first : Bool} {bs : List Char} (hbs : AreBlanks bs) :
      SpellsMembers first [] (bs ++ ['\x7d'])
  | first {bs cs ds : List Char} {k : String} {v : Json} {ms : List (String × Json)}
      (hbs : AreBlanks bs) (hm : SpellsMember k v cs) (hms : SpellsMembers false ms ds) :
      SpellsMembers true ((k, v) :: ms) (bs ++ (cs ++ ds))
  | next {bs bs' cs ds : List Char} {k : String} {v : Json} {ms : List (String × Json)}
      (hbs : AreBlanks bs) (hbs' : AreBlanks bs') (hm : SpellsMember k v cs)
      (hms : SpellsMembers false ms ds) :
      SpellsMembers false ((k, v) :: ms) (bs ++ ',' :: (bs' ++ (cs ++ ds)))

/-- The texts that spell a member. -/
inductive SpellsMember : String → Json → List Char → Prop
  | mk {bs bs' cs : List Char} {k : String} {v : Json} (hbs : AreBlanks bs) (hbs' : AreBlanks bs')
      (hv : Spells v cs) : SpellsMember k v (quote k.toList ++ (bs ++ ':' :: (bs' ++ cs)))

end

variable {v : Json} {vs : List Json} {ms : List (String × Json)} {cs : List Char} {first : Bool}

/-- A text that spells a value begins neither with a blank nor with the end of an array. -/
theorem Spells.exists_eq_cons (h : Spells v cs) :
    ∃ c ds, cs = c :: ds ∧ c ≠ ']' ∧ ∀ ds', Reader.skipBlanks (c :: ds') = c :: ds' := by
  cases h with
  | null => exact ⟨'n', _, rfl, by decide, fun _ => rfl⟩
  | @bool b =>
      cases b with
      | true => exact ⟨'t', _, rfl, by decide, fun _ => rfl⟩
      | false => exact ⟨'f', _, rfl, by decide, fun _ => rfl⟩
  | str => exact ⟨'"', _, rfl, by decide, fun _ => rfl⟩
  | arr => exact ⟨'[', _, rfl, by decide, fun _ => rfl⟩
  | obj => exact ⟨'\x7b', _, rfl, by decide, fun _ => rfl⟩
  | @float negative body y h =>
      obtain ⟨c, ds, rfl, hc⟩ := h.head
      cases negative with
      | true => exact ⟨'-', _, rfl, by decide, fun _ => rfl⟩
      | false =>
          refine ⟨c, ds, rfl, ?_, fun _ => Reader.skipBlanks_of_isDigit hc⟩
          rintro rfl
          exact absurd hc (by decide)
  | @int n _ _ =>
      by_cases hneg : n < 0
      · refine ⟨'-', decimalDigits n.natAbs, ?_, by decide, fun _ => rfl⟩
        rw [intText, if_pos hneg]
      · obtain ⟨c, ds, hds⟩ := List.exists_cons_of_ne_nil
          (Nat.toDigits_ne_nil (b := 10) (n := n.natAbs))
        have hc : c.isDigit = true := decimalDigits_isDigit c (hds ▸ List.mem_cons_self)
        refine ⟨c, ds, ?_, ?_, fun _ => Reader.skipBlanks_of_isDigit hc⟩
        · rw [intText, if_neg hneg, decimalDigits, hds]
        · rintro rfl
          exact absurd hc (by decide)

theorem Spells.length_pos (h : Spells v cs) : 0 < cs.length := by
  obtain ⟨c, ds, rfl, -⟩ := h.exists_eq_cons
  exact Nat.succ_pos _

theorem SpellsItems.length_pos (h : SpellsItems first vs cs) : 0 < cs.length := by
  cases h with
  | nil => simp
  | first _ hv =>
      have hpos := hv.length_pos
      simp only [List.length_append]
      omega
  | next =>
      simp only [List.length_append, List.length_cons]
      omega

/-- Behind an item there is no number that goes on. -/
theorem SpellsItems.endsNumber (h : SpellsItems false vs cs) (rest : List Char) :
    EndsNumber (cs ++ rest) := by
  cases h with
  | nil hbs | next hbs =>
      rw [List.append_assoc]
      refine Reader.endsNumber_append hbs ?_
      intro c hc
      obtain rfl := Option.some.inj hc
      decide

theorem SpellsMembers.endsNumber (h : SpellsMembers false ms cs) (rest : List Char) :
    EndsNumber (cs ++ rest) := by
  cases h with
  | nil hbs | next hbs =>
      rw [List.append_assoc]
      refine Reader.endsNumber_append hbs ?_
      intro c hc
      obtain rfl := Option.some.inj hc
      decide

/-- An item that stands first or behind a comma is read from where its text begins. -/
theorem SpellsItems.cons {v : Json} (h : SpellsItems first (v :: vs) cs) :
    ∃ text ds, Spells v text ∧ SpellsItems false vs ds ∧ text.length + ds.length ≤ cs.length ∧
      ∀ fuel rest, Reader.items (fuel + 1) first (cs ++ rest) =
        Reader.items (fuel + 1) true (text ++ (ds ++ rest)) := by
  cases h with
  | @first bs text ds _ _ hbs hv hvs =>
      refine ⟨text, ds, hv, hvs, by simp, fun fuel rest => ?_⟩
      rw [List.append_assoc, List.append_assoc, Reader.items_append hbs]
  | @next bs bs' text ds _ _ hbs hbs' hv hvs =>
      refine ⟨text, ds, hv, hvs, ?_, fun fuel rest => ?_⟩
      · simp only [List.length_append, List.length_cons]
        omega
      · obtain ⟨c, text, rfl, hc, hblank⟩ := hv.exists_eq_cons
        rw [List.append_assoc, Reader.items_append hbs]
        simp only [List.cons_append, List.append_assoc]
        exact Reader.items_comma hbs' hc (hblank _)

theorem SpellsMembers.cons {k : String} {v : Json} (h : SpellsMembers first ((k, v) :: ms) cs) :
    ∃ text ds, SpellsMember k v text ∧ SpellsMembers false ms ds ∧
      text.length + ds.length ≤ cs.length ∧
      ∀ fuel rest, Reader.members (fuel + 1) first (cs ++ rest) =
        Reader.members (fuel + 1) true (text ++ (ds ++ rest)) := by
  cases h with
  | @first bs text ds _ _ _ hbs hm hms =>
      refine ⟨text, ds, hm, hms, by simp, fun fuel rest => ?_⟩
      rw [List.append_assoc, List.append_assoc, Reader.members_append hbs]
  | @next bs bs' text ds _ _ _ hbs hbs' hm hms =>
      refine ⟨text, ds, hm, hms, ?_, fun fuel rest => ?_⟩
      · simp only [List.length_append, List.length_cons]
        omega
      · cases hm with
        | mk =>
            rw [List.append_assoc, Reader.members_append hbs]
            simp only [quote, List.cons_append, List.append_assoc]
            exact Reader.members_comma hbs'

mutual

/-- A text that spells a value reads as the value, whatever stands behind it. -/
theorem value_of_spells : ∀ (v : Json) (fuel : Nat) (cs rest : List Char), Spells v cs →
    cs.length ≤ fuel → EndsNumber rest →
    Reader.value fuel (cs ++ rest) = (v.toDocument, some rest)
  | .null, fuel + 1, _, rest, .null, _, _ => rfl
  | .bool true, fuel + 1, _, rest, .bool, _, _ => rfl
  | .bool false, fuel + 1, _, rest, .bool, _, _ => rfl
  | .num _, fuel + 1, _, rest, .int hlow hhigh, _, hrest => Reader.value_intText hlow hhigh hrest
  | .num _, fuel + 1, _, rest, .float h, _, hrest => Reader.value_signed h hrest
  | .str s, fuel + 1, _, rest, .str, _, _ => by
      have hread := Reader.quotedText_quote s rest
      rw [quote, List.cons_append, List.cons_append, List.append_assoc, List.singleton_append,
        Reader.value_quote, hread, toDocument]
  | .arr items, fuel + 1, _, rest, .arr h, hfuel, _ => by
      have hread := items_of_spells items fuel true _ rest h (Nat.le_of_succ_le_succ hfuel)
      rw [List.cons_append, Reader.value_bracket, hread, toDocument]
  | .obj members, fuel + 1, _, rest, .obj h, hfuel, _ => by
      have hread := members_of_spells members fuel true _ rest h (Nat.le_of_succ_le_succ hfuel)
      rw [List.cons_append, Reader.value_brace, hread, toDocument]
  | _, 0, _, _, h, hfuel, _ => absurd h.length_pos (Nat.not_lt.mpr hfuel)

theorem items_of_spells : ∀ (vs : List Json) (fuel : Nat) (first : Bool) (cs rest : List Char),
    SpellsItems first vs cs → cs.length ≤ fuel →
    Reader.items fuel first (cs ++ rest) = ((toDocument.itemDocuments vs, .closed), some rest)
  | [], fuel + 1, first, _, rest, .nil hbs, _ => by
      rw [List.append_assoc, Reader.items_append hbs]
      rfl
  | [], 0, first, _, rest, .nil hbs, hfuel => by
      rw [List.length_append] at hfuel
      exact absurd hfuel (by simp)
  | v :: vs, 0, first, cs, rest, h, hfuel => by
      obtain ⟨text, ds, hv, _, hlength, _⟩ := h.cons
      have hpos := hv.length_pos
      omega
  | v :: vs, fuel + 1, first, cs, rest, h, hfuel => by
      obtain ⟨text, ds, hv, hvs, hlength, hstart⟩ := h.cons
      have hpos := hv.length_pos
      have hds := hvs.length_pos
      have hvalue := value_of_spells v fuel text (ds ++ rest) hv (by omega) (hvs.endsNumber rest)
      have hvalues := items_of_spells vs fuel false ds rest hvs (by omega)
      obtain ⟨c, text, rfl, hc, hblank⟩ := hv.exists_eq_cons
      rw [hstart, List.cons_append]
      exact Reader.items_cons hc (hblank _) hvalue hvalues

theorem members_of_spells : ∀ (ms : List (String × Json)) (fuel : Nat) (first : Bool)
    (cs rest : List Char), SpellsMembers first ms cs → cs.length ≤ fuel →
    Reader.members fuel first (cs ++ rest) = ((toDocument.memberDocuments ms, .closed), some rest)
  | [], fuel + 1, first, _, rest, .nil hbs, _ => by
      rw [List.append_assoc, Reader.members_append hbs]
      rfl
  | [], 0, first, _, rest, .nil hbs, hfuel => by
      rw [List.length_append] at hfuel
      exact absurd hfuel (by simp)
  | (k, v) :: ms, 0, first, cs, rest, h, hfuel => by
      obtain ⟨text, ds, hm, _, hlength, _⟩ := h.cons
      cases hm
      simp only [quote, List.length_append, List.length_cons] at hlength
      omega
  | (k, v) :: ms, fuel + 1, first, cs, rest, h, hfuel => by
      obtain ⟨text, ds, hm, hms, hlength, hstart⟩ := h.cons
      cases hm with
      | @mk bs bs' text _ _ hbs hbs' hv =>
          simp only [quote, List.length_append, List.length_cons] at hlength
          have hvalue := value_of_spells v fuel text (ds ++ rest) hv (by omega)
            (hms.endsNumber rest)
          rw [← Reader.value_append hbs'] at hvalue
          have hvalues := members_of_spells ms fuel false ds rest hms (by omega)
          have hkey := Reader.quotedText_quote k (bs ++ ':' :: (bs' ++ (text ++ (ds ++ rest))))
          have hsplit : quote k.toList ++ (bs ++ ':' :: (bs' ++ text)) ++ (ds ++ rest) =
              '"' :: (k.toList.flatMap escapeChar ++
                '"' :: (bs ++ ':' :: (bs' ++ (text ++ (ds ++ rest))))) := by
            simp [quote]
          rw [hstart, hsplit]
          exact Reader.members_cons hbs hkey hvalue hvalues

end

/-- A text that spells a value has the tree of the value. -/
theorem document_of_spells {text : String} (h : Spells v text.toList) :
    document text = (v.toDocument, none) := by
  have hread := value_of_spells v (text.toList.length + 1) text.toList [] h (Nat.le_succ _)
    endsNumber_nil
  rw [List.append_nil] at hread
  rw [document, hread]
  rfl

/-- A reader makes of a text with the tree of a value what it makes of the value. -/
theorem readText_of_document {α : Type} (read : Reads α) {text : String} {d : Document}
    (h : document text = (d, none)) : readText read text = read maxLevels d := by
  rw [readText, h]
  exact bind_pure _

/-! ## Printed values -/

theorem SpellsItems.comma {bs : List Char} (hbs : AreBlanks bs) (h : SpellsItems true (v :: vs) cs) :
    SpellsItems false (v :: vs) (bs ++ ',' :: cs) := by
  cases h with
  | first hbs' hv hvs => exact .next hbs hbs' hv hvs

theorem SpellsMembers.comma {bs : List Char} {m : String × Json} (hbs : AreBlanks bs)
    (h : SpellsMembers true (m :: ms) cs) : SpellsMembers false (m :: ms) (bs ++ ',' :: cs) := by
  cases h with
  | first hbs' hm hms => exact .next hbs hbs' hm hms

mutual

theorem spells_compact : ∀ v : Json, v.IsWhole → Spells v v.compact
  | .null, _ => .null
  | .bool _, _ => .bool
  | .num (.int _), h => .int h.1 h.2
  | .str _, _ => .str
  | .arr items, h => .arr (spells_compactItems items h)
  | .obj members, h => .obj (spells_compactMembers members h)

theorem spells_compactItems : ∀ vs : List Json, IsWhole.wholeItems vs →
    SpellsItems true vs (compact.compactItems vs)
  | [], _ => .nil areBlanks_nil
  | [v], h => .first areBlanks_nil (spells_compact v h.1) (.nil areBlanks_nil)
  | v :: w :: vs, h =>
      .first areBlanks_nil (spells_compact v h.1)
        ((spells_compactItems (w :: vs) h.2).comma areBlanks_nil)

theorem spells_compactMembers : ∀ ms : List (String × Json), IsWhole.wholeMembers ms →
    SpellsMembers true ms (compact.compactMembers ms)
  | [], _ => .nil areBlanks_nil
  | [(k, v)], h => by
      have hm : SpellsMember k v _ := .mk areBlanks_nil areBlanks_nil (spells_compact v h.1)
      have hms := SpellsMembers.first areBlanks_nil hm (.nil areBlanks_nil)
      simpa [compact.compactMembers] using hms
  | (k, v) :: m :: ms, h => by
      have hm : SpellsMember k v _ := .mk areBlanks_nil areBlanks_nil (spells_compact v h.1)
      have hms := SpellsMembers.first areBlanks_nil hm
        ((spells_compactMembers (m :: ms) h.2).comma areBlanks_nil)
      simpa [compact.compactMembers] using hms

end

theorem areBlanks_newLine (depth : Nat) : AreBlanks (newLine depth) := by
  intro c hc
  rcases List.mem_cons.mp hc with rfl | hc
  · exact .inr (.inl rfl)
  · exact .inl (List.eq_of_mem_replicate hc)

theorem areBlanks_blank : AreBlanks [' '] := by
  intro c hc
  exact .inl (List.mem_singleton.mp hc)

mutual

theorem spells_pretty : ∀ (v : Json) (depth : Nat), v.IsWhole → Spells v (v.pretty depth)
  | .null, _, _ => .null
  | .bool _, _, _ => .bool
  | .num (.int _), _, h => .int h.1 h.2
  | .str _, _, _ => .str
  | .arr [], _, _ => .arr (.nil areBlanks_nil)
  | .arr (v :: vs), depth, h => .arr (spells_prettyItems (v :: vs) depth h (List.cons_ne_nil _ _))
  | .obj [], _, _ => .obj (.nil areBlanks_nil)
  | .obj (m :: ms), depth, h =>
      .obj (spells_prettyMembers (m :: ms) depth h (List.cons_ne_nil _ _))

theorem spells_prettyItems : ∀ (vs : List Json) (depth : Nat), IsWhole.wholeItems vs → vs ≠ [] →
    SpellsItems true vs (pretty.prettyItems depth vs)
  | [], _, _, hne => absurd rfl hne
  | [v], depth, h, _ => by
      have hv := SpellsItems.first (areBlanks_newLine (depth + 1))
        (spells_pretty v (depth + 1) h.1) (.nil (areBlanks_newLine depth))
      simpa [pretty.prettyItems] using hv
  | v :: w :: vs, depth, h, _ => by
      have hv := SpellsItems.first (areBlanks_newLine (depth + 1))
        (spells_pretty v (depth + 1) h.1)
        ((spells_prettyItems (w :: vs) depth h.2 (List.cons_ne_nil _ _)).comma areBlanks_nil)
      simpa [pretty.prettyItems] using hv

theorem spells_prettyMembers : ∀ (ms : List (String × Json)) (depth : Nat),
    IsWhole.wholeMembers ms → ms ≠ [] → SpellsMembers true ms (pretty.prettyMembers depth ms)
  | [], _, _, hne => absurd rfl hne
  | [(k, v)], depth, h, _ => by
      have hm : SpellsMember k v _ :=
        .mk areBlanks_nil areBlanks_blank (spells_pretty v (depth + 1) h.1)
      have hms := SpellsMembers.first (areBlanks_newLine (depth + 1)) hm
        (.nil (areBlanks_newLine depth))
      simpa [pretty.prettyMembers] using hms
  | (k, v) :: m :: ms, depth, h, _ => by
      have hm : SpellsMember k v _ :=
        .mk areBlanks_nil areBlanks_blank (spells_pretty v (depth + 1) h.1)
      have hms := SpellsMembers.first (areBlanks_newLine (depth + 1)) hm
        ((spells_prettyMembers (m :: ms) depth h.2 (List.cons_ne_nil _ _)).comma areBlanks_nil)
      simpa [pretty.prettyMembers] using hms

end

/-- A reader makes of the text of a value what it makes of the value, whichever text it is. -/
theorem readText_compactText {α : Type} (read : Reads α) {v : Json} (h : v.IsWhole) :
    readText read v.compactText = read maxLevels v.toDocument := by
  refine readText_of_document read (document_of_spells ?_)
  rw [compactText, String.toList_ofList]
  exact spells_compact v h

theorem readText_prettyText {α : Type} (read : Reads α) {v : Json} (h : v.IsWhole) :
    readText read v.prettyText = read maxLevels v.toDocument := by
  refine readText_of_document read (document_of_spells ?_)
  rw [prettyText, String.toList_ofList]
  exact spells_pretty v 0 h

end Json

end LogWarden
