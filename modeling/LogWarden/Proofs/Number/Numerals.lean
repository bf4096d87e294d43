import LogWarden.Proofs.Number.Amounts
import LogWarden.Proofs.Number.Rounding

/-!
# Numerals

A numeral is digits around a point, with a sign in front of them and a power of ten behind them if
need be. A text is read as a number if it is a numeral, and then as the number of the format that is
nearest to what the numeral denotes, or if it is a name of infinity or of not-a-number.
-/

namespace LogWarden

/-- A sign in front of digits: whether it is a minus, if there is one. -/
def signText : Option Bool → List Char
  | none => []
  | some true => ['-']
  | some false => ['+']

/-- A power of ten behind a numeral. -/
structure TenPower where
  mark : Char
  sign : Option Bool
  digits : List Char
  mark_eq : mark = 'e' ∨ mark = 'E'
  digits_ne : digits ≠ []
  digits_isDigit : ∀ c ∈ digits, c.isDigit = true

namespace TenPower

def text (p : TenPower) : List Char := p.mark :: (signText p.sign ++ p.digits)

def exponent (p : TenPower) : Int :=
  if p.sign == some true then -(Nat.ofDigitChars 10 p.digits 0 : Int)
  else Nat.ofDigitChars 10 p.digits 0

end TenPower

/-- A numeral. -/
structure Numeral where
  sign : Option Bool
  whole : List Char
  /-- The digits behind the point, if there is one. -/
  fraction : Option (List Char)
  power : Option TenPower
  digits_ne : whole ++ fraction.getD [] ≠ []
  digits_isDigit : ∀ c ∈ whole ++ fraction.getD [], c.isDigit = true

namespace Numeral

/-- A point with the digits behind it, if there is one. -/
def fractionText (fraction : Option (List Char)) : List Char :=
  (fraction.map ('.' :: ·)).getD []

def powerText (power : Option TenPower) : List Char :=
  (power.map TenPower.text).getD []

def text (n : Numeral) : List Char :=
  signText n.sign ++ (n.whole ++ (fractionText n.fraction ++ powerText n.power))

def significand (n : Numeral) : Nat := Nat.ofDigitChars 10 (n.whole ++ n.fraction.getD []) 0

def exponent (n : Numeral) : Int :=
  (n.power.map TenPower.exponent).getD 0 - (n.fraction.getD []).length

/-- What a numeral denotes. -/
def value (n : Numeral) : ℚ :=
  (if n.sign == some true then -1 else 1) * n.significand * 10 ^ n.exponent

/-- The number of the format that is nearest to what a numeral denotes. -/
def nearest (n : Numeral) : Binary64 :=
  .ofDecimal (n.sign == some true) n.significand n.exponent

variable {n : Numeral}

theorem abs_value (n : Numeral) : |n.value| = n.significand * 10 ^ n.exponent := by
  have hpos : (0 : ℚ) ≤ n.significand * 10 ^ n.exponent := by positivity
  rw [value, mul_assoc]
  split_ifs
  · rw [neg_one_mul, abs_neg, abs_of_nonneg hpos]
  · rw [one_mul, abs_of_nonneg hpos]

/-- A numeral is read as a finite number unless it denotes one that is too large. -/
theorem isFinite_nearest_iff (n : Numeral) :
    n.nearest.isFinite = true ↔ |n.value| < Binary64.overflow := by
  rw [abs_value, nearest]
  rcases Binary64.ofDecimal_spec (n.sign == some true) n.significand n.exponent with
    ⟨hlarge, heq⟩ | ⟨hsmall, m, f, heq, -⟩
  · rw [heq]
    exact iff_of_false (by simp [Binary64.isFinite]) (not_lt.mpr hlarge)
  · rw [heq]
    exact iff_of_true rfl hsmall

end Numeral

namespace Binary64

variable {cs body rest : List Char} {x : Binary64} {e : Int}

theorem exists_signText (cs : List Char) :
    ∃ sign body, cs = signText sign ++ body ∧ signOf cs = (sign == some true, body) := by
  unfold signOf
  split
  · exact ⟨some true, _, rfl, rfl⟩
  · exact ⟨some false, _, rfl, rfl⟩
  · exact ⟨none, cs, rfl, rfl⟩

theorem signOf_signText (sign : Option Bool) (h : ∀ c ∈ body.head?, c ≠ '-' ∧ c ≠ '+') :
    signOf (signText sign ++ body) = (sign == some true, body) := by
  rcases sign with _ | _ | _
  · exact signOf_of_ne h
  · rfl
  · rfl

/-- A run of digits takes all digits that a text begins with. -/
theorem exists_digitRun (n count : Nat) (cs : List Char) :
    ∃ ds rest, cs = ds ++ rest ∧ (∀ c ∈ ds, c.isDigit = true) ∧
      (∀ c ∈ rest.head?, c.isDigit = false) ∧
      digitRun n count cs = (Nat.ofDigitChars 10 ds n, count + ds.length, rest) := by
  have hdigits : ∀ c ∈ cs.takeWhile Char.isDigit, c.isDigit = true :=
    fun c hc => List.mem_takeWhile_imp hc
  have hrest : ∀ c ∈ (cs.dropWhile Char.isDigit).head?, c.isDigit = false := by
    intro c hc
    have := List.head?_dropWhile_not Char.isDigit cs
    simp_all
  refine ⟨_, _, (List.takeWhile_append_dropWhile).symm, hdigits, hrest, ?_⟩
  rw [← digitRun_append hdigits hrest, List.takeWhile_append_dropWhile]

theorem not_sign_of_isDigit {c : Char} (h : c.isDigit = true) : c ≠ '-' ∧ c ≠ '+' := by
  constructor <;> rintro rfl <;> exact absurd h (by decide)

theorem exponent?_text (p : TenPower) : exponent? p.text = some p.exponent := by
  have hhead : ∀ c ∈ p.digits.head?, c ≠ '-' ∧ c ≠ '+' := fun c hc =>
    not_sign_of_isDigit (p.digits_isDigit c (List.mem_of_mem_head? hc))
  have hne : p.digits.length ≠ 0 := fun h => p.digits_ne (List.length_eq_zero_iff.mp h)
  have hmark : (p.mark == 'e' || p.mark == 'E') = true := by
    rcases p.mark_eq with h | h <;> rw [h] <;> decide
  rw [TenPower.text, exponent?, if_pos hmark, signOf_signText p.sign hhead]
  simp only [digitRun_eq p.digits_isDigit, if_neg hne, TenPower.exponent]

theorem exponent?_eq_some_iff :
    exponent? cs = some e ↔
      ∃ p, Numeral.powerText p = cs ∧ (p.map TenPower.exponent).getD 0 = e := by
  constructor
  · intro h
    cases cs with
    | nil => exact ⟨none, rfl, Option.some.inj h⟩
    | cons c rest =>
        rw [exponent?] at h
        split_ifs at h with hmark
        obtain ⟨sign, body, rfl, hsign⟩ := exists_signText rest
        obtain ⟨ds, after, rfl, hdigits, -, hrun⟩ := exists_digitRun 0 0 body
        rw [hsign] at h
        simp only [hrun, Nat.zero_add] at h
        cases after with
        | cons d after => cases h
        | nil =>
            rw [List.append_nil]
            by_cases hlength : ds.length = 0
            · simp [hlength] at h
            · simp only [if_neg hlength] at h
              have hne : ds ≠ [] := fun h => hlength (by rw [h]; rfl)
              exact ⟨some ⟨c, sign, ds, by simpa using hmark, hne, hdigits⟩, rfl,
                Option.some.inj h⟩
  · rintro ⟨_ | p, rfl, rfl⟩
    · rfl
    · exact exponent?_text p

/-- The names of infinity and of not-a-number, in lower case. -/
def IsName (name : String) : Prop := name = "inf" ∨ name = "infinity" ∨ name = "nan"

/-- The digits of a text around a point: the number that they make, how many there are, how many of
them stand in front of the point, and what stands behind them. -/
def digitsAround (body : List Char) : Nat × Nat × Nat × List Char :=
  let (whole, wholeDigits, rest) := digitRun 0 0 body
  match rest with
  | '.' :: rest =>
    let (n, digits, rest) := digitRun whole wholeDigits rest
    (n, digits, wholeDigits, rest)
  | rest => (whole, wholeDigits, wholeDigits, rest)

theorem digitsAround_of_point {n count : Nat} (h : digitRun 0 0 body = (n, count, '.' :: rest)) :
    digitsAround body = ((digitRun n count rest).1, (digitRun n count rest).2.1, count,
      (digitRun n count rest).2.2) := by
  rw [digitsAround, h]
  rfl

theorem digitsAround_of_no_point {n count : Nat} (h : digitRun 0 0 body = (n, count, rest))
    (hpoint : ∀ rest', rest ≠ '.' :: rest') : digitsAround body = (n, count, count, rest) := by
  rw [digitsAround, h]
  dsimp only
  split
  · exact absurd rfl (hpoint _)
  · rfl

/-- What a text that is no name is read as. -/
theorem ofText?_of_not_name {negative : Bool} (hsign : signOf cs = (negative, body))
    (hname : ¬IsName (String.ofList (body.map Char.toLower))) :
    ofText? cs =
      let (n, digits, wholeDigits, rest) := digitsAround body
      if digits = 0 then none
      else (exponent? rest).map fun e =>
        ofLongDecimal negative n digits (e - (digits - wholeDigits : Nat)) := by
  rw [ofText?, hsign]
  dsimp only
  split
  · next h => exact absurd (.inl h) hname
  · next h => exact absurd (.inr (.inl h)) hname
  · next h => exact absurd (.inr (.inr h)) hname
  · split
    · next rest hrest =>
      rw [digitsAround_of_point (Prod.ext rfl (Prod.ext rfl hrest))]
    · next hpoint => rw [digitsAround_of_no_point rfl hpoint]

theorem digitsAround_append {whole : List Char} {fraction : Option (List Char)}
    (hdigits : ∀ c ∈ whole ++ fraction.getD [], c.isDigit = true)
    (hrest : ∀ c ∈ rest.head?, c.isDigit = false ∧ c ≠ '.') :
    digitsAround (whole ++ (Numeral.fractionText fraction ++ rest)) =
      (Nat.ofDigitChars 10 (whole ++ fraction.getD []) 0, (whole ++ fraction.getD []).length,
        whole.length, rest) := by
  have hwhole : ∀ c ∈ whole, c.isDigit = true := fun c hc => hdigits c (List.mem_append_left _ hc)
  have hrest' : ∀ c ∈ rest.head?, c.isDigit = false := fun c hc => (hrest c hc).1
  cases fraction with
  | none =>
      have hpoint : ∀ rest', rest ≠ '.' :: rest' := by
        rintro rest' rfl
        exact (hrest '.' rfl).2 rfl
      have haround := digitsAround_of_no_point (digitRun_append hwhole hrest') hpoint
      simpa [Numeral.fractionText] using haround
  | some ds =>
      have hds : ∀ c ∈ ds, c.isDigit = true := fun c hc => hdigits c (List.mem_append_right _ hc)
      have hrun : digitRun 0 0 (whole ++ '.' :: (ds ++ rest)) =
          (Nat.ofDigitChars 10 whole 0, 0 + whole.length, '.' :: (ds ++ rest)) :=
        digitRun_append hwhole (by simp)
      have haround := digitsAround_of_point hrun
      rw [digitRun_append hds hrest'] at haround
      simpa [Numeral.fractionText, Nat.ofDigitChars_append] using haround

theorem exists_digitsAround (body : List Char) :
    ∃ whole fraction rest, body = whole ++ (Numeral.fractionText fraction ++ rest) ∧
      (∀ c ∈ whole ++ fraction.getD [], c.isDigit = true) ∧
      digitsAround body = (Nat.ofDigitChars 10 (whole ++ fraction.getD []) 0,
        (whole ++ fraction.getD []).length, whole.length, rest) := by
  obtain ⟨whole, rest, rfl, hwhole, -, hrun⟩ := exists_digitRun 0 0 body
  by_cases hpoint : ∀ rest', rest ≠ '.' :: rest'
  · refine ⟨whole, none, rest, rfl, by simpa using hwhole, ?_⟩
    rw [digitsAround_of_no_point hrun hpoint]
    simp
  · obtain ⟨rest', rfl⟩ := by simpa using hpoint
    obtain ⟨ds, rest, rfl, hds, -, hrun'⟩ :=
      exists_digitRun (Nat.ofDigitChars 10 whole 0) (0 + whole.length) rest'
    refine ⟨whole, some ds, rest, rfl, List.forall_mem_append.mpr ⟨hwhole, hds⟩, ?_⟩
    rw [digitsAround_of_point hrun, hrun']
    simp [Nat.ofDigitChars_append]

/-- A name begins with one of two letters. -/
theorem head_of_isName (h : IsName (String.ofList (cs.map Char.toLower))) :
    ∀ c ∈ cs.head?, c.toLower = 'i' ∨ c.toLower = 'n' := by
  intro c hc
  obtain ⟨rest, rfl⟩ := List.head?_eq_some_iff.mp hc
  rcases h with heq | heq | heq
  all_goals rw [← String.toList_inj, String.toList_ofList] at heq
  · exact .inl (List.cons.inj heq).1
  · exact .inl (List.cons.inj heq).1
  · exact .inr (List.cons.inj heq).1

theorem not_isName (hne : cs ≠ []) (h : ∀ c ∈ cs.head?, c.isDigit = true ∨ c = '.') :
    ¬IsName (String.ofList (cs.map Char.toLower)) := by
  intro hname
  obtain ⟨c, rest, rfl⟩ := List.exists_cons_of_ne_nil hne
  have hletter := head_of_isName hname c rfl
  rcases h c rfl with hc | rfl
  · revert hletter
    exact Unicode.forall_of_isDigit (P := fun c => ¬(c.toLower = 'i' ∨ c.toLower = 'n'))
      (by decide) hc
  · exact absurd hletter (by decide)

theorem ofDigitChars_lt {ds : List Char} (h : ∀ c ∈ ds, c.isDigit = true) :
    Nat.ofDigitChars 10 ds 0 < 10 ^ ds.length := by
  induction ds with
  | nil => decide
  | cons c ds ih =>
      have hc : c.toNat - '0'.toNat < 10 := Unicode.forall_of_isDigit
        (P := fun c => c.toNat - '0'.toNat < 10) (by decide) (h c List.mem_cons_self)
      have hrest := ih fun d hd => h d (List.mem_cons_of_mem c hd)
      rw [Nat.ofDigitChars_cons, Nat.mul_zero, Nat.zero_add, Nat.ofDigitChars_eq_ofDigitChars_zero,
        List.length_cons, pow_succ]
      have hle := Nat.mul_le_mul_left (10 ^ ds.length) (Nat.lt_succ_iff.mp hc)
      omega

/-- The body of a numeral begins with a digit or a point. -/
theorem head_of_body (n : Numeral) :
    ∀ c ∈ (n.whole ++ (Numeral.fractionText n.fraction ++ Numeral.powerText n.power)).head?,
      c.isDigit = true ∨ c = '.' := by
  obtain ⟨sign, whole, fraction, power, hne, hdigits⟩ := n
  intro c hc
  cases whole with
  | cons d whole => exact .inl (Option.some.inj hc ▸ hdigits d List.mem_cons_self)
  | nil =>
      cases fraction with
      | none => exact absurd rfl hne
      | some ds => exact .inr (Option.some.inj hc).symm

theorem signOf_text (n : Numeral) :
    signOf n.text = (n.sign == some true,
      n.whole ++ (Numeral.fractionText n.fraction ++ Numeral.powerText n.power)) :=
  signOf_signText n.sign fun c hc => (head_of_body n c hc).elim not_sign_of_isDigit (by
    rintro rfl
    decide)

theorem ofText?_text (n : Numeral) : ofText? n.text = some n.nearest := by
  have hpower := exponent?_eq_some_iff.mpr ⟨n.power, rfl, rfl⟩
  have hmark : ∀ c ∈ (Numeral.powerText n.power).head?, c.isDigit = false ∧ c ≠ '.' := by
    intro c hc
    cases hp : n.power with
    | none =>
        rw [hp] at hc
        cases hc
    | some p =>
        rw [hp] at hc
        obtain rfl : p.mark = c := Option.some.inj hc
        rcases p.mark_eq with h | h <;> rw [h] <;> decide
  have hlength : (n.whole ++ n.fraction.getD []).length ≠ 0 := fun h =>
    n.digits_ne (List.length_eq_zero_iff.mp h)
  have hbody_ne :
      n.whole ++ (Numeral.fractionText n.fraction ++ Numeral.powerText n.power) ≠ [] := by
    intro h
    obtain ⟨hwhole, h⟩ := List.append_eq_nil_iff.mp h
    have hne := n.digits_ne
    cases hfraction : n.fraction with
    | none => simp [hwhole, hfraction] at hne
    | some ds => simp [hfraction, Numeral.fractionText] at h
  rw [ofText?_of_not_name (signOf_text n) (not_isName hbody_ne (head_of_body n)),
    digitsAround_append n.digits_isDigit hmark]
  dsimp only
  rw [if_neg hlength, hpower, Option.map_some, ofLongDecimal_eq _ (ofDigitChars_lt n.digits_isDigit),
    List.length_append, Nat.add_sub_cancel_left]
  rfl

/-- A text is read as a number if it is a numeral, and then as the nearest number of the format, or
if it is a name behind an optional sign. -/
theorem ofText?_eq_some_iff :
    ofText? cs = some x ↔
      (∃ n : Numeral, n.text = cs ∧ n.nearest = x) ∨
      ∃ sign name, cs = signText sign ++ name ∧
        (String.ofList (name.map Char.toLower) = "nan" ∧ x = .nan ∨
          (String.ofList (name.map Char.toLower) = "inf" ∨
            String.ofList (name.map Char.toLower) = "infinity") ∧
            x = .infinite (sign == some true)) := by
  constructor
  · intro h
    obtain ⟨sign, body, rfl, hsign⟩ := exists_signText cs
    by_cases hname : IsName (String.ofList (body.map Char.toLower))
    · refine .inr ⟨sign, body, rfl, ?_⟩
      rw [ofText?, hsign] at h
      rcases hname with hname | hname | hname <;> simp only [hname, Option.some.injEq] at h ⊢
      · exact .inr ⟨.inl trivial, h.symm⟩
      · exact .inr ⟨.inr trivial, h.symm⟩
      · exact .inl ⟨trivial, h.symm⟩
    · obtain ⟨whole, fraction, rest, rfl, hdigits, hrun⟩ := exists_digitsAround body
      rw [ofText?_of_not_name hsign hname, hrun] at h
      dsimp only at h
      split_ifs at h with hlength
      obtain ⟨e, hpower, rfl⟩ := Option.map_eq_some_iff.mp h
      obtain ⟨power, rfl, rfl⟩ := exponent?_eq_some_iff.mp hpower
      have hne : whole ++ fraction.getD [] ≠ [] := fun h => hlength (by rw [h]; rfl)
      refine .inl ⟨⟨sign, whole, fraction, power, hne, hdigits⟩, rfl, ?_⟩
      rw [ofLongDecimal_eq _ (ofDigitChars_lt hdigits), List.length_append,
        Nat.add_sub_cancel_left]
      rfl
  · rintro (⟨n, rfl, rfl⟩ | ⟨sign, name, rfl, hname⟩)
    · exact ofText?_text n
    · have hsign : signOf (signText sign ++ name) = (sign == some true, name) := by
        refine signOf_signText sign fun c hc => ?_
        have hletter : c.toLower = 'i' ∨ c.toLower = 'n' := by
          refine head_of_isName ?_ c hc
          rcases hname with ⟨h, -⟩ | ⟨h | h, -⟩
          · exact .inr (.inr h)
          · exact .inl h
          · exact .inr (.inl h)
        constructor <;> rintro rfl <;> exact absurd hletter (by decide)
      rw [ofText?, hsign]
      rcases hname with ⟨hname, rfl⟩ | ⟨hname | hname, rfl⟩ <;> simp only [hname]

end Binary64

/-- A numeral with a minus denotes no positive number. -/
theorem Numeral.value_nonpos {n : Numeral} {rest : List Char} (h : n.text = '-' :: rest) :
    n.value ≤ 0 := by
  have hsign : (n.sign == some true) = true := by
    have hminus := Binary64.signOf_text n
    rw [h] at hminus
    exact (Prod.mk.inj hminus).1.symm
  have hpos : (0 : ℚ) ≤ n.significand * 10 ^ n.exponent := by positivity
  rw [value, if_pos hsign, mul_assoc, neg_one_mul]
  exact neg_nonpos.mpr hpos

end LogWarden
