import LogWarden.Proofs.Json.Printed
import LogWarden.Proofs.Number.Numerals
import LogWarden.Proofs.Number.ShortestDigits

/-!
# Reading numbers with fractions

The text of a finite number reads as a finite number. It need not be the same one, since a reader
scales by a rounded power of ten; but the text of none of them is read as one that is too large.
-/

namespace LogWarden

namespace Binary64

variable {x y : Binary64} {m n fuel : Nat} {e f k : Int} {s t negative : Bool}

/-- A number of the format that is finite. -/
def IsProper (x : Binary64) : Prop := ∃ s m e, x = .finite s m e ∧ InFormat m e

theorem IsProper.isFinite (h : x.IsProper) : x.isFinite = true := by
  obtain ⟨s, m, e, rfl, -⟩ := h
  rfl

/-- A number that is finite and below what is infinite. -/
theorem InFormat.lt_overflow (h : InFormat m e) : (m * 2 ^ e : ℚ) < overflow := by
  obtain ⟨hbits, -, hmax⟩ := h
  have hle : (m : ℚ) + 1 ≤ 2 ^ 53 := by exact_mod_cast hbits
  have hpow : (2 : ℚ) ^ e ≤ 2 ^ maxExponent := zpow_le_zpow_right₀ one_le_two hmax
  have htop : (0 : ℚ) < 2 ^ maxExponent := by positivity
  rw [overflow_eq]
  generalize (2 : ℚ) ^ maxExponent = top at *
  calc (m * 2 ^ e : ℚ) ≤ m * top := mul_le_mul_of_nonneg_left hpow (by positivity)
    _ < (2 ^ 53 - 1 / 2) * top := mul_lt_mul_of_pos_right (by linarith) htop

theorem ratio_div (m : Nat) (e : Int) : ((ratio m e).1 / (ratio m e).2 : ℚ) = m * 2 ^ e := by
  obtain ⟨hpos, hratio⟩ := ratio_spec m e
  have hpos' : ((ratio m e).2 : ℚ) ≠ 0 := by exact_mod_cast hpos.ne'
  rw [hratio, mul_div_assoc, div_self hpos', mul_one]

theorem isProper_ofRatio {num den : Nat} (hden : 0 < den) (h : (num / den : ℚ) < overflow) :
    (ofRatio negative num den).IsProper := by
  rcases ofRatio_spec negative num hden with ⟨hle, -⟩ | ⟨-, m, e, heq, hformat, -⟩
  · exact absurd hle h.not_ge
  · exact ⟨negative, m, e, heq, hformat⟩

/-- The product of two numbers is finite if it is not too large. -/
theorem isProper_mulNonneg (h : (m * 2 ^ e * (n * 2 ^ f) : ℚ) < overflow) :
    (mulNonneg (.finite s m e) (.finite t n f)).IsProper := by
  have heq : mulNonneg (.finite s m e) (.finite t n f) =
      ofRatio false ((ratio m e).1 * (ratio n f).1) ((ratio m e).2 * (ratio n f).2) := rfl
  rw [heq]
  refine isProper_ofRatio (Nat.mul_pos (ratio_spec m e).1 (ratio_spec n f).1) ?_
  rwa [Nat.cast_mul, Nat.cast_mul, mul_div_mul_comm, ratio_div, ratio_div]

/-- The quotient of a number by one that is not below one is finite. -/
theorem isProper_divNonneg (hx : InFormat m e) (hn : (1 : ℚ) ≤ n * 2 ^ f) :
    (divNonneg (.finite s m e) (.finite t n f)).IsProper := by
  have heq : divNonneg (.finite s m e) (.finite t n f) =
      ofRatio false ((ratio m e).1 * (ratio n f).2) ((ratio m e).2 * (ratio n f).1) := rfl
  obtain ⟨hpos, hratio⟩ := ratio_spec n f
  have hpos' : (0 : ℚ) < (ratio n f).2 := by exact_mod_cast hpos
  have hnum : 0 < (ratio n f).1 := by
    have hnum : (0 : ℚ) < (ratio n f).1 := by
      rw [hratio]
      exact mul_pos (zero_lt_one.trans_le hn) hpos'
    exact_mod_cast hnum
  rw [heq]
  refine isProper_ofRatio (Nat.mul_pos (ratio_spec m e).1 hnum) (lt_of_le_of_lt ?_ hx.lt_overflow)
  rw [Nat.cast_mul, Nat.cast_mul, mul_div_mul_comm, ratio_div, ← inv_div, ratio_div]
  exact mul_le_of_le_one_right (by positivity) (inv_le_one_of_one_le₀ hn)

/-- Whether a number is finite and not below one. -/
def reachesOne : Binary64 → Bool
  | .finite false m e => (ratio m e).2 ≤ (ratio m e).1
  | .finite true _ _ | .infinite _ | .nan => false

theorem exists_of_reachesOne (h : x.reachesOne = true) :
    ∃ m e, x = .finite false m e ∧ (1 : ℚ) ≤ m * 2 ^ e := by
  cases x with
  | infinite | nan => cases h
  | finite s m e =>
      cases s with
      | true => cases h
      | false =>
          have hle : (ratio m e).2 ≤ (ratio m e).1 := of_decide_eq_true h
          have hpos : (0 : ℚ) < (ratio m e).2 := by exact_mod_cast (ratio_spec m e).1
          refine ⟨m, e, rfl, ?_⟩
          rw [← ratio_div, one_le_div hpos]
          exact_mod_cast hle

/-- A power of ten is rounded to a number that is not below one. -/
theorem reachesOne_ofDecimal_one : ∀ k < 309, (ofDecimal false 1 (k : Nat)).reachesOne = true := by
  decide +kernel

theorem exists_ofDecimal_one (hk : 0 ≤ k) (hmax : k ≤ 308) :
    ∃ m e, ofDecimal false 1 k = .finite false m e ∧ (1 : ℚ) ≤ m * 2 ^ e ∧
      (m * 2 ^ e : ℚ) ≤ 10 ^ k * (1 + 1 / 2 ^ 53) := by
  obtain ⟨k, rfl⟩ := Int.eq_ofNat_of_zero_le hk
  obtain ⟨m, e, heq, hle⟩ := exists_of_reachesOne (reachesOne_ofDecimal_one k (by omega))
  refine ⟨m, e, heq, hle, ?_⟩
  have hone : (1 : ℚ) ≤ (1 : Nat) * 10 ^ (k : Int) := by
    rw [Nat.cast_one, one_mul, zpow_natCast]
    exact one_le_pow₀ (by norm_num)
  rcases ofDecimal_spec false 1 k with ⟨-, hinfinite⟩ | ⟨-, m', e', heq', -, hle'⟩
  · cases hinfinite.symm.trans heq
  · cases heq'.symm.trans heq
    simpa using hle' hone

end Binary64

namespace Json

namespace Reader

open Binary64

variable {x : Binary64} {n fuel : Nat} {e : Int} {negative : Bool}

/-- A number divided by powers of ten is finite. -/
theorem exists_scale_of_neg (hx : x.IsProper) (he : e < 0) :
    ∃ y, scale fuel x e = some y ∧ y.IsProper := by
  induction fuel generalizing x e with
  | zero => exact ⟨x, rfl, hx⟩
  | succ fuel ih =>
      have hdiv {k : Int} (hk : 0 ≤ k) (hmax : k ≤ 308) :
          (x.divNonneg (ofDecimal false 1 k)).IsProper := by
        obtain ⟨s, m, f, rfl, hformat⟩ := hx
        obtain ⟨m', f', heq, hone, -⟩ := exists_ofDecimal_one hk hmax
        rw [heq]
        exact isProper_divNonneg hformat hone
      rw [scale, if_neg (by omega)]
      split_ifs with hnear hzero
      · exact ⟨_, rfl, hdiv (by omega) (by omega)⟩
      · exact ⟨x, rfl, hx⟩
      · exact ih (hdiv (by omega) (by omega)) (by omega)

/-- What is not infinite has at most 309 digits. -/
theorem overflow_le_ten_zpow (he : 309 ≤ e) : overflow ≤ 10 ^ e := by
  have hle : (2 : ℚ) ^ 1024 ≤ 10 ^ (1024 * 28 / 93 + 1) := by
    exact_mod_cast two_pow_le_ten_pow_succ 1024
  calc overflow ≤ 2 ^ 54 * 2 ^ 970 := mul_le_mul_of_nonneg_right (by norm_num) (by positivity)
    _ = 2 ^ 1024 := by rw [← pow_add]
    _ ≤ 10 ^ (1024 * 28 / 93 + 1) := hle
    _ = 10 ^ (309 : Int) := rfl
    _ ≤ 10 ^ e := zpow_le_zpow_right₀ (by norm_num) he

/-- A whole number scaled by a power of ten is finite if it is a little below what is infinite, for
both are rounded. -/
theorem exists_scale_of_nonneg (hn : 0 < n) (he : 0 ≤ e)
    (hlt : (n * 10 ^ e * (1 + 1 / 2 ^ 53) ^ 2 : ℚ) < overflow) :
    ∃ y, scale (fuel + 1) (ofInt n) e = some y ∧ y.IsProper := by
  have hone : (1 : ℚ) ≤ n := by exact_mod_cast hn
  have hten : (1 : ℚ) ≤ 10 ^ e := one_le_zpow₀ (by norm_num) he
  have hround : (1 : ℚ) ≤ (1 + 1 / 2 ^ 53) ^ 2 := by norm_num
  have hscaled : (n * 10 ^ e : ℚ) < overflow :=
    (le_mul_of_one_le_right (by positivity) hround).trans_lt hlt
  have hmax : e ≤ 308 := by
    by_contra hlarge
    have hle := overflow_le_ten_zpow (e := e) (by omega)
    exact (hle.trans (le_mul_of_one_le_left (by positivity) hone)).not_gt hscaled
  have hsmall : ((n : Nat) / (1 : Nat) : ℚ) < overflow := by
    rw [Nat.cast_one, div_one]
    exact (le_mul_of_one_le_right (by positivity) hten).trans_lt hscaled
  obtain ⟨m', f', hpow, -, hpowle⟩ := exists_ofDecimal_one he hmax
  rcases ofRatio_spec (decide ((n : Int) < 0)) n one_pos with
    ⟨hle, -⟩ | ⟨-, m, f, hwhole, hformat, hwholele⟩
  · exact absurd hle hsmall.not_ge
  · rw [Nat.cast_one, div_one] at hwholele
    have hproduct : (m * 2 ^ f * (m' * 2 ^ f') : ℚ) < overflow := by
      calc (m * 2 ^ f * (m' * 2 ^ f') : ℚ) ≤
          n * (1 + 1 / 2 ^ 53) * (10 ^ e * (1 + 1 / 2 ^ 53)) :=
            mul_le_mul (hwholele hone) hpowle (by positivity) (by positivity)
        _ = n * 10 ^ e * (1 + 1 / 2 ^ 53) ^ 2 := by ring
        _ < overflow := hlt
    have hx : ofInt n = .finite (decide ((n : Int) < 0)) m f := hwhole
    have hproper := isProper_mulNonneg (s := decide ((n : Int) < 0)) (t := false) hproduct
    rw [scale, if_pos he, if_pos hmax, hx, hpow]
    obtain ⟨s, p, g, heq, hformat'⟩ := hproper
    exact ⟨_, by rw [heq], s, p, g, rfl, hformat'⟩

theorem exists_ofParts_of_scale
    (h : ∃ y, scale 5 (ofInt n) (max e (-2000)) = some y ∧ y.IsProper) :
    ∃ y, ofParts negative n e = .ok (.float y) ∧ y.IsProper := by
  obtain ⟨y, hscale, s, m, f, rfl, hformat⟩ := h
  refine ⟨if negative then (Binary64.finite s m f).neg else .finite s m f, ?_, ?_⟩
  · rw [ofParts, hscale]
  · cases negative with
    | true => exact ⟨!s, m, f, rfl, hformat⟩
    | false => exact ⟨s, m, f, rfl, hformat⟩

/-- A significand with a negative exponent is read as a finite number. -/
theorem exists_ofParts_of_neg (negative : Bool) (hn : n ≤ maxWord) (he : e < 0) :
    ∃ y, ofParts negative n e = .ok (.float y) ∧ y.IsProper := by
  refine exists_ofParts_of_scale (exists_scale_of_neg (isProper_ofRatio one_pos ?_) (by omega))
  have hword : n < 2 ^ 64 := Nat.lt_succ_of_le hn
  have hword' : (n : ℚ) < 2 ^ ((11 : Int) + 53) := by exact_mod_cast hword
  rw [Nat.cast_one, div_one]
  exact hword'.trans_le (zpow_le_overflow (by decide))

theorem exists_ofParts_of_nonneg (hn : 0 < n) (he : 0 ≤ e)
    (hlt : (n * 10 ^ e * (1 + 1 / 2 ^ 53) ^ 2 : ℚ) < overflow) :
    ∃ y, ofParts negative n e = .ok (.float y) ∧ y.IsProper := by
  refine exists_ofParts_of_scale ?_
  rw [max_eq_left (by omega)]
  exact exists_scale_of_nonneg hn he hlt

/-! ## Texts of numbers -/

variable {whole fraction rest : List Char} {k d x : Nat}

/-- Digits that may stand in front of a point or an exponent: only a zero alone begins with one. -/
structure IsWholePart (whole : List Char) : Prop where
  isDigit : ∀ c ∈ whole, c.isDigit = true
  ne_nil : whole ≠ []
  zero : whole.head? = some '0' → whole = ['0']

theorem leading_zero {ds : List Char} {c : Char} (h : (c :: ds).head? = some '0' → c :: ds = ['0']) :
    ¬(c = '0' && 1 < (c :: ds).length) = true := by
  rw [Bool.and_eq_true, decide_eq_true_eq, decide_eq_true_eq]
  rintro ⟨rfl, hlong⟩
  rw [h rfl] at hlong
  exact absurd hlong (by decide)

/-- Digits with a point between them are read as a significand, with an exponent that says where the
point stands. -/
theorem number_of_point (hwhole : IsWholePart whole)
    (hfraction : ∀ c ∈ fraction, c.isDigit = true) (hne : fraction ≠ [])
    (hrest : ∀ c ∈ rest.head?, c.isDigit = false)
    (hle : Nat.ofDigitChars 10 (whole ++ fraction) 0 ≤ maxWord) :
    number negative (whole ++ '.' :: (fraction ++ rest)) =
      exponentOrEnd negative (Nat.ofDigitChars 10 (whole ++ fraction) 0) (-fraction.length) rest := by
  obtain ⟨hdigits, hwhole, hzero⟩ := hwhole
  rw [Nat.ofDigitChars_append] at hle ⊢
  have hpoint := @digits_append ('.' :: (fraction ++ rest)) whole 0 0 0 hdigits (by simp)
    ((le_ofDigitChars fraction _).trans hle)
  have hplaces := @digits_append rest fraction (Nat.ofDigitChars 10 whole 0) 0 0 hfraction hrest hle
  have hcount : fraction.length ≠ 0 := fun h => hne (List.length_eq_zero_iff.mp h)
  obtain ⟨d, ds, rfl⟩ := List.exists_cons_of_ne_nil hwhole
  have hd : d.isDigit = true := hdigits d List.mem_cons_self
  rw [List.cons_append] at hpoint ⊢
  rw [Nat.zero_add] at hpoint hplaces
  rw [number]
  simp only [hd, hpoint, Bool.not_true, Bool.false_eq_true, if_false]
  rw [if_neg (leading_zero hzero)]
  simp only [hplaces, if_neg hcount]
  simp

/-- Digits with an exponent and no point. -/
theorem number_of_exponent (hwhole : IsWholePart whole)
    (hle : Nat.ofDigitChars 10 whole 0 ≤ maxWord) :
    number negative (whole ++ 'e' :: rest) =
      exponent negative (Nat.ofDigitChars 10 whole 0) 0 rest := by
  obtain ⟨hdigits, hwhole, hzero⟩ := hwhole
  have hread := @digits_append ('e' :: rest) whole 0 0 0 hdigits (by simp) hle
  obtain ⟨d, ds, rfl⟩ := List.exists_cons_of_ne_nil hwhole
  have hd : d.isDigit = true := hdigits d List.mem_cons_self
  rw [List.cons_append] at hread ⊢
  rw [Nat.zero_add] at hread
  rw [number]
  simp only [hd, hread, Bool.not_true, Bool.false_eq_true, if_false]
  rw [if_neg (leading_zero hzero)]
  rfl

/-- The text of an exponent. -/
def exponentText (f : Int) : List Char :=
  (if f < 0 then ['-'] else ['+']) ++ decimalDigits f.natAbs

theorem exponent_exponentText {e f : Int} (hf : f.natAbs ≤ maxExponent) (hrest : EndsNumber rest) :
    exponent negative n e (exponentText f ++ rest) = .ok (ofParts negative n (e + f), rest) := by
  have hrun : digitRun 0 0 (decimalDigits f.natAbs ++ rest) =
      (Nat.ofDigitChars 10 (decimalDigits f.natAbs) 0, 0 + (decimalDigits f.natAbs).length, rest) :=
    digitRun_append decimalDigits_isDigit fun c hc => (hrest c hc).1
  obtain ⟨l, hl⟩ := Nat.exists_eq_succ_of_ne_zero fun h : (decimalDigits f.natAbs).length = 0 =>
    Nat.toDigits_ne_nil (List.length_eq_zero_iff.mp h)
  rw [ofDigitChars_decimalDigits, Nat.zero_add, hl] at hrun
  unfold exponentText
  by_cases hneg : f < 0
  · rw [if_pos hneg, List.append_assoc, List.singleton_append]
    simp only [exponent, hrun, if_neg (Nat.not_lt.mpr hf), if_true]
    rw [show e - f.natAbs = e + f by omega]
  · rw [if_neg hneg, List.append_assoc, List.singleton_append]
    simp only [exponent, hrun, if_neg (Nat.not_lt.mpr hf), Bool.false_eq_true, if_false]
    rw [show e + f.natAbs = e + f by omega]

/-! ## Printed numbers -/

/-- Digits as they are printed may stand in front of a point. -/
theorem isWholePart_append (hd : 0 < d) {ds : List Char} (hds : ∀ c ∈ ds, c.isDigit = true) :
    IsWholePart (decimalDigits d ++ ds) := by
  refine ⟨?_, by simp [decimalDigits, Nat.toDigits_ne_nil], fun h => ?_⟩
  · intro c hc
    rcases List.mem_append.mp hc with hc | hc
    · exact decimalDigits_isDigit c hc
    · exact hds c hc
  · rw [decimalDigits, List.head?_append_of_ne_nil _ Nat.toDigits_ne_nil] at h
    exact absurd (head?_decimalDigits h) hd.ne'

theorem isWholePart_take (hd : 0 < d) (i : Nat) : IsWholePart ((decimalDigits d).take (i + 1)) := by
  obtain ⟨c, ds, hds⟩ := List.exists_cons_of_ne_nil (Nat.toDigits_ne_nil (b := 10) (n := d))
  refine ⟨fun c hc => decimalDigits_isDigit c (List.mem_of_mem_take hc), ?_, fun h => ?_⟩
  · rw [decimalDigits, hds]
    simp
  · rw [List.head?_take, if_neg (Nat.succ_ne_zero i)] at h
    exact absurd (head?_decimalDigits h) hd.ne'

/-- The exponent of the first digit. -/
def firstExponent (d : Nat) (k : Int) : Int := (decimalDigits d).length - 1 + k

theorem text_of_plain {k : Int} (h : -5 ≤ firstExponent d k ∧ firstExponent d k ≤ 15) :
    numberStyle.text d k =
      if 0 ≤ k then decimalDigits d ++ List.replicate k.toNat '0' ++ ['.', '0']
      else if 0 ≤ firstExponent d k then
        (decimalDigits d).take ((firstExponent d k).toNat + 1) ++
          '.' :: (decimalDigits d).drop ((firstExponent d k).toNat + 1)
      else '0' :: '.' :: List.replicate (-firstExponent d k - 1).toNat '0' ++ decimalDigits d :=
  if_pos h

theorem text_of_exponent {k : Int} (h : ¬(-5 ≤ firstExponent d k ∧ firstExponent d k ≤ 15)) :
    numberStyle.text d k =
      (decimalDigits d).take 1 ++
        (if (decimalDigits d).length ≤ 1 then [] else '.' :: (decimalDigits d).drop 1) ++
          'e' :: exponentText (firstExponent d k) := by
  have htext : numberStyle.text d k =
      (decimalDigits d).take 1 ++
        (if (decimalDigits d).length ≤ 1 then [] else '.' :: (decimalDigits d).drop 1) ++
          'e' :: (if firstExponent d k < 0 then ['-'] else ['+']) ++
            decimalDigits (firstExponent d k).natAbs := if_neg h
  rw [htext, exponentText, List.append_assoc, List.cons_append]

theorem exponentOrEnd_of_endsNumber {e : Int} (hrest : EndsNumber rest) :
    exponentOrEnd negative n e rest = .ok (ofParts negative n e, rest) := by
  unfold exponentOrEnd
  split
  · exact absurd rfl (hrest _ rfl).2.2.1
  · exact absurd rfl (hrest _ rfl).2.2.2
  · rfl

theorem isDigit_of_mem_replicate {i : Nat} : ∀ c ∈ List.replicate i '0', c.isDigit = true := by
  intro c hc
  rw [List.eq_of_mem_replicate hc]
  rfl

/-- Digits with a point among them are read with a negative exponent. -/
theorem number_of_decimal (negative : Bool) (hwhole : IsWholePart whole)
    (hfraction : ∀ c ∈ fraction, c.isDigit = true) (hne : fraction ≠ [])
    (hvalue : Nat.ofDigitChars 10 (whole ++ fraction) 0 = n) (hle : n ≤ maxWord) :
    ∃ n e, n ≤ maxWord ∧ e < 0 ∧ ∀ rest, EndsNumber rest →
      number negative (whole ++ '.' :: fraction ++ rest) = .ok (ofParts negative n e, rest) := by
  subst hvalue
  have hlength := List.length_pos_iff.mpr hne
  refine ⟨_, -fraction.length, hle, by omega, fun rest hrest => ?_⟩
  rw [List.append_assoc, List.cons_append,
    number_of_point hwhole hfraction hne (fun c hc => (hrest c hc).1) hle,
    exponentOrEnd_of_endsNumber hrest]

/-- Digits that are printed without an exponent are read with a negative one. -/
theorem number_of_plain (negative : Bool) {k : Int} (hd : 0 < d) (hle : d ≤ 10 ^ 18)
    (h : -5 ≤ firstExponent d k ∧ firstExponent d k ≤ 15) :
    ∃ n e, n ≤ maxWord ∧ e < 0 ∧ ∀ rest, EndsNumber rest →
      number negative (numberStyle.text d k ++ rest) = .ok (ofParts negative n e, rest) := by
  have hvalue := ofDigitChars_decimalDigits d
  have hword : d ≤ maxWord := hle.trans (by decide)
  have hsize : d < 10 ^ (decimalDigits d).length := by
    simpa [hvalue] using ofDigitChars_lt (decimalDigits_isDigit (n := d))
  rw [text_of_plain h]
  unfold firstExponent at *
  split_ifs with hk hfirst
  · obtain ⟨i, rfl⟩ := Int.eq_ofNat_of_zero_le hk
    have hzeros : Nat.ofDigitChars 10 (decimalDigits d ++ List.replicate i '0' ++ ['0']) 0 =
        10 ^ (i + 1) * d := by
      have hsplit : decimalDigits d ++ List.replicate i '0' ++ ['0'] =
          decimalDigits d ++ List.replicate (i + 1) '0' := by
        rw [List.append_assoc, List.replicate_succ']
      rw [hsplit, Nat.ofDigitChars_append, hvalue, Nat.ofDigitChars_replicate_zero]
    have hfits : 10 ^ (i + 1) * d ≤ maxWord := by
      calc 10 ^ (i + 1) * d ≤ 10 ^ (i + 1) * 10 ^ (decimalDigits d).length :=
            Nat.mul_le_mul_left _ hsize.le
        _ = 10 ^ (i + 1 + (decimalDigits d).length) := (pow_add _ _ _).symm
        _ ≤ 10 ^ 17 := Nat.pow_le_pow_right (by decide) (by omega)
        _ ≤ maxWord := by decide
    exact number_of_decimal negative (isWholePart_append hd isDigit_of_mem_replicate) (by simp)
      (by simp) hzeros hfits
  · have hfraction : (decimalDigits d).drop (((decimalDigits d).length - 1 + k).toNat + 1) ≠ [] := by
      rw [← List.length_pos_iff, List.length_drop]
      omega
    exact number_of_decimal negative (isWholePart_take hd _)
      (fun c hc => decimalDigits_isDigit c (List.mem_of_mem_drop hc)) hfraction
      (by rw [List.take_append_drop, hvalue]) hword
  · have hdigits {i : Nat} : ∀ c ∈ List.replicate i '0' ++ decimalDigits d, c.isDigit = true := by
      intro c hc
      rcases List.mem_append.mp hc with hc | hc
      · exact isDigit_of_mem_replicate c hc
      · exact decimalDigits_isDigit c hc
    have hzeros {i : Nat} :
        Nat.ofDigitChars 10 (['0'] ++ (List.replicate i '0' ++ decimalDigits d)) 0 = d := by
      have hzero : Nat.ofDigitChars 10 ['0'] 0 = 0 := rfl
      rw [Nat.ofDigitChars_append, Nat.ofDigitChars_append, Nat.ofDigitChars_replicate_zero, hzero,
        Nat.mul_zero, hvalue]
    exact number_of_decimal negative ⟨by simp, by simp, fun _ => rfl⟩ hdigits
      (by simp [decimalDigits, Nat.toDigits_ne_nil]) hzeros hword

/-- Digits that are printed with an exponent are read with it. -/
theorem number_of_printed_exponent (negative : Bool) {k : Int} (hd : 0 < d) (hle : d ≤ 10 ^ 18)
    (hlow : -400 ≤ k) (hhigh : k ≤ 400)
    (h : ¬(-5 ≤ firstExponent d k ∧ firstExponent d k ≤ 15)) (hrest : EndsNumber rest) :
    number negative (numberStyle.text d k ++ rest) = .ok (ofParts negative d k, rest) := by
  have hvalue := ofDigitChars_decimalDigits d
  have hword : d ≤ maxWord := hle.trans (by decide)
  have hlength : 0 < (decimalDigits d).length := List.length_pos_iff.mpr Nat.toDigits_ne_nil
  have hlong : (decimalDigits d).length ≤ 19 :=
    (Nat.length_toDigits_le_iff (by decide) (by decide)).mpr (by omega)
  have hmax : (firstExponent d k).natAbs ≤ maxExponent := by
    unfold firstExponent maxExponent
    omega
  rw [text_of_exponent h]
  split_ifs with hone
  · have hpart : IsWholePart (decimalDigits d ++ []) := isWholePart_append hd (by simp)
    rw [List.append_nil] at hpart
    have hexponent : 0 + firstExponent d k = k := by
      unfold firstExponent
      omega
    rw [List.take_of_length_le hone, List.append_nil, List.append_assoc, List.cons_append,
      number_of_exponent hpart (hvalue.symm ▸ hword), hvalue, exponent_exponentText hmax hrest,
      hexponent]
  · have hexponent : -((decimalDigits d).drop 1).length + firstExponent d k = k := by
      rw [List.length_drop]
      unfold firstExponent
      omega
    have hfraction : (decimalDigits d).drop 1 ≠ [] := by
      rw [← List.length_pos_iff, List.length_drop]
      omega
    have hjoined : Nat.ofDigitChars 10 ((decimalDigits d).take 1 ++ (decimalDigits d).drop 1) 0 = d := by
      rw [List.take_append_drop, hvalue]
    have hread : number negative ((decimalDigits d).take 1 ++
        '.' :: ((decimalDigits d).drop 1 ++ 'e' :: (exponentText (firstExponent d k) ++ rest))) =
          exponentOrEnd negative _ _ _ :=
      number_of_point (isWholePart_take hd 0)
        (fun c hc => decimalDigits_isDigit c (List.mem_of_mem_drop hc)) hfraction (by simp)
        (hjoined.symm ▸ hword)
    rw [hjoined] at hread
    simp only [List.append_assoc, List.cons_append]
    rw [hread]
    change exponent negative d _ (exponentText (firstExponent d k) ++ rest) = _
    rw [exponent_exponentText hmax hrest, hexponent]

/-! ## Numbers of the format -/

/-- The greatest numbers of the format are read as finite ones. -/
theorem isFinite_of_greatest : ∀ negative : Bool, ∀ m ∈ [2 ^ 53 - 1, 2 ^ 53 - 2, 2 ^ 53 - 3],
    (match ofParts negative (shortest m 971).1 (shortest m 971).2 with
      | .ok (.float y) => y.isFinite
      | _ => false) = true := by
  decide +kernel

/-- A decimal that is below the greatest numbers of the format stays finite when it is rounded
twice. -/
theorem lt_overflow_of_le {v : ℚ} (h : v ≤ (2 ^ 53 - 7 / 2) * 2 ^ (971 : Int)) :
    v * (1 + 1 / 2 ^ 53) ^ 2 < overflow := by
  have htop : (0 : ℚ) < 2 ^ Binary64.maxExponent := by positivity
  change v ≤ (2 ^ 53 - 7 / 2) * 2 ^ Binary64.maxExponent at h
  rw [overflow_eq]
  generalize (2 : ℚ) ^ Binary64.maxExponent = top at *
  calc v * (1 + 1 / 2 ^ 53) ^ 2 ≤ (2 ^ 53 - 7 / 2) * top * (1 + 1 / 2 ^ 53) ^ 2 :=
        mul_le_mul_of_nonneg_right h (by positivity)
    _ = (2 ^ 53 - 7 / 2) * (1 + 1 / 2 ^ 53) ^ 2 * top := by ring
    _ < (2 ^ 53 - 1 / 2) * top := mul_lt_mul_of_pos_right (by norm_num) htop

/-- The digits of a number are read as a finite number, unless the exponent is negative. -/
theorem exists_ofParts_shortest (negative : Bool) {m : Nat} {e k : Int} (hm : 0 < m)
    (hformat : InFormat m e) (h : shortest m e = (d, k)) :
    ∃ y, ofParts negative d k = .ok (.float y) ∧ y.isFinite = true := by
  obtain ⟨hd, hle, -, -, hvalue⟩ := shortest_spec hm hformat h
  have hfinite (hproper : ∃ y, ofParts negative d k = .ok (.float y) ∧ y.IsProper) :
      ∃ y, ofParts negative d k = .ok (.float y) ∧ y.isFinite = true := by
    obtain ⟨y, hread, hproper⟩ := hproper
    exact ⟨y, hread, hproper.isFinite⟩
  obtain ⟨hbits, hmin, hmax⟩ := hformat
  have hbits' : (m : ℚ) + 1 ≤ 2 ^ 53 := by exact_mod_cast hbits
  by_cases hk : k < 0
  · exact hfinite (exists_ofParts_of_neg negative (hle.trans (by decide)) hk)
  by_cases hgreatest : e = 971 ∧ 2 ^ 53 - 3 ≤ m
  · obtain ⟨rfl, hlarge⟩ := hgreatest
    have hmem : m ∈ [2 ^ 53 - 1, 2 ^ 53 - 2, 2 ^ 53 - 3] := by
      simp only [List.mem_cons, List.not_mem_nil, or_false]
      omega
    have hcheck := isFinite_of_greatest negative m hmem
    rw [h] at hcheck
    split at hcheck
    · exact ⟨_, ‹_›, hcheck⟩
    · cases hcheck
  · refine hfinite (exists_ofParts_of_nonneg hd (by omega) (lt_overflow_of_le ?_))
    have htwo : (0 : ℚ) < 2 ^ e := by positivity
    refine (show (d * 10 ^ k : ℚ) ≤ (m + 1 / 2) * 2 ^ e by linarith).trans ?_
    rcases not_and_or.mp hgreatest with he | hsmall
    · have hpow : (2 : ℚ) ^ e ≤ 2 ^ (970 : Int) := zpow_le_zpow_right₀ one_le_two (by
        change e ≤ 971 at hmax
        omega)
      have hstep : (2 : ℚ) ^ (971 : Int) = 2 ^ (970 : Int) * 2 := zpow_add_one₀ two_ne_zero 970
      have htop : (0 : ℚ) < 2 ^ (970 : Int) := by positivity
      rw [hstep]
      generalize (2 : ℚ) ^ (970 : Int) = top at *
      calc (m + 1 / 2) * 2 ^ e ≤ (m + 1 / 2) * top :=
            mul_le_mul_of_nonneg_left hpow (by positivity)
        _ ≤ (2 ^ 53 - 7 / 2) * 2 * top := mul_le_mul_of_nonneg_right (by linarith) htop.le
        _ = (2 ^ 53 - 7 / 2) * (top * 2) := by ring
    · have hsmall' : (m : ℚ) + 4 ≤ 2 ^ 53 := by
        have hle : m + 4 ≤ 2 ^ 53 := by omega
        exact_mod_cast hle
      have hpow : (2 : ℚ) ^ e ≤ 2 ^ (971 : Int) := zpow_le_zpow_right₀ one_le_two hmax
      exact mul_le_mul (by linarith) hpow htwo.le (by norm_num)

theorem head_text (d : Nat) (k : Int) : ∃ c ds, numberStyle.text d k = c :: ds ∧ c.isDigit = true := by
  obtain ⟨c, ds, hds⟩ := List.exists_cons_of_ne_nil (Nat.toDigits_ne_nil (b := 10) (n := d))
  have hc : c.isDigit = true := decimalDigits_isDigit c (hds ▸ List.mem_cons_self)
  by_cases hplain : -5 ≤ firstExponent d k ∧ firstExponent d k ≤ 15
  · rw [text_of_plain hplain, decimalDigits, hds]
    split_ifs
    · exact ⟨c, _, rfl, hc⟩
    · exact ⟨c, _, rfl, hc⟩
    · exact ⟨'0', _, rfl, rfl⟩
  · rw [text_of_exponent hplain, decimalDigits, hds]
    exact ⟨c, _, rfl, hc⟩

/-- A finite number is printed as a text that is read as a finite number. -/
theorem exists_readsFloat (negative : Bool) {m : Nat} {e : Int} (hformat : InFormat m e) :
    ∃ body y, floatText (.finite negative m e) = signed negative body ∧ y.isFinite = true ∧
      ReadsFloat negative body y := by
  rcases Nat.eq_zero_or_pos m with rfl | hm
  · have hzero : ∃ n e, n ≤ maxWord ∧ e < 0 ∧ ∀ rest, EndsNumber rest →
        number negative (['0'] ++ '.' :: ['0'] ++ rest) = .ok (ofParts negative n e, rest) :=
      number_of_decimal negative ⟨by simp, by simp, fun _ => rfl⟩ (by simp) (by simp) rfl
        (Nat.zero_le _)
    obtain ⟨n, f, hn, hf, hread⟩ := hzero
    obtain ⟨y, hparts, hproper⟩ := exists_ofParts_of_neg negative hn hf
    refine ⟨['0', '.', '0'], y, rfl, hproper.isFinite, ⟨'0', _, rfl, rfl⟩, fun rest hrest => ?_⟩
    rw [← hparts]
    exact hread rest hrest
  · cases hdigits : shortest m e with
    | mk d k =>
        obtain ⟨hd, hle, hlow, hhigh, -⟩ := shortest_spec hm hformat hdigits
        have htext : floatText (.finite negative m e) = signed negative (numberStyle.text d k) := by
          rw [floatText, DecimalStyle.finiteText, hdigits, if_neg hm.ne', signed]
        by_cases hplain : -5 ≤ firstExponent d k ∧ firstExponent d k ≤ 15
        · obtain ⟨n, f, hn, hf, hread⟩ := number_of_plain negative hd hle hplain
          obtain ⟨y, hparts, hproper⟩ := exists_ofParts_of_neg negative hn hf
          refine ⟨_, y, htext, hproper.isFinite, head_text d k, fun rest hrest => ?_⟩
          rw [← hparts]
          exact hread rest hrest
        · obtain ⟨y, hparts, hfinite⟩ := exists_ofParts_shortest negative hm hformat hdigits
          refine ⟨_, y, htext, hfinite, head_text d k, fun rest hrest => ?_⟩
          rw [← hparts]
          exact number_of_printed_exponent negative hd hle hlow hhigh hplain hrest

end Reader

/-! ## Values with numbers -/

/-- The compact text of a finite number spells a finite number. -/
theorem exists_spells_float {x : Binary64} (hx : x.IsProper) :
    ∃ y : Binary64, y.isFinite = true ∧ Spells (.num (.float y)) (compact (.num (.float x))) := by
  obtain ⟨negative, m, e, rfl, hformat⟩ := hx
  obtain ⟨body, y, htext, hfinite, hreads⟩ := Reader.exists_readsFloat negative hformat
  refine ⟨y, hfinite, ?_⟩
  rw [compact, numberText, htext]
  exact .float hreads

/-- The compact text of members spells the members whose values are spelled by those of the members. -/
theorem spells_compactMembers_of_forall₂ {ms ms' : List (String × Json)}
    (h : List.Forall₂ (fun m m' => m.1 = m'.1 ∧ Spells m'.2 m.2.compact) ms ms') :
    SpellsMembers true ms' (compact.compactMembers ms) := by
  induction h with
  | nil => exact .nil Reader.areBlanks_nil
  | @cons m m' ms ms' hm hms ih =>
      obtain ⟨k, v⟩ := m
      obtain ⟨k', v'⟩ := m'
      obtain ⟨rfl, hv⟩ := hm
      have hmember : SpellsMember k v' _ := .mk Reader.areBlanks_nil Reader.areBlanks_nil hv
      cases hms with
      | nil =>
          have hspells := SpellsMembers.first Reader.areBlanks_nil hmember (.nil Reader.areBlanks_nil)
          simpa [compact.compactMembers] using hspells
      | cons =>
          have hspells := SpellsMembers.first Reader.areBlanks_nil hmember
            (ih.comma Reader.areBlanks_nil)
          simpa [compact.compactMembers] using hspells

end Json

end LogWarden
