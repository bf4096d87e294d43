import LogWarden.Number.DecimalText
import Mathlib.Algebra.Order.Field.Power
import Mathlib.Algebra.Order.Field.Rat
import Mathlib.Tactic.FieldSimp
import Mathlib.Tactic.Linarith
import Mathlib.Tactic.NormNum
import Mathlib.Tactic.Positivity
import Mathlib.Tactic.Ring

/-!
# Rounding to binary floating-point numbers

A quotient of whole numbers is rounded to the nearest number of the format. The result is infinite
exactly from half a step above the greatest number on; otherwise its significand has at most 53 bits
and its exponent lies between the bounds of the format. A decimal is rounded as the quotient that it
is, however long it is.
-/

namespace LogWarden

/-- An even number is reached by rounding from a half below it on. -/
theorem le_roundDiv_iff (num : Nat) {den k : Nat} (hden : 0 < den) (hk : Even k) :
    k ≤ roundDiv num den ↔ 2 * (k * den) ≤ 2 * num + den := by
  have hrest : num % den < den := Nat.mod_lt num hden
  have hnum : num / den * den + num % den = num := Nat.div_add_mod' num den
  have heven : k % 2 = 0 := Nat.even_iff.mp hk
  unfold roundDiv
  generalize num / den = q at *
  generalize num % den = r at *
  rcases Nat.lt_trichotomy k (q + 1) with hlt | rfl | hgt
  · have hle : k * den ≤ q * den := Nat.mul_le_mul_right den (by omega)
    refine iff_of_true ?_ (by omega)
    dsimp only
    split_ifs <;> omega
  · -- The number is the one next above: the tie goes to it, since the one below is odd.
    rw [Nat.add_mul q 1 den]
    dsimp only
    split_ifs <;> omega
  · have hle : (q + 2) * den ≤ k * den := Nat.mul_le_mul_right den (by omega)
    rw [Nat.add_mul] at hle
    refine iff_of_false ?_ (by omega)
    dsimp only
    split_ifs <;> omega

/-- Rounding goes up by no more than a half. -/
theorem roundDiv_le (num den : Nat) :
    2 * (roundDiv num den * den) ≤ 2 * num + den := by
  have hnum : num / den * den + num % den = num := Nat.div_add_mod' num den
  unfold roundDiv
  generalize num / den = q at *
  generalize num % den = r at *
  have hsucc : (q + 1) * den = q * den + den := Nat.succ_mul q den
  dsimp only
  split_ifs with hlow hhigh
  · omega
  · omega
  · have hle : (q + q % 2) * den ≤ (q + 1) * den := Nat.mul_le_mul_right den (by omega)
    omega

/-- The value of a finite number. -/
def Binary64.value : Binary64 → ℚ
  | .finite negative m e => (if negative then -1 else 1) * m * 2 ^ e
  | .nan | .infinite _ => 0

theorem Binary64.ratio_spec (m : Nat) (e : Int) :
    0 < (ratio m e).2 ∧ ((ratio m e).1 : ℚ) = m * 2 ^ e * (ratio m e).2 := by
  unfold ratio
  split_ifs with he
  · obtain ⟨n, rfl⟩ := Int.eq_ofNat_of_zero_le he
    simp
  · obtain ⟨n, rfl⟩ : ∃ n : Nat, e = -n := ⟨e.natAbs, by omega⟩
    simp

namespace Binary64

variable {num den m : Nat} {e : Int} {negative : Bool}

/-- A significand is a quotient that is rounded. -/
theorem exists_scaled_eq (num : Nat) (hden : 0 < den) (e : Int) :
    ∃ n d, 0 < d ∧ scaled num den e = roundDiv n d ∧ (n : ℚ) = num / den / 2 ^ e * d := by
  have hden' : (den : ℚ) ≠ 0 := by exact_mod_cast hden.ne'
  unfold scaled
  split_ifs with he
  · obtain ⟨k, rfl⟩ := Int.eq_ofNat_of_zero_le he
    refine ⟨num, den * 2 ^ k, by positivity, rfl, ?_⟩
    push_cast
    rw [zpow_natCast]
    field_simp
  · obtain ⟨k, rfl⟩ : ∃ k : Nat, e = -k := ⟨e.natAbs, by omega⟩
    refine ⟨num * 2 ^ k, den, hden, by simp, ?_⟩
    push_cast
    rw [zpow_neg, zpow_natCast]
    field_simp

theorem scaled_le (num : Nat) (hden : 0 < den) (e : Int) :
    (scaled num den e : ℚ) ≤ num / den / 2 ^ e + 1 / 2 := by
  obtain ⟨n, d, hd, heq, hn⟩ := exists_scaled_eq num hden e
  have hd' : (0 : ℚ) < d := by exact_mod_cast hd
  have hle : (2 * (roundDiv n d * d) : ℚ) ≤ 2 * n + d := by exact_mod_cast roundDiv_le n d
  rw [heq]
  refine le_of_mul_le_mul_right ?_ hd'
  rw [hn] at hle
  linarith

/-- An even significand is reached from a half below it on. -/
theorem le_scaled_iff (num : Nat) (hden : 0 < den) (e : Int) {k : Nat} (hk : Even k) :
    k ≤ scaled num den e ↔ (k : ℚ) ≤ num / den / 2 ^ e + 1 / 2 := by
  obtain ⟨n, d, hd, heq, hn⟩ := exists_scaled_eq num hden e
  have hd' : (0 : ℚ) < d := by exact_mod_cast hd
  rw [heq, le_roundDiv_iff n hd hk, ← Nat.cast_le (α := ℚ)]
  push_cast
  rw [hn]
  constructor
  · intro h
    exact le_of_mul_le_mul_right (by linarith) hd'
  · intro h
    have hmul := mul_le_mul_of_nonneg_right h hd'.le
    linarith

/-- The exponent is one too high if the number has fewer than 53 bits before the point there. -/
theorem tooHigh_iff (num : Nat) (hden : 0 < den) (e : Int) :
    (if 0 ≤ e then num < den * Nat.pow 2 (e.toNat + 52)
      else num * Nat.pow 2 (-e).toNat < den * Nat.pow 2 52) ↔ (num / den : ℚ) < 2 ^ (e + 52) := by
  have hden' : (0 : ℚ) < den := by exact_mod_cast hden
  rw [div_lt_iff₀ hden']
  split_ifs with he
  · obtain ⟨k, rfl⟩ := Int.eq_ofNat_of_zero_le he
    have hpow : (2 : ℚ) ^ ((k : Int) + 52) = 2 ^ (k + 52) := by
      rw [← zpow_natCast]
      push_cast
      rfl
    rw [hpow, Int.toNat_natCast, Nat.pow_eq, mul_comm, ← Nat.cast_lt (α := ℚ)]
    push_cast
    rfl
  · obtain ⟨k, rfl⟩ : ∃ k : Nat, e = -k := ⟨e.natAbs, by omega⟩
    have hpos : (0 : ℚ) < 2 ^ k := by positivity
    have hpow : (2 : ℚ) ^ (-(k : Int) + 52) * 2 ^ k = 2 ^ 52 := by
      rw [← zpow_natCast, ← zpow_add₀ two_ne_zero]
      norm_num
    rw [← mul_lt_mul_iff_of_pos_right hpos, mul_assoc, mul_comm (den : ℚ), ← mul_assoc, hpow,
      ← Nat.cast_lt (α := ℚ), mul_comm den]
    norm_num

/-- The exponent of a number: its significand has 53 bits, unless the exponent is the least. -/
theorem exponentFor_spec (hnum : num ≠ 0) (hden : 0 < den) :
    minExponent ≤ exponentFor num den ∧
      (num / den : ℚ) < 2 ^ (exponentFor num den + 53) ∧
      (exponentFor num den = minExponent ∨ 2 ^ (exponentFor num den + 52) ≤ (num / den : ℚ)) := by
  have hden' : (0 : ℚ) < den := by exact_mod_cast hden
  have hlow : ((2 : ℚ) ^ num.log2) ≤ num := by exact_mod_cast Nat.log2_self_le hnum
  have hhigh : (num : ℚ) < 2 ^ (num.log2 + 1) := by exact_mod_cast Nat.lt_log2_self
  have hdlow : ((2 : ℚ) ^ den.log2) ≤ den := by exact_mod_cast Nat.log2_self_le hden.ne'
  have hdhigh : (den : ℚ) < 2 ^ (den.log2 + 1) := by exact_mod_cast Nat.lt_log2_self
  -- The quotient has as many bits as the numerator has more than the denominator, or one less.
  have hbits (e : Int) (he : e = (num.log2 : Int) - den.log2 - 52) :
      (num / den : ℚ) < 2 ^ (e + 53) ∧ 2 ^ (e + 51) ≤ (num / den : ℚ) := by
    have hsplit (k : Int) (j : Nat) (i : Nat) (hk : e + k = (j : Int) - i) :
        (2 : ℚ) ^ (e + k) = 2 ^ j / 2 ^ i := by
      rw [hk, zpow_sub₀ two_ne_zero, zpow_natCast, zpow_natCast]
    rw [hsplit 53 (num.log2 + 1) den.log2 (by push_cast; omega),
      hsplit 51 num.log2 (den.log2 + 1) (by push_cast; omega)]
    constructor
    · exact div_lt_div₀ hhigh hdlow (by positivity) (by positivity)
    · exact div_le_div₀ (by positivity) hlow hden' hdhigh.le
  obtain ⟨hupper, hlower⟩ := hbits _ rfl
  rw [exponentFor]
  generalize (num.log2 : Int) - den.log2 - 52 = e at *
  simp only [tooHigh_iff num hden e]
  have hmono {a b : Int} (h : a ≤ b) : (2 : ℚ) ^ a ≤ 2 ^ b := zpow_le_zpow_right₀ one_le_two h
  refine ⟨Int.le_max_left _ _, ?_, ?_⟩
  · refine lt_of_lt_of_le ?_ (hmono (add_le_add_left (Int.le_max_right _ _) 53))
    split_ifs with hhigh
    · rwa [show e - 1 + 53 = e + 52 by ring]
    · exact hupper
  · rcases le_total (if (num / den : ℚ) < 2 ^ (e + 52) then e - 1 else e) minExponent with hle | hle
    · exact .inl (max_eq_left hle)
    · right
      rw [max_eq_right hle]
      split_ifs with hhigh
      · rwa [show e - 1 + 52 = e + 51 by ring]
      · exact not_lt.mp hhigh

/-- The least number that is too large for the format: half a step above the greatest one. -/
def overflow : ℚ := (2 ^ 54 - 1) * 2 ^ 970

/-- Whether a significand and an exponent are ones of the format. -/
def InFormat (m : Nat) (e : Int) : Prop :=
  m < 2 ^ 53 ∧ minExponent ≤ e ∧ e ≤ maxExponent

theorem overflow_pos : 0 < overflow := mul_pos (by norm_num) (by positivity)

theorem zpow_le_overflow (h : e ≤ 970) : (2 : ℚ) ^ (e + 53) ≤ overflow := by
  calc (2 : ℚ) ^ (e + 53) ≤ 2 ^ (1023 : Int) := zpow_le_zpow_right₀ one_le_two (by omega)
    _ = 2 ^ 53 * 2 ^ 970 := by rw [← pow_add]; rfl
    _ ≤ overflow := mul_le_mul_of_nonneg_right (by norm_num) (by positivity)

theorem overflow_le_zpow (h : 972 ≤ e) : overflow ≤ (2 : ℚ) ^ (e + 52) := by
  calc overflow ≤ 2 ^ 54 * 2 ^ 970 := mul_le_mul_of_nonneg_right (by norm_num) (by positivity)
    _ = (2 : ℚ) ^ (1024 : Int) := by rw [← pow_add]; rfl
    _ ≤ 2 ^ (e + 52) := zpow_le_zpow_right₀ one_le_two (by omega)

theorem overflow_eq : overflow = (2 ^ 53 - 1 / 2) * 2 ^ maxExponent := by
  have hpow : (2 : ℚ) ^ maxExponent = 2 * 2 ^ 970 := by
    rw [← pow_succ']
    rfl
  rw [overflow, hpow]
  generalize (2 : ℚ) ^ 970 = x
  ring

/-- The number nearest to a quotient: it is infinite exactly from the least number on that is too
large. -/
theorem ofRatio_spec (negative : Bool) (num : Nat) (hden : 0 < den) :
    (overflow ≤ (num / den : ℚ) ∧ ofRatio negative num den = .infinite negative) ∨
      (num / den : ℚ) < overflow ∧ ∃ m e, ofRatio negative num den = .finite negative m e ∧
        InFormat m e ∧ (1 ≤ (num / den : ℚ) → (m * 2 ^ e : ℚ) ≤ num / den * (1 + 1 / 2 ^ 53)) := by
  rcases eq_or_ne num 0 with rfl | hnum
  · refine .inr ⟨by simpa using overflow_pos, 0, minExponent, rfl, ?_, by simp⟩
    exact ⟨by decide, le_rfl, by decide⟩
  obtain ⟨hmin, hupper, hlower⟩ := exponentFor_spec hnum hden
  have hround := scaled_le num hden (exponentFor num den)
  have hreach := le_scaled_iff num hden (exponentFor num den) (k := Nat.pow 2 53) (by decide)
  rw [ofRatio, if_neg hnum]
  dsimp only
  generalize exponentFor num den = e at *
  generalize scaled num den e = m at *
  generalize (num / den : ℚ) = q at *
  have hpos : (0 : ℚ) < 2 ^ e := by positivity
  have hupper' : q / 2 ^ e < 2 ^ 53 := by
    rw [div_lt_iff₀ hpos, ← zpow_natCast, ← zpow_add₀ two_ne_zero, add_comm]
    exact hupper
  have hle : m ≤ Nat.pow 2 53 := by
    have hlt : (m : ℚ) < ((Nat.pow 2 53 + 1 : Nat) : ℚ) := by
      push_cast
      linarith
    exact Nat.lt_succ_iff.mp (by exact_mod_cast hlt)
  have hvalue (hone : 1 ≤ q) : (m * 2 ^ e : ℚ) ≤ q * (1 + 1 / 2 ^ 53) := by
    have hnormal : (2 : ℚ) ^ (e + 52) ≤ q := by
      refine hlower.resolve_left ?_
      rintro rfl
      have hsmall : (2 : ℚ) ^ (minExponent + 53) ≤ 1 :=
        zpow_le_one_of_nonpos₀ one_le_two (by decide)
      linarith
    rw [zpow_add₀ two_ne_zero] at hnormal
    have hmul : (m * 2 ^ e : ℚ) ≤ (q / 2 ^ e + 1 / 2) * 2 ^ e :=
      mul_le_mul_of_nonneg_right hround hpos.le
    rw [add_mul, div_mul_cancel₀ q hpos.ne'] at hmul
    norm_num at hnormal ⊢
    linarith
  by_cases hcarry : m = Nat.pow 2 53
  · have hlarge : (2 ^ 53 - 1 / 2) * 2 ^ e ≤ q := by
      have := hreach.mp hcarry.ge
      push_cast at this
      rw [← le_div_iff₀ hpos]
      linarith
    simp only [if_pos hcarry]
    split_ifs with hmax
    · refine .inl ⟨le_trans ?_ hlarge, rfl⟩
      rw [overflow_eq]
      refine mul_le_mul_of_nonneg_left (zpow_le_zpow_right₀ one_le_two ?_) (by norm_num)
      omega
    · have he : e ≤ 970 := by
        have : maxExponent = 971 := rfl
        omega
      refine .inr ⟨hupper.trans_le (zpow_le_overflow he), Nat.pow 2 52, e + 1, rfl, ?_, ?_⟩
      · exact ⟨by decide, by omega, by omega⟩
      · intro hone
        have hsame : ((Nat.pow 2 52 : Nat) : ℚ) * 2 ^ (e + 1) = m * 2 ^ e := by
          rw [hcarry, zpow_add₀ two_ne_zero]
          push_cast
          ring
        rw [hsame]
        exact hvalue hone
  · simp only [if_neg hcarry]
    split_ifs with hmax
    · have he : 972 ≤ e := hmax
      refine .inl ⟨(overflow_le_zpow he).trans (hlower.resolve_left ?_), rfl⟩
      rintro rfl
      exact absurd he (by decide)
    · refine .inr ⟨?_, m, e, rfl, ⟨lt_of_le_of_ne hle hcarry, hmin, not_lt.mp hmax⟩, hvalue⟩
      rcases lt_or_eq_of_le (not_lt.mp hmax) with hlt | rfl
      · exact hupper.trans_le (zpow_le_overflow (Int.lt_add_one_iff.mp hlt))
      · rw [overflow_eq, ← div_lt_iff₀ hpos]
        have hnot := mt hreach.mpr (not_le.mpr (lt_of_le_of_ne hle hcarry))
        push_cast at hnot
        linarith

/-- A decimal is rounded as a quotient. -/
theorem exists_ofDecimal_eq (negative : Bool) (n : Nat) (e : Int) :
    ∃ num den, 0 < den ∧ ofDecimal negative n e = ofRatio negative num den ∧
      (num / den : ℚ) = n * 10 ^ e := by
  unfold ofDecimal
  split_ifs with he
  · obtain ⟨k, rfl⟩ := Int.eq_ofNat_of_zero_le he
    exact ⟨_, 1, one_pos, rfl, by simp⟩
  · obtain ⟨k, rfl⟩ : ∃ k : Nat, e = -k := ⟨e.natAbs, by omega⟩
    refine ⟨n, 10 ^ k, by positivity, by simp, ?_⟩
    push_cast
    rw [zpow_neg, zpow_natCast, div_eq_mul_inv]

/-- The number nearest to a decimal. -/
theorem ofDecimal_spec (negative : Bool) (n : Nat) (e : Int) :
    (overflow ≤ (n * 10 ^ e : ℚ) ∧ ofDecimal negative n e = .infinite negative) ∨
      (n * 10 ^ e : ℚ) < overflow ∧ ∃ m f, ofDecimal negative n e = .finite negative m f ∧
        InFormat m f ∧ (1 ≤ (n * 10 ^ e : ℚ) → (m * 2 ^ f : ℚ) ≤ n * 10 ^ e * (1 + 1 / 2 ^ 53)) := by
  obtain ⟨num, den, hden, heq, hvalue⟩ := exists_ofDecimal_eq negative n e
  rw [heq, ← hvalue]
  exact ofRatio_spec negative num hden

/-- What is less than half the least number of the format is rounded to zero. -/
theorem ofRatio_eq_zero (negative : Bool) (hden : 0 < den)
    (h : (num / den : ℚ) < 2 ^ (minExponent - 1)) : ofRatio negative num den = zero negative := by
  rcases eq_or_ne num 0 with rfl | hnum
  · rfl
  obtain ⟨hmin, -, hlower⟩ := exponentFor_spec hnum hden
  have hexponent : exponentFor num den = minExponent := by
    refine hlower.resolve_right (not_le.mpr (h.trans_le ?_))
    exact zpow_le_zpow_right₀ one_le_two (by omega)
  have hscaled : scaled num den minExponent = 0 := by
    have hround := scaled_le num hden minExponent
    have hhalf : (num / den / 2 ^ minExponent : ℚ) < 1 / 2 := by
      rw [div_lt_iff₀ (by positivity)]
      rw [zpow_sub_one₀ two_ne_zero] at h
      linarith
    have hlt : (scaled num den minExponent : ℚ) < (1 : Nat) := by
      push_cast
      linarith
    exact Nat.lt_one_iff.mp (by exact_mod_cast hlt)
  rw [ofRatio, if_neg hnum]
  simp only [hexponent, hscaled]
  rfl

theorem ofDecimal_eq_zero (negative : Bool) {n : Nat} {e : Int}
    (h : (n * 10 ^ e : ℚ) < 2 ^ (minExponent - 1)) : ofDecimal negative n e = zero negative := by
  obtain ⟨num, den, hden, heq, hvalue⟩ := exists_ofDecimal_eq negative n e
  rw [heq]
  exact ofRatio_eq_zero negative hden (hvalue ▸ h)

/-- Three bits are less than a decimal digit, ten bits more than three. -/
theorem ten_pow_le_two_pow (k : Nat) : 10 ^ (k * 3 / 10) ≤ 2 ^ k := by
  rw [← Nat.pow_le_pow_iff_left (n := 3) (by decide)]
  calc (10 ^ (k * 3 / 10)) ^ 3 = (10 ^ 3) ^ (k * 3 / 10) := by rw [← pow_mul', pow_mul]
    _ ≤ (2 ^ 10) ^ (k * 3 / 10) := Nat.pow_le_pow_left (by decide) _
    _ = 2 ^ (10 * (k * 3 / 10)) := by rw [← pow_mul]
    _ ≤ 2 ^ (k * 3) := Nat.pow_le_pow_right two_pos (by omega)
    _ = (2 ^ k) ^ 3 := by rw [← pow_mul]

theorem overflow_le_ten_pow : overflow ≤ 10 ^ 400 := by
  calc overflow ≤ 2 ^ 54 * 2 ^ 970 := mul_le_mul_of_nonneg_right (by norm_num) (by positivity)
    _ = (2 ^ 64) ^ 16 := by rw [← pow_add, ← pow_mul]
    _ ≤ (10 ^ 25) ^ 16 := pow_le_pow_left₀ (by positivity) (by norm_num) _
    _ = 10 ^ 400 := by rw [← pow_mul]

theorem two_pow_le_ten_pow : (2 : ℚ) ^ 1075 ≤ 10 ^ 400 := by
  calc (2 : ℚ) ^ 1075 = (2 ^ 43) ^ 25 := by rw [← pow_mul]
    _ ≤ (10 ^ 16) ^ 25 := pow_le_pow_left₀ (by positivity) (by norm_num) _
    _ = 10 ^ 400 := by rw [← pow_mul]

/-- No power is formed that could matter: a decimal of any length is rounded as it stands. -/
theorem ofLongDecimal_eq (negative : Bool) {n digits : Nat} (hn : n < 10 ^ digits) (e : Int) :
    ofLongDecimal negative n digits e = ofDecimal negative n e := by
  have hten {a b : Int} (h : a ≤ b) : (10 : ℚ) ^ a ≤ 10 ^ b :=
    zpow_le_zpow_right₀ (by norm_num) h
  unfold ofLongDecimal
  split_ifs with hzero hhigh hlow
  · subst hzero
    refine (ofDecimal_eq_zero negative ?_).symm
    rw [Nat.cast_zero, zero_mul]
    positivity
  · have hn' : (10 : ℚ) ^ ((n.log2 * 3 / 10 : Nat) : Int) ≤ n := by
      exact_mod_cast (ten_pow_le_two_pow n.log2).trans (Nat.log2_self_le hzero)
    have hlarge : overflow ≤ (n * 10 ^ e : ℚ) := by
      calc overflow ≤ (10 : ℚ) ^ (400 : Int) := overflow_le_ten_pow
        _ ≤ 10 ^ ((n.log2 * 3 / 10 : Nat) + e) := hten (by omega)
        _ = 10 ^ ((n.log2 * 3 / 10 : Nat) : Int) * 10 ^ e := zpow_add₀ (by norm_num) _ _
        _ ≤ n * 10 ^ e := mul_le_mul_of_nonneg_right hn' (by positivity)
    rcases ofDecimal_spec negative n e with ⟨-, heq⟩ | ⟨hsmall, -⟩
    · exact heq.symm
    · exact absurd hlarge (not_le.mpr hsmall)
  · refine (ofDecimal_eq_zero negative ?_).symm
    have hn' : (n : ℚ) < 10 ^ (digits : Int) := by exact_mod_cast hn
    calc (n * 10 ^ e : ℚ) < 10 ^ (digits : Int) * 10 ^ e :=
          mul_lt_mul_of_pos_right hn' (by positivity)
      _ = 10 ^ (digits + e) := (zpow_add₀ (by norm_num) _ _).symm
      _ ≤ 10 ^ (-400 : Int) := hten (by omega)
      _ = (10 ^ 400)⁻¹ := zpow_neg _ _
      _ ≤ (2 ^ 1075)⁻¹ := inv_anti₀ (by positivity) two_pow_le_ten_pow
      _ = 2 ^ (minExponent - 1) := (zpow_neg (2 : ℚ) 1075).symm
  · rfl

end Binary64

end LogWarden
