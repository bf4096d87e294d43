import LogWarden.Proofs.Number.Rounding

/-!
# The nearest number of the format

A quotient that is not too large is rounded to the value of the format that is nearest to it. Where
two are equally near, it is the one that is an even multiple of their distance; so it is told by the
quotient alone. A number that rounding yields has the one form that the format has for its value,
and numbers in this form are equal exactly if their values are.
-/

namespace LogWarden

namespace Binary64

/-- Whether a value is one of the format. -/
def IsExact (r : ℚ) : Prop :=
  ∃ k e : Int, |k| < 2 ^ 53 ∧ minExponent ≤ e ∧ e ≤ maxExponent ∧ r = k * 2 ^ e

/-- The value of the format that is nearest to another value. Where two are equally near, it is the
one that is an even multiple of their distance. -/
structure Nearest (q r : ℚ) : Prop where
  isExact : IsExact r
  le : ∀ r', IsExact r' → |q - r| ≤ |q - r'|
  even : ∀ r', IsExact r' → r' ≠ r → |q - r| = |q - r'| → ∃ k : Int, r = 2 * k * |r - r'|

/-- Whether two values are rounded to the same one. -/
def RoundAlike (p q : ℚ) : Prop := ∃ r, Nearest p r ∧ Nearest q r

/-- Whether a number is finite and has the form that the format has for its value: its significand
has 53 bits, unless its exponent is the least. -/
def IsStandard (x : Binary64) : Prop :=
  ∃ s m e, x = .finite s m e ∧ InFormat m e ∧ (2 ^ 52 ≤ m ∨ e = minExponent)

variable {p q r r' : ℚ} {num den m n : Nat} {e f : Int} {negative s t : Bool} {x y : Binary64}

/-! ## The nearest value -/

theorem IsExact.neg (h : IsExact r) : IsExact (-r) := by
  obtain ⟨k, e, hk, hmin, hmax, rfl⟩ := h
  exact ⟨-k, e, by rwa [abs_neg], hmin, hmax, by push_cast; ring⟩

theorem InFormat.isExact (h : InFormat m e) : IsExact (m * 2 ^ e) := by
  obtain ⟨hm, hmin, hmax⟩ := h
  exact ⟨m, e, by rw [Nat.abs_cast]; exact_mod_cast hm, hmin, hmax, by push_cast; ring⟩

/-- Every whole number below 2⁵³ is exact. -/
theorem isExact_intCast {k : Int} (h : |k| < 2 ^ 53) : IsExact k :=
  ⟨k, 0, h, by decide, by decide, by simp⟩

theorem Nearest.neg (h : Nearest q r) : Nearest (-q) (-r) := by
  have hflip (x y : ℚ) : |-x - y| = |x - -y| := by
    rw [← abs_neg]
    congr 1
    ring
  refine ⟨h.isExact.neg, fun r' hr' => ?_, fun r' hr' hne heq => ?_⟩
  · rw [hflip, hflip, neg_neg]
    exact h.le _ hr'.neg
  · rw [hflip, hflip, neg_neg] at heq
    obtain ⟨k, hk⟩ := h.even _ hr'.neg (fun hr => hne (by rw [← hr, neg_neg])) heq
    refine ⟨-k, ?_⟩
    rw [hflip]
    push_cast
    linarith

theorem nearest_self (h : IsExact r) : Nearest r r := by
  refine ⟨h, fun r' _ => by simp, fun r' _ hne heq => ?_⟩
  rw [sub_self, abs_zero, eq_comm, abs_eq_zero, sub_eq_zero] at heq
  exact absurd heq.symm hne

/-- There is only one nearest value: two even multiples of a distance do not lie at this distance
from each other. -/
theorem Nearest.unique (h : Nearest q r) (h' : Nearest q r') : r = r' := by
  by_contra hne
  have heq : |q - r| = |q - r'| := le_antisymm (h.le _ h'.isExact) (h'.le _ h.isExact)
  obtain ⟨k, hk⟩ := h.even _ h'.isExact (Ne.symm hne) heq
  obtain ⟨k', hk'⟩ := h'.even _ h.isExact hne heq.symm
  rw [abs_sub_comm] at hk'
  have hpos : 0 < |r - r'| := abs_pos.mpr (sub_ne_zero.mpr hne)
  have hdistance : |((2 * (k - k') : Int) : ℚ)| * |r - r'| = 1 * |r - r'| := by
    nth_rewrite 1 [← abs_of_pos hpos]
    rw [← abs_mul, one_mul]
    congr 1
    push_cast
    linarith
  have hone : |2 * (k - k')| = 1 := by exact_mod_cast mul_right_cancel₀ hpos.ne' hdistance
  rw [abs_mul] at hone
  norm_num at hone
  omega

theorem Nearest.eq_of_isExact (h : Nearest q r) (hq : IsExact q) : r = q :=
  h.unique (nearest_self hq)

theorem roundAlike_of_isExact (hp : IsExact p) (hq : IsExact q) : RoundAlike p q ↔ p = q := by
  constructor
  · rintro ⟨r, hpr, hqr⟩
    exact (hpr.eq_of_isExact hp).symm.trans (hqr.eq_of_isExact hq)
  · rintro rfl
    exact ⟨p, nearest_self hp, nearest_self hp⟩

/-! ## Rounding to whole numbers -/

/-- Rounding goes down by no more than a half, and by a half, up or down, only to an even number. -/
theorem roundDiv_spec (num : Nat) {den : Nat} (hden : 0 < den) :
    2 * num ≤ 2 * (roundDiv num den * den) + den ∧
      (2 * num = 2 * (roundDiv num den * den) + den ∨
        2 * (roundDiv num den * den) = 2 * num + den → Even (roundDiv num den)) := by
  have hrest : num % den < den := Nat.mod_lt num hden
  have hnum : num / den * den + num % den = num := Nat.div_add_mod' num den
  unfold roundDiv
  generalize num / den = q at *
  generalize num % den = r at *
  have hsucc : (q + 1) * den = q * den + den := Nat.succ_mul q den
  dsimp only
  split_ifs with hlow hhigh
  · exact ⟨by omega, fun h => by omega⟩
  · exact ⟨by omega, fun h => by omega⟩
  · have heven : Even (q + q % 2) := by
      rw [Nat.even_iff]
      omega
    refine ⟨?_, fun _ => heven⟩
    have hle : q * den ≤ (q + q % 2) * den := Nat.mul_le_mul_right den (by omega)
    omega

/-- A significand is the whole number nearest to what is scaled. -/
theorem scaled_spec (num : Nat) (hden : 0 < den) (e : Int) :
    |(num / den / 2 ^ e : ℚ) - scaled num den e| ≤ 1 / 2 ∧
      (|(num / den / 2 ^ e : ℚ) - scaled num den e| = 1 / 2 → Even (scaled num den e)) := by
  obtain ⟨n, d, hd, heq, hn⟩ := exists_scaled_eq num hden e
  obtain ⟨hlow, heven⟩ := roundDiv_spec n hd
  have hhigh := roundDiv_le n d
  rw [heq]
  generalize roundDiv n d = k at *
  generalize (num / den / 2 ^ e : ℚ) = y at *
  have hd' : (0 : ℚ) < d := by exact_mod_cast hd
  have hlow' : (2 * n : ℚ) ≤ 2 * (k * d) + d := by exact_mod_cast hlow
  have hhigh' : (2 * (k * d) : ℚ) ≤ 2 * n + d := by exact_mod_cast hhigh
  rw [hn] at hlow' hhigh'
  refine ⟨abs_sub_le_iff.mpr ⟨?_, ?_⟩, fun htie => heven ?_⟩
  · exact le_of_mul_le_mul_right (by linarith) hd'
  · exact le_of_mul_le_mul_right (by linarith) hd'
  · rcases (abs_eq (by norm_num)).mp htie with h | h
    · left
      have hdiff : (2 * n : ℚ) = 2 * (k * d) + d := by
        rw [hn, show y = k + 1 / 2 by linarith]
        ring
      exact_mod_cast hdiff
    · right
      have hdiff : (2 * (k * d) : ℚ) = 2 * n + d := by
        rw [hn, show y = k - 1 / 2 by linarith]
        ring
      exact_mod_cast hdiff

/-- No other whole number is nearer than one that is off by no more than a half, and one that is
as near is next to it, both being off by a half. -/
theorem nearest_whole {y : ℚ} {m k : Int} (h : |y - m| ≤ 1 / 2) (hne : k ≠ m) :
    |y - m| ≤ |y - k| ∧ (|y - m| = |y - k| → |(m : ℚ) - k| = 1 ∧ |y - m| = 1 / 2) := by
  have hapart : (1 : ℚ) ≤ |(m : ℚ) - k| := by
    exact_mod_cast Int.one_le_abs (sub_ne_zero.mpr (Ne.symm hne))
  have htriangle : |(m : ℚ) - k| ≤ |y - m| + |y - k| := by
    rw [abs_sub_comm y m]
    exact abs_sub_le _ _ _
  refine ⟨by linarith, fun heq => ?_⟩
  have hhalf : |y - m| = 1 / 2 := by linarith
  exact ⟨by linarith, hhalf⟩

/-! ## Rounding to the format -/

/-- A value of the format is a multiple of any power of two below which it does not have all of its
bits. -/
theorem IsExact.grid (h : IsExact r) (e : Int) :
    (∃ k : Int, r = k * 2 ^ e) ∨ minExponent < e ∧ r < 2 ^ (e + 52) := by
  obtain ⟨k, f, hk, hmin, -, rfl⟩ := h
  rcases le_or_gt e f with hle | hlt
  · left
    obtain ⟨i, rfl⟩ := Int.le.dest hle
    exact ⟨k * 2 ^ i, by rw [zpow_add₀ two_ne_zero, zpow_natCast]; push_cast; ring⟩
  · refine .inr ⟨hmin.trans_lt hlt, ?_⟩
    have hk' : (k : ℚ) < 2 ^ 53 := by exact_mod_cast (le_abs_self k).trans_lt hk
    calc (k * 2 ^ f : ℚ) < 2 ^ 53 * 2 ^ f := mul_lt_mul_of_pos_right hk' (by positivity)
      _ = 2 ^ (f + 53) := by rw [zpow_add₀ two_ne_zero, mul_comm]; rfl
      _ ≤ 2 ^ (e + 52) := zpow_le_zpow_right₀ one_le_two (by omega)

theorem abs_sub_mul_zpow (q : ℚ) (k e : Int) : |q - k * 2 ^ e| = |q / 2 ^ e - k| * 2 ^ e := by
  have hpos : (0 : ℚ) < 2 ^ e := by positivity
  rw [← abs_of_pos hpos, ← abs_mul, abs_of_pos hpos, sub_mul, div_mul_cancel₀ q hpos.ne']

/-- No multiple of a power of two is nearer than one that is off by no more than half the power. -/
theorem abs_sub_mul_zpow_le {k : Int} (h : |q / 2 ^ e - k| ≤ 1 / 2) (l : Int) :
    |q - k * 2 ^ e| ≤ |q - l * 2 ^ e| := by
  rw [abs_sub_mul_zpow, abs_sub_mul_zpow]
  refine mul_le_mul_of_nonneg_right ?_ (by positivity)
  by_cases hl : l = k
  · rw [hl]
  · exact (nearest_whole h hl).1

/-- A value below the multiples at which a value has all of its bits is farther away than they. -/
theorem abs_sub_mul_zpow_lt {k : Int} (h : |q / 2 ^ e - k| ≤ 1 / 2) (hq : 2 ^ (e + 52) ≤ q)
    (hr : r < 2 ^ (e + 52)) : |q - k * 2 ^ e| < |q - r| := by
  have hbase : ((2 ^ 52 : Int) : ℚ) * 2 ^ e = 2 ^ (e + 52) := by
    rw [zpow_add₀ two_ne_zero, mul_comm]
    norm_cast
  calc |q - k * 2 ^ e| ≤ |q - (2 ^ 52 : Int) * 2 ^ e| := abs_sub_mul_zpow_le h _
    _ = q - 2 ^ (e + 52) := by rw [hbase, abs_of_nonneg (by linarith)]
    _ < q - r := by linarith
    _ ≤ |q - r| := le_abs_self _

/-- The multiple of a power of two that is nearest to a value is nearest of all the format has, if
the value has all of its bits at this power or the power is the least. -/
theorem nearest_mul (hexact : IsExact (m * 2 ^ e))
    (hbits : e = minExponent ∨ 2 ^ (e + 52) ≤ q) (hround : |q / 2 ^ e - m| ≤ 1 / 2)
    (htie : |q / 2 ^ e - m| = 1 / 2 → Even m) : Nearest q (m * 2 ^ e) := by
  have hround' : |q / 2 ^ e - (m : Int)| ≤ 1 / 2 := hround
  -- What is no multiple of this power has bits below it.
  have hlower (r' : ℚ) (hmin : minExponent < e) (hr' : r' < 2 ^ (e + 52)) :
      |q - m * 2 ^ e| < |q - r'| :=
    abs_sub_mul_zpow_lt hround' (hbits.resolve_left hmin.ne') hr'
  refine ⟨hexact, fun r' hr' => ?_, fun r' hr' hne heq => ?_⟩
  · rcases hr'.grid e with ⟨k, rfl⟩ | ⟨hmin, hlt⟩
    · exact abs_sub_mul_zpow_le hround' k
    · exact (hlower r' hmin hlt).le
  · rcases hr'.grid e with ⟨k, rfl⟩ | ⟨hmin, hlt⟩
    · have hk : k ≠ m := by
        rintro rfl
        exact hne (by push_cast; rfl)
      have hpos : (0 : ℚ) < 2 ^ e := by positivity
      have hscaled : |q / 2 ^ e - (m : Int)| * 2 ^ e = |q / 2 ^ e - k| * 2 ^ e := by
        rw [← abs_sub_mul_zpow, ← abs_sub_mul_zpow]
        exact heq
      obtain ⟨hnext, hhalf⟩ :=
        (nearest_whole hround' hk).2 (mul_right_cancel₀ hpos.ne' hscaled)
      obtain ⟨i, rfl⟩ := htie hhalf
      have hone : |((i + i : Nat) : ℚ) - k| = 1 := hnext
      refine ⟨i, ?_⟩
      rw [← sub_mul, abs_mul, hone, abs_of_pos hpos]
      push_cast
      ring
    · exact absurd heq (hlower r' hmin hlt).ne

/-- A quotient that is not too large is rounded to the nearest value of the format, in the form that
the format has for it. -/
theorem ofRatio_nearest (negative : Bool) (num : Nat) (hden : 0 < den)
    (h : (num / den : ℚ) < overflow) :
    ∃ m e, ofRatio negative num den = .finite negative m e ∧ InFormat m e ∧
      (2 ^ 52 ≤ m ∨ e = minExponent) ∧ Nearest (num / den) (m * 2 ^ e) := by
  rcases eq_or_ne num 0 with rfl | hnum
  · refine ⟨0, minExponent, rfl, ⟨by decide, le_rfl, by decide⟩, .inr rfl, ?_⟩
    simpa using nearest_self (isExact_intCast (k := 0) (by norm_num))
  obtain ⟨m, e, heq, hformat, -⟩ := ((ofRatio_spec negative num hden).resolve_left
    fun hlarge => not_le.mpr h hlarge.1).2
  obtain ⟨-, -, hbits⟩ := exponentFor_spec hnum hden
  obtain ⟨hround, htie⟩ := scaled_spec num hden (exponentFor num den)
  have hreach := le_scaled_iff num hden (exponentFor num den) (k := 2 ^ 52) (by decide)
  refine ⟨m, e, heq, hformat, ?_⟩
  rw [ofRatio, if_neg hnum] at heq
  dsimp only at heq
  generalize exponentFor num den = E at *
  generalize scaled num den E = k at *
  generalize (num / den : ℚ) = q at *
  have hpos : (0 : ℚ) < 2 ^ E := by positivity
  have hfull (hnormal : 2 ^ (E + 52) ≤ q) : 2 ^ 52 ≤ k := by
    have hle : (2 ^ 52 : ℚ) ≤ q / 2 ^ E := by
      rw [le_div_iff₀ hpos]
      rwa [zpow_add₀ two_ne_zero, mul_comm] at hnormal
    refine hreach.mpr ?_
    push_cast
    linarith
  by_cases hcarry : k = Nat.pow 2 53
  · -- The significand has one bit too many, all but the first being zero.
    simp only [if_pos hcarry] at heq
    split_ifs at heq
    cases heq
    have hsame : ((Nat.pow 2 52 : Nat) : ℚ) * 2 ^ (E + 1) = k * 2 ^ E := by
      rw [hcarry, zpow_add₀ two_ne_zero]
      push_cast
      ring
    refine ⟨.inl le_rfl, ?_⟩
    rw [hsame]
    exact nearest_mul (hsame ▸ hformat.isExact) hbits hround htie
  · simp only [if_neg hcarry] at heq
    split_ifs at heq
    cases heq
    exact ⟨hbits.symm.imp_left hfull, nearest_mul hformat.isExact hbits hround htie⟩

theorem value_finite (negative : Bool) (m : Nat) (e : Int) :
    (finite negative m e).value = (if negative then -1 else 1) * (m * 2 ^ e) :=
  mul_assoc _ _ _

/-- A whole number of 64 bits is rounded to the nearest value of the format, in the form that the
format has for it. -/
theorem ofInt_nearest {n : Int} (h : |n| ≤ 2 ^ 64) :
    (ofInt n).IsStandard ∧ Nearest n (ofInt n).value := by
  have hsmall : (n.natAbs / (1 : Nat) : ℚ) < overflow := by
    have hle : (n.natAbs : ℚ) ≤ 2 ^ 64 := by
      rw [Nat.cast_natAbs]
      exact_mod_cast h
    calc (n.natAbs / (1 : Nat) : ℚ) ≤ 2 ^ 64 := by simpa using hle
      _ < 1 * 2 ^ 970 := by rw [one_mul]; exact pow_lt_pow_right₀ one_lt_two (by decide)
      _ ≤ overflow := mul_le_mul_of_nonneg_right (by norm_num) (by positivity)
  obtain ⟨m, e, heq, hformat, hform, hnearest⟩ :=
    ofRatio_nearest (n < 0) n.natAbs one_pos hsmall
  rw [Nat.cast_one, div_one] at hnearest
  refine ⟨⟨_, m, e, heq, hformat, hform⟩, ?_⟩
  rw [ofInt, heq, value_finite]
  rcases lt_or_ge n 0 with hneg | hnonneg
  · rw [Nat.cast_natAbs, abs_of_neg hneg, Int.cast_neg] at hnearest
    rw [decide_eq_true hneg, if_pos rfl, neg_one_mul]
    simpa using hnearest.neg
  · rw [Nat.cast_natAbs, abs_of_nonneg hnonneg] at hnearest
    rwa [decide_eq_false (not_lt.mpr hnonneg), if_neg Bool.false_ne_true, one_mul]

/-! ## Equal numbers -/

theorem IsStandard.isExact (h : x.IsStandard) : IsExact x.value := by
  obtain ⟨s, m, e, rfl, hformat, -⟩ := h
  rw [value_finite]
  cases s
  · simpa using hformat.isExact
  · simpa using hformat.isExact.neg

/-- A value has only one form. -/
theorem standard_unique (hm : m < 2 ^ 53) (hmin : minExponent ≤ e)
    (hform : 2 ^ 52 ≤ n ∨ f = minExponent) (h : (m * 2 ^ e : ℚ) = n * 2 ^ f) (hle : e ≤ f) :
    m = n ∧ e = f := by
  obtain ⟨i, rfl⟩ := Int.le.dest hle
  have hmul : m = n * 2 ^ i := by
    have hpos : (2 ^ e : ℚ) ≠ 0 := by positivity
    rw [zpow_add₀ two_ne_zero, zpow_natCast, mul_left_comm, mul_comm] at h
    exact_mod_cast mul_left_cancel₀ hpos h
  rcases Nat.eq_zero_or_pos i with rfl | hi
  · exact ⟨by simpa using hmul, by simp⟩
  · have hfull : 2 ^ 52 ≤ n := hform.resolve_right (by omega)
    have hdouble := Nat.mul_le_mul hfull (Nat.le_self_pow hi.ne' 2)
    omega

/-- Numbers in the form of the format are equal exactly if their values are. -/
theorem numEq_iff_value_eq (hx : x.IsStandard) (hy : y.IsStandard) :
    x.numEq y = true ↔ x.value = y.value := by
  obtain ⟨s, m, e, rfl, ⟨hm, hmin, -⟩, hmform⟩ := hx
  obtain ⟨t, n, f, rfl, ⟨hn, hmin', -⟩, hnform⟩ := hy
  have hsame (h : (m * 2 ^ e : ℚ) = n * 2 ^ f) : m = n ∧ e = f := by
    rcases le_total e f with hle | hle
    · exact standard_unique hm hmin hnform h hle
    · obtain ⟨hsig, hexp⟩ := standard_unique hn hmin' hmform h.symm hle
      exact ⟨hsig.symm, hexp.symm⟩
  -- Only the two zeros have different signs and the same value.
  have hzero (h : (m * 2 ^ e : ℚ) = -(n * 2 ^ f)) : m = 0 ∧ n = 0 := by
    have hleft : (0 : ℚ) ≤ m * 2 ^ e := by positivity
    have hright : (0 : ℚ) ≤ n * 2 ^ f := by positivity
    have hm0 : (m * 2 ^ e : ℚ) = 0 := by linarith
    have hn0 : (n * 2 ^ f : ℚ) = 0 := by linarith
    have hpow (i : Int) : (2 ^ i : ℚ) ≠ 0 := by positivity
    exact ⟨by exact_mod_cast (mul_eq_zero_iff_right (hpow e)).mp hm0,
      by exact_mod_cast (mul_eq_zero_iff_right (hpow f)).mp hn0⟩
  simp only [numEq, value_finite, Bool.or_eq_true, Bool.and_eq_true, beq_iff_eq]
  constructor
  · rintro (⟨rfl, rfl⟩ | ⟨⟨rfl, rfl⟩, rfl⟩)
    · simp
    · rfl
  · intro h
    cases s <;> cases t <;>
      simp only [if_true, Bool.false_eq_true, if_false, one_mul, neg_one_mul] at h
    · obtain ⟨rfl, rfl⟩ := hsame h
      exact .inr ⟨⟨rfl, rfl⟩, rfl⟩
    · exact .inl (hzero h)
    · exact .inl (hzero (neg_eq_iff_eq_neg.mp h))
    · obtain ⟨rfl, rfl⟩ := hsame (neg_inj.mp h)
      exact .inr ⟨⟨rfl, rfl⟩, rfl⟩

/-- Numbers that are nearest to two values are equal exactly if the values are rounded to the same
one. -/
theorem numEq_iff_roundAlike (hx : x.IsStandard) (hy : y.IsStandard) (hp : Nearest p x.value)
    (hq : Nearest q y.value) : x.numEq y = true ↔ RoundAlike p q := by
  rw [numEq_iff_value_eq hx hy]
  constructor
  · intro h
    exact ⟨x.value, hp, h ▸ hq⟩
  · rintro ⟨r, hpr, hqr⟩
    exact (hp.unique hpr).trans (hqr.unique hq)

/-- A whole number below 2⁵³ is nearest to no other whole number: between them lies, at the latest,
2⁵³ itself. -/
theorem Nearest.eq_of_lt {k l : Int} (h : Nearest l k) (hk : |k| < 2 ^ 53) : k = l := by
  have hpower : IsExact ((2 ^ 53 : Int) : ℚ) :=
    ⟨1, 53, by norm_num, by decide, by decide, by norm_num⟩
  obtain ⟨hlow, hhigh⟩ := abs_lt.mp hk
  by_cases hl : |l| < 2 ^ 53
  · exact_mod_cast h.eq_of_isExact (isExact_intCast hl)
  rcases le_abs'.mp (not_lt.mp hl) with hneg | hpos
  · have hnearer : |l - k| ≤ |l - -2 ^ 53| := by exact_mod_cast h.le _ hpower.neg
    rw [abs_of_nonpos (by omega), abs_of_nonpos (by omega)] at hnearer
    omega
  · have hnearer : |l - k| ≤ |l - 2 ^ 53| := by exact_mod_cast h.le _ hpower
    rw [abs_of_nonneg (by omega), abs_of_nonneg (by omega)] at hnearer
    omega

/-- A whole number below 2⁵³ is rounded alike with no other whole number. -/
theorem roundAlike_intCast {k l : Int} (h : |k| < 2 ^ 53 ∨ |l| < 2 ^ 53) :
    RoundAlike k l ↔ k = l := by
  constructor
  · rintro ⟨r, hk, hl⟩
    rcases h with h | h
    · obtain rfl := hk.eq_of_isExact (isExact_intCast h)
      exact hl.eq_of_lt h
    · obtain rfl := hl.eq_of_isExact (isExact_intCast h)
      exact (hk.eq_of_lt h).symm
  · rintro rfl
    exact ⟨k, nearest_self (isExact_intCast (or_self_iff.mp h)),
      nearest_self (isExact_intCast (or_self_iff.mp h))⟩

end Binary64

end LogWarden
