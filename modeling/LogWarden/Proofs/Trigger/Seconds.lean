import LogWarden.Proofs.Number.Rounding
import LogWarden.Trigger.Argument

/-!
# Seconds that no duration can hold

Seconds are checked for being finite and not negative before they are converted. The conversion
rounds to whole nanoseconds, and it has a bound of its own that the check does not know: what rounds
to 2⁶⁴ seconds or more stops the program.
-/

namespace LogWarden

theorem Binary64.value_of_not_negative {negative : Bool} {m : Nat} {e : Int}
    (h : (Binary64.finite negative m e).isNegative = false) :
    (Binary64.finite negative m e).value = m * 2 ^ e := by
  cases negative
  · simp [value]
  · obtain rfl : m = 0 := by simpa [isNegative] using h
    simp [value]

theorem Binary64.value_of_negative {x : Binary64} (h : x.isNegative = true) : x.value ≤ 0 := by
  cases x with
  | nan | infinite => exact le_rfl
  | finite negative m e =>
      obtain rfl : negative = true := by simp_all [isNegative]
      have hpos : (0 : ℚ) ≤ m * 2 ^ e := by positivity
      simpa [value] using hpos

/-- The bound of the conversion: rounding to nanoseconds reaches 2⁶⁴ seconds from half a nanosecond
below them on. -/
theorem Nanos.ofFloatSeconds?_eq_none_iff {x : Binary64} (hfinite : x.isFinite = true)
    (hsign : x.isNegative = false) :
    Nanos.ofFloatSeconds? x = none ↔ 2 ^ 64 ≤ x.value + 1 / 2000000000 := by
  cases x with
  | nan | infinite => cases hfinite
  | finite negative m e =>
      obtain ⟨hden, hratio⟩ := Binary64.ratio_spec m e
      have hrounds := le_roundDiv_iff (k := secondsBound * 1000000000)
        ((Binary64.ratio m e).1 * 1000000000) hden (by decide)
      unfold ofFloatSeconds?
      dsimp only
      generalize (Binary64.ratio m e).1 = num at *
      generalize (Binary64.ratio m e).2 = den at *
      have hden' : (0 : ℚ) < den := by exact_mod_cast hden
      have hbound : (if roundDiv (num * 1000000000) den / 1000000000 < secondsBound
          then some (roundDiv (num * 1000000000) den) else none) = none ↔
          secondsBound * 1000000000 ≤ roundDiv (num * 1000000000) den := by
        rw [← Nat.le_div_iff_mul_le (by decide), ← Nat.not_lt]
        simp
      have hcleared : 2 * (secondsBound * 1000000000 * den) ≤ 2 * (num * 1000000000) + den ↔
          (2 : ℚ) ^ 64 * den ≤ num + 1 / 2000000000 * den := by
        rw [← Nat.cast_le (α := ℚ)]
        push_cast [secondsBound]
        constructor <;> intro h <;> linarith
      rw [hbound, hrounds, hcleared, hratio, Binary64.value_of_not_negative hsign, ← add_mul,
        mul_le_mul_iff_of_pos_right hden']

/-- Seconds that come to 2⁶⁴ or more when they are rounded to nanoseconds. -/
def Argument.TooLong (v : Option Json) : Prop :=
  ∃ n, v = some (.num n) ∧ n.toBinary64.isFinite = true ∧
    2 ^ 64 ≤ n.toBinary64.value + 1 / 2000000000

/-- Seconds that pass the check for being finite and not negative stop the program exactly if they
are too long. -/
theorem Argument.seconds_eq_overflow_iff (method : String) {v : Option Json} :
    Argument.seconds method v = .error .secondsOverflow ↔ Argument.TooLong v := by
  fun_cases Argument.seconds method v
  case case1 n x hx d hd =>
    simp only [Bool.and_eq_true, Bool.not_eq_true'] at hx
    refine iff_of_false (by simp) ?_
    rintro ⟨_, ⟨⟩, _, hlong⟩
    have hnone := (Nanos.ofFloatSeconds?_eq_none_iff hx.1 hx.2).mpr hlong
    simp [x, hnone] at hd
  case case2 n x hx hnone =>
    simp only [Bool.and_eq_true, Bool.not_eq_true'] at hx
    exact iff_of_true rfl ⟨n, rfl, hx.1, (Nanos.ofFloatSeconds?_eq_none_iff hx.1 hx.2).mp hnone⟩
  case case3 n x hx =>
    refine iff_of_false (by simp [unexpected]) ?_
    rintro ⟨_, ⟨⟩, hfinite, hlong⟩
    have hnegative : x.isNegative = true := by simp_all [x]
    linarith [Binary64.value_of_negative hnegative]
  case case4 hnot =>
    refine iff_of_false (by simp [unexpected]) ?_
    rintro ⟨n, rfl, _⟩
    exact hnot n rfl

/-- Half a nanosecond makes no difference to a significand of 53 bits: below 2⁶⁴ there is none that
close. -/
theorem Argument.tooLong_iff_of_lt {negative : Bool} {m : Nat} {e : Int} (hm : m < 2 ^ 53) :
    Argument.TooLong (some (.num (.float (.finite negative m e)))) ↔
      2 ^ 64 ≤ (Binary64.finite negative m e).value := by
  have hiff : Argument.TooLong (some (.num (.float (.finite negative m e)))) ↔
      2 ^ 64 ≤ (Binary64.finite negative m e).value + 1 / 2000000000 := by
    simp [TooLong, JsonNumber.toBinary64, Binary64.isFinite]
  rw [hiff]
  refine ⟨fun h => ?_, fun h => by linarith⟩
  have hsign : (Binary64.finite negative m e).isNegative = false :=
    Bool.eq_false_iff.mpr fun hneg => by linarith [Binary64.value_of_negative hneg]
  rw [Binary64.value_of_not_negative hsign] at h ⊢
  rcases lt_or_ge e 0 with he | he
  · have hone : (2 : ℚ) ^ e ≤ 1 := zpow_le_one_of_nonpos₀ (by norm_num) he.le
    have hvalue : (m : ℚ) * 2 ^ e ≤ m := mul_le_of_le_one_right (by positivity) hone
    have hm' : (m : ℚ) < 2 ^ 53 := by exact_mod_cast hm
    linarith
  · -- A whole number: it is at least 2⁶⁴ as soon as it is more than one less.
    obtain ⟨n, rfl⟩ := Int.eq_ofNat_of_zero_le he
    rw [zpow_natCast] at h ⊢
    have hnat : (2 : ℚ) ^ 64 < ((m * 2 ^ n + 1 : Nat) : ℚ) := by
      push_cast
      linarith
    have hle : 2 ^ 64 ≤ m * 2 ^ n := Nat.lt_succ_iff.mp (by exact_mod_cast hnat)
    exact_mod_cast hle

/-- The greatest whole number of 64 bits is too long: the number of the format nearest to it
is 2⁶⁴. -/
example : Argument.TooLong (some (.num (.int 18446744073709551615))) :=
  (Argument.seconds_eq_overflow_iff "timeout").mp rfl

end LogWarden
