import LogWarden.Proofs.Number.Rounding

/-!
# Decimal digits of floating-point numbers

A positive number of the format has decimal digits that are not above it by more than half a step of
the format, and there are at most eighteen of them: a grid of decimals that is finer than half a step
has digits, and no grid is tried that is more than ten times finer.
-/

namespace LogWarden.Binary64

variable {m d d' q fuel : Nat} {e k k' : Int}

/-! ## Powers of two and of ten -/

/-- Ninety-three bits are less than twenty-eight decimal digits. -/
theorem two_pow_le_ten_pow_succ (n : Nat) : 2 ^ n ≤ 10 ^ (n * 28 / 93 + 1) := by
  rw [← Nat.pow_le_pow_iff_left (n := 93) (by decide)]
  calc (2 ^ n) ^ 93 = (2 ^ 93) ^ n := by rw [← pow_mul', pow_mul]
    _ ≤ (10 ^ 28) ^ n := Nat.pow_le_pow_left (by norm_num) _
    _ = 10 ^ (28 * n) := by rw [← pow_mul]
    _ ≤ 10 ^ ((n * 28 / 93 + 1) * 93) := Nat.pow_le_pow_right (by decide) (by omega)
    _ = (10 ^ (n * 28 / 93 + 1)) ^ 93 := by rw [← pow_mul]

/-- The number of decimal digits that is told by the number of bits misses the true one by little,
for powers of the size that the format has. -/
theorem ten_zpow_bounds {b : Int} (hlow : -1100 ≤ b) (hhigh : b ≤ 1100) :
    (10 : ℚ) ^ (b * 30103 / 100000) ≤ 10 ^ 2 * 2 ^ b ∧
      (2 : ℚ) ^ b ≤ 10 ^ 3 * 10 ^ (b * 30103 / 100000) := by
  have hcast {x y c : Nat} (h : x ≤ 10 ^ c * y) : (x : ℚ) ≤ 10 ^ c * y := by exact_mod_cast h
  rcases Int.le_total 0 b with hb | hb
  · obtain ⟨n, rfl⟩ := Int.eq_ofNat_of_zero_le hb
    have hq : (n : Int) * 30103 / 100000 = (n * 30103 / 100000 : Nat) := by push_cast; rfl
    rw [hq, zpow_natCast, zpow_natCast]
    have hten : 10 ^ (n * 30103 / 100000) ≤ 10 ^ 2 * 2 ^ n := by
      calc 10 ^ (n * 30103 / 100000) ≤ 10 ^ (2 + n * 3 / 10) :=
            Nat.pow_le_pow_right (by decide) (by omega)
        _ = 10 ^ 2 * 10 ^ (n * 3 / 10) := pow_add _ _ _
        _ ≤ 10 ^ 2 * 2 ^ n := Nat.mul_le_mul_left _ (ten_pow_le_two_pow n)
    have htwo : 2 ^ n ≤ 10 ^ 3 * 10 ^ (n * 30103 / 100000) := by
      calc 2 ^ n ≤ 10 ^ (n * 28 / 93 + 1) := two_pow_le_ten_pow_succ n
        _ ≤ 10 ^ (3 + n * 30103 / 100000) := Nat.pow_le_pow_right (by decide) (by omega)
        _ = 10 ^ 3 * 10 ^ (n * 30103 / 100000) := pow_add _ _ _
    exact ⟨by exact_mod_cast hten, by exact_mod_cast htwo⟩
  · obtain ⟨n, rfl⟩ : ∃ n : Nat, b = -n := ⟨b.natAbs, by omega⟩
    have hq : -(n : Int) * 30103 / 100000 = -((n * 30103 + 99999) / 100000 : Nat) := by
      push_cast
      omega
    rw [hq, zpow_neg, zpow_neg, zpow_natCast, zpow_natCast]
    have htwo : 2 ^ n ≤ 10 ^ 2 * 10 ^ ((n * 30103 + 99999) / 100000) := by
      calc 2 ^ n ≤ 10 ^ (n * 28 / 93 + 1) := two_pow_le_ten_pow_succ n
        _ ≤ 10 ^ (2 + (n * 30103 + 99999) / 100000) := Nat.pow_le_pow_right (by decide) (by omega)
        _ = 10 ^ 2 * 10 ^ ((n * 30103 + 99999) / 100000) := pow_add _ _ _
    have hten : 10 ^ ((n * 30103 + 99999) / 100000) ≤ 10 ^ 3 * 2 ^ n := by
      calc 10 ^ ((n * 30103 + 99999) / 100000) ≤ 10 ^ (3 + n * 3 / 10) :=
            Nat.pow_le_pow_right (by decide) (by omega)
        _ = 10 ^ 3 * 10 ^ (n * 3 / 10) := pow_add _ _ _
        _ ≤ 10 ^ 3 * 2 ^ n := Nat.mul_le_mul_left _ (ten_pow_le_two_pow n)
    have htwo' : (2 : ℚ) ^ n ≤ 10 ^ 2 * 10 ^ ((n * 30103 + 99999) / 100000) := by
      exact_mod_cast htwo
    have hten' : (10 : ℚ) ^ ((n * 30103 + 99999) / 100000) ≤ 10 ^ 3 * 2 ^ n := by
      exact_mod_cast hten
    have hx : (0 : ℚ) < 10 ^ ((n * 30103 + 99999) / 100000) := by positivity
    have hy : (0 : ℚ) < 2 ^ n := by positivity
    generalize (10 : ℚ) ^ ((n * 30103 + 99999) / 100000) = x at *
    generalize (2 : ℚ) ^ n = y at *
    rw [← div_eq_mul_inv, ← div_eq_mul_inv, inv_eq_one_div, inv_eq_one_div,
      div_le_div_iff₀ hx hy, div_le_div_iff₀ hy hx, one_mul, one_mul]
    exact ⟨htwo', hten'⟩

/-! ## Decimals and numbers of the format -/

theorem zpow_mul_pow_toNat {x : ℚ} (hx : x ≠ 0) (k : Int) :
    x ^ k * x ^ (-k).toNat = x ^ k.toNat := by
  rw [← zpow_natCast, ← zpow_natCast, ← zpow_add₀ hx]
  congr 1
  omega

/-- Both sides of a comparison are scaled to whole numbers. -/
theorem exists_compareDecimal (d : Nat) (k : Int) (q : Nat) (e : Int) :
    ∃ a b : Nat, ∃ s : ℚ, 0 < s ∧ compareDecimal d k q e = compare a b ∧
      (a : ℚ) = 4 * d * 10 ^ k * s ∧ (b : ℚ) = q * 2 ^ e * s := by
  refine ⟨_, _, 10 ^ (-k).toNat * 2 ^ (-e).toNat, by positivity, rfl, ?_, ?_⟩
  · rw [Nat.pow_eq, Nat.pow_eq]
    push_cast
    rw [← zpow_mul_pow_toNat (by norm_num) k]
    ring
  · rw [Nat.pow_eq, Nat.pow_eq]
    push_cast
    rw [← zpow_mul_pow_toNat (by norm_num) e]
    ring

theorem compareDecimal_lt_iff :
    compareDecimal d k q e = .lt ↔ (4 * d * 10 ^ k : ℚ) < q * 2 ^ e := by
  obtain ⟨a, b, s, hs, heq, ha, hb⟩ := exists_compareDecimal d k q e
  rw [heq, Nat.compare_eq_lt, ← Nat.cast_lt (α := ℚ), ha, hb, mul_lt_mul_iff_of_pos_right hs]

theorem compareDecimal_gt_iff :
    compareDecimal d k q e = .gt ↔ (q * 2 ^ e : ℚ) < 4 * d * 10 ^ k := by
  obtain ⟨a, b, s, hs, heq, ha, hb⟩ := exists_compareDecimal d k q e
  rw [heq, Nat.compare_eq_gt, ← Nat.cast_lt (α := ℚ), ha, hb, mul_lt_mul_iff_of_pos_right hs]

theorem compareDecimal_eq_iff :
    compareDecimal d k q e = .eq ↔ (4 * d * 10 ^ k : ℚ) = q * 2 ^ e := by
  obtain ⟨a, b, s, hs, heq, ha, hb⟩ := exists_compareDecimal d k q e
  rw [heq, Nat.compare_eq_eq, ← Nat.cast_inj (R := ℚ), ha, hb, mul_left_inj' hs.ne']

/-- A decimal that rounds to a number is positive and at most half a step above it. -/
theorem le_of_roundsTo (hm : 0 < m) (h : roundsTo m e d k = true) :
    0 < d ∧ (4 * d * 10 ^ k : ℚ) ≤ (4 * m + 2) * 2 ^ e := by
  have htwo : (0 : ℚ) < 2 ^ e := by positivity
  simp only [roundsTo, neighbourhood, Bool.and_eq_true, Bool.or_eq_true, beq_iff_eq,
    compareDecimal_lt_iff, compareDecimal_gt_iff, compareDecimal_eq_iff] at h
  obtain ⟨hlow, hhigh⟩ := h
  constructor
  · rw [Nat.pos_iff_ne_zero]
    rintro rfl
    have hlow' : 0 < (if m = Nat.pow 2 52 ∧ minExponent < e then 4 * m - 1 else 4 * m - 2) := by
      split_ifs <;> omega
    have hpos := mul_pos (Nat.cast_pos (α := ℚ).mpr hlow') htwo
    rcases hlow with hlow | ⟨hlow, -⟩
    · rw [Nat.cast_zero, mul_zero, zero_mul] at hlow
      exact hlow.not_gt hpos
    · rw [Nat.cast_zero, mul_zero, zero_mul] at hlow
      exact hpos.ne hlow
  · push_cast at hhigh
    rcases hhigh with hhigh | ⟨hhigh, -⟩
    · exact hhigh.le
    · exact hhigh.le

/-- A decimal that is above a number by less than half a step rounds to it. -/
theorem roundsTo_of_lt (hlow : (m * 2 ^ e : ℚ) < d * 10 ^ k)
    (hhigh : (4 * d * 10 ^ k : ℚ) < (4 * m + 2) * 2 ^ e) : roundsTo m e d k = true := by
  have htwo : (0 : ℚ) < 2 ^ e := by positivity
  have hnear : (neighbourhood m e).1 ≤ 4 * m := by
    unfold neighbourhood
    dsimp only
    split_ifs <;> omega
  have hnear' : ((neighbourhood m e).1 * 2 ^ e : ℚ) ≤ 4 * m * 2 ^ e :=
    mul_le_mul_of_nonneg_right (by exact_mod_cast hnear) htwo.le
  have hgt : compareDecimal d k (neighbourhood m e).1 e = .gt :=
    compareDecimal_gt_iff.mpr (by linarith)
  have hlt : compareDecimal d k (neighbourhood m e).2 e = .lt := by
    rw [compareDecimal_lt_iff, neighbourhood]
    push_cast
    exact hhigh
  simp only [roundsTo, hgt, hlt]
  rfl

theorem exists_floorDecimal (m : Nat) (e k : Int) :
    ∃ a b : Nat, ∃ s : ℚ, 0 < s ∧ floorDecimal m e k = a / b ∧ (a : ℚ) = m * 2 ^ e * s ∧
      (b : ℚ) = 10 ^ k * s := by
  refine ⟨_, _, 10 ^ (-k).toNat * 2 ^ (-e).toNat, by positivity, rfl, ?_, ?_⟩
  · rw [Nat.pow_eq, Nat.pow_eq]
    push_cast
    rw [← zpow_mul_pow_toNat (by norm_num) e]
    ring
  · rw [Nat.pow_eq, Nat.pow_eq]
    push_cast
    rw [← zpow_mul_pow_toNat (by norm_num) k]
    ring

/-- The decimal below a number, with those of a grid. -/
theorem floorDecimal_spec (m : Nat) (e k : Int) :
    (floorDecimal m e k * 10 ^ k : ℚ) ≤ m * 2 ^ e ∧
      (m * 2 ^ e : ℚ) < (floorDecimal m e k + 1) * 10 ^ k := by
  obtain ⟨a, b, s, hs, heq, ha, hb⟩ := exists_floorDecimal m e k
  have hpos : 0 < b := by
    have hpos : (0 : ℚ) < b := by rw [hb]; positivity
    exact_mod_cast hpos
  have hdiv := Nat.div_add_mod' a b
  have hmod := Nat.mod_lt a hpos
  rw [heq]
  generalize a / b = f at *
  have hfloor : f * b ≤ a := by omega
  have hceil : a < (f + 1) * b := by
    rw [Nat.succ_mul]
    omega
  have hfloor' : (f * b : ℚ) ≤ a := by exact_mod_cast hfloor
  have hceil' : (a : ℚ) < (f + 1) * b := by exact_mod_cast hceil
  rw [ha, hb, ← mul_assoc] at hfloor' hceil'
  exact ⟨le_of_mul_le_mul_right hfloor' hs, lt_of_mul_lt_mul_right hceil' hs.le⟩

/-! ## The search for digits -/

/-- What is found on a grid rounds to the number. -/
theorem roundsTo_of_onGrid? (h : onGrid? m e k = some d) : roundsTo m e d k = true := by
  unfold onGrid? at h
  dsimp only at h
  generalize floorDecimal m e k = f at h
  split at h
  case h_1 hf _ =>
      obtain rfl := Option.some.inj h
      exact hf
  case h_2 _ hf =>
      obtain rfl := Option.some.inj h
      exact hf
  case h_3 => cases h
  case h_4 hf hf' =>
      split at h
      · obtain rfl := Option.some.inj h
        exact hf
      · obtain rfl := Option.some.inj h
        exact hf'
      · obtain rfl := Option.some.inj h
        rcases Nat.mod_two_eq_zero_or_one f with hmod | hmod
        · rwa [hmod]
        · rwa [hmod]

/-- A grid that is finer than half a step has a decimal that rounds to the number. -/
theorem le_of_onGrid?_eq_none (h : onGrid? m e k = none) : (2 ^ e : ℚ) ≤ 2 * 10 ^ k := by
  by_contra hfine
  have hfine := not_le.mp hfine
  obtain ⟨hfloor, hceil⟩ := floorDecimal_spec m e k
  have hnext : roundsTo m e (floorDecimal m e k + 1) k = true := by
    refine roundsTo_of_lt (by push_cast; exact hceil) ?_
    push_cast
    linarith
  unfold onGrid? at h
  simp only [hnext] at h
  split at h
  case h_1 | h_2 => cases h
  case h_3 hf => cases hf
  case h_4 => split at h <;> cases h

/-- The search stops at the first grid, or on one that is at most ten times finer than one without
digits. -/
theorem firstGrid_spec (hm : 0 < m) (h : firstGrid m e fuel k = (d, k'))
    (hstart : (10 : ℚ) ^ (k - fuel) ≤ m * 2 ^ e) :
    0 < d ∧ (4 * d * 10 ^ k' : ℚ) ≤ (4 * m + 2) * 2 ^ e ∧ k - fuel ≤ k' ∧ k' ≤ k ∧
      (k' = k ∨ (2 ^ e : ℚ) ≤ 2 * 10 ^ (k' + 1)) := by
  induction fuel generalizing k with
  | zero =>
      obtain ⟨rfl, rfl⟩ := Prod.mk.inj h
      rw [Nat.cast_zero, sub_zero] at hstart ⊢
      have htwo : (0 : ℚ) < 2 ^ e := by positivity
      have hten : (0 : ℚ) < 10 ^ k := by positivity
      obtain ⟨hfloor, hceil⟩ := floorDecimal_spec m e k
      refine ⟨?_, by linarith, le_rfl, le_rfl, .inl rfl⟩
      have hone : (1 : ℚ) < floorDecimal m e k + 1 := by
        refine lt_of_mul_lt_mul_right ?_ hten.le
        rw [one_mul]
        exact hstart.trans_lt hceil
      have hpos : (0 : ℚ) < floorDecimal m e k := by linarith
      exact_mod_cast hpos
  | succ fuel ih =>
      rw [firstGrid] at h
      split at h
      case h_1 d' hd' =>
          obtain ⟨rfl, rfl⟩ := Prod.mk.inj h
          obtain ⟨hpos, hle⟩ := le_of_roundsTo hm (roundsTo_of_onGrid? hd')
          exact ⟨hpos, hle, by omega, le_rfl, .inl rfl⟩
      case h_2 hnone =>
          have hfuel : k - 1 - fuel = k - (fuel + 1 : Nat) := by push_cast; ring
          obtain ⟨hpos, hle, hlow, hhigh, hfine⟩ := ih h (hfuel ▸ hstart)
          refine ⟨hpos, hle, by omega, by omega, .inr ?_⟩
          rcases hfine with rfl | hfine
          · rw [sub_add_cancel]
            exact le_of_onGrid?_eq_none hnone
          · exact hfine

theorem dropZeros_spec (h : dropZeros fuel d k = (d', k')) (hd : 0 < d) :
    (d' * 10 ^ k' : ℚ) = d * 10 ^ k ∧ 0 < d' ∧ d' ≤ d ∧ k ≤ k' ∧ k' ≤ k + fuel := by
  induction fuel generalizing d k with
  | zero =>
      obtain ⟨rfl, rfl⟩ := Prod.mk.inj h
      exact ⟨rfl, hd, le_rfl, le_rfl, by simp⟩
  | succ fuel ih =>
      rw [dropZeros] at h
      split_ifs at h with hzero
      · obtain ⟨n, rfl⟩ : ∃ n, d = n * 10 := ⟨d / 10, by omega⟩
        rw [Nat.mul_div_cancel _ (by decide)] at h
        obtain ⟨hvalue, hpos, hle, hlow, hhigh⟩ := ih h (by omega)
        refine ⟨?_, hpos, by omega, by omega, by push_cast; omega⟩
        rw [hvalue, zpow_add_one₀ (by norm_num)]
        push_cast
        ring
      · obtain ⟨rfl, rfl⟩ := Prod.mk.inj h
        exact ⟨rfl, hd, le_rfl, le_rfl, by omega⟩

/-- The grid on which the search begins is not much finer than the number is large, and the last
one is finer. -/
theorem magnitude_spec (hm : 0 < m) (hformat : InFormat m e) :
    ∃ g : Int, g = ((m.log2 : Int) + e) * 30103 / 100000 + 1 ∧ -330 ≤ g ∧ g ≤ 311 ∧
      (10 : ℚ) ^ (g - 20) ≤ m * 2 ^ e ∧ (m * 2 ^ e : ℚ) ≤ 200 * 10 ^ g := by
  obtain ⟨hbits, hmin, hmax⟩ := hformat
  have hlog : m.log2 < 53 := (Nat.log2_lt hm.ne').mpr hbits
  unfold minExponent at hmin
  unfold maxExponent at hmax
  have htwo : (0 : ℚ) < 2 ^ e := by positivity
  have hsplit : (2 : ℚ) ^ (m.log2 + e) = 2 ^ m.log2 * 2 ^ e := by
    rw [zpow_add₀ two_ne_zero, zpow_natCast]
  have hlow : (2 : ℚ) ^ (m.log2 + e) ≤ m * 2 ^ e := by
    rw [hsplit]
    exact mul_le_mul_of_nonneg_right (by exact_mod_cast Nat.log2_self_le hm.ne') htwo.le
  have hhigh : (m * 2 ^ e : ℚ) < 2 * 2 ^ (m.log2 + e) := by
    have hlt : (m : ℚ) < 2 ^ (m.log2 + 1) := by exact_mod_cast Nat.lt_log2_self
    rw [hsplit, ← mul_assoc, ← pow_succ']
    exact mul_lt_mul_of_pos_right hlt htwo
  obtain ⟨hten, hbits⟩ := @ten_zpow_bounds (m.log2 + e) (by omega) (by omega)
  refine ⟨_, rfl, by omega, by omega, ?_, ?_⟩
  · generalize (m.log2 + e) * 30103 / 100000 = g at *
    have hsmall : (10 : ℚ) ^ (-19 : Int) ≤ 1 / 10 ^ 2 := by norm_num
    calc (10 : ℚ) ^ (g + 1 - 20) = 10 ^ g * 10 ^ (-19 : Int) := by
          rw [← zpow_add₀ (by norm_num)]
          congr 1
          ring
      _ ≤ 10 ^ 2 * 2 ^ (m.log2 + e) * (1 / 10 ^ 2) :=
        mul_le_mul hten hsmall (by positivity) (by positivity)
      _ = 2 ^ (m.log2 + e) := by ring
      _ ≤ m * 2 ^ e := hlow
  · generalize (m.log2 + e) * 30103 / 100000 = g at *
    rw [zpow_add_one₀ (by norm_num)]
    linarith

/-- The digits of a number: they are not above it by more than half a step, and there are at most
eighteen of them. -/
theorem shortest_spec (hm : 0 < m) (hformat : InFormat m e) (h : shortest m e = (d, k)) :
    0 < d ∧ d ≤ 10 ^ 18 ∧ -400 ≤ k ∧ k ≤ 400 ∧ (4 * d * 10 ^ k : ℚ) ≤ (4 * m + 2) * 2 ^ e := by
  obtain ⟨g, hg, hlowest, hhighest, hstart, hlarge⟩ := magnitude_spec hm hformat
  unfold shortest at h
  rw [← hg] at h
  cases hfirst : firstGrid m e 20 g with
  | mk d₁ k₁ =>
      simp only [hfirst] at h
      obtain ⟨hpos, hle, hklow, hkhigh, hgrid⟩ := firstGrid_spec hm hfirst hstart
      obtain ⟨hvalue, hpos', hle', hklow', hkhigh'⟩ := dropZeros_spec h hpos
      refine ⟨hpos', hle'.trans ?_, by omega, by omega, by rwa [mul_assoc, hvalue, ← mul_assoc]⟩
      have hten : (0 : ℚ) < 10 ^ k₁ := by positivity
      have hone : (1 : ℚ) ≤ m := by exact_mod_cast hm
      have hbits : (m : ℚ) < 2 ^ 53 := by exact_mod_cast hformat.1
      have hsize : (d₁ : ℚ) ≤ 10 ^ 18 := by
        refine le_of_mul_le_mul_right ?_ hten
        rcases hgrid with rfl | hgrid
        · have htwo : (2 ^ e : ℚ) ≤ m * 2 ^ e := le_mul_of_one_le_left (by positivity) hone
          linarith
        · -- a grid ten times coarser had no digits
          rw [zpow_add_one₀ (by norm_num)] at hgrid
          have hstep : (4 * m + 2) * 2 ^ e ≤ (4 * 2 ^ 53 + 2) * (2 * (10 ^ k₁ * 10) : ℚ) :=
            mul_le_mul (by linarith) hgrid (by positivity) (by positivity)
          linarith
      exact_mod_cast hsize

end LogWarden.Binary64
