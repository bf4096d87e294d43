import LogWarden.Event.Timestamp
import LogWarden.Event.Uuid
import LogWarden.Proofs.Json.Printed
import Mathlib.Algebra.Group.Nat.Defs
import Mathlib.Data.Option.Basic

/-!
# The texts of identifiers and times

An identifier is read back from its text, and so is a time whose year has four digits, unless it
stands in a leap second. Times that are read stand in the calendar.
-/

namespace LogWarden

/-! ## Identifiers -/

namespace Uuid

variable {a b c d e : List Char}

/-- The digits of a number, first to last, add up to what they keep of the number. -/
theorem foldlM_digits (n value : Nat) :
    ((List.range n).map fun i => Nat.digitChar (value / Nat.pow 16 (n - 1 - i) % 16)).foldlM
      (fun m c => (Json.Reader.hexDigit? c).map (m * 16 + ·)) 0 = some (value % 16 ^ n) := by
  induction n generalizing value with
  | zero => simp [Nat.mod_one]
  | succ n ih =>
      -- the digits before the last one are those of a sixteenth
      have hinit : (List.range n).map
            (fun i => Nat.digitChar (value / Nat.pow 16 (n + 1 - 1 - i) % 16)) =
          (List.range n).map
            fun i => Nat.digitChar (value / 16 / Nat.pow 16 (n - 1 - i) % 16) := by
        apply List.map_congr_left
        intro i hi
        have hi := List.mem_range.mp hi
        rw [Nat.div_div_eq_div_mul, show n + 1 - 1 - i = n - 1 - i + 1 by omega]
        rw [show Nat.pow 16 (n - 1 - i + 1) = 16 ^ (n - 1 - i) * 16 from rfl, Nat.mul_comm 16]
        rfl
      have hlast := Json.Reader.hexDigit?_hexChar (value % 16) (Nat.mod_lt _ (by decide))
      have hpow : Nat.pow 16 (n + 1 - 1 - n) = 1 := by
        rw [Nat.add_sub_cancel, Nat.sub_self]
      rw [Json.hexChar] at hlast
      rw [List.range_succ, List.map_append, hinit, List.foldlM_append, ih (value / 16)]
      simp only [List.map_cons, List.map_nil, hpow, Nat.div_one, List.foldlM_cons,
        List.foldlM_nil, hlast, Option.map_some, Option.bind_eq_bind, Option.bind_some,
        Option.pure_def]
      rw [Nat.pow_succ, Nat.mul_comm (16 ^ n), Nat.mod_mul, Nat.add_comm, Nat.mul_comm 16]

theorem length_digits (u : Uuid) : u.digits.length = 32 := by
  rw [digits, List.length_map, List.length_range]

theorem ofDigits?_digits (u : Uuid) : ofDigits? u.digits = some u := by
  have hvalue := foldlM_digits 32 u.value.toNat
  have hlt : u.value.toNat < 16 ^ 32 := u.value.isLt
  rw [Nat.mod_eq_of_lt hlt] at hvalue
  have hdigits : u.digits.foldlM
      (fun m c => (Json.Reader.hexDigit? c).map (m * 16 + ·)) 0 = some u.value.toNat := hvalue
  simp [ofDigits?, length_digits, hdigits]

/-- Digits in groups are read without the hyphens. -/
theorem ofGroups?_eq (ha : a.length = 8) (hb : b.length = 4) (hc : c.length = 4)
    (hd : d.length = 4) (he : e.length = 12) :
    ofGroups? (a ++ '-' :: b ++ '-' :: c ++ '-' :: d ++ '-' :: e) =
      ofDigits? (a ++ b ++ c ++ d ++ e) := by
  simp [ofGroups?, List.getElem?_append, List.drop_append, List.drop_eq_nil_of_le, ha, hb, hc,
    hd, he]

/-- An identifier is read from its text. -/
theorem ofText?_text (u : Uuid) : ofText? u.text = some u := by
  have hlength := length_digits u
  have hgroups := @ofGroups?_eq (u.digits.take 8) ((u.digits.drop 8).take 4)
    ((u.digits.drop 12).take 4) ((u.digits.drop 16).take 4) (u.digits.drop 20)
    (by simp [hlength]) (by simp [hlength]) (by simp [hlength]) (by simp [hlength])
    (by simp [hlength])
  have hdrop (k : Nat) : (u.digits.drop k).take 4 ++ u.digits.drop (k + 4) = u.digits.drop k := by
    rw [← List.drop_drop, List.take_append_drop]
  have hdigits : u.digits.take 8 ++ (u.digits.drop 8).take 4 ++ (u.digits.drop 12).take 4 ++
      (u.digits.drop 16).take 4 ++ u.digits.drop 20 = u.digits := by
    rw [List.append_assoc, hdrop 16, List.append_assoc, hdrop 12, List.append_assoc, hdrop 8,
      List.take_append_drop]
  have htext : u.text.length = 36 := by
    simp [text, hlength]
  rw [hdigits, ofDigits?_digits] at hgroups
  rw [ofText?, htext, if_neg (by decide), if_neg (by decide), if_neg (by decide)]
  exact hgroups

end Uuid

/-! ## Numbers of fixed width -/

namespace Timestamp

variable {width n acc count more lo hi : Nat} {ds rest : List Char} {c : Char}

theorem padded_isDigit : ∀ c ∈ padded width n, c.isDigit = true := by
  intro c hc
  rcases List.mem_append.mp hc with hzero | hdigit
  · rw [List.eq_of_mem_replicate hzero]
    rfl
  · exact decimalDigits_isDigit c hdigit

theorem ofDigitChars_padded (width n : Nat) : Nat.ofDigitChars 10 (padded width n) 0 = n := by
  have hzeros (k : Nat) : Nat.ofDigitChars 10 (List.replicate k '0') 0 = 0 := by
    induction k with
    | zero => rfl
    | succ k ih => exact ih
  rw [padded, Nat.ofDigitChars_append, hzeros]
  exact ofDigitChars_decimalDigits n

theorem length_padded (hwidth : 0 < width) (h : n < 10 ^ width) :
    (padded width n).length = width := by
  have hle : (Nat.toDigits 10 n).length ≤ width :=
    (Nat.length_toDigits_le_iff (by decide) hwidth).mpr h
  rw [padded, List.length_append, List.length_replicate]
  omega

theorem exists_padded_eq_cons (width n : Nat) :
    ∃ c ds, padded width n = c :: ds ∧ c.isDigit = true := by
  have hne : padded width n ≠ [] := by
    intro h
    exact Nat.toDigits_ne_nil (List.append_eq_nil_iff.mp h).2
  obtain ⟨c, ds, hds⟩ := List.exists_cons_of_ne_nil hne
  exact ⟨c, ds, hds, padded_isDigit c (hds ▸ List.mem_cons_self)⟩

theorem digits_append (hdigits : ∀ c ∈ ds, c.isDigit = true) :
    digits acc count (ds.length + more) (ds ++ rest) =
      digits (Nat.ofDigitChars 10 ds acc) (count + ds.length) more rest := by
  induction ds generalizing acc count with
  | nil => rw [List.length_nil, Nat.zero_add, Nat.add_zero, List.nil_append, Nat.ofDigitChars_nil]
  | cons c ds ih =>
      rw [List.length_cons, List.cons_append, Nat.add_right_comm, digits,
        if_pos (hdigits c List.mem_cons_self), ih (fun c hc => hdigits c (List.mem_cons_of_mem _ hc)),
        Nat.ofDigitChars_cons, Nat.mul_comm, Nat.add_assoc, Nat.add_comm 1]

theorem digits_padded (hwidth : 0 < width) (h : n < 10 ^ width) :
    digits 0 0 (width + more) (padded width n ++ rest) = digits n width more rest := by
  have hread := @digits_append 0 0 more (padded width n) rest padded_isDigit
  rwa [length_padded hwidth h, ofDigitChars_padded, Nat.zero_add] at hread

theorem number?_padded (hwidth : 0 < width) (h : n < 10 ^ width) :
    number? width (padded width n ++ rest) = some (n, rest) := by
  obtain ⟨width, rfl⟩ := Nat.exists_eq_add_one_of_ne_zero (Nat.ne_of_gt hwidth)
  have hread := @digits_padded (width + 1) n 0 rest hwidth h
  rw [Nat.add_zero, digits] at hread
  simp only [number?, hread]

theorem isWhiteSpace_of_isDigit (h : c.isDigit = true) : Unicode.isWhiteSpace c = false := by
  simp only [Char.isDigit, Bool.and_eq_true, decide_eq_true_eq, ge_iff_le,
    UInt32.le_iff_toNat_le] at h
  have hbounds : 48 ≤ c.toNat ∧ c.toNat ≤ 57 := h
  simp [Unicode.isWhiteSpace, Unicode.whiteSpaceRanges, Unicode.Ranges.contains,
    Unicode.Ranges.containsCode]
  omega

theorem skipBlanks_padded : skipBlanks (padded width n ++ rest) = padded width n ++ rest := by
  obtain ⟨c, ds, hds, hc⟩ := exists_padded_eq_cons width n
  have hblank := isWhiteSpace_of_isDigit hc
  rw [hds, List.cons_append, skipBlanks, List.dropWhile_cons_of_neg (by simp [hblank])]

theorem part?_padded (h : n < 100) (hbounds : lo ≤ n ∧ n ≤ hi) :
    part? lo hi (padded 2 n ++ rest) = some (n, rest) := by
  simp [part?, skipBlanks_padded, @number?_padded 2 n rest (by decide) h, hbounds]

theorem year?_padded (h : n < 10000) :
    year? (padded 4 n ++ rest) = some ((n : Int), rest) := by
  obtain ⟨c, ds, hds, hc⟩ := exists_padded_eq_cons 4 n
  have hread := @number?_padded 4 n rest (by decide) h
  rw [year?, skipBlanks_padded]
  rw [hds] at hread ⊢
  split
  case h_1 heq =>
    cases heq
    exact absurd hc (by decide)
  case h_2 heq =>
    cases heq
    exact absurd hc (by decide)
  case h_3 => rw [hread, Option.map_some]

theorem fraction?_padded (hwidth : 0 < width) (h : n < 10 ^ width) (hle : width ≤ 9) :
    fraction? ('.' :: (padded width n ++ ['Z'])) = some (n * 10 ^ (9 - width), ['Z']) := by
  obtain ⟨width, rfl⟩ := Nat.exists_eq_add_one_of_ne_zero (Nat.ne_of_gt hwidth)
  have hread := @digits_padded (width + 1) n (9 - (width + 1)) ['Z'] hwidth h
  have hstop (more : Nat) : digits n (width + 1) more ['Z'] = (n, width + 1, ['Z']) := by
    cases more <;> rfl
  rw [Nat.add_sub_cancel' hle, hstop] at hread
  simp only [fraction?, hread]
  rfl

/-- The nanoseconds of a second are read from their text. -/
theorem fraction?_fractionText (h : n < 1000000000) :
    fraction? (fractionText n ++ ['Z']) = some (n, ['Z']) := by
  fun_cases fractionText n with
  | case1 hzero =>
      rw [hzero]
      rfl
  | case2 hpos hmilli =>
      rw [List.cons_append, fraction?_padded (by decide) (by omega) (by decide)]
      rw [show n / 1000000 * 10 ^ (9 - 3) = n by omega]
  | case3 hpos hmilli hmicro =>
      rw [List.cons_append, fraction?_padded (by decide) (by omega) (by decide)]
      rw [show n / 1000 * 10 ^ (9 - 6) = n by omega]
  | case4 hpos hmilli hmicro =>
      rw [List.cons_append, fraction?_padded (by decide) h (by decide), Nat.sub_self, Nat.pow_zero,
        Nat.mul_one]

/-! ## Times -/

/-- Whether a time stands in the calendar and its second in the day. -/
structure InCalendar (t : Timestamp) : Prop where
  date : t.date.isValid = true
  second : t.second < 86400

theorem toUniversal_zero (t : Timestamp) (h : t.second < 86400) : t.toUniversal 0 = t := by
  have hlow : ¬((t.second : Int) < 0) := by omega
  have hhigh : ¬(86400 ≤ (t.second : Int)) := by omega
  simp [toUniversal, hlow, hhigh]

theorem mark?_skipBlanks (hc : Unicode.isWhiteSpace c = false) :
    mark? c (skipBlanks (c :: rest)) = some rest := by
  rw [skipBlanks, List.dropWhile_cons_of_neg (by simp [hc]), mark?, if_pos (beq_self_eq_true c)]

/-- A day of the calendar is a day of one of twelve months. -/
theorem bounds_of_isValid {date : Date} (h : date.isValid = true) :
    (1 ≤ date.month ∧ date.month ≤ 12) ∧ 1 ≤ date.day ∧ date.day ≤ 31 := by
  have hdays : Date.monthDays date.year date.month ≤ 31 := by
    fun_cases Date.monthDays date.year date.month <;> decide
  simp only [Date.isValid, Bool.and_eq_true, decide_eq_true_eq] at h
  omega

/-- A time is read from its text. -/
theorem ofText?_text {t : Timestamp} (h : t.InCalendar)
    (hyear : 0 ≤ t.date.year ∧ t.date.year ≤ 9999) (hnano : t.nano < 1000000000) :
    ofText? t.text = some t := by
  obtain ⟨⟨year, month, day⟩, second, nano⟩ := t
  obtain ⟨hdate, hsecond⟩ := h
  obtain ⟨hmonth, hday⟩ := bounds_of_isValid hdate
  simp only at hyear hnano hdate hsecond hmonth hday
  have htext : text ⟨⟨year, month, day⟩, second, nano⟩ =
      padded 4 year.toNat ++ '-' :: (padded 2 month ++ '-' :: (padded 2 day ++ 'T' ::
        (padded 2 (second / 3600) ++ ':' :: (padded 2 (second / 60 % 60) ++ ':' ::
          (padded 2 (second % 60) ++ (fractionText nano ++ ['Z'])))))) := by
    have hleap : ¬(1000000000 ≤ nano) := by omega
    simp [text, yearText, hyear, hleap]
  rw [htext]
  refine Option.bind_eq_some_iff.mpr ⟨_, year?_padded (by omega), ?_⟩
  refine Option.bind_eq_some_iff.mpr ⟨_, mark?_skipBlanks (by decide), ?_⟩
  refine Option.bind_eq_some_iff.mpr ⟨_, part?_padded (by omega) hmonth, ?_⟩
  refine Option.bind_eq_some_iff.mpr ⟨_, mark?_skipBlanks (by decide), ?_⟩
  refine Option.bind_eq_some_iff.mpr ⟨_, part?_padded (by omega) hday, ?_⟩
  refine Option.bind_eq_some_iff.mpr ⟨(), rfl, ?_⟩
  refine Option.bind_eq_some_iff.mpr ⟨_, part?_padded (by omega) (by omega), ?_⟩
  refine Option.bind_eq_some_iff.mpr ⟨_, mark?_skipBlanks (by decide), ?_⟩
  refine Option.bind_eq_some_iff.mpr ⟨_, part?_padded (by omega) (by omega), ?_⟩
  refine Option.bind_eq_some_iff.mpr ⟨_, mark?_skipBlanks (by decide), ?_⟩
  refine Option.bind_eq_some_iff.mpr ⟨_, part?_padded (by omega) (by omega), ?_⟩
  refine Option.bind_eq_some_iff.mpr ⟨_, fraction?_fractionText hnano, ?_⟩
  refine Option.bind_eq_some_iff.mpr ⟨(0, []), rfl, ?_⟩
  refine Option.bind_eq_some_iff.mpr ⟨(), rfl, ?_⟩
  have hsum : second / 3600 * 3600 + second / 60 % 60 * 60 + second % 60 = second := by omega
  have hshort : (second % 60 == 60) = false := beq_false_of_ne (by omega)
  have hwhole : (year.toNat : Int) = year := by omega
  have huniversal := toUniversal_zero ⟨⟨year, month, day⟩, second, nano⟩ hsecond
  simp only [hwhole, hshort, hsum, huniversal, hdate, Bool.false_eq_true, if_false, Nat.add_zero]
  rfl

/-! ## Times that are read -/

theorem part?_bounds (h : part? lo hi ds = some (n, rest)) : lo ≤ n ∧ n ≤ hi := by
  simp only [part?, Option.bind_eq_bind, Option.bind_eq_some_iff, Option.guard_eq_some',
    Prod.exists, Option.pure_def, Option.some.injEq, Prod.mk.injEq] at h
  obtain ⟨_, _, -, _, hbounds, rfl, -⟩ := h
  exact hbounds

theorem offset?_bounds {offset : Int} (h : offset? ds = some (offset, rest)) :
    -86400 < offset ∧ offset < 86400 := by
  simp only [offset?] at h
  split at h
  · cases h
    decide
  · -- a sign with less than a day behind it
    split at h
    case h_1 | h_2 =>
      cases h
      decide
    case h_6 => cases h
    all_goals
      simp only [Option.bind_eq_bind, Option.bind_eq_some_iff, Option.guard_eq_some', Prod.exists,
        Option.pure_def, Option.some.injEq, Prod.mk.injEq] at h
      obtain ⟨hours, _, -, minutes, _, -, _, hbounds, rfl, -⟩ := h
      omega

theorem toUniversal_second {t : Timestamp} {offset : Int} (ht : t.second < 86400)
    (hoffset : -86400 < offset ∧ offset < 86400) : (t.toUniversal offset).second < 86400 := by
  fun_cases toUniversal t offset <;> simp only <;> omega

/-- A time that is read stands in the calendar. -/
theorem inCalendar_of_ofText? {t : Timestamp} (h : ofText? ds = some t) : t.InCalendar := by
  obtain ⟨⟨year, _⟩, -, h⟩ := Option.bind_eq_some_iff.mp h
  obtain ⟨_, -, h⟩ := Option.bind_eq_some_iff.mp h
  obtain ⟨⟨month, _⟩, -, h⟩ := Option.bind_eq_some_iff.mp h
  obtain ⟨_, -, h⟩ := Option.bind_eq_some_iff.mp h
  obtain ⟨⟨day, cs⟩, -, h⟩ := Option.bind_eq_some_iff.mp h
  cases cs with
  | nil => cases h
  | cons mark cs =>
      simp only [Option.bind_eq_bind, Option.bind_eq_some_iff, Option.guard_eq_some', Prod.exists,
        Option.pure_def, Option.some.injEq] at h
      obtain ⟨_, -, hour, _, hhour, _, -, minute, _, hminute, _, -, second, _, hsecond, nano, _, -,
        offset, _, hoffset, _, -, _, -, _, hdate, rfl⟩ := h
      have hhour := part?_bounds hhour
      have hminute := part?_bounds hminute
      have hsecond := part?_bounds hsecond
      refine ⟨hdate, toUniversal_second ?_ (offset?_bounds hoffset)⟩
      simp only [beq_iff_eq]
      split <;> omega

end Timestamp

end LogWarden
