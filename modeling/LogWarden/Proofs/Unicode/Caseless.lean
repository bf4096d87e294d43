import LogWarden.Pattern.CharClass
import Mathlib.Data.List.Forall2

/-!
# Characters without case

A character that case folding neither moves nor reaches is equal up to case to itself only. So a
class of such characters has the same members when it is matched up to case. A plain word character
is a word character of any text, and never blank.
-/

namespace LogWarden.Unicode

/-- Whether case folding neither moves a character nor moves another one to it. -/
def isCaseless (c : Char) : Bool :=
  c.toNat != 0 && !c.isAlpha &&
    foldingRuns.all fun r => !r.moves c.toNat && (r.preimage? c.toNat).isNone

variable {c d v : Char} {m : CaseMap} {n : Nat}

theorem CaseMap.codeImage_eq (m : CaseMap) (n : Nat) :
    m.codeImage n = n ∨ ∃ r ∈ m, r.moves n = true ∧ m.codeImage n = r.image n := by
  induction m with
  | nil => exact .inl rfl
  | cons r rest ih =>
      rw [codeImage]
      split
      · exact .inl rfl
      · split
        · next hmoves => exact .inr ⟨r, List.mem_cons_self, hmoves, rfl⟩
        · rcases ih with h | ⟨r', hr', hmoves, h⟩
          · exact .inl h
          · exact .inr ⟨r', List.mem_cons_of_mem r hr', hmoves, h⟩

theorem toNat_eq_of_ofNat_eq (h : Char.ofNat n = c) (hc : c.toNat ≠ 0) : c.toNat = n := by
  by_cases hvalid : n.isValidChar
  · have haux : Char.ofNat n = Char.ofNatAux n hvalid := dif_pos hvalid
    rw [← h, haux]
    rfl
  · have hzero : Char.ofNat n = '\x00' := dif_neg hvalid
    rw [← h, hzero] at hc
    exact absurd rfl hc

/-- Among the first 128 characters case folding moves letters to letters, and nothing else. -/
theorem toLower_of_lt (h : c.toNat < 128) :
    c.toLower = c ∨ c.isAlpha = true ∧ c.toLower.isAlpha = true := by
  have hall : ∀ n < 128, (Char.ofNat n).toLower = Char.ofNat n ∨
      (Char.ofNat n).isAlpha = true ∧ (Char.ofNat n).toLower.isAlpha = true := by
    decide
  have hc := hall c.toNat h
  rwa [Char.ofNat_toNat] at hc

theorem isCaseless_iff :
    isCaseless c = true ↔ c.toNat ≠ 0 ∧ c.isAlpha = false ∧
      ∀ r ∈ foldingRuns, r.moves c.toNat = false ∧ r.preimage? c.toNat = none := by
  simp [isCaseless, and_assoc]

theorem foldCase_of_isCaseless (h : isCaseless c) : foldCase c = c := by
  obtain ⟨-, halpha, hruns⟩ := isCaseless_iff.mp h
  rw [foldCase]
  split
  · next hlt =>
      rcases toLower_of_lt hlt with heq | ⟨hletter, -⟩
      · exact heq
      · rw [halpha] at hletter
        cases hletter
  · rcases foldingRuns.codeImage_eq c.toNat with heq | ⟨r, hr, hmoves, -⟩
    · rw [CaseMap.image, heq, Char.ofNat_toNat]
    · rw [(hruns r hr).1] at hmoves
      cases hmoves

/-- Case folding leads to a character without case from itself only. -/
theorem eq_of_foldCase_eq (h : isCaseless d) (heq : foldCase c = d) : c = d := by
  obtain ⟨hzero, halpha, hruns⟩ := isCaseless_iff.mp h
  rw [foldCase] at heq
  split at heq
  · next hlt =>
      rcases toLower_of_lt hlt with hsame | ⟨-, hletter⟩
      · rw [← heq, hsame]
      · rw [heq, halpha] at hletter
        cases hletter
  · rcases foldingRuns.codeImage_eq c.toNat with hsame | ⟨r, hr, hmoves, himage⟩
    · rw [← heq, CaseMap.image, hsame, Char.ofNat_toNat]
    · -- The run that moves the character would reach it from there.
      have hcode : d.toNat = r.image c.toNat := by
        rw [← himage]
        exact toNat_eq_of_ofNat_eq heq hzero
      have hback : ((d.toNat : Int) - r.shift).toNat = c.toNat := by
        rw [CaseRun.image] at hcode
        omega
      have hreached : r.preimage? d.toNat = some c.toNat := by
        rw [CaseRun.preimage?, hback, if_pos]
        rw [hmoves, hcode]
        simp
      rw [(hruns r hr).2] at hreached
      cases hreached

theorem sameUpToCase_iff (h : isCaseless d) : sameUpToCase c d = true ↔ c = d := by
  rw [sameUpToCase, Bool.or_eq_true, beq_iff_eq, beq_iff_eq, foldCase_of_isCaseless h]
  exact or_iff_left_of_imp (eq_of_foldCase_eq h)

theorem sameUpToCase_iff_of_isCaseless (h : isCaseless c) : sameUpToCase c d = true ↔ c = d := by
  rw [sameUpToCase, Bool.or_eq_true, beq_iff_eq, beq_iff_eq, foldCase_of_isCaseless h]
  exact or_iff_left_of_imp fun heq => (eq_of_foldCase_eq h heq.symm).symm

theorem sameUpToCase_self (c : Char) : sameUpToCase c c = true := by
  simp [sameUpToCase]

theorem eq_of_forall₂_sameUpToCase {v w : List Char} (hw : ∀ x ∈ w, isCaseless x = true)
    (h : List.Forall₂ (fun x y => sameUpToCase x y = true) v w) : v = w := by
  induction h with
  | nil => rfl
  | cons hx _ ih =>
      obtain ⟨hhead, htail⟩ := List.forall_mem_cons.mp hw
      rw [(sameUpToCase_iff hhead).mp hx, ih htail]

/-- A character without case is a case variant of itself only. -/
theorem eq_of_mem_caseVariants (h : isCaseless v) (hv : v ∈ caseVariants c) : c = v := by
  obtain ⟨hzero, -, hruns⟩ := isCaseless_iff.mp h
  rcases List.mem_cons.mp hv with hfold | hmoved
  · exact eq_of_foldCase_eq h hfold.symm
  · obtain ⟨r, hr, hpreimage⟩ := List.mem_filterMap.mp hmoved
    obtain ⟨code, hcode, hchar⟩ := Option.map_eq_some_iff.mp hpreimage
    have hv : v.toNat = code := toNat_eq_of_ofNat_eq hchar hzero
    rw [CaseRun.preimage?] at hcode
    split at hcode
    · next hmoves =>
        cases hcode
        rw [Bool.and_eq_true, ← hv, (hruns r hr).1] at hmoves
        cases hmoves.1
    · cases hcode

theorem caseVariants_of_isCaseless (h : isCaseless c) : caseVariants c = [c] := by
  obtain ⟨-, -, hruns⟩ := isCaseless_iff.mp h
  have hnone : foldingRuns.preimages c = [] := by
    rw [CaseMap.preimages, List.filterMap_eq_nil_iff]
    intro r hr
    rw [(hruns r hr).2, Option.map_none]
  rw [caseVariants, foldCase_of_isCaseless h, hnone]

/-- What holds of all code points of ranges holds of the characters in them. -/
theorem Ranges.forall_of_contains {P : Nat → Prop} {rs : Ranges}
    (h : ∀ range ∈ rs, ∀ code ∈ List.range' range.1 (range.2 + 1 - range.1), P code)
    (hc : rs.contains c = true) : P c.toNat := by
  rw [contains] at hc
  induction rs with
  | nil => cases hc
  | cons range rest ih =>
      rw [containsCode] at hc
      split at hc
      · cases hc
      · next hlow =>
          rcases Bool.or_eq_true_iff.mp hc with hhigh | hrest
          · have hle := of_decide_eq_true hhigh
            refine h range List.mem_cons_self _ (List.mem_range'_1.mpr ?_)
            omega
          · exact ih (fun range' hrange => h range' (List.mem_cons_of_mem range hrange)) hrest

theorem isCaseless_of_isWhiteSpace (h : isWhiteSpace c) : isCaseless c = true := by
  have hall : ∀ range ∈ whiteSpaceRanges, ∀ code ∈ List.range' range.1 (range.2 + 1 - range.1),
      isCaseless (Char.ofNat code) = true := by
    decide +kernel
  have hc := Ranges.forall_of_contains hall h
  rwa [Char.ofNat_toNat] at hc

theorem isWordChar_of_isWhiteSpace (h : isWhiteSpace c = true) : isWordChar c = false := by
  have hall : ∀ range ∈ whiteSpaceRanges, ∀ code ∈ List.range' range.1 (range.2 + 1 - range.1),
      isWordChar (Char.ofNat code) = false := by
    decide +kernel
  have hc := Ranges.forall_of_contains hall h
  rwa [Char.ofNat_toNat] at hc

/-- No word character is blank. -/
theorem isWhiteSpace_of_isWordChar (h : isWordChar c = true) : isWhiteSpace c = false := by
  by_contra hblank
  rw [isWordChar_of_isWhiteSpace (Bool.not_eq_false _ ▸ hblank)] at h
  cases h

/-! ## Plain word characters -/

theorem isUpper_eq (c : Char) : c.isUpper = (decide ('A' ≤ c) && decide (c ≤ 'Z')) :=
  Bool.decide_and _ _

theorem isPlainWordChar_eq (c : Char) : isPlainWordChar c =
    ((decide ('A' ≤ c) && decide (c ≤ 'Z')) || (decide ('a' ≤ c) && decide (c ≤ 'z')) ||
      (decide ('0' ≤ c) && decide (c ≤ '9')) || c == '_') := by
  rw [← isUpper_eq]
  rfl

theorem toNat_lt_of_isPlainWordChar (h : isPlainWordChar c = true) : c.toNat < 128 := by
  simp only [isPlainWordChar_eq, Bool.or_eq_true, Bool.and_eq_true, decide_eq_true_eq,
    beq_iff_eq] at h
  rcases h with ((⟨-, h⟩ | ⟨-, h⟩) | ⟨-, h⟩) | rfl
  · exact Nat.lt_of_le_of_lt h (by decide)
  · exact Nat.lt_of_le_of_lt h (by decide)
  · exact Nat.lt_of_le_of_lt h (by decide)
  · decide

/-- What holds of the plain word characters among the first 128 characters holds of all. -/
theorem forall_of_isPlainWordChar {P : Char → Prop}
    (hall : ∀ n < 128, isPlainWordChar (Char.ofNat n) = true → P (Char.ofNat n))
    (h : isPlainWordChar c = true) : P c := by
  have hc := hall c.toNat (toNat_lt_of_isPlainWordChar h)
  rw [Char.ofNat_toNat] at hc
  exact hc h

theorem isWordChar_of_isPlainWordChar (h : isPlainWordChar c = true) : isWordChar c = true := by
  rw [isWordChar, if_pos (toNat_lt_of_isPlainWordChar h)]
  exact h

theorem isWhiteSpace_of_isPlainWordChar (h : isPlainWordChar c = true) :
    isWhiteSpace c = false := by
  refine forall_of_isPlainWordChar (P := fun c => isWhiteSpace c = false) ?_ h
  decide +kernel

theorem isPlainWordChar_of_isDigit (h : c.isDigit = true) : isPlainWordChar c = true := by
  simp [isPlainWordChar, Char.isAlphanum, h]

/-- What holds of the digits among the first 128 characters holds of all. -/
theorem forall_of_isDigit {P : Char → Prop}
    (hall : ∀ n < 128, (Char.ofNat n).isDigit = true → P (Char.ofNat n))
    (h : c.isDigit = true) : P c :=
  forall_of_isPlainWordChar (P := fun c => c.isDigit = true → P c) (fun n hn _ => hall n hn)
    (isPlainWordChar_of_isDigit h) h

end LogWarden.Unicode

namespace LogWarden.Pattern.CharClass

variable {a : CharClass} {c d : Char}

/-- Up to case a class has its members and those of which a case variant is a member. -/
theorem mem_folded_of_ne_one (h : ∀ d, a ≠ one d) :
    (folded a).mem c = (a.mem c || (Unicode.caseVariants c).any a.mem) := by
  cases a with
  | one d => exact absurd rfl (h d)
  | _ => rfl

theorem mem_folded_one (hd : Unicode.isCaseless d = true) : (folded (one d)).mem c = (c == d) := by
  rw [Bool.eq_iff_iff, beq_iff_eq]
  exact Unicode.sameUpToCase_iff hd

theorem mem_folded_of_mem (h : a.mem c = true) : (folded a).mem c = true := by
  by_cases hone : ∃ d, a = one d
  · obtain ⟨d, rfl⟩ := hone
    obtain rfl : c = d := eq_of_beq h
    exact Unicode.sameUpToCase_self c
  · rw [mem_folded_of_ne_one (not_exists.mp hone), h, Bool.true_or]

/-- A class without letters has the same members up to case. -/
theorem mem_folded (ha : ∀ v, a.mem v = true → Unicode.isCaseless v = true) (c : Char) :
    (folded a).mem c = a.mem c := by
  by_cases hone : ∃ d, a = one d
  · obtain ⟨d, rfl⟩ := hone
    exact mem_folded_one (ha d (beq_self_eq_true d))
  · rw [mem_folded_of_ne_one (not_exists.mp hone), Bool.eq_iff_iff, Bool.or_eq_true]
    refine or_iff_left_of_imp fun hany => ?_
    obtain ⟨v, hv, hmem⟩ := List.any_eq_true.mp hany
    rwa [Unicode.eq_of_mem_caseVariants (ha v hmem) hv]

end LogWarden.Pattern.CharClass
