import LogWarden.Event.Registry
import LogWarden.Proofs.Unicode.Caseless
import Mathlib.Data.List.TakeWhile

/-!
# Amounts of money

An amount has commas between its digits wherever the game puts them, a point and two more digits.
Without the commas it is digits around a point, and such a text is always a number.
-/

namespace LogWarden

namespace Binary64

variable {cs ds whole cents rest : List Char} {n count : Nat}

theorem digitRun_append (hdigits : ∀ x ∈ ds, x.isDigit = true)
    (hrest : ∀ x ∈ rest.head?, x.isDigit = false) :
    digitRun n count (ds ++ rest) = (Nat.ofDigitChars 10 ds n, count + ds.length, rest) := by
  induction ds generalizing n count with
  | nil =>
      cases rest with
      | nil => rfl
      | cons x rest =>
          have hx : x.isDigit = false := hrest x rfl
          simp [digitRun, hx]
  | cons x ds ih =>
      have hx : x.isDigit = true := hdigits x List.mem_cons_self
      rw [List.cons_append, digitRun, if_pos hx,
        ih fun y hy => hdigits y (List.mem_cons_of_mem x hy), Nat.ofDigitChars_cons,
        Nat.mul_comm 10 n, List.length_cons, Nat.add_assoc, Nat.add_comm 1]

theorem digitRun_eq (hdigits : ∀ x ∈ ds, x.isDigit = true) :
    digitRun 0 0 ds = (Nat.ofDigitChars 10 ds 0, ds.length, []) := by
  have hrun : digitRun 0 0 (ds ++ []) = (Nat.ofDigitChars 10 ds 0, 0 + ds.length, []) :=
    digitRun_append hdigits (by simp)
  rwa [List.append_nil, Nat.zero_add] at hrun

theorem signOf_of_ne (h : ∀ x ∈ cs.head?, x ≠ '-' ∧ x ≠ '+') : signOf cs = (false, cs) := by
  unfold signOf
  split
  · exact absurd rfl (h _ rfl).1
  · exact absurd rfl (h _ rfl).2
  · rfl

/-- Digits around a point are a number. -/
theorem ofText?_of_digits (hwhole : ∀ x ∈ whole, x.isDigit = true)
    (hcents : ∀ x ∈ cents, x.isDigit = true) (hne : cents ≠ []) :
    ofText? (whole ++ '.' :: cents) = some (ofLongDecimal false
      (Nat.ofDigitChars 10 cents (Nat.ofDigitChars 10 whole 0)) (whole.length + cents.length)
      (-cents.length)) := by
  have hsign : signOf (whole ++ '.' :: cents) = (false, whole ++ '.' :: cents) := by
    apply signOf_of_ne
    cases whole with
    | nil => simp
    | cons x whole =>
        rintro _ ⟨⟩
        have hx := hwhole x List.mem_cons_self
        constructor <;> rintro rfl <;> cases hx
  -- No name of infinity or of not-a-number has a point.
  have hpoint : '.' ∈ (String.ofList ((whole ++ '.' :: cents).map Char.toLower)).toList := by
    rw [String.toList_ofList]
    exact List.mem_map.mpr ⟨'.', by simp, by decide⟩
  rw [ofText?, hsign]
  dsimp only
  split
  · next heq => exact absurd (heq ▸ hpoint) (by decide)
  · next heq => exact absurd (heq ▸ hpoint) (by decide)
  · next heq => exact absurd (heq ▸ hpoint) (by decide)
  · rw [digitRun_append hwhole (by simp)]
    have hrun := @digitRun_append cents [] (Nat.ofDigitChars 10 whole 0) (0 + whole.length)
      hcents nofun
    rw [List.append_nil] at hrun
    have hlength : 0 + whole.length + cents.length ≠ 0 := by
      have := List.length_pos_iff.mpr hne
      omega
    simp only [hrun, if_neg hlength, exponent?, Option.map_some]
    congr 2 <;> omega

end Binary64

/-- A text without blanks has none at its ends. -/
theorem Text.trimChars_of_no_blank {cs : List Char}
    (h : ∀ x ∈ cs, Unicode.isWhiteSpace x = false) : trimChars cs = cs := by
  have hkept (w : List Char) (hw : ∀ x ∈ w, Unicode.isWhiteSpace x = false) :
      w.dropWhile Unicode.isWhiteSpace = w := by
    rw [List.dropWhile_eq_self_iff]
    intro hl
    simp [hw _ (List.getElem_mem hl)]
  rw [trimChars, trimStart, hkept cs h, trimEnd, hkept, List.reverse_reverse]
  intro x hx
  exact h x (List.mem_reverse.mp hx)

/-- An amount of money as the game writes it. -/
structure Amount where
  whole : String
  cents : String
  whole_ne : whole ≠ ""
  whole_plain : ∀ x ∈ whole.toList, x.isDigit = true ∨ x = ','
  cents_length : cents.length = 2
  cents_digit : ∀ x ∈ cents.toList, x.isDigit = true

namespace Amount

variable (a : Amount)

def text : String :=
  a.whole ++ "." ++ a.cents

theorem toList_text : a.text.toList = a.whole.toList ++ '.' :: a.cents.toList := by
  simp [text]

/-- The digits of an amount are a number, and this is the number that the amount denotes. -/
theorem exists_value :
    ∃ x, Binary64.ofText? (a.text.toList.filter (· != ',')) = some x ∧
      ∀ kind field, Builtin.amount kind field a.text = .ok x := by
  have hwhole : ∀ x ∈ a.whole.toList.filter (· != ','), x.isDigit = true := by
    intro x hx
    obtain ⟨hx, hcomma⟩ := List.mem_filter.mp hx
    exact (a.whole_plain x hx).resolve_right (bne_iff_ne.mp hcomma)
  have hcents : a.cents.toList.filter (· != ',') = a.cents.toList := by
    refine List.filter_eq_self.mpr fun x hx => bne_iff_ne.mpr ?_
    rintro rfl
    exact absurd (a.cents_digit ',' hx) (by decide)
  have hne : a.cents.toList ≠ [] := by
    have := a.cents_length
    rw [← String.length_toList] at this
    exact List.ne_nil_of_length_pos (by omega)
  have hdigits : a.text.toList.filter (· != ',') =
      a.whole.toList.filter (· != ',') ++ '.' :: a.cents.toList := by
    rw [toList_text, List.filter_append, List.filter_cons_of_pos (by decide), hcents]
  have hblank : ∀ x ∈ a.text.toList.filter (· != ','), Unicode.isWhiteSpace x = false := by
    have hdigit {x : Char} (hx : x.isDigit = true) : Unicode.isWhiteSpace x = false :=
      Unicode.isWhiteSpace_of_isPlainWordChar (Unicode.isPlainWordChar_of_isDigit hx)
    rw [hdigits]
    intro x hx
    rcases List.mem_append.mp hx with hx | hx
    · exact hdigit (hwhole x hx)
    · rcases List.mem_cons.mp hx with rfl | hx
      · decide
      · exact hdigit (a.cents_digit x hx)
  have hvalue := Binary64.ofText?_of_digits hwhole a.cents_digit hne
  rw [← hdigits] at hvalue
  refine ⟨_, hvalue, fun kind field => ?_⟩
  rw [Builtin.amount, Text.trimChars_of_no_blank hblank, hvalue]

end Amount

end LogWarden
