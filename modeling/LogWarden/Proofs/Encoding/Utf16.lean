import LogWarden.Proofs.Encoding.LineFeeds

/-!
# Texts of ASCII in UTF-16

In UTF-16 a character of ASCII has two bytes, one of which is zero. No other bytes stand for it.
-/

namespace LogWarden.Encoding

/-- All characters of a text are of ASCII. -/
def IsAscii (text : List Char) : Prop := ∀ c ∈ text, c.toNat < 128

namespace Utf16

/-- The bytes of a character of ASCII. -/
def asciiBytes (order : ByteOrder) (c : Char) : List UInt8 :=
  match order with
  | .little => [UInt8.ofNat c.toNat, 0]
  | .big => [0, UInt8.ofNat c.toNat]

variable {order : ByteOrder} {c : Char} {text : List Char} {a b : UInt8} {bytes : List UInt8}

theorem unit_lt (order : ByteOrder) (a b : UInt8) : unit order a b < 0x10000 := by
  have ha := a.toNat_lt
  have hb := b.toNat_lt
  cases order <;> simp only [unit] <;> omega

theorem asciiBytes_of_unit (h : unit order a b = c.toNat) (hc : c.toNat < 128) :
    [a, b] = asciiBytes order c := by
  have ha := a.toNat_lt
  have hb := b.toNat_lt
  cases order <;> simp only [unit] at h
  all_goals
    simp only [asciiBytes, List.cons.injEq, ← UInt8.toNat_inj, UInt8.toNat_ofNat', and_true]
    constructor <;> simp <;> omega

theorem toNat_ofNat {n : Nat} (h : n.isValidChar) : (Char.ofNat n).toNat = n := by
  rw [Char.ofNat, dif_pos h]
  rfl

/-- No other bytes are read as a character of ASCII. -/
theorem asciiBytes_of_read (h : (read order a bytes).1.toNat < 128) :
    ∃ b rest, bytes = b :: rest ∧ (read order a bytes).2 = 1 ∧
      [a, b] = asciiBytes order (read order a bytes).1 := by
  revert h
  have hlost : ¬( '\uFFFD').toNat < 128 := by decide
  fun_cases read order a bytes with
  | case2 b u hu c d rest v hv =>
      have hcode : (0x10000 + (u - 0xD800) * 1024 + (v - 0xDC00)).isValidChar := by
        simp only [isHigh, isLow, Bool.and_eq_true, decide_eq_true_eq] at hu hv
        exact .inr (by omega)
      rw [toNat_ofNat hcode]
      omega
  | case6 b rest u hhigh hlow =>
      have hlt := unit_lt order a b
      have hcode : u.isValidChar := by
        simp only [isHigh, isLow, Bool.and_eq_true, decide_eq_true_eq] at hhigh hlow
        simp only [Nat.isValidChar]
        omega
      intro h
      exact ⟨b, rest, rfl, rfl, asciiBytes_of_unit (toNat_ofNat hcode).symm h⟩
  | _ => exact fun h => absurd h hlost

/-- A character of ASCII is read from its two bytes. -/
theorem decodeWith_asciiBytes (hc : c.toNat < 128) (rest : List UInt8) :
    decodeWith (single (read order)) (asciiBytes order c ++ rest) =
      c :: decodeWith (single (read order)) rest := by
  have hchar : (UInt8.ofNat c.toNat).toNat = c.toNat := by
    rw [UInt8.toNat_ofNat']
    omega
  have hhigh : isHigh c.toNat = false := by simp [isHigh]; omega
  have hlow : isLow c.toNat = false := by simp [isLow]; omega
  cases order
  all_goals
    simp only [asciiBytes, List.cons_append, List.nil_append, decodeWith_single_cons, read, unit,
      hchar]
    simp [hhigh, hlow, Char.ofNat_toNat]

theorem decodeWith_flatMap (htext : IsAscii text) (rest : List UInt8) :
    decodeWith (single (read order)) (text.flatMap (asciiBytes order) ++ rest) =
      text ++ decodeWith (single (read order)) rest := by
  induction text with
  | nil => rfl
  | cons c text ih =>
      obtain ⟨hc, htext⟩ := List.forall_mem_cons.mp htext
      rw [List.flatMap_cons, List.append_assoc, decodeWith_asciiBytes hc, ih htext,
        List.cons_append]

/-- Bytes that are decoded to a text of ASCII are those of its characters. -/
theorem eq_flatMap_of_decodeWith (htext : IsAscii (decodeWith (single (read order)) bytes)) :
    bytes = (decodeWith (single (read order)) bytes).flatMap (asciiBytes order) := by
  fun_induction decodeWith (single (read order)) bytes with
  | case1 => rfl
  | case2 a bytes ih =>
      simp only [single, List.singleton_append] at ih htext ⊢
      obtain ⟨hc, htext⟩ := List.forall_mem_cons.mp htext
      obtain ⟨b, rest, rfl, htaken, hbytes⟩ := asciiBytes_of_read hc
      rw [htaken] at ih htext ⊢
      rw [List.flatMap_cons, ← hbytes, ← ih htext]
      rfl

end Utf16

end LogWarden.Encoding
