import LogWarden.Encoding.Index

/-! # Reading Big5, EUC-KR, EUC-JP, Shift_JIS and ISO-2022-JP

Most characters have codes of two bytes, a lead byte and a trail byte. Where a lead byte has no trail
byte that makes a code with it, it is lost; what stands behind it is lost with it unless that is of
ASCII. In ISO-2022-JP all bytes are of ASCII, and escapes say what they stand for. -/

namespace LogWarden.Encoding

/-- Reads what stands behind a lead byte, given the text of each trail byte: the text and how many
bytes are taken. -/
def readTrail (text? : Nat → Option (List Char)) : List UInt8 → List Char × Nat
  | [] => (['\uFFFD'], 0)
  | t :: _ =>
    match text? t.toNat with
    | some text => (text, 1)
    | none => (['\uFFFD'], if t.toNat < 0x80 then 0 else 1)

/-- The half-width katakana and signs, counted from the first. -/
def katakana (n : Nat) : Char := Char.ofNat (0xFF61 + n)

namespace Big5

/-- The number of a code. -/
def code? (lead trail : Nat) : Option Nat :=
  if 0x40 ≤ trail ∧ trail ≤ 0x7E then some ((lead - 0x81) * 157 + (trail - 0x40))
  else if 0xA1 ≤ trail ∧ trail ≤ 0xFE then some ((lead - 0x81) * 157 + (trail - 0x62))
  else none

/-- The text of a code. Four codes stand for a letter and a mark. -/
def text? (code : Nat) : Option (List Char) :=
  match code with
  | 1133 => some ['\u00CA', '\u0304']
  | 1135 => some ['\u00CA', '\u030C']
  | 1164 => some ['\u00EA', '\u0304']
  | 1166 => some ['\u00EA', '\u030C']
  | _ => (Index.big5.char? code).map ([·])

/-- Reads the text that a byte starts, and how many of the following bytes it takes. -/
def read (b : UInt8) (rest : List UInt8) : List Char × Nat :=
  if b.toNat < 0x80 then ([Char.ofNat b.toNat], 0)
  else if 0x81 ≤ b.toNat ∧ b.toNat ≤ 0xFE then
    readTrail (fun t => (code? b.toNat t).bind text?) rest
  else (['\uFFFD'], 0)

end Big5

namespace EucKr

/-- The text of a code. -/
def text? (lead trail : Nat) : Option (List Char) :=
  if 0x41 ≤ trail ∧ trail ≤ 0xFE then
    (Index.ksX1001.char? ((lead - 0x81) * 190 + (trail - 0x41))).map ([·])
  else none

/-- Reads the text that a byte starts, and how many of the following bytes it takes. -/
def read (b : UInt8) (rest : List UInt8) : List Char × Nat :=
  if b.toNat < 0x80 then ([Char.ofNat b.toNat], 0)
  else if 0x81 ≤ b.toNat ∧ b.toNat ≤ 0xFE then readTrail (text? b.toNat) rest
  else (['\uFFFD'], 0)

end EucKr

namespace EucJp

/-- Whether a byte is one of a code of JIS X 0208 or JIS X 0212. -/
def isCode (b : Nat) : Bool := 0xA1 ≤ b && b ≤ 0xFE

/-- The text of a code of two such bytes. -/
def text? (x : Index) (lead trail : Nat) : Option (List Char) :=
  if isCode trail then (x.char? ((lead - 0xA1) * 94 + (trail - 0xA1))).map ([·]) else none

/-- The text of the byte behind the one that announces katakana. -/
def kana? (trail : Nat) : Option (List Char) :=
  if 0xA1 ≤ trail ∧ trail ≤ 0xDF then some [katakana (trail - 0xA1)] else none

/-- Reads what stands behind the byte that announces a code of JIS X 0212. -/
def readFurther : List UInt8 → List Char × Nat
  | [] => (['\uFFFD'], 0)
  | t :: rest =>
    if isCode t.toNat then
      let (text, taken) := readTrail (text? .jis0212 t.toNat) rest
      (text, taken + 1)
    else (['\uFFFD'], if t.toNat < 0x80 then 0 else 1)

/-- Reads the text that a byte starts, and how many of the following bytes it takes. -/
def read (b : UInt8) (rest : List UInt8) : List Char × Nat :=
  if b.toNat < 0x80 then ([Char.ofNat b.toNat], 0)
  else if b.toNat = 0x8E then readTrail kana? rest
  else if b.toNat = 0x8F then readFurther rest
  else if isCode b.toNat then readTrail (text? .jis0208 b.toNat) rest
  else (['\uFFFD'], 0)

end EucJp

namespace ShiftJis

/-- The number of a code. -/
def code? (lead trail : Nat) : Option Nat :=
  let row := lead - if lead < 0xA0 then 0x81 else 0xC1
  if 0x40 ≤ trail ∧ trail ≤ 0x7E then some (row * 188 + (trail - 0x40))
  else if 0x80 ≤ trail ∧ trail ≤ 0xFC then some (row * 188 + (trail - 0x41))
  else none

/-- The text of a code. Some codes are for private use. -/
def text? (code : Nat) : Option (List Char) :=
  if 8836 ≤ code ∧ code ≤ 10715 then some [Char.ofNat (0xE000 + (code - 8836))]
  else (Index.jis0208.char? code).map ([·])

/-- Reads the text that a byte starts, and how many of the following bytes it takes. -/
def read (b : UInt8) (rest : List UInt8) : List Char × Nat :=
  if b.toNat ≤ 0x80 then ([Char.ofNat b.toNat], 0)
  else if 0xA1 ≤ b.toNat ∧ b.toNat ≤ 0xDF then ([katakana (b.toNat - 0xA1)], 0)
  else if 0x81 ≤ b.toNat ∧ b.toNat ≤ 0xFC ∧ b.toNat ≠ 0xA0 then
    readTrail (fun t => (code? b.toNat t).bind text?) rest
  else (['\uFFFD'], 0)

end ShiftJis

namespace Iso2022Jp

/-- What bytes stand for. -/
inductive Mode
  | ascii
  /-- ASCII with a yen sign and an overline. -/
  | roman
  | katakana
  /-- Codes of two bytes. -/
  | kanji
  deriving DecidableEq, Repr

/-- The mode that the two bytes behind an escape byte begin. -/
def Mode.ofEscape? (a b : Nat) : Option Mode :=
  if a = 0x28 ∧ b = 0x42 then some .ascii
  else if a = 0x28 ∧ b = 0x4A then some .roman
  else if a = 0x28 ∧ b = 0x49 then some .katakana
  else if a = 0x24 ∧ (b = 0x40 ∨ b = 0x42) then some .kanji
  else none

/-- The mode that the bytes behind an escape byte begin. -/
def escape? : List UInt8 → Option Mode
  | a :: b :: _ => Mode.ofEscape? a.toNat b.toNat
  | _ => none

/-- The character of a byte of ASCII. Two control characters are not allowed. -/
def asciiChar (b : Nat) : Char :=
  if b < 0x80 ∧ b ≠ 0x0E ∧ b ≠ 0x0F then Char.ofNat b else '\uFFFD'

/-- The character of a code of two bytes. -/
def kanji? (lead trail : Nat) : Option Char :=
  if 0x21 ≤ trail ∧ trail ≤ 0x7E then Index.jis0208.char? ((lead - 0x21) * 94 + (trail - 0x21))
  else none

/-- Reads the character that a byte starts which is no escape byte, and how many of the following
bytes it takes. An escape byte is not taken. -/
def Mode.read (m : Mode) (b : UInt8) (rest : List UInt8) : Char × Nat :=
  match m with
  | .ascii => (asciiChar b.toNat, 0)
  | .roman =>
    (if b.toNat = 0x5C then '¥' else if b.toNat = 0x7E then '‾' else asciiChar b.toNat, 0)
  | .katakana =>
    (if 0x21 ≤ b.toNat ∧ b.toNat ≤ 0x5F then Encoding.katakana (b.toNat - 0x21) else '\uFFFD', 0)
  | .kanji =>
    if 0x21 ≤ b.toNat ∧ b.toNat ≤ 0x7E then
      match rest with
      | [] => ('\uFFFD', 0)
      | t :: _ =>
        if t.toNat = 0x1B then ('\uFFFD', 0)
        else ((kanji? b.toNat t.toNat).getD '\uFFFD', 1)
    else ('\uFFFD', 0)

/-- Decodes bytes in a mode. An escape right behind another one gives a replacement character, and so
does an escape byte that begins no mode. -/
def decode (m : Mode) (escaped : Bool) : List UInt8 → List Char
  | [] => []
  | b :: rest =>
    if b.toNat = 0x1B then
      match escape? rest with
      | some next => (if escaped then ['\uFFFD'] else []) ++ decode next true (rest.drop 2)
      | none => '\uFFFD' :: decode m false rest
    else (m.read b rest).1 :: decode m false (rest.drop (m.read b rest).2)
termination_by bytes => bytes.length
decreasing_by all_goals simp only [List.length_drop, List.length_cons]; omega

end Iso2022Jp

end LogWarden.Encoding
