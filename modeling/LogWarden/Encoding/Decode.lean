import LogWarden.Encoding.Basic
import LogWarden.Encoding.EastAsian
import LogWarden.Encoding.Gb18030
import LogWarden.Encoding.Utf

/-! # Decoding bytes

Bytes are decoded from the left, one character after another. Bytes that stand for no character give
a replacement character, so decoding never fails. A byte order mark is a character like others. -/

namespace LogWarden.Encoding

/-- Decodes bytes by a reader of texts. The reader is given a byte and the bytes behind it, and says
how many of those the text takes that the byte starts. -/
def decodeWith (read : UInt8 → List UInt8 → List Char × Nat) : List UInt8 → List Char
  | [] => []
  | b :: rest =>
    (read b rest).1 ++ decodeWith read (rest.drop (read b rest).2)
termination_by bytes => bytes.length
decreasing_by simp only [List.length_drop, List.length_cons]; omega

/-- A reader of single characters as a reader of texts. -/
def single (read : UInt8 → List UInt8 → Char × Nat) (b : UInt8) (rest : List UInt8) :
    List Char × Nat :=
  ([(read b rest).1], (read b rest).2)

/-- The character of a byte where those from 80 on are for private use. -/
def userDefinedChar (b : UInt8) : Char :=
  if b.toNat < 0x80 then Char.ofNat b.toNat else Char.ofNat (0xF780 + (b.toNat - 0x80))

/-- Decodes bytes. -/
def decode : Encoding → List UInt8 → List Char
  | .utf8, bytes => decodeWith (single Utf8.read) bytes
  | .gbk, bytes => decodeWith (single Gb18030.read) bytes
  | .gb18030, bytes => decodeWith (single Gb18030.read) bytes
  | .big5, bytes => decodeWith Big5.read bytes
  | .eucJp, bytes => decodeWith EucJp.read bytes
  | .iso2022Jp, bytes => Iso2022Jp.decode .ascii false bytes
  | .shiftJis, bytes => decodeWith ShiftJis.read bytes
  | .eucKr, bytes => decodeWith EucKr.read bytes
  | .utf16be, bytes => decodeWith (single (Utf16.read .big)) bytes
  | .utf16le, bytes => decodeWith (single (Utf16.read .little)) bytes
  | .replacement, [] => []
  | .replacement, _ :: _ => ['\uFFFD']
  | .userDefined, bytes => bytes.map userDefinedChar
  | .codePage page, bytes => bytes.map page.char

end LogWarden.Encoding
