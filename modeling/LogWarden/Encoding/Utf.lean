/-! # Reading UTF-8 and UTF-16

In UTF-8 a character has one to four bytes. Bytes that begin a character but do not complete it are
lost together. In UTF-16 it has one unit of two bytes, or two units. Half a unit at the end is lost
together with a first unit before it. -/

namespace LogWarden.Encoding.Utf8

/-- Reads the rest of a character: `need` more bytes, the next one between `lo` and `hi`. -/
def readRest : Nat → Nat → Nat → Nat → Nat → List UInt8 → Char × Nat
  | 0, _, _, code, used, _ => (Char.ofNat code, used)
  | _ + 1, _, _, _, used, [] => ('\uFFFD', used)
  | need + 1, lo, hi, code, used, b :: rest =>
    if lo ≤ b.toNat ∧ b.toNat ≤ hi then
      readRest need 0x80 0xBF (code * 64 + (b.toNat - 0x80)) (used + 1) rest
    else ('\uFFFD', used)

/-- Reads the character that a byte starts: the character and how many of the following bytes it
takes. -/
def read (b : UInt8) (rest : List UInt8) : Char × Nat :=
  let b := b.toNat
  if b < 0x80 then (Char.ofNat b, 0)
  else if 0xC2 ≤ b ∧ b ≤ 0xDF then readRest 1 0x80 0xBF (b - 0xC0) 0 rest
  else if b = 0xE0 then readRest 2 0xA0 0xBF 0 0 rest
  else if b = 0xED then readRest 2 0x80 0x9F 0xD 0 rest
  else if 0xE1 ≤ b ∧ b ≤ 0xEF then readRest 2 0x80 0xBF (b - 0xE0) 0 rest
  else if b = 0xF0 then readRest 3 0x90 0xBF 0 0 rest
  else if 0xF1 ≤ b ∧ b ≤ 0xF3 then readRest 3 0x80 0xBF (b - 0xF0) 0 rest
  else if b = 0xF4 then readRest 3 0x80 0x8F 4 0 rest
  else ('\uFFFD', 0)

end LogWarden.Encoding.Utf8

namespace LogWarden.Encoding.Utf16

/-- The order of the two bytes of a unit. -/
inductive ByteOrder
  | little | big
  deriving DecidableEq, Repr

/-- The unit of two bytes. -/
def unit (order : ByteOrder) (a b : UInt8) : Nat :=
  match order with
  | .little => b.toNat * 256 + a.toNat
  | .big => a.toNat * 256 + b.toNat

/-- Whether a unit is the first of two. -/
def isHigh (u : Nat) : Bool := 0xD800 ≤ u && u < 0xDC00

/-- Whether a unit is the second of two. -/
def isLow (u : Nat) : Bool := 0xDC00 ≤ u && u < 0xE000

/-- Reads the character that a byte starts: the character and how many of the following bytes it
takes. -/
def read (order : ByteOrder) (a : UInt8) : List UInt8 → Char × Nat
  | [] => ('\uFFFD', 0)
  | b :: rest =>
    let u := unit order a b
    if isHigh u then
      match rest with
      | c :: d :: _ =>
        let v := unit order c d
        if isLow v then (Char.ofNat (0x10000 + (u - 0xD800) * 1024 + (v - 0xDC00)), 3)
        else ('\uFFFD', 1)
      | rest => ('\uFFFD', 1 + rest.length)
    else if isLow u then ('\uFFFD', 1)
    else (Char.ofNat u, 1)

end LogWarden.Encoding.Utf16
