import LogWarden.Number.Shortest

/-! # Decimal text of numbers

`DecimalStyle` holds what a text of a number leaves open once its digits are chosen. `ofText?` reads
the text of an amount. -/

namespace LogWarden

/-- The decimal digits of a whole number. -/
def decimalDigits (n : Nat) : List Char :=
  Nat.toDigits 10 n

/-- The decimal text of a whole number. -/
def intText (n : Int) : List Char :=
  if n < 0 then '-' :: decimalDigits n.natAbs else decimalDigits n.natAbs

/-- How the text of a number is written. -/
structure DecimalStyle where
  /-- The least exponent of the first digit that is written without an exponent. -/
  leastPlain : Int
  /-- The greatest exponent of the first digit that is written without an exponent. -/
  greatestPlain : Int
  /-- Whether a positive exponent has a sign. -/
  plusSign : Bool
  deriving DecidableEq, Repr

namespace DecimalStyle

/-- The text of `d * 10 ^ k`, where `d` is positive. A plain text has a fraction, if need be
`.0`. -/
def text (style : DecimalStyle) (d : Nat) (k : Int) : List Char :=
  let digits := decimalDigits d
  let first : Int := digits.length - 1 + k
  if style.leastPlain ≤ first ∧ first ≤ style.greatestPlain then
    if 0 ≤ k then digits ++ List.replicate k.toNat '0' ++ ['.', '0']
    else if 0 ≤ first then
      digits.take (first.toNat + 1) ++ '.' :: digits.drop (first.toNat + 1)
    else '0' :: '.' :: List.replicate (-first - 1).toNat '0' ++ digits
  else
    let sign := if first < 0 then ['-'] else if style.plusSign then ['+'] else []
    let fraction := if digits.length ≤ 1 then [] else '.' :: digits.drop 1
    digits.take 1 ++ fraction ++ 'e' :: sign ++ decimalDigits first.natAbs

/-- The text of a finite number. -/
def finiteText (style : DecimalStyle) (negative : Bool) (m : Nat) (e : Int) : List Char :=
  let body := if m = 0 then ['0', '.', '0'] else
    let (d, k) := Binary64.shortest m e
    style.text d k
  if negative then '-' :: body else body

end DecimalStyle

namespace Binary64

/-- A run of decimal digits: the number they add to `acc`, how many there are, and the rest. -/
def digitRun (acc count : Nat) : List Char → Nat × Nat × List Char
  | [] => (acc, count, [])
  | c :: rest =>
    if c.isDigit then digitRun (acc * 10 + (c.toNat - '0'.toNat)) (count + 1) rest
    else (acc, count, c :: rest)

/-- `n * 10 ^ e` for a significand of `digits` digits, without forming a power that cannot
matter. Zeros at the start are among the digits, so only the bits of the significand tell that it
is large. -/
def ofLongDecimal (negative : Bool) (n digits : Nat) (e : Int) : Binary64 :=
  if n = 0 then zero negative
  else if 400 < (n.log2 * 3 / 10 : Nat) + e then .infinite negative
  else if digits + e < -400 then zero negative
  else ofDecimal negative n e

/-- A sign at the start of a text. -/
def signOf : List Char → Bool × List Char
  | '-' :: rest => (true, rest)
  | '+' :: rest => (false, rest)
  | cs => (false, cs)

/-- An exponent at the end of a text; no text is the exponent zero. -/
def exponent? : List Char → Option Int
  | [] => some 0
  | c :: rest =>
    if c == 'e' || c == 'E' then
      let (negative, rest) := signOf rest
      match digitRun 0 0 rest with
      | (n, count, []) => if count = 0 then none else some (if negative then -(n : Int) else n)
      | _ => none
    else none

/-- The number that a text denotes: digits with an optional point and exponent, or a name of
infinity or of not-a-number. -/
def ofText? (cs : List Char) : Option Binary64 :=
  let (negative, body) := signOf cs
  match String.ofList (body.map Char.toLower) with
  | "inf" | "infinity" => some (.infinite negative)
  | "nan" => some .nan
  | _ =>
    let (whole, wholeDigits, rest) := digitRun 0 0 body
    let (n, digits, rest) := match rest with
      | '.' :: rest => digitRun whole wholeDigits rest
      | rest => (whole, wholeDigits, rest)
    if digits = 0 then none
    else (exponent? rest).map fun e =>
      ofLongDecimal negative n digits (e - (digits - wholeDigits : Nat))

end Binary64

end LogWarden
