/-! # Binary floating-point numbers

A number of the 64-bit binary format: a whole significand below 2⁵³ times a power of two. Every
result is the number of the format that is nearest to the exact one; of two nearest the one with the
even significand is taken. -/

namespace LogWarden

/-- Divides and rounds to the nearest whole number, a half to the even one. -/
def roundDiv (num den : Nat) : Nat :=
  let q := num / den
  let r := num % den
  if 2 * r < den then q
  else if den < 2 * r then q + 1
  else q + q % 2

/-- A number of the 64-bit binary format. A finite number is `significand * 2 ^ exponent`, where the
exponent is -1074 if the significand is below 2⁵². -/
inductive Binary64
  | nan
  | infinite (negative : Bool)
  | finite (negative : Bool) (significand : Nat) (exponent : Int)
  deriving DecidableEq, Repr

namespace Binary64

/-- The least exponent of the format. -/
def minExponent : Int := -1074

/-- The greatest exponent of the format. -/
def maxExponent : Int := 971

/-- Zero. -/
def zero (negative : Bool) : Binary64 :=
  .finite negative 0 minExponent

/-- `num / den` scaled by a power of two and rounded, as a significand: `num / den / 2 ^ e`. -/
def scaled (num den : Nat) (e : Int) : Nat :=
  if 0 ≤ e then roundDiv num (den * Nat.pow 2 e.toNat)
  else roundDiv (num * Nat.pow 2 (-e).toNat) den

/-- The exponent at which `num / den` has a significand of 53 bits, or the least one. -/
def exponentFor (num den : Nat) : Int :=
  let e : Int := (num.log2 : Int) - den.log2 - 52
  let tooHigh := if 0 ≤ e then num < den * Nat.pow 2 (e.toNat + 52)
    else num * Nat.pow 2 (-e).toNat < den * Nat.pow 2 52
  max minExponent (if tooHigh then e - 1 else e)

/-- The number nearest to `num / den`. -/
def ofRatio (negative : Bool) (num den : Nat) : Binary64 :=
  if num = 0 then zero negative
  else
    let e := exponentFor num den
    let m := scaled num den e
    let (m, e) := if m = Nat.pow 2 53 then (Nat.pow 2 52, e + 1) else (m, e)
    if maxExponent < e then .infinite negative else .finite negative m e

/-- The number nearest to `n * 10 ^ e`. -/
def ofDecimal (negative : Bool) (n : Nat) (e : Int) : Binary64 :=
  if 0 ≤ e then ofRatio negative (n * Nat.pow 10 e.toNat) 1
  else ofRatio negative n (Nat.pow 10 (-e).toNat)

/-- The number nearest to a whole number. -/
def ofInt (n : Int) : Binary64 :=
  ofRatio (n < 0) n.natAbs 1

/-- The numerator and the denominator of `m * 2 ^ e`. -/
def ratio (m : Nat) (e : Int) : Nat × Nat :=
  if 0 ≤ e then (m * Nat.pow 2 e.toNat, 1) else (m, Nat.pow 2 (-e).toNat)

def isFinite : Binary64 → Bool
  | .finite .. => true
  | _ => false

/-- The opposite number. -/
def neg : Binary64 → Binary64
  | .nan => .nan
  | .infinite s => .infinite (!s)
  | .finite s m e => .finite (!s) m e

/-- Whether two numbers are equal as numbers: both zeros are equal, and no number is equal to
not-a-number. -/
def numEq : Binary64 → Binary64 → Bool
  | .infinite s, .infinite t => s == t
  | .finite s m e, .finite t n f => (m == 0 && n == 0) || (s == t && m == n && e == f)
  | _, _ => false

/-- The product of two finite numbers that are not negative, rounded. -/
def mulNonneg (a b : Binary64) : Binary64 :=
  match a, b with
  | .finite _ m e, .finite _ n f =>
    let (p, q) := ratio m e
    let (r, s) := ratio n f
    ofRatio false (p * r) (q * s)
  | .finite .., b => b
  | a, _ => a

/-- The quotient of two finite numbers of which the second is positive, rounded. -/
def divNonneg (a b : Binary64) : Binary64 :=
  match a, b with
  | .finite _ m e, .finite _ n f =>
    let (p, q) := ratio m e
    let (r, s) := ratio n f
    ofRatio false (p * s) (q * r)
  | a, _ => a

/-- Whether a number is negative; both zeros are not. -/
def isNegative : Binary64 → Bool
  | .nan => false
  | .infinite s => s
  | .finite s m _ => s && m != 0

end Binary64

end LogWarden
