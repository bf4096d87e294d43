import LogWarden.Number.Binary64

/-! # Shortest decimal digits

The digits of a finite number of the binary format are the fewest that read back as that number; of
two candidates of that length the nearer one is taken. -/

namespace LogWarden.Binary64

/-- The bounds of the numbers that round to `m * 2 ^ e`, in quarters of `2 ^ e`: the halfway points
to both neighbours. The lower neighbour of a power of two is half as far. -/
def neighbourhood (m : Nat) (e : Int) : Nat × Nat :=
  (if m = Nat.pow 2 52 ∧ minExponent < e then 4 * m - 1 else 4 * m - 2, 4 * m + 2)

/-- Compares `d * 10 ^ k` with `q * 2 ^ e / 4`. -/
def compareDecimal (d : Nat) (k : Int) (q : Nat) (e : Int) : Ordering :=
  let a := 4 * d * Nat.pow 10 k.toNat * Nat.pow 2 (-e).toNat
  let b := q * Nat.pow 2 e.toNat * Nat.pow 10 (-k).toNat
  compare a b

/-- Whether `d * 10 ^ k` rounds to `m * 2 ^ e`; a halfway point rounds to an even significand. -/
def roundsTo (m : Nat) (e : Int) (d : Nat) (k : Int) : Bool :=
  let (lo, hi) := neighbourhood m e
  let atLo := compareDecimal d k lo e
  let atHi := compareDecimal d k hi e
  (atLo == .gt || (atLo == .eq && m % 2 == 0)) && (atHi == .lt || (atHi == .eq && m % 2 == 0))

/-- The greatest `d` with `d * 10 ^ k ≤ m * 2 ^ e`. -/
def floorDecimal (m : Nat) (e k : Int) : Nat :=
  (m * Nat.pow 2 e.toNat * Nat.pow 10 (-k).toNat)
    / (Nat.pow 2 (-e).toNat * Nat.pow 10 k.toNat)

/-- The neighbour of `m * 2 ^ e` on the grid of multiples of `10 ^ k` that reads back, the nearer
one if both do. -/
def onGrid? (m : Nat) (e k : Int) : Option Nat :=
  let d := floorDecimal m e k
  match roundsTo m e d k, roundsTo m e (d + 1) k with
  | true, false => some d
  | false, true => some (d + 1)
  | false, false => none
  | true, true =>
    -- twice the number lies between `2 * d` and `2 * d + 2` on the grid
    match compareDecimal (2 * d + 1) k (8 * m) e with
    | .gt => some d
    | .lt => some (d + 1)
    | .eq => some (d + d % 2)

/-- Tries finer grids in turn. -/
def firstGrid (m : Nat) (e : Int) : Nat → Int → Nat × Int
  | 0, k => (floorDecimal m e k, k)
  | fuel + 1, k =>
    match onGrid? m e k with
    | some d => (d, k)
    | none => firstGrid m e fuel (k - 1)

/-- Drops the zeros at the end of a decimal significand. -/
def dropZeros : Nat → Nat → Int → Nat × Int
  | 0, d, k => (d, k)
  | fuel + 1, d, k => if d % 10 = 0 ∧ d ≠ 0 then dropZeros fuel (d / 10) (k + 1) else (d, k)

/-- The shortest `(d, k)` for which `d * 10 ^ k` reads back as `m * 2 ^ e`, where `m` is positive.
Seventeen digits always do. -/
def shortest (m : Nat) (e : Int) : Nat × Int :=
  let magnitude : Int := ((m.log2 : Int) + e) * 30103 / 100000 + 1
  let (d, k) := firstGrid m e 20 magnitude
  dropZeros 20 d k

end LogWarden.Binary64
