/-! # Case maps

A map between characters is listed as runs: every `step`-th code point from `first` to `last` moves
by the same distance. A code point in no run stays where it is. -/

namespace LogWarden.Unicode

/-- Every `step`-th code point from `first` to `last` moves by `shift`. -/
structure CaseRun where
  first : Nat
  last : Nat
  step : Nat
  shift : Int

/-- Runs in increasing order. -/
abbrev CaseMap := List CaseRun

namespace CaseRun

/-- Whether the run moves a code point. -/
def moves (r : CaseRun) (n : Nat) : Bool :=
  r.first ≤ n && n ≤ r.last && (n - r.first) % r.step == 0

/-- Where the run puts a code point that it moves. -/
def image (r : CaseRun) (n : Nat) : Nat :=
  (n + r.shift).toNat

/-- The code point that the run puts at `n`, if there is one. -/
def preimage? (r : CaseRun) (n : Nat) : Option Nat :=
  let m := (n - r.shift).toNat
  if r.moves m && r.image m == n then some m else none

end CaseRun

namespace CaseMap

/-- Where the map puts a code point. -/
def codeImage (n : Nat) : CaseMap → Nat
  | [] => n
  | r :: rest => if n < r.first then n else if r.moves n then r.image n else codeImage n rest

/-- Where the map puts a character. -/
def image (m : CaseMap) (c : Char) : Char :=
  Char.ofNat (m.codeImage c.toNat)

/-- The characters that the map moves to `c`. -/
def preimages (m : CaseMap) (c : Char) : List Char :=
  m.filterMap fun r => (r.preimage? c.toNat).map Char.ofNat

end CaseMap

end LogWarden.Unicode
