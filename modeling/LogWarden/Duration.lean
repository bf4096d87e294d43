import LogWarden.Number.Binary64

/-! # Durations

A duration is a number of nanoseconds. Whole seconds fit 64 bits. -/

namespace LogWarden

/-- A duration, or a time since the start, in nanoseconds. -/
abbrev Nanos := Nat

namespace Nanos

/-- A duration of milliseconds. -/
def ofMillis (ms : Nat) : Nanos := ms * 1000000

/-- A duration of seconds. -/
def ofSeconds (s : Nat) : Nanos := s * 1000000000

/-- The whole milliseconds of a duration. -/
def millis (d : Nanos) : Nat := d / 1000000

/-- The whole seconds of a duration. -/
def seconds (d : Nanos) : Nat := d / 1000000000

/-- The nanoseconds of a duration beyond its whole seconds. -/
def subsecond (d : Nanos) : Nat := d % 1000000000

/-- The milliseconds of a duration as an error reports them: 64 bits at most. -/
def reportedMillis (d : Nanos) : Nat := min d.millis 18446744073709551615

/-- No duration has as many whole seconds. -/
def secondsBound : Nat := 18446744073709551616

/-- The duration nearest to a number of seconds that is finite and not negative, a half going to the
even nanosecond; `none` if it has too many seconds. -/
def ofFloatSeconds? : Binary64 → Option Nanos
  | .finite _ m e =>
    let (num, den) := Binary64.ratio m e
    let d := roundDiv (num * 1000000000) den
    if d / 1000000000 < secondsBound then some d else none
  | _ => none

/-- The sum of two durations; `none` if it has too many seconds. -/
def add? (d d' : Nanos) : Option Nanos :=
  if (d + d') / 1000000000 < secondsBound then some (d + d') else none

/-- A count with a fraction: `rest` out of `unit`, without zeros at its end. -/
def decimalText (count rest digits : Nat) (unit : String) : String :=
  let ds := Nat.toDigits 10 rest
  let fraction := List.replicate (digits - ds.length) '0' ++ ds
  let fraction := (fraction.reverse.dropWhile (· == '0')).reverse
  let point := if fraction.isEmpty then [] else '.' :: fraction
  String.ofList (Nat.toDigits 10 count ++ point) ++ unit

/-- A duration in its greatest unit of which it has at least one. -/
def text (d : Nanos) : String :=
  if d.seconds ≠ 0 then decimalText d.seconds d.subsecond 9 "s"
  else if 1000000 ≤ d then decimalText (d / 1000000) (d % 1000000) 6 "ms"
  else if 1000 ≤ d then decimalText (d / 1000) (d % 1000) 3 "µs"
  else decimalText d 0 0 "ns"

end Nanos

end LogWarden
