import LogWarden.Json.Decode
import LogWarden.Unicode.Ranges

/-! # Times of events

A time is a date, a second of the day and nanoseconds, in universal time. During a leap second there
are more than a thousand million nanoseconds. Its text is the date, `T`, the time of day, a fraction
of zero, three, six or nine digits, and `Z`. A text that is read may leave blanks between its parts
and may give the distance from universal time. -/

namespace LogWarden

/-- A day of the calendar. -/
structure Date where
  year : Int
  month : Nat
  day : Nat
  deriving DecidableEq, Repr

namespace Date

/-- Whether a year has a 29th of February. -/
def isLeap (year : Int) : Bool :=
  year % 4 == 0 && (year % 100 != 0 || year % 400 == 0)

/-- The number of days of a month. -/
def monthDays (year : Int) (month : Nat) : Nat :=
  match month with
  | 2 => if isLeap year then 29 else 28
  | 4 | 6 | 9 | 11 => 30
  | _ => 31

/-- The first and the last year. -/
def yearRange : Int × Int := (-262143, 262142)

/-- Whether a date stands in the calendar. -/
def isValid (d : Date) : Bool :=
  yearRange.1 ≤ d.year && d.year ≤ yearRange.2 && 1 ≤ d.month && d.month ≤ 12 && 1 ≤ d.day
    && d.day ≤ monthDays d.year d.month

/-- The day after a date. -/
def next (d : Date) : Date :=
  if d.day < monthDays d.year d.month then { d with day := d.day + 1 }
  else if d.month < 12 then ⟨d.year, d.month + 1, 1⟩
  else ⟨d.year + 1, 1, 1⟩

/-- The day before a date. -/
def previous (d : Date) : Date :=
  if 1 < d.day then { d with day := d.day - 1 }
  else if 1 < d.month then ⟨d.year, d.month - 1, monthDays d.year (d.month - 1)⟩
  else ⟨d.year - 1, 12, 31⟩

end Date

/-- A time: a date, a second of the day, and nanoseconds. -/
structure Timestamp where
  date : Date
  second : Nat
  nano : Nat
  deriving DecidableEq, Repr

namespace Timestamp

/-- A number with at least `width` digits. -/
def padded (width n : Nat) : List Char :=
  let ds := Nat.toDigits 10 n
  List.replicate (width - ds.length) '0' ++ ds

/-- The text of a year. A year that has no four digits has a sign. -/
def yearText (year : Int) : List Char :=
  if 0 ≤ year ∧ year ≤ 9999 then padded 4 year.toNat
  else (if year < 0 then '-' else '+') :: padded 4 year.natAbs

/-- The text of a fraction of a second. -/
def fractionText (nano : Nat) : List Char :=
  if nano = 0 then []
  else if nano % 1000000 = 0 then '.' :: padded 3 (nano / 1000000)
  else if nano % 1000 = 0 then '.' :: padded 6 (nano / 1000)
  else '.' :: padded 9 nano

/-- The text of a time. -/
def text (t : Timestamp) : List Char :=
  let leap := 1000000000 ≤ t.nano
  let second := t.second % 60 + if leap then 1 else 0
  let nano := if leap then t.nano - 1000000000 else t.nano
  yearText t.date.year ++ '-' :: padded 2 t.date.month ++ '-' :: padded 2 t.date.day
    ++ 'T' :: padded 2 (t.second / 3600) ++ ':' :: padded 2 (t.second / 60 % 60)
    ++ ':' :: padded 2 second ++ fractionText nano ++ ['Z']

/-! ## Reading -/

/-- Drops blanks. -/
def skipBlanks (cs : List Char) : List Char :=
  cs.dropWhile Unicode.isWhiteSpace

/-- One to `most` digits: their number, how many there are, and the rest. -/
def digits (acc count : Nat) : Nat → List Char → Nat × Nat × List Char
  | 0, cs => (acc, count, cs)
  | _, [] => (acc, count, [])
  | most + 1, c :: rest =>
    if c.isDigit then digits (acc * 10 + (c.toNat - '0'.toNat)) (count + 1) most rest
    else (acc, count, c :: rest)

/-- A number of one to `most` digits. -/
def number? (most : Nat) (cs : List Char) : Option (Nat × List Char) :=
  match digits 0 0 most cs with
  | (_, 0, _) => none
  | (n, _, rest) => some (n, rest)

/-- A character that has to stand here. -/
def mark? (c : Char) : List Char → Option (List Char)
  | [] => none
  | d :: rest => if c == d then some rest else none

/-- A number of at most two digits behind blanks, between two bounds. -/
def part? (lo hi : Nat) (cs : List Char) : Option (Nat × List Char) := do
  let (n, rest) ← number? 2 (skipBlanks cs)
  guard (lo ≤ n ∧ n ≤ hi)
  return (n, rest)

/-- A year: four digits at most, or a sign and any number of digits. -/
def year? (cs : List Char) : Option (Int × List Char) :=
  match skipBlanks cs with
  | '-' :: rest => (number? rest.length rest).map fun (n, rest) => (-(n : Int), rest)
  | '+' :: rest => (number? rest.length rest).map fun (n, rest) => ((n : Int), rest)
  | cs => (number? 4 cs).map fun (n, rest) => ((n : Int), rest)

/-- The nanoseconds of a fraction; digits behind the ninth do not count. -/
def fraction? (cs : List Char) : Option (Nat × List Char) :=
  match cs with
  | '.' :: rest =>
    match digits 0 0 9 rest with
    | (_, 0, _) => none
    | (n, count, rest) => some (n * Nat.pow 10 (9 - count), rest.dropWhile Char.isDigit)
  | cs => some (0, cs)

/-- Two digits. -/
def twoDigits? : List Char → Option (Nat × List Char)
  | a :: b :: rest =>
    if a.isDigit && b.isDigit then
      some ((a.toNat - '0'.toNat) * 10 + (b.toNat - '0'.toNat), rest)
    else none
  | _ => none

/-- The distance from universal time in seconds: `UTC`, `Z`, or a sign with hours and minutes. -/
def offset? (cs : List Char) : Option (Int × List Char) :=
  if (cs.take 3).map Char.toUpper == ['U', 'T', 'C'] then some (0, cs.drop 3)
  else
    let signed := fun (sign : Int) rest => do
      let (hours, rest) ← twoDigits? rest
      let (minutes, rest) ← twoDigits? (rest.dropWhile fun c => c == ':' || Unicode.isWhiteSpace c)
      guard (minutes < 60 ∧ hours < 24)
      return (sign * (hours * 3600 + minutes * 60 : Nat), rest)
    match cs with
    | 'Z' :: rest => some (0, rest)
    | 'z' :: rest => some (0, rest)
    | '+' :: rest => signed 1 rest
    | '-' :: rest => signed (-1) rest
    | '−' :: rest => signed (-1) rest
    | _ => none

/-- A time of day at a distance from universal time, in universal time. -/
def toUniversal (t : Timestamp) (offset : Int) : Timestamp :=
  let s : Int := t.second - offset
  if s < 0 then { t with date := t.date.previous, second := (s + 86400).toNat }
  else if 86400 ≤ s then { t with date := t.date.next, second := (s - 86400).toNat }
  else { t with second := s.toNat }

/-- The time that a text denotes. -/
def ofText? (cs : List Char) : Option Timestamp := do
  let (year, cs) ← year? cs
  let (month, cs) ← part? 1 12 (← mark? '-' (skipBlanks cs))
  let (day, cs) ← part? 1 31 (← mark? '-' (skipBlanks cs))
  let c :: cs := cs | none
  guard (c == 'T' || c == 't' || c == ' ')
  let (hour, cs) ← part? 0 23 cs
  let (minute, cs) ← part? 0 59 (← mark? ':' (skipBlanks cs))
  let (second, cs) ← part? 0 60 (← mark? ':' (skipBlanks cs))
  let (nano, cs) ← fraction? cs
  let (offset, cs) ← offset? (skipBlanks cs)
  guard (skipBlanks cs).isEmpty
  let date : Date := ⟨year, month, day⟩
  guard date.isValid
  let leap := second == 60
  let t := toUniversal ⟨date, hour * 3600 + minute * 60 + if leap then 59 else second,
    nano + if leap then 1000000000 else 0⟩ offset
  guard t.date.isValid
  return t

/-- Reads a time. -/
def read : Json.Reads Timestamp := fun levels d => do
  Json.required (ofText? (← Json.readString levels d).toList)

end Timestamp

end LogWarden
