import LogWarden.Json.Document

/-! # Reading JSON text

Reading gives the tree of a text up to its first fault, and what follows the value if the value can
at least be skipped. -/

namespace LogWarden.Json

namespace Reader

/-- Drops the blanks of JSON. -/
def skipBlanks : List Char → List Char
  | [] => []
  | c :: rest => if c == ' ' || c == '\n' || c == '\t' || c == '\r' then skipBlanks rest else c :: rest

/-- The fault of finding `cs` where something else has to stand. -/
def faultAt : List Char → JsonFault
  | [] => .ended
  | _ => .malformed

/-! ## Words -/

/-- The rest of a word. -/
def word : List Char → List Char → Except JsonFault (List Char)
  | [], cs => .ok cs
  | _ :: _, [] => .error .ended
  | w :: ws, c :: cs => if c = w then word ws cs else .error .malformed

/-! ## Numbers -/

/-- The greatest whole number of 64 bits. -/
def maxWord : Nat := 18446744073709551615

/-- A decimal significand of 64 bits, read in part: digits that no longer fit are dropped, and those
before the point are counted. -/
structure Significand where
  value : Nat
  full : Bool
  dropped : Nat

/-- Adds a digit to a significand. -/
def Significand.add (s : Significand) (d : Nat) : Significand :=
  if s.full || maxWord < s.value * 10 + d then { s with full := true, dropped := s.dropped + 1 }
  else { s with value := s.value * 10 + d }

/-- A run of digits: the significand they add to, how many there are, and the rest. -/
def digits (s : Significand) (count : Nat) : List Char → Significand × Nat × List Char
  | [] => (s, count, [])
  | c :: rest =>
    if c.isDigit then digits (s.add (c.toNat - '0'.toNat)) (count + 1) rest else (s, count, c :: rest)

/-- Scales by a power of ten that is itself rounded; `none` if the result is too large. Large
negative powers are divided out in steps. -/
def scale : Nat → Binary64 → Int → Option Binary64
  | 0, x, _ => some x
  | fuel + 1, x, e =>
    if 0 ≤ e then
      if e ≤ 308 then
        match x.mulNonneg (Binary64.ofDecimal false 1 e) with
        | .infinite _ => none
        | y => some y
      else if x.numEq (.zero false) then some x else none
    else if -308 ≤ e then some (x.divNonneg (Binary64.ofDecimal false 1 (-e)))
    else if x.numEq (.zero false) then some x
    else scale fuel (x.divNonneg (Binary64.ofDecimal false 1 308)) (e + 308)

/-- The number of a significand and a decimal exponent: the rounded significand, scaled. It may miss
the nearest number by a little. -/
def ofParts (negative : Bool) (n : Nat) (e : Int) : Except JsonFault JsonNumber :=
  let x := Binary64.ofInt n
  -- a significand of twenty digits is zero after four steps
  match scale 5 x (max e (-2000)) with
  | some y => .ok (.float (if negative then y.neg else y))
  | none => .error .malformed

/-- The greatest exponent that is counted exactly. -/
def maxExponent : Nat := 2147483647

/-- An exponent, after `e`, and the number it makes. A fault of the text comes before one of the
number. -/
def exponent (negative : Bool) (n : Nat) (e : Int) (cs : List Char) :
    Except JsonFault (Except JsonFault JsonNumber × List Char) :=
  let (down, cs) := match cs with
    | '+' :: rest => (false, rest)
    | '-' :: rest => (true, rest)
    | cs => (false, cs)
  match Binary64.digitRun 0 0 cs with
  | (_, 0, rest) => .error (faultAt rest)
  | (k, _, rest) =>
    let number :=
      if maxExponent < k then
        if n ≠ 0 && !down then .error .malformed
        else .ok (.float (.zero negative))
      else ofParts negative n (if down then e - k else e + k)
    .ok (number, rest)

/-- What follows a significand. -/
def exponentOrEnd (negative : Bool) (n : Nat) (e : Int) (cs : List Char) :
    Except JsonFault (Except JsonFault JsonNumber × List Char) :=
  match cs with
  | 'e' :: rest => exponent negative n e rest
  | 'E' :: rest => exponent negative n e rest
  | cs => .ok (ofParts negative n e, cs)

/-- A whole number, which is a floating-point number if it does not fit 64 bits. -/
def wholeNumber (negative : Bool) (s : Significand) : Except JsonFault JsonNumber :=
  if s.full then ofParts negative s.value s.dropped
  else if !negative then .ok (.int s.value)
  else if s.value = 0 || 9223372036854775808 < s.value then
    .ok (.float (Binary64.ofInt s.value).neg)
  else .ok (.int (-(s.value : Int)))

/-- A number after its sign: the number when read, and the rest. -/
def number (negative : Bool) (cs : List Char) :
    Except JsonFault (Except JsonFault JsonNumber × List Char) :=
  match cs with
  | [] => .error .ended
  | c :: rest =>
    if !c.isDigit then .error .malformed
    else
      let (s, count, after) := digits ⟨0, false, 0⟩ 0 (c :: rest)
      if c = '0' && 1 < count then .error .malformed
      else
        match after with
        | '.' :: rest =>
          let (t, places, rest) := digits { s with full := false } 0 rest
          if places = 0 then .error (faultAt rest)
          else
            -- only the places that fit move the point
            let kept := places - (t.dropped - s.dropped)
            exponentOrEnd negative t.value ((s.dropped : Int) - kept) rest
        | 'e' :: rest => exponent negative s.value s.dropped rest
        | 'E' :: rest => exponent negative s.value s.dropped rest
        | after => .ok (wholeNumber negative s, after)

/-! ## Quoted texts -/

/-- The value of a hexadecimal digit. -/
def hexDigit? (c : Char) : Option Nat :=
  if '0' ≤ c && c ≤ '9' then some (c.toNat - '0'.toNat)
  else if 'a' ≤ c && c ≤ 'f' then some (c.toNat - 'a'.toNat + 10)
  else if 'A' ≤ c && c ≤ 'F' then some (c.toNat - 'A'.toNat + 10)
  else none

/-- Four hexadecimal digits. Fewer than four bytes are an early end. -/
def hexUnit (cs : List Char) : Except JsonFault (Nat × List Char) :=
  match cs with
  | a :: b :: c :: d :: rest =>
    match hexDigit? a, hexDigit? b, hexDigit? c, hexDigit? d with
    | some a, some b, some c, some d => .ok (((a * 16 + b) * 16 + c) * 16 + d, rest)
    | _, _, _, _ => .error .malformed
  | cs => if 4 ≤ cs.foldl (· + ·.utf8Size) 0 then .error .malformed else .error .ended

/-- An escape that stands for one character. -/
def simpleEscape? : Char → Option Char
  | '"' => some '"'
  | '\\' => some '\\'
  | '/' => some '/'
  | 'b' => some '\x08'
  | 'f' => some '\x0c'
  | 'n' => some '\n'
  | 'r' => some '\r'
  | 't' => some '\t'
  | _ => none

/-- The characters of a quoted text so far, backwards, or the fault that reading met. -/
abbrev Sofar := Except JsonFault (List Char)

/-- Adds a character. -/
def Sofar.add (acc : Sofar) (c : Char) : Sofar :=
  acc.map (c :: ·)

/-- Notes a fault that only reading meets. -/
def Sofar.spoil (acc : Sofar) (f : JsonFault) : Sofar :=
  acc.bind fun _ => .error f

/-- A fault that ends the text for every reader. -/
def stopped (acc : Sofar) (f : JsonFault) : QuotedText × Option (List Char) :=
  (⟨(acc.spoil f).map fun _ => "", some f⟩, none)

/-- What reading makes of a second unit behind the first half of a surrogate pair. -/
def lowHalf (acc : Sofar) (high : Nat) (cs : List Char) : Sofar :=
  match cs with
  | [] => acc.spoil .ended
  | '\\' :: [] => acc.spoil .ended
  | '\\' :: 'u' :: rest =>
    match hexUnit rest with
    | .error f => acc.spoil f
    | .ok (low, _) =>
      if 0xDC00 ≤ low && low ≤ 0xDFFF then
        acc.add (Char.ofNat (0x10000 + (high - 0xD800) * 0x400 + (low - 0xDC00)))
      else acc.spoil .malformed
  | _ => acc.spoil .malformed

/-- A quoted text after its first quote; `paired` says that the next unit was read already, as the
second half of a surrogate pair. -/
def quoted : Nat → Bool → Sofar → List Char → QuotedText × Option (List Char)
  | 0, _, acc, _ => stopped acc .ended
  | _ + 1, _, acc, [] => stopped acc .ended
  | fuel + 1, paired, acc, c :: rest =>
    if c = '"' then (⟨acc.map fun cs => String.ofList cs.reverse, none⟩, some rest)
    else if c = '\\' then
      match rest with
      | [] => stopped acc .ended
      | 'u' :: rest =>
        match hexUnit rest with
        | .error f => stopped acc f
        | .ok (n, rest) =>
          if paired then quoted fuel false acc rest
          else if 0xDC00 ≤ n && n ≤ 0xDFFF then quoted fuel false (acc.spoil .malformed) rest
          else if 0xD800 ≤ n && n ≤ 0xDBFF then quoted fuel true (lowHalf acc n rest) rest
          else quoted fuel false (acc.add (Char.ofNat n)) rest
      | e :: rest =>
        match simpleEscape? e with
        | some d => quoted fuel false (acc.add d) rest
        | none => stopped acc .malformed
    else if c.toNat < 32 then stopped acc .malformed
    else quoted fuel false (acc.add c) rest

/-- A quoted text after its first quote. -/
def quotedText (cs : List Char) : QuotedText × Option (List Char) :=
  quoted (cs.length + 1) false (.ok []) cs

/-! ## Values -/

/-- A value and what follows it; nothing follows a value that cannot be skipped. -/
abbrev Parsed (α : Type) := α × Option (List Char)

/-- A word that stands for a value. -/
def wordValue (w : List Char) (d : Document) (cs : List Char) : Parsed Document :=
  match word w cs with
  | .ok rest => (d, some rest)
  | .error f => (.fault f true, none)

/-- A number that stands for a value. -/
def numberValue (negative : Bool) (cs : List Char) : Parsed Document :=
  match number negative cs with
  | .ok (n, rest) => (.num n, some rest)
  | .error f => (.fault f true, none)

mutual

/-- A value. -/
def value : Nat → List Char → Parsed Document
  | 0, _ => (.fault .ended false, none)
  | fuel + 1, cs =>
    match skipBlanks cs with
    | [] => (.fault .ended false, none)
    | 'n' :: rest => wordValue ['u', 'l', 'l'] .null rest
    | 't' :: rest => wordValue ['r', 'u', 'e'] (.bool true) rest
    | 'f' :: rest => wordValue ['a', 'l', 's', 'e'] (.bool false) rest
    | '-' :: rest => numberValue true rest
    | '"' :: rest =>
      let (s, rest) := quotedText rest
      (.str s, rest)
    | '[' :: rest =>
      let ((vs, tail), rest) := items fuel true rest
      (.arr vs tail, rest)
    | '\x7b' :: rest =>
      let ((ms, tail), rest) := members fuel true rest
      (.obj ms tail, rest)
    | c :: rest => if c.isDigit then numberValue false (c :: rest) else (.fault .malformed false, none)
  termination_by structural fuel => fuel

/-- The items of an array and its end; `first` says that no item stands before. -/
def items : Nat → Bool → List Char → Parsed (List Document × Tail)
  | 0, _, _ => (([], .cut .ended false), none)
  | fuel + 1, first, cs =>
    let item := fun cs =>
      match value fuel cs with
      | (v, none) => (([v], .closed), none)
      | (v, some rest) =>
        let ((vs, tail), rest) := items fuel false rest
        ((v :: vs, tail), rest)
    match skipBlanks cs with
    | [] => (([], .cut .ended false), none)
    | ']' :: rest => (([], .closed), some rest)
    | c :: rest =>
      if first then item (c :: rest)
      else if c = ',' then
        match skipBlanks rest with
        | [] => (([], .cut .ended true), none)
        | ']' :: _ => (([], .cut .malformed true), none)
        | rest => item rest
      else (([], .cut .malformed false), none)
  termination_by structural fuel => fuel

/-- The members of an object and its end. -/
def members : Nat → Bool → List Char → Parsed (List (QuotedText × Document) × Tail)
  | 0, _, _ => (([], .cut .ended false), none)
  | fuel + 1, first, cs =>
    let member := fun cs =>
      match quotedText cs with
      | (k, none) => (([(k, .fault .ended false)], .closed), none)
      | (k, some rest) =>
        match skipBlanks rest with
        | ':' :: rest =>
          match value fuel rest with
          | (v, none) => (([(k, v)], .closed), none)
          | (v, some rest) =>
            let ((ms, tail), rest) := members fuel false rest
            (((k, v) :: ms, tail), rest)
        | rest => (([(k, .fault (faultAt rest) false)], .closed), none)
    match skipBlanks cs with
    | [] => (([], .cut .ended false), none)
    | '\x7d' :: rest => (([], .closed), some rest)
    | '"' :: rest => if first then member rest else (([], .cut .malformed false), none)
    | c :: rest =>
      if first || c ≠ ',' then (([], .cut .malformed false), none)
      else
        match skipBlanks rest with
        | '"' :: rest => member rest
        | rest => (([], .cut (faultAt rest) true), none)
  termination_by structural fuel => fuel

end

end Reader

/-- The tree of a text. What follows the value is a fault. -/
def document (text : String) : Document × Option JsonFault :=
  let cs := text.toList
  match Reader.value (cs.length + 1) cs with
  | (d, none) => (d, none)
  | (d, some rest) => (d, if (Reader.skipBlanks rest).isEmpty then none else some .malformed)

end LogWarden.Json
