import LogWarden.Pattern.Expr
import LogWarden.Pattern.NamedClass

/-! # Escapes and blanks in pattern text

The parts of the pattern language that stand both inside and outside bracketed classes. Every reader
takes the rest of the pattern text and gives back what it leaves; `none` is a fault in the text. -/

namespace LogWarden.Pattern

/-- The flags that hold at a place of a pattern. -/
structure Flags where
  /-- `i`: letters match up to case. -/
  ignoreCase : Bool
  /-- `m`: `^` and `$` match at the ends of lines. -/
  multiLine : Bool
  /-- `s`: `.` matches a line feed too. -/
  dotAll : Bool
  /-- `U`: repetitions are lazy and `?` makes them greedy. -/
  swapGreed : Bool
  /-- `u`: classes go beyond the first 128 characters. -/
  wide : Bool
  /-- `R`: a carriage return ends a line too. -/
  crlf : Bool
  /-- `x`: blanks and comments are skipped. -/
  verbose : Bool
  deriving DecidableEq, Repr

/-- The flags at the start of a pattern. -/
def Flags.initial (ignoreCase : Bool) : Flags :=
  ⟨ignoreCase, false, false, false, true, false, false⟩

namespace Reader

/-- Skips blanks and comments; `comment` says whether the text starts inside one. -/
def skipBlanks (comment : Bool) : List Char → List Char
  | [] => []
  | c :: rest =>
    if comment then skipBlanks (c != '\n') rest
    else if Unicode.isWhiteSpace c then skipBlanks false rest
    else if c == '#' then skipBlanks true rest
    else c :: rest

/-- Skips blanks and comments where the flags say so. -/
def skip (flags : Flags) (cs : List Char) : List Char :=
  if flags.verbose then skipBlanks false cs else cs

/-- The value of a hexadecimal digit. -/
def hexDigit? (c : Char) : Option Nat :=
  if '0' ≤ c && c ≤ '9' then some (c.toNat - '0'.toNat)
  else if 'a' ≤ c && c ≤ 'f' then some (c.toNat - 'a'.toNat + 10)
  else if 'A' ≤ c && c ≤ 'F' then some (c.toNat - 'A'.toNat + 10)
  else none

/-- The character with a code point, if there is one. -/
def charOf? (n : Nat) : Option Char :=
  if n.isValidChar then some (Char.ofNat n) else none

/-- A run of `n` hexadecimal digits, added to `acc`. -/
def hexDigits (flags : Flags) : Nat → Nat → List Char → Option (Nat × List Char)
  | 0, acc, cs => some (acc, cs)
  | n + 1, acc, cs => do
    match cs with
    | [] => none
    | c :: rest =>
      let d ← hexDigit? c
      hexDigits flags n (acc * 16 + d) (skip flags rest)

/-- Hexadecimal digits up to `}`. -/
def hexBraced (flags : Flags) : Nat → Option Nat → List Char → Option (Nat × List Char)
  | 0, _, _ => none
  | fuel + 1, acc, cs =>
    match skip flags cs with
    | [] => none
    | '}' :: rest => acc.map fun n => (n, skip flags rest)
    | c :: rest => do
      let d ← hexDigit? c
      hexBraced flags fuel (some (acc.getD 0 * 16 + d)) rest

/-- What an escape stands for. `byte` marks a character written as two hexadecimal digits. -/
inductive Escaped
  | literal (c : Char) (byte : Bool)
  | cls (a : CharClass)
  | look (l : Look)

/-- A character by its code point, after `x`, `u` or `U`. -/
def hexEscape (flags : Flags) (digits : Nat) (cs : List Char) : Option (Escaped × List Char) :=
  match skip flags cs with
  | '{' :: rest => do
    let (n, rest) ← hexBraced flags (rest.length + 1) none rest
    let c ← charOf? n
    return (.literal c false, rest)
  | cs => do
    let (n, rest) ← hexDigits flags digits 0 cs
    let c ← charOf? n
    return (.literal c (digits == 2), rest)

/-- Splits a text at the first place where `mark` starts. -/
def splitAt? (mark : List Char) : List Char → Option (List Char × List Char)
  | [] => none
  | c :: rest =>
    if mark.isPrefixOf (c :: rest) then some ([], (c :: rest).drop mark.length)
    else (splitAt? mark rest).map fun (a, b) => (c :: a, b)

/-- The class that a name between braces stands for. -/
def classByName? (name : List Char) : Option CharClass :=
  match splitAt? ['!', '='] name with
  | some (p, v) => (NamedClass.valued? p v).map .compl
  | none =>
    match (splitAt? [':'] name).or (splitAt? ['='] name) with
    | some (p, v) => NamedClass.valued? p v
    | none => NamedClass.bare? name

/-- The characters up to `}`. -/
def bracedName (flags : Flags) : Nat → List Char → Option (List Char × List Char)
  | 0, _ => none
  | fuel + 1, cs =>
    match skip flags cs with
    | [] => none
    | '}' :: rest => some ([], rest)
    | c :: rest => (bracedName flags fuel rest).map fun (name, rest) => (c :: name, rest)

/-- The class or, where letters match up to case, the class of the members' variants. -/
def foldIf (flags : Flags) (a : CharClass) : CharClass :=
  if flags.ignoreCase then (if flags.wide then a.folded else a.plainFolded) else a

/-- A class by its property, after `p` or `P`. -/
def propertyEscape (flags : Flags) (neg : Bool) (cs : List Char) :
    Option (Escaped × List Char) := do
  guard flags.wide
  let (cls?, rest) ←
    match skip flags cs with
    | [] => none
    | '{' :: rest => do
      let (name, rest) ← bracedName flags (rest.length + 1) rest
      pure (classByName? name, rest)
    | '\\' :: _ => none
    | c :: rest => pure (NamedClass.bare? [c], skip flags rest)
  let cls ← cls?
  return (.cls ((foldIf flags cls).negateIf neg), rest)

/-- A class that holds for every flag setting, or its complement. The complement of a class of the
first 128 characters is no class of characters. -/
def perlClass (flags : Flags) (wide plain : CharClass) (neg : Bool) : Option Escaped :=
  if flags.wide then some (.cls (wide.negateIf neg))
  else if neg then none
  else some (.cls plain)

/-- A word edge by its name between braces; the braces may hold a count instead. -/
def wordEdge? (flags : Flags) (cs : List Char) : Option (WordEdge × List Char) :=
  let isNameChar := fun c : Char => c.isAlpha || c == '-'
  match cs with
  | '{' :: rest =>
    match skip flags rest with
    | [] => none
    | c :: _ =>
      if isNameChar c then do
        let (name, rest) ← bracedName flags (rest.length + 1) rest
        match String.ofList name with
        | "start" => return (.start, rest)
        | "end" => return (.stop, rest)
        | "start-half" => return (.halfStart, rest)
        | "end-half" => return (.halfStop, rest)
        | _ => none
      else some (.edge, cs)
  | cs => some (.edge, cs)

/-- Whether a character may be escaped to stand for itself: a character of the first 128 that is
neither a letter nor a digit nor an angle bracket. -/
def isEscapable (c : Char) : Bool :=
  c.toNat < 128 && !c.isAlphanum && c != '<' && c != '>'

/-- A word edge under the flags. -/
def edgeLook (flags : Flags) (e : WordEdge) : Escaped :=
  .look (if flags.wide then .word e else .plainWord e)

/-- What stands after a backslash. -/
def escape (flags : Flags) : List Char → Option (Escaped × List Char)
  | [] => none
  | c :: rest =>
    let perl := fun wide plain neg =>
      (perlClass flags wide plain neg).map fun e => (e, skip flags rest)
    let literal := fun d => some (Escaped.literal d false, rest)
    match c with
    | 'x' => hexEscape flags 2 rest
    | 'u' => hexEscape flags 4 rest
    | 'U' => hexEscape flags 8 rest
    | 'p' => propertyEscape flags false rest
    | 'P' => propertyEscape flags true rest
    | 'd' => perl .digit .plainDigit false
    | 'D' => perl .digit .plainDigit true
    | 's' => perl .space .plainSpace false
    | 'S' => perl .space .plainSpace true
    | 'w' => perl .word .plainWord false
    | 'W' => perl .word .plainWord true
    | 'a' => literal '\x07'
    | 'f' => literal '\x0c'
    | 't' => literal '\t'
    | 'n' => literal '\n'
    | 'r' => literal '\r'
    | 'v' => literal '\x0b'
    | 'A' => some (.look .textStart, rest)
    | 'z' => some (.look .textEnd, rest)
    | 'b' => (wordEdge? flags rest).map fun (e, rest) => (edgeLook flags e, rest)
    | 'B' => some (edgeLook flags .noEdge, rest)
    | '<' => some (edgeLook flags .start, rest)
    | '>' => some (edgeLook flags .stop, rest)
    | c => if isEscapable c then literal c else none

end Reader

end LogWarden.Pattern
