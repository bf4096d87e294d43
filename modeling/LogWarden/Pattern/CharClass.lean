import LogWarden.Unicode.CaseFolding
import LogWarden.Unicode.Property
import LogWarden.Unicode.Ranges
import LogWarden.Unicode.WordChar

/-! # Classes of characters

A class is a description of a set of characters; `CharClass.mem` decides membership. -/

namespace LogWarden.Pattern

/-- The properties of characters that are computed and not listed. -/
inductive ComputedProperty
  | alphabetic | lowercase | uppercase | cased | caseIgnorable | math | graphemeExtend
  | graphemeBase | idStart | idContinue | xidStart | xidContinue | assigned | word
  deriving DecidableEq, Repr

/-- Whether a character has a computed property. -/
def ComputedProperty.holds : ComputedProperty → Char → Bool
  | .alphabetic => Unicode.isAlphabetic
  | .lowercase => Unicode.isLowercase
  | .uppercase => Unicode.isUppercase
  | .cased => Unicode.isCased
  | .caseIgnorable => Unicode.isCaseIgnorable
  | .math => Unicode.isMath
  | .graphemeExtend => Unicode.isGraphemeExtend
  | .graphemeBase => Unicode.isGraphemeBase
  | .idStart => Unicode.isIdStart
  | .idContinue => Unicode.isIdContinue
  | .xidStart => Unicode.isXidStart
  | .xidContinue => Unicode.isXidContinue
  | .assigned => Unicode.isAssigned
  | .word => Unicode.isWordChar

/-- A description of a set of characters. -/
inductive CharClass
  | none
  | all
  | one (c : Char)
  | range (first last : Char)
  | within (ranges : Unicode.Ranges)
  | having (p : ComputedProperty)
  | union (a b : CharClass)
  | inter (a b : CharClass)
  | diff (a b : CharClass)
  | symmDiff (a b : CharClass)
  | compl (a : CharClass)
  /-- The characters equal to a member up to case. -/
  | folded (a : CharClass)
  /-- The members and the other case of those that are letters of the first 128 characters. -/
  | plainFolded (a : CharClass)
  deriving DecidableEq, Repr

namespace CharClass

/-- Whether a character belongs to a class. -/
def mem : CharClass → Char → Bool
  | .none, _ => false
  | .all, _ => true
  | .one d, c => c == d
  | .range lo hi, c => lo ≤ c && c ≤ hi
  | .within rs, c => rs.contains c
  | .having p, c => p.holds c
  | .union a b, c => a.mem c || b.mem c
  | .inter a b, c => a.mem c && b.mem c
  | .diff a b, c => a.mem c && !b.mem c
  | .symmDiff a b, c => a.mem c != b.mem c
  | .compl a, c => !a.mem c
  | .folded (.one d), c => Unicode.sameUpToCase c d
  | .folded a, c => a.mem c || (Unicode.caseVariants c).any a.mem
  | .plainFolded a, c => a.mem c || a.mem c.toLower || a.mem c.toUpper

/-- The union of a list of classes. -/
def unions (as : List CharClass) : CharClass :=
  as.foldr .union .none

/-- The characters of the listed categories. -/
def categories (gs : List Unicode.GeneralCategory) : CharClass :=
  unions (gs.map fun g => .within g.ranges)

/-- The decimal digits of all scripts. -/
def digit : CharClass := .within Unicode.GeneralCategory.decimalNumber.ranges

/-- White space. -/
def space : CharClass := .within Unicode.whiteSpaceRanges

/-- Word characters. -/
def word : CharClass := .having .word

/-- The digits among the first 128 characters. -/
def plainDigit : CharClass := .range '0' '9'

/-- White space among the first 128 characters. -/
def plainSpace : CharClass := .union (.range '\t' '\r') (.one ' ')

/-- Word characters among the first 128 characters. -/
def plainWord : CharClass :=
  unions [.range '0' '9', .range 'A' 'Z', .one '_', .range 'a' 'z']

/-- The class or its complement. -/
def negateIf (neg : Bool) (a : CharClass) : CharClass :=
  if neg then a.compl else a

/-- The named classes of the first 128 characters. -/
def named? : String → Option CharClass
  | "alnum" => some (unions [.range '0' '9', .range 'A' 'Z', .range 'a' 'z'])
  | "alpha" => some (unions [.range 'A' 'Z', .range 'a' 'z'])
  | "ascii" => some (.range '\x00' '\x7f')
  | "blank" => some (unions [.one '\t', .one ' '])
  | "cntrl" => some (unions [.range '\x00' '\x1f', .one '\x7f'])
  | "digit" => some plainDigit
  | "graph" => some (.range '!' '~')
  | "lower" => some (.range 'a' 'z')
  | "print" => some (.range ' ' '~')
  | "punct" => some (unions [.range '!' '/', .range ':' '@', .range '[' '\x60', .range '\x7b' '~'])
  | "space" => some plainSpace
  | "upper" => some (.range 'A' 'Z')
  | "word" => some plainWord
  | "xdigit" => some (unions [.range '0' '9', .range 'A' 'F', .range 'a' 'f'])
  | _ => Option.none

end CharClass

end LogWarden.Pattern
