import LogWarden.Unicode.GeneralCategory
import LogWarden.Unicode.Property.Listed

/-! # Properties of characters

The properties that follow the general category up to a short list. -/

namespace LogWarden.Unicode

/-- The categories of letters. -/
def letterCategories : List GeneralCategory :=
  [.uppercaseLetter, .lowercaseLetter, .titlecaseLetter, .modifierLetter, .otherLetter]

/-- The categories of marks. -/
def markCategories : List GeneralCategory :=
  [.nonspacingMark, .spacingMark, .enclosingMark]

/-- The categories of numbers. -/
def numberCategories : List GeneralCategory :=
  [.decimalNumber, .letterNumber, .otherNumber]

def isAlphabetic (c : Char) : Bool :=
  if c.toNat < 128 then c.isAlpha
  else inCategories (.letterNumber :: letterCategories) c || otherAlphabeticRanges.contains c

def isNumeric (c : Char) : Bool :=
  if c.toNat < 128 then c.isDigit else inCategories numberCategories c

def isLowercase (c : Char) : Bool :=
  GeneralCategory.lowercaseLetter.has c || otherLowercaseRanges.contains c

def isUppercase (c : Char) : Bool :=
  GeneralCategory.uppercaseLetter.has c || otherUppercaseRanges.contains c

def isCased (c : Char) : Bool :=
  isLowercase c || isUppercase c || GeneralCategory.titlecaseLetter.has c

/-- Whether a character is skipped when the characters around a word are looked for. -/
def isCaseIgnorable (c : Char) : Bool :=
  inCategories [.nonspacingMark, .enclosingMark, .format, .modifierLetter, .modifierSymbol] c
    || middleLetterRanges.contains c

def isMath (c : Char) : Bool :=
  GeneralCategory.mathSymbol.has c || otherMathRanges.contains c

/-- Whether a character extends the character before it. -/
def isGraphemeExtend (c : Char) : Bool :=
  inCategories [.nonspacingMark, .enclosingMark] c || otherGraphemeExtendRanges.contains c

/-- Whether a character stands for nothing that can be seen: controls, format characters, separators
other than the blank, private use and unassigned characters. -/
def isUnprintable (c : Char) : Bool :=
  c != ' ' && (inCategories [.spaceSeparator, .lineSeparator, .paragraphSeparator, .control, .format,
    .privateUse] c || !isAssigned c)

def isGraphemeBase (c : Char) : Bool :=
  isAssigned c && !isGraphemeExtend c
    && !inCategories [.control, .format, .privateUse, .lineSeparator, .paragraphSeparator] c

def isIdStart (c : Char) : Bool :=
  (inCategories (.letterNumber :: letterCategories) c || otherIdStartRanges.contains c)
    && !patternSyntaxRanges.contains c && !patternWhiteSpaceRanges.contains c

def isIdContinue (c : Char) : Bool :=
  isIdStart c
    || (inCategories [.nonspacingMark, .spacingMark, .decimalNumber, .connectorPunctuation] c
      || otherIdContinueRanges.contains c)
      && !patternSyntaxRanges.contains c && !patternWhiteSpaceRanges.contains c

def isXidStart (c : Char) : Bool :=
  isIdStart c && !notXidStartRanges.contains c

def isXidContinue (c : Char) : Bool :=
  isIdContinue c && !notXidContinueRanges.contains c

end LogWarden.Unicode
