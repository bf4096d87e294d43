import LogWarden.Pattern.CharClass
import LogWarden.Unicode.Script

/-! # Classes by name

A pattern names a property of characters. Case, blanks, `-`, `_` and a leading `is` do not matter in
a name. -/

namespace LogWarden.Pattern.NamedClass

/-- A property's name without what does not matter in it. -/
def normalize (name : List Char) : String :=
  let plain := fun cs : List Char =>
    (cs.filter fun c => c != ' ' && c != '_' && c != '-' && c.toNat < 128).map Char.toLower
  match name with
  | a :: b :: rest =>
    if a.toLower == 'i' && b.toLower == 's' then
      if plain rest == ['c'] then "isc" else String.ofList (plain rest)
    else String.ofList (plain name)
  | _ => String.ofList (plain name)

/-- A name as it is written in a table, without what does not matter in it. -/
def key (name : String) : String :=
  String.ofList ((name.toList.filter fun c => c != '_').map Char.toLower)

open Unicode in
/-- The groups of categories, and the names of a category beside its code and its long name. -/
def categoryGroups : List (List String × List GeneralCategory) :=
  [(["l", "letter"], letterCategories),
   (["lc", "casedletter"], [.uppercaseLetter, .lowercaseLetter, .titlecaseLetter]),
   (["m", "mark", "combiningmark"], markCategories),
   (["n", "number"], numberCategories),
   (["p", "punctuation", "punct"], [.connectorPunctuation, .dashPunctuation, .openPunctuation,
     .closePunctuation, .initialPunctuation, .finalPunctuation, .otherPunctuation]),
   (["s", "symbol"], [.mathSymbol, .currencySymbol, .modifierSymbol, .otherSymbol]),
   (["z", "separator"], [.spaceSeparator, .lineSeparator, .paragraphSeparator]),
   (["digit"], [.decimalNumber]),
   (["cntrl"], [.control])]

/-- The class of a general category, or of a group of them. -/
def category? (name : String) : Option CharClass :=
  match name with
  | "any" => some .all
  | "ascii" => some (.range '\x00' '\x7f')
  | "assigned" => some (.having .assigned)
  | "cn" | "unassigned" => some (.compl (.having .assigned))
  | "cs" | "surrogate" => some .none
  | "c" | "other" =>
    some (.union (.categories [.control, .format, .privateUse]) (.compl (.having .assigned)))
  | _ =>
    match categoryGroups.find? (·.1.contains name) with
    | some (_, gs) => some (.categories gs)
    | none =>
      (Unicode.GeneralCategory.all.find? fun g => key g.code == name || key g.name == name).map
        fun g => .within g.ranges

/-- The class of a script. -/
def script? (name : String) : Option CharClass :=
  (Unicode.Script.all.find? fun s => s.names.any fun n => key n == name).map fun s =>
    .within s.ranges

open Unicode in
/-- The properties that a character has or has not, with their names. -/
def properties : List (List String × CharClass) :=
  [(["alphabetic", "alpha"], .having .alphabetic),
   (["lowercase", "lower"], .having .lowercase),
   (["uppercase", "upper"], .having .uppercase),
   (["cased"], .having .cased),
   (["caseignorable", "ci"], .having .caseIgnorable),
   (["math"], .having .math),
   (["graphemeextend", "grext"], .having .graphemeExtend),
   (["graphemebase", "grbase"], .having .graphemeBase),
   (["idstart", "ids"], .having .idStart),
   (["idcontinue", "idc"], .having .idContinue),
   (["xidstart", "xids"], .having .xidStart),
   (["xidcontinue", "xidc"], .having .xidContinue),
   (["whitespace", "wspace", "space"], .space),
   (["asciihexdigit", "ahex"], .within asciiHexDigitRanges),
   (["bidicontrol", "bidic"], .within bidiControlRanges),
   (["dash"], .within dashRanges),
   (["defaultignorablecodepoint", "di"], .within defaultIgnorableCodePointRanges),
   (["deprecated", "dep"], .within deprecatedRanges),
   (["diacritic", "dia"], .within diacriticRanges),
   (["emoji"], .within emojiRanges),
   (["emojimodifier", "emod"], .within emojiModifierRanges),
   (["emojimodifierbase", "ebase"], .within emojiModifierBaseRanges),
   (["emojipresentation", "epres"], .within emojiPresentationRanges),
   (["emojicomponent", "ecomp"], .within emojiComponentRanges),
   (["extendedpictographic", "extpict"], .within extendedPictographicRanges),
   (["extender", "ext"], .within extenderRanges),
   (["hexdigit", "hex"], .within hexDigitRanges),
   (["idsbinaryoperator", "idsb"], .within idsBinaryOperatorRanges),
   (["idstrinaryoperator", "idst"], .within idsTrinaryOperatorRanges),
   (["ideographic", "ideo"], .within ideographicRanges),
   (["joincontrol", "joinc"], .within joinControlRanges),
   (["logicalorderexception", "loe"], .within logicalOrderExceptionRanges),
   (["noncharactercodepoint", "nchar"], .within noncharacterCodePointRanges),
   (["patternsyntax", "patsyn"], .within patternSyntaxRanges),
   (["patternwhitespace", "patws"], .within patternWhiteSpaceRanges),
   (["quotationmark", "qmark"], .within quotationMarkRanges),
   (["radical"], .within radicalRanges),
   (["regionalindicator", "ri"], .within regionalIndicatorRanges),
   (["sentenceterminal", "sterm"], .within sentenceTerminalRanges),
   (["softdotted", "sd"], .within softDottedRanges),
   (["terminalpunctuation", "term"], .within terminalPunctuationRanges),
   (["unifiedideograph", "uideo"], .within unifiedIdeographRanges),
   (["variationselector", "vs"], .within variationSelectorRanges)]

/-- The class that a bare name stands for: a property, a category or a script. -/
def bare? (name : List Char) : Option CharClass :=
  let n := normalize name
  match properties.find? (·.1.contains n) with
  | some (_, cls) => some cls
  | none => (category? n).orElse fun _ => script? n

/-- The class that a property with a value stands for. -/
def valued? (property value : List Char) : Option CharClass :=
  match normalize property with
  | "gc" | "generalcategory" => category? (normalize value)
  | "sc" | "script" => script? (normalize value)
  | _ => none

end LogWarden.Pattern.NamedClass
