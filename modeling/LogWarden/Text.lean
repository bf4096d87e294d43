import LogWarden.Unicode.Property

/-! # Blank and quoted text

White space at the ends of a text does not count in names and contents. In a message a list of names
is written with each name in quotes, and with escapes for what cannot be seen or would change how its
neighbours look. -/

namespace LogWarden.Text

/-- A text without white space at its start. -/
def trimStart (cs : List Char) : List Char :=
  cs.dropWhile Unicode.isWhiteSpace

/-- A text without white space at its end. -/
def trimEnd (cs : List Char) : List Char :=
  (cs.reverse.dropWhile Unicode.isWhiteSpace).reverse

/-- A text without white space at its ends. -/
def trimChars (cs : List Char) : List Char :=
  trimEnd (trimStart cs)

/-- A text without white space at its ends. -/
def trim (s : String) : String :=
  String.ofList (trimChars s.toList)

/-- Whether a text holds nothing but white space. -/
def isBlank (s : String) : Bool :=
  s.toList.all Unicode.isWhiteSpace

/-- The lower-case hexadecimal digits of a number. -/
def hexDigits (n : Nat) : List Char :=
  Nat.toDigits 16 n

/-- A character inside quotes. -/
def escape (c : Char) : List Char :=
  match c with
  | '\x00' => ['\\', '0']
  | '\t' => ['\\', 't']
  | '\n' => ['\\', 'n']
  | '\r' => ['\\', 'r']
  | '"' => ['\\', '"']
  | '\\' => ['\\', '\\']
  | c =>
    if Unicode.isGraphemeExtend c || Unicode.isUnprintable c then
      '\\' :: 'u' :: '\x7b' :: hexDigits c.toNat ++ ['\x7d']
    else [c]

/-- A text in quotes. -/
def quote (s : String) : String :=
  String.ofList ('"' :: s.toList.flatMap escape ++ ['"'])

/-- A list of texts in quotes. -/
def quoteList (ss : List String) : String :=
  "[" ++ ", ".intercalate (ss.map quote) ++ "]"

end LogWarden.Text
