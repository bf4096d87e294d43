import LogWarden.Json.Value

/-! # Writing JSON

The compact form has no blanks. The pretty form puts every item and member on a line of its own,
indented by two blanks a level. A number that is not finite is written as `null`. -/

namespace LogWarden.Json

/-- Numbers are written without an exponent from 10⁻⁵ up to 10¹⁶. -/
def numberStyle : DecimalStyle := ⟨-5, 15, true⟩

/-- The text of a floating-point number. -/
def floatText : Binary64 → List Char
  | .finite s m e => numberStyle.finiteText s m e
  | _ => ['n', 'u', 'l', 'l']

/-- The text of a number. -/
def numberText : JsonNumber → List Char
  | .int n => intText n
  | .float x => floatText x

/-- A hexadecimal digit. -/
def hexChar (n : Nat) : Char :=
  (Nat.digitChar n)

/-- A character inside quotes. -/
def escapeChar (c : Char) : List Char :=
  match c with
  | '"' => ['\\', '"']
  | '\\' => ['\\', '\\']
  | '\x08' => ['\\', 'b']
  | '\x0c' => ['\\', 'f']
  | '\n' => ['\\', 'n']
  | '\r' => ['\\', 'r']
  | '\t' => ['\\', 't']
  | c =>
    if c.toNat < 32 then ['\\', 'u', '0', '0', hexChar (c.toNat / 16), hexChar (c.toNat % 16)]
    else [c]

/-- A text in quotes. -/
def quote (s : List Char) : List Char :=
  '"' :: s.flatMap escapeChar ++ ['"']

/-- The compact form of a value. -/
def compact : Json → List Char
  | .null => "null".toList
  | .bool true => "true".toList
  | .bool false => "false".toList
  | .num n => numberText n
  | .str s => quote s.toList
  | .arr items => '[' :: compactItems items
  | .obj members => '\x7b' :: compactMembers members
where
  /-- The items and the bracket behind them. -/
  compactItems : List Json → List Char
    | [] => [']']
    | [v] => v.compact ++ [']']
    | v :: rest => v.compact ++ ',' :: compactItems rest
  /-- The members and the brace behind them. -/
  compactMembers : List (String × Json) → List Char
    | [] => ['\x7d']
    | [(k, v)] => quote k.toList ++ ':' :: v.compact ++ ['\x7d']
    | (k, v) :: rest => quote k.toList ++ ':' :: v.compact ++ ',' :: compactMembers rest

/-- A new line at a depth of nesting. -/
def newLine (depth : Nat) : List Char :=
  '\n' :: List.replicate (2 * depth) ' '

/-- The pretty form of a value at a depth of nesting. An empty array or object stays on its line. -/
def pretty (depth : Nat) : Json → List Char
  | .arr [] => ['[', ']']
  | .arr items => '[' :: prettyItems depth items
  | .obj [] => ['\x7b', '\x7d']
  | .obj members => '\x7b' :: prettyMembers depth members
  | v => v.compact
where
  prettyItems (depth : Nat) : List Json → List Char
    | [] => [']']
    | [v] => newLine (depth + 1) ++ v.pretty (depth + 1) ++ newLine depth ++ [']']
    | v :: rest => newLine (depth + 1) ++ v.pretty (depth + 1) ++ ',' :: prettyItems depth rest
  prettyMembers (depth : Nat) : List (String × Json) → List Char
    | [] => ['\x7d']
    | [(k, v)] =>
      newLine (depth + 1) ++ quote k.toList ++ ':' :: ' ' :: v.pretty (depth + 1) ++ newLine depth
        ++ ['\x7d']
    | (k, v) :: rest =>
      newLine (depth + 1) ++ quote k.toList ++ ':' :: ' ' :: v.pretty (depth + 1)
        ++ ',' :: prettyMembers depth rest

/-- The compact text of a value. -/
def compactText (v : Json) : String :=
  String.ofList v.compact

/-- The pretty text of a value. -/
def prettyText (v : Json) : String :=
  String.ofList (v.pretty 0)

end LogWarden.Json
