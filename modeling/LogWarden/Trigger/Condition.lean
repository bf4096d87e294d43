import LogWarden.Json.Printer
import LogWarden.Pattern.Basic

/-! # Conditions on fields

A condition is a value that the field has to equal, a list of values of which it has to equal one, or
a pattern that has to match its text. Numbers are equal if they are equal as binary floating-point
numbers. A field that an event lacks counts as null, and no pattern matches null. -/

namespace LogWarden

/-- A number as a binary floating-point number. -/
def JsonNumber.toBinary64 : JsonNumber → Binary64
  | .int n => .ofInt n
  | .float x => x

namespace Json

/-- Whether two values are equal, a whole number and a floating-point number never being so. -/
def same : Json → Json → Bool
  | .null, .null => true
  | .bool a, .bool b => a == b
  | .num (.int m), .num (.int n) => m == n
  | .num (.float x), .num (.float y) => x.numEq y
  | .str s, .str t => s == t
  | .arr vs, .arr ws => sameItems vs ws
  | .obj ms, .obj ns => sameMembers ms ns
  | _, _ => false
where
  sameItems : List Json → List Json → Bool
    | [], [] => true
    | v :: vs, w :: ws => v.same w && sameItems vs ws
    | _, _ => false
  sameMembers : List (String × Json) → List (String × Json) → Bool
    | [], [] => true
    | (k, v) :: ms, (l, w) :: ns => k == l && v.same w && sameMembers ms ns
    | _, _ => false

/-- Whether two values are equal, numbers being compared by value. -/
def equal : Json → Json → Bool
  | .num m, .num n => m.toBinary64.numEq n.toBinary64
  | v, w => v.same w

end Json

/-- A condition on a field. -/
inductive Condition
  | oneOf (values : List Json)
  | found (pattern : Pattern)
  | equals (value : Json)

namespace Condition

/-- The mark of a text that is a pattern. -/
def patternMark : List Char := ['r', 'e', ':']

/-- Compiles a condition; the error is the reason why it cannot be. -/
def compile [PatternWording] : Json → Except String Condition
  | .arr values => .ok (.oneOf values)
  | .str s =>
    let cs := s.toList
    if patternMark.isPrefixOf cs then
      let text := String.ofList (cs.drop patternMark.length)
      match Pattern.compile? false text with
      | some p => .ok (.found p)
      | none => .error ("invalid regex '" ++ text ++ "': " ++ PatternWording.fault text)
    else .ok (.equals (.str s))
  | v => .ok (.equals v)

/-- Whether a condition holds for a field. -/
def holds (c : Condition) (field : Option Json) : Bool :=
  let v := field.getD .null
  match c with
  | .oneOf values => values.any (·.equal v)
  | .equals w => w.equal v
  | .found p =>
    match v with
    | .str s => p.isMatch s
    | .null => false
    | v => p.isMatch v.compactText

end Condition

end LogWarden
