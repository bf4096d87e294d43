import LogWarden.Pattern.Escape

/-! # Bracketed classes

A bracketed class lists characters, ranges and classes, and may combine what it lists by `&&`, `--`
and `~~`, from the left. -/

namespace LogWarden.Pattern.Reader

/-- The operators between parts of a bracketed class. -/
inductive SetOp
  | inter | diff | symmDiff
  deriving DecidableEq, Repr

/-- The class that an operator makes. -/
def SetOp.apply : SetOp → CharClass → CharClass → CharClass
  | .inter => .inter
  | .diff => .diff
  | .symmDiff => .symmDiff

/-- Joins the part behind an operator to what stands before it. -/
def combine (flags : Flags) (left : Option (CharClass × SetOp)) (part : CharClass) : CharClass :=
  match left with
  | none => part
  | some (a, op) => op.apply (foldIf flags a) (foldIf flags part)

/-- A named class `[:name:]` or `[:^name:]`, after the bracket; `none` if there is none here. -/
def namedClass? (flags : Flags) (cs : List Char) : Option (CharClass × List Char) := do
  let ':' :: cs := cs | none
  let (neg, cs) := match cs with
    | '^' :: rest => (true, rest)
    | cs => (false, cs)
  let (name, rest) ← splitAt? [':'] cs
  let ']' :: rest := rest | none
  let cls ← CharClass.named? (String.ofList name)
  return ((foldIf flags cls).negateIf neg, rest)

/-- What a bracket opens with: `^`, then hyphens or one closing bracket that stand for
themselves. -/
def opening (flags : Flags) (cs : List Char) : Option (Bool × CharClass × List Char) :=
  let (neg, cs) := match skip flags cs with
    | '^' :: rest => (true, skip flags rest)
    | cs => (false, cs)
  hyphens neg .none cs.length cs
where
  /-- Hyphens at the start. -/
  hyphens (neg : Bool) (acc : CharClass) : Nat → List Char → Option (Bool × CharClass × List Char)
    | _, [] => none
    | 0, _ => none
    | fuel + 1, '-' :: rest => hyphens neg (.union acc (.one '-')) fuel (skip flags rest)
    | _, ']' :: rest =>
      if acc == .none then
        if (skip flags rest).isEmpty then none else some (neg, .one ']', skip flags rest)
      else some (neg, acc, ']' :: rest)
    | _, cs => some (neg, acc, cs)

/-- An element of a class that is no bracket. -/
def element (flags : Flags) : List Char → Option (Escaped × List Char)
  | [] => none
  | '\\' :: rest => escape flags rest
  | c :: rest => some (.literal c false, rest)

/-- A character as a bound of a range or an element. A class of the first 128 characters holds no
other character. -/
def literal? (flags : Flags) : Escaped → Option Char
  | .literal c _ => if flags.wide || c.toNat < 128 then some c else none
  | _ => none

/-- The class of an element. -/
def elementClass? (flags : Flags) : Escaped → Option CharClass
  | .cls a => some a
  | e => (literal? flags e).map .one

/-- An element or a range. -/
def elementOrRange (flags : Flags) (cs : List Char) : Option (CharClass × List Char) := do
  let (first, rest) ← element flags cs
  match skip flags rest with
  | [] => none
  | '-' :: afterHyphen =>
    let single := (elementClass? flags first).map fun a => (a, '-' :: afterHyphen)
    match skip flags afterHyphen with
    | [] => none
    | ']' :: _ => single
    | '-' :: _ => single
    | cs =>
      let (last, rest) ← element flags cs
      let lo ← literal? flags first
      let hi ← literal? flags last
      guard (lo ≤ hi)
      return (.range lo hi, rest)
  | rest => (elementClass? flags first).map fun a => (a, rest)

/-- The rest of a bracketed class: `left` stands before the last operator, `acc` after it. -/
def bracketedRest (flags : Flags) : Nat → Bool → Option (CharClass × SetOp) → CharClass →
    List Char → Option (CharClass × List Char)
  | 0, _, _, _, _ => none
  | fuel + 1, neg, left, acc, cs =>
    let operator := fun op rest =>
      bracketedRest flags fuel neg (some (combine flags left acc, op)) .none rest
    match skip flags cs with
    | [] => none
    | '[' :: rest =>
      match namedClass? flags rest with
      | some (cls, rest) => bracketedRest flags fuel neg left (.union acc cls) rest
      | none => do
        let (innerNeg, innerAcc, rest) ← opening flags rest
        let (cls, rest) ← bracketedRest flags fuel innerNeg none innerAcc rest
        bracketedRest flags fuel neg left (.union acc cls) rest
    | ']' :: rest => some ((foldIf flags (combine flags left acc)).negateIf neg, rest)
    | '&' :: '&' :: rest => operator .inter rest
    | '-' :: '-' :: rest => operator .diff rest
    | '~' :: '~' :: rest => operator .symmDiff rest
    | cs => do
      let (cls, rest) ← elementOrRange flags cs
      bracketedRest flags fuel neg left (.union acc cls) rest

/-- A bracketed class, after its bracket. Where classes are confined to the first 128 characters, a
class that holds others is refused. -/
def bracketed (flags : Flags) (cs : List Char) : Option (CharClass × List Char) := do
  let (neg, acc, rest) ← opening flags cs
  let (cls, rest) ← bracketedRest flags (rest.length + 1) neg none acc rest
  guard (flags.wide || !cls.mem '\u0080')
  return (cls, rest)

end LogWarden.Pattern.Reader
