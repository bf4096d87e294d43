import LogWarden.Pattern.Bracketed

/-! # Reading patterns

A pattern is read from left to right. What is open, the sequence being read, the alternatives before
it and the groups around it, is kept in a `Reading`; each step reads at least one character. -/

namespace LogWarden.Pattern

/-- A part of a sequence, with the depth of its nesting. A change of flags is a part that matches
nothing and that cannot be repeated. -/
inductive Part
  | expr (e : Expr) (depth : Nat)
  | setting

/-- A group that is being read: what stood before it. -/
structure OpenGroup where
  /-- The group's index, if it captures. -/
  index : Option Nat
  parts : List Part
  branches : List (Expr × Nat)
  flags : Flags

/-- A pattern read in part. Lists of parts and branches run backwards. -/
structure Reading where
  rest : List Char
  flags : Flags
  parts : List Part
  branches : List (Expr × Nat)
  outer : List OpenGroup
  /-- The number of capturing groups opened. -/
  groups : Nat
  /-- The named groups opened, the last one first. -/
  names : List (String × Nat)

namespace Reading

open Reader

/-- A pattern nests no deeper. -/
def maxDepth : Nat := 250

/-- A sequence of parts and its depth. -/
def sequence (parts : List Part) : Expr × Nat :=
  let es := parts.reverse.filterMap fun
    | .expr e d => some (e, d)
    | .setting => none
  let depth := es.foldl (fun m p => max m p.2) 0
  (.seqs (es.map Prod.fst), if parts.length ≤ 1 then depth else depth + 1)

/-- The alternatives read so far, the current sequence being the last, and their depth. -/
def alternatives (r : Reading) : Expr × Nat :=
  let last := sequence r.parts
  let branches := (last :: r.branches).reverse
  let depth := branches.foldl (fun m p => max m p.2) 0
  (.alts (branches.map Prod.fst), if r.branches.isEmpty then depth else depth + 1)

/-- Adds an expression to the current sequence. -/
def push (r : Reading) (e : Expr) (depth : Nat) (rest : List Char) : Reading :=
  { r with parts := .expr e depth :: r.parts, rest := rest }

/-- A character under the flags. -/
def literalExpr (flags : Flags) (c : Char) : Expr :=
  .chars (foldIf flags (.one c))

/-- What an escape or a plain character stands for outside brackets. -/
def escapedExpr? (flags : Flags) : Escaped → Option Expr
  | .literal c byte =>
    if byte && !flags.wide && c.toNat ≥ 128 then none else some (literalExpr flags c)
  | .cls a => some (.chars a)
  | .look l => some (.look l)

/-- The class of `.` under the flags. -/
def dot? (flags : Flags) : Option CharClass :=
  if !flags.wide then none
  else if flags.dotAll then some .all
  else if flags.crlf then some (.compl (.union (.one '\n') (.one '\r')))
  else some (.compl (.one '\n'))

/-- `^` under the flags. -/
def startLook (flags : Flags) : Look :=
  if !flags.multiLine then .textStart else if flags.crlf then .anyLineStart else .lineStart

/-- `$` under the flags. -/
def endLook (flags : Flags) : Look :=
  if !flags.multiLine then .textEnd else if flags.crlf then .anyLineEnd else .lineEnd

/-- Repeats the last part of the sequence. -/
def repeatLast (r : Reading) (least : Nat) (most : Option Nat) (isLazy : Bool)
    (rest : List Char) : Option Reading :=
  match r.parts with
  | .expr e depth :: parts =>
    some { r with
      parts := .expr (e.times least most (isLazy == r.flags.swapGreed)) (depth + 1) :: parts
      rest := rest }
  | _ => none

/-- Takes a `?` that makes a repetition lazy. -/
def lazyMark : List Char → Bool × List Char
  | '?' :: rest => (true, rest)
  | cs => (false, cs)

/-- Drops white space. -/
def dropWhite (cs : List Char) : List Char :=
  cs.dropWhile Unicode.isWhiteSpace

/-- The digits of a decimal number, blanks skipped where the flags say so. -/
def decimalDigits (flags : Flags) : Nat → Option Nat → List Char → Option Nat × List Char
  | 0, acc, cs => (acc, cs)
  | fuel + 1, acc, cs =>
    match cs with
    | c :: rest =>
      if '0' ≤ c && c ≤ '9' then
        decimalDigits flags fuel (some (acc.getD 0 * 10 + (c.toNat - '0'.toNat))) (skip flags rest)
      else (acc, cs)
    | [] => (acc, [])

/-- A decimal number below 2³² with blanks around it, if there is one. -/
def decimal (flags : Flags) (cs : List Char) : Option Nat × List Char :=
  let (n, rest) := decimalDigits flags cs.length none (dropWhite cs)
  (n.filter (· < 4294967296), skip flags (dropWhite rest))

/-- A counted repetition, after its brace. -/
def counted (r : Reading) (cs : List Char) : Option Reading := do
  let finish := fun (least : Nat) (most : Option Nat) (rest : List Char) => do
    let '}' :: rest := rest | none
    guard (most.all (least ≤ ·))
    let (isLazy, rest) := lazyMark (skip r.flags rest)
    r.repeatLast least most isLazy rest
  let (least, rest) := decimal r.flags (skip r.flags cs)
  let least ← least
  match rest with
  | ',' :: rest =>
    match skip r.flags rest with
    | '}' :: rest => finish least none ('}' :: rest)
    | rest =>
      let (most, rest) := decimal r.flags rest
      finish least (some (← most)) rest
  | rest => finish least (some least) rest

/-- Sets a flag by its letter. -/
def setFlag? (flags : Flags) (c : Char) (on : Bool) : Option Flags :=
  match c with
  | 'i' => some { flags with ignoreCase := on }
  | 'm' => some { flags with multiLine := on }
  | 's' => some { flags with dotAll := on }
  | 'U' => some { flags with swapGreed := on }
  | 'u' => some { flags with wide := on }
  | 'R' => some { flags with crlf := on }
  | 'x' => some { flags with verbose := on }
  | _ => none

/-- Flags up to `:` or `)`, and which of the two ends them. No flag stands twice, and one `-` with a
flag behind it may turn the rest off. -/
def flagList (seen : List Char) (on : Bool) (flags : Flags) :
    List Char → Option (Flags × List Char × Char × List Char)
  | [] => none
  | c :: rest =>
    if c == ':' || c == ')' then
      if seen.head? == some '-' then none else some (flags, seen, c, rest)
    else if seen.contains c then none
    else if c == '-' then flagList (c :: seen) false flags rest
    else do
      let flags ← setFlag? flags c on
      flagList (c :: seen) on flags rest

/-- The name of a group, up to `>`: a letter or `_` first, then also digits, dots and brackets. -/
def groupName (first : Bool) : List Char → Option (List Char × List Char)
  | [] => none
  | c :: rest =>
    if c == '>' then if first then none else some ([], rest)
    else if c == '_' || Unicode.isAlphabetic c
        || (!first && (c == '.' || c == '[' || c == ']' || Unicode.isNumeric c)) then
      (groupName false rest).map fun (name, rest) => (c :: name, rest)
    else none

/-- Opens a group whose text starts at `rest`. -/
def openGroup (r : Reading) (index : Option Nat) (inner : Flags) (rest : List Char) :
    Reading :=
  { r with
    rest := rest
    flags := inner
    parts := []
    branches := []
    outer := ⟨index, r.parts, r.branches, r.flags⟩ :: r.outer }

/-- Opens a named group. -/
def openNamed (r : Reading) (cs : List Char) : Option Reading := do
  let (name, rest) ← groupName true cs
  let name := String.ofList name
  guard (!r.names.any (·.1 == name))
  let index := r.groups + 1
  return openGroup { r with groups := index, names := (name, index) :: r.names }
    (some index) r.flags rest

/-- What stands after an opening parenthesis. A pattern cannot look around. -/
def group (r : Reading) (cs : List Char) : Option Reading :=
  match skip r.flags cs with
  | '?' :: '=' :: _ | '?' :: '!' :: _ | '?' :: '<' :: '=' :: _ | '?' :: '<' :: '!' :: _ => none
  | '?' :: 'P' :: '<' :: rest => r.openNamed rest
  | '?' :: '<' :: rest => r.openNamed rest
  | '?' :: rest => do
    let (flags, seen, mark, rest) ← flagList [] true r.flags rest
    if mark == ':' then return r.openGroup none flags rest
    else
      guard (!seen.isEmpty)
      return { r with flags := flags, parts := .setting :: r.parts, rest := rest }
  | rest =>
    let index := r.groups + 1
    some (openGroup { r with groups := index } (some index) r.flags rest)

/-- Closes a group. -/
def close (r : Reading) (rest : List Char) : Option Reading :=
  match r.outer with
  | [] => none
  | g :: outer =>
    let (e, depth) := alternatives r
    let e := match g.index with
      | some i => .group i e
      | none => e
    some { r with
      rest := rest
      flags := g.flags
      parts := .expr e (depth + 1) :: g.parts
      branches := g.branches
      outer := outer }

/-- Reads one construct, which starts with the character `c`. -/
def step (r : Reading) (c : Char) (rest : List Char) : Option Reading :=
  let simple := fun (least : Nat) (most : Option Nat) =>
    let (isLazy, rest) := lazyMark rest
    r.repeatLast least most isLazy rest
  match c with
  | '(' => r.group rest
  | ')' => r.close rest
  | '|' => some { r with rest := rest, parts := [], branches := sequence r.parts :: r.branches }
  | '[' => (bracketed r.flags rest).map fun (cls, rest) => r.push (.chars cls) 1 rest
  | '?' => simple 0 (some 1)
  | '*' => simple 0 none
  | '+' => simple 1 none
  | '{' => r.counted rest
  | '\\' => do
    let (e, rest) ← escape r.flags rest
    return r.push (← escapedExpr? r.flags e) 0 rest
  | '.' => (dot? r.flags).map fun cls => r.push (.chars cls) 0 rest
  | '^' => some (r.push (.look (startLook r.flags)) 0 rest)
  | '$' => some (r.push (.look (endLook r.flags)) 0 rest)
  | c => some (r.push (literalExpr r.flags c) 0 rest)

/-- Reads the rest of a pattern. -/
def finish : Nat → Reading → Option Reading
  | 0, _ => none
  | fuel + 1, r =>
    match skip r.flags r.rest with
    | [] => if r.outer.isEmpty then some r else none
    | c :: rest => (r.step c rest).bind (finish fuel)

end Reading

/-- The expression of a pattern text and its named groups in order of opening. A group inside a
repetition of no round is none. -/
def read? (ignoreCase : Bool) (text : List Char) : Option (Expr × List (String × Nat)) := do
  let r ← Reading.finish (text.length + 1)
    ⟨text, .initial ignoreCase, [], [], [], 0, []⟩
  let (e, depth) := r.alternatives
  guard (depth ≤ Reading.maxDepth)
  return (e, r.names.reverse.filter fun (_, i) => e.groups.contains i)

end LogWarden.Pattern
