import LogWarden.Number.DecimalText

/-! # JSON values

A number is a whole number or a binary floating-point number. Members of an object keep their order;
`sorted` brings them into the order of their keys. -/

namespace LogWarden

/-- A JSON number. -/
inductive JsonNumber
  | int (n : Int)
  | float (x : Binary64)
  deriving DecidableEq, Repr

/-- A JSON value. -/
inductive Json
  | null
  | bool (b : Bool)
  | num (n : JsonNumber)
  | str (s : String)
  | arr (items : List Json)
  | obj (members : List (String × Json))
  deriving Repr

namespace Json

/-- Puts a member into an object sorted by key, in place of a member of the same key. -/
def insertSorted {α : Type} (key : String) (v : α) : List (String × α) → List (String × α)
  | [] => [(key, v)]
  | (k, w) :: rest =>
    if key < k then (key, v) :: (k, w) :: rest
    else if key = k then (key, v) :: rest
    else (k, w) :: insertSorted key v rest

/-- Members sorted by key. Of several members of one key the last counts. -/
def sortMembers {α : Type} (ms : List (String × α)) : List (String × α) :=
  ms.foldl (fun acc (k, v) => insertSorted k v acc) []

/-- A value whose objects, at any depth, are sorted by key. -/
def sorted : Json → Json
  | .arr items => .arr (sortedItems items)
  | .obj members => .obj (sortMembers (sortedMembers members))
  | v => v
where
  sortedItems : List Json → List Json
    | [] => []
    | v :: rest => v.sorted :: sortedItems rest
  sortedMembers : List (String × Json) → List (String × Json)
    | [] => []
    | (k, v) :: rest => (k, v.sorted) :: sortedMembers rest

/-- The value of the first member of a key. -/
def get? (v : Json) (key : String) : Option Json :=
  match v with
  | .obj members => (members.find? (·.1 == key)).map (·.2)
  | _ => none

end Json

end LogWarden
