import LogWarden.Json.Reader

/-! # Reading values of a type

A reader goes through a document from left to right and stops at the first fault: a fault of the
text, or a value that is not of the type asked for. It is given how deep the document may still
nest; values that nobody asks for may nest without limit. -/

namespace LogWarden.Json

/-- Reads a value of a type, given the levels of nesting left. -/
abbrev Reads (α : Type) := Nat → Document → Except JsonFault α

/-- A document nests no deeper than one level less. -/
def maxLevels : Nat := 128

/-- The levels left inside an array or object. -/
def enter (levels : Nat) : Except JsonFault Nat :=
  if levels ≤ 1 then .error .malformed else .ok (levels - 1)

/-- The fault of finding a value of another type. Whether the value itself can be read comes
first, except for arrays and objects. -/
def mismatch : Document → JsonFault
  | .fault f _ => f
  | .num (.error f) => f
  | .str ⟨.error f, _⟩ => f
  | _ => .mismatched

/-- What a list's end means to a reader that asks for one more. -/
def finish : Tail → Except JsonFault Unit
  | .closed => .ok ()
  | .cut f _ => .error f

/-- Skips a value. -/
def skip : Document → Except JsonFault Unit
  | .fault f _ => .error f
  | .str ⟨_, some f⟩ => .error f
  | .arr items tail => do skipItems items; finish tail
  | .obj members tail => do skipMembers members; finish tail
  | _ => .ok ()
where
  skipItems : List Document → Except JsonFault Unit
    | [] => .ok ()
    | d :: rest => do skip d; skipItems rest
  skipMembers : List (QuotedText × Document) → Except JsonFault Unit
    | [] => .ok ()
    | (⟨_, some f⟩, _) :: _ => .error f
    | (_, d) :: rest => do skip d; skipMembers rest

/-- Reads any value. Members stay in order, and several may have one key. -/
def readAny : Nat → Document → Except JsonFault Json
  | _, .null => .ok .null
  | _, .bool b => .ok (.bool b)
  | _, .num n => n.map .num
  | _, .str s => s.value.map .str
  | levels, .arr items tail => do
    let inner ← enter levels
    let vs ← anyItems inner items
    finish tail
    return .arr vs
  | levels, .obj members tail => do
    let inner ← enter levels
    let ms ← anyMembers inner members
    finish tail
    return .obj ms
  | _, .fault f _ => .error f
where
  anyItems : Nat → List Document → Except JsonFault (List Json)
    | _, [] => .ok []
    | levels, d :: rest => do
      let v ← readAny levels d
      return v :: (← anyItems levels rest)
  anyMembers : Nat → List (QuotedText × Document) → Except JsonFault (List (String × Json))
    | _, [] => .ok []
    | levels, (k, d) :: rest => do
      let key ← k.value
      let v ← readAny levels d
      return (key, v) :: (← anyMembers levels rest)

/-- Reads any value, objects sorted by key. -/
def readSorted : Reads Json := fun levels d => (readAny levels d).map sorted

def readString : Reads String
  | _, .str s => s.value
  | _, d => .error (mismatch d)

def readBool : Reads Bool
  | _, .bool b => .ok b
  | _, d => .error (mismatch d)

/-- Reads a whole number between two bounds. -/
def readInt (lo hi : Int) : Reads Int
  | _, .num n => do
    match ← n with
    | .int k => if lo ≤ k ∧ k ≤ hi then .ok k else .error .mismatched
    | .float _ => .error .mismatched
  | _, d => .error (mismatch d)

/-- Reads a natural number below a bound. -/
def readNat (bound : Nat) : Reads Nat := fun levels d =>
  (readInt 0 (bound - 1) levels d).map Int.toNat

/-- Reads a floating-point number; a whole number is one too. -/
def readFloat : Reads Binary64
  | _, .num n => do
    match ← n with
    | .int k => .ok (Binary64.ofInt k)
    | .float x => .ok x
  | _, d => .error (mismatch d)

/-- Reads a list. -/
def readList {α : Type} (item : Reads α) : Reads (List α)
  | levels, .arr items tail => do
    let inner ← enter levels
    let vs ← items.mapM (item inner)
    finish tail
    return vs
  | _, d => .error (mismatch d)

/-- Reads an object as a map sorted by key. Of several members of one key the last counts. -/
def readMap {α : Type} (item : Reads α) : Reads (List (String × α))
  | levels, .obj members tail => do
    let inner ← enter levels
    let ms ← members.mapM fun (k, d) => do
      let key ← k.value
      let v ← item inner d
      return (key, v)
    finish tail
    return sortMembers ms
  | _, d => .error (mismatch d)

/-- Reads one of the names of an enumeration, as a text or as an object with the name as its only
key and `null` as its value. -/
def readVariant {α : Type} (variant? : String → Option α) : Reads α
  | _, .str s => do
    match variant? (← s.value) with
    | some a => .ok a
    | none => .error .mismatched
  | levels, .obj members tail => do
    let _ ← enter levels
    match members with
    | [] => match tail with
      | .closed => .error .malformed
      | .cut f _ => .error f
    | (k, d) :: rest =>
      let some a := variant? (← k.value) | .error .mismatched
      match d with
      | .null => pure ()
      | d => .error (mismatch d)
      match rest, tail with
      | [], .closed => .ok a
      | [], .cut f false => .error f
      | _, _ => .error .malformed
  | _, .null => .error .malformed
  | _, .bool _ => .error .malformed
  | _, .num _ => .error .malformed
  | _, .arr _ _ => .error .malformed
  | _, .fault f started => .error (if started then .malformed else f)

/-! ## Records

A record is an object whose members set fields, in any order and each at most once, or an array of
its fields in order. Members of other names are skipped. -/

/-- A field of a record that is being read into `σ`. -/
structure Field (σ : Type) where
  name : String
  isSet : σ → Bool
  set : σ → Nat → Document → Except JsonFault σ

/-- A field that is kept as an option. -/
def field {σ α : Type} (name : String) (get : σ → Option α) (put : σ → Option α → σ)
    (read : Reads α) : Field σ :=
  ⟨name, fun s => (get s).isSome, fun s levels d => (read levels d).map fun a => put s (some a)⟩

/-- Sets the fields that members name. -/
def setMembers {σ : Type} (fields : List (Field σ)) (levels : Nat) :
    σ → List (QuotedText × Document) → Except JsonFault σ
  | s, [] => .ok s
  | s, (k, d) :: rest => do
    let key ← k.value
    match fields.find? (·.name == key) with
    | none => do
      skip d
      setMembers fields levels s rest
    | some f =>
      if f.isSet s then .error .mismatched
      else do
        let s ← f.set s levels d
        setMembers fields levels s rest

/-- Sets fields from the items of an array, in order. `missing` decides about fields for which there
is no item. An array is not longer than the record. -/
def setItems {σ : Type} (levels : Nat) (tail : Tail) (missing : σ → Except JsonFault Unit) :
    List (Field σ) → σ → List Document → Except JsonFault σ
  | [], s, items => do
    missing s
    match items, tail with
    | [], .closed => .ok s
    | [], .cut f false => .error f
    | _, _ => .error .malformed
  | f :: fields, s, d :: rest => do
    let s ← f.set s levels d
    setItems levels tail missing fields s rest
  | _ :: _, s, [] => do
    finish tail
    missing s
    return s

/-- Reads a record into `σ`, then completes it. -/
def readRecord {σ α : Type} (fields : List (Field σ)) (start : σ)
    (complete : σ → Except JsonFault α) : Reads α
  | levels, .obj members tail => do
    let inner ← enter levels
    let s ← setMembers fields inner start members
    finish tail
    complete s
  | levels, .arr items tail => do
    let inner ← enter levels
    let s ← setItems inner tail (fun s => (complete s).map fun _ => ()) fields start items
    complete s
  | _, d => .error (mismatch d)

/-- The value of a field that has to be there. -/
def required {α : Type} : Option α → Except JsonFault α
  | some a => .ok a
  | none => .error .mismatched

/-! ## Whole texts and values -/

/-- Reads a text. -/
def readText {α : Type} (read : Reads α) (text : String) : Except JsonFault α := do
  let (d, trailing) := document text
  let a ← read maxLevels d
  match trailing with
  | some f => .error f
  | none => .ok a

/-- The document of a value. -/
def toDocument : Json → Document
  | .null => .null
  | .bool b => .bool b
  | .num n => .num (.ok n)
  | .str s => .str ⟨.ok s, none⟩
  | .arr items => .arr (itemDocuments items) .closed
  | .obj members => .obj (memberDocuments members) .closed
where
  itemDocuments : List Json → List Document
    | [] => []
    | v :: rest => v.toDocument :: itemDocuments rest
  memberDocuments : List (String × Json) → List (QuotedText × Document)
    | [] => []
    | (k, v) :: rest => (⟨.ok k, none⟩, v.toDocument) :: memberDocuments rest

/-- Reads a value that was read before as any value. -/
def readValue {α : Type} (read : Reads α) (v : Json) : Except JsonFault α :=
  read maxLevels v.toDocument

end LogWarden.Json
