import LogWarden.Json.Decode

/-! # Identifiers

An identifier of 128 bits. Its text has 32 hexadecimal digits in five groups; a text may also leave
the hyphens out, or put braces or a name of the scheme around the groups. -/

namespace LogWarden

/-- An identifier of 128 bits. -/
structure Uuid where
  value : BitVec 128
  deriving DecidableEq, Repr

namespace Uuid

/-- The hexadecimal digits of an identifier. -/
def digits (u : Uuid) : List Char :=
  (List.range 32).map fun i => Nat.digitChar (u.value.toNat / Nat.pow 16 (31 - i) % 16)

/-- The text of an identifier. -/
def text (u : Uuid) : List Char :=
  let ds := u.digits
  ds.take 8 ++ '-' :: (ds.drop 8).take 4 ++ '-' :: (ds.drop 12).take 4 ++ '-' :: (ds.drop 16).take 4
    ++ '-' :: ds.drop 20

/-- The identifier of 32 hexadecimal digits. -/
def ofDigits? (cs : List Char) : Option Uuid := do
  guard (cs.length == 32)
  let n ← cs.foldlM (fun n c => (Json.Reader.hexDigit? c).map (n * 16 + ·)) 0
  return ⟨BitVec.ofNat 128 n⟩

/-- The identifier of digits in groups. -/
def ofGroups? (cs : List Char) : Option Uuid := do
  guard (cs.length == 36 && [8, 13, 18, 23].all fun i => cs[i]? == some '-')
  ofDigits? (cs.take 8 ++ (cs.drop 9).take 4 ++ (cs.drop 14).take 4 ++ (cs.drop 19).take 4
    ++ cs.drop 24)

/-- The identifier that a text denotes. -/
def ofText? (cs : List Char) : Option Uuid :=
  if cs.length = 32 then ofDigits? cs
  else if cs.length = 38 then
    if cs.head? = some '\x7b' ∧ cs.getLast? = some '\x7d' then ofGroups? (cs.drop 1).dropLast
    else none
  else if cs.length = 45 then
    if "urn:uuid:".toList.isPrefixOf cs then ofGroups? (cs.drop 9) else none
  else ofGroups? cs

/-- Reads an identifier. -/
def read : Json.Reads Uuid := fun levels d => do
  Json.required (ofText? (← Json.readString levels d).toList)

end Uuid

end LogWarden
