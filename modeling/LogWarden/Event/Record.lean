import LogWarden.Event.Basic
import LogWarden.Event.Timestamp
import LogWarden.Event.Uuid

/-! # Records of events

A record is one occurrence of an event, with an identifier and a time. -/

namespace LogWarden

/-- One occurrence of an event. -/
structure EventRecord where
  id : Uuid
  event : Event
  occurredAt : Timestamp
  deriving DecidableEq, Repr

namespace EventRecord

open Json

/-- A record as JSON. -/
def toJson (r : EventRecord) : Json :=
  .obj [("event_id", .str (String.ofList r.id.text)), ("kind", .str r.event.kind),
    ("payload", r.event.payload.toJson), ("occurred_at", .str (String.ofList r.occurredAt.text))]

/-- The fields of a record that have been read. -/
structure Partial where
  id : Option Uuid
  kind : Option String
  payload : Option Payload
  occurredAt : Option Timestamp

/-- Reads a record. -/
def read : Reads EventRecord :=
  readRecord (σ := Partial)
    [field "event_id" Partial.id (fun s v => { s with id := v }) Uuid.read,
     field "kind" Partial.kind (fun s v => { s with kind := v }) readString,
     field "payload" Partial.payload (fun s v => { s with payload := v }) Payload.read,
     field "occurred_at" Partial.occurredAt (fun s v => { s with occurredAt := v }) Timestamp.read]
    ⟨none, none, none, none⟩
    fun s => return ⟨← required s.id, ⟨← required s.kind, ← required s.payload⟩,
      ← required s.occurredAt⟩

end EventRecord

end LogWarden
