import LogWarden.Event.Record
import LogWarden.Proofs.Event.Texts
import LogWarden.Proofs.Json.Sorted
import LogWarden.Proofs.Lists
import LogWarden.Proofs.Outcomes

/-!
# Events that are written and read

An event whose payload has no floating-point numbers is read back from its text. So is every event
that some text reads as, in whatever order and spelling the text gives its fields.
-/

namespace LogWarden

open Json

theorem eq_some_of_required {α : Type} {o : Option α} {a : α} (h : required o = .ok a) :
    o = some a := by
  cases o <;> cases h
  rfl

namespace Payload

variable {p : Payload} {kind : PayloadKind} {levels : Nat} {d : Document}
  {readers : List (String × Reads Json)} {ms acc : List (String × Json)} {vs : List Json}

/-- Whether a whole number fits 64 bits with a sign. -/
def IsInt64 (n : Int) : Prop :=
  -9223372036854775808 ≤ n ∧ n ≤ 9223372036854775807

/-- Whether the whole numbers of a payload fit 64 bits. -/
def FitsInt64 : Payload → Prop
  | .viewForced dx dy => IsInt64 dx ∧ IsInt64 dy
  | _ => True

/-- Whether a payload has a floating-point number. -/
def HasFloat (p : Payload) : Prop :=
  p.kind = .landDeposit ∨ p.kind = .landWithdraw

/-! ## Reading what was written -/

theorem ofName?_name (kind : PayloadKind) : PayloadKind.ofName? kind.name = some kind := by
  cases kind <;> rfl

theorem nodup_keys_members (p : Payload) : (p.members.map Prod.fst).Nodup := by
  cases p <;> simp [members]

theorem ne_type_of_mem_members {m : String × Json} (h : m ∈ p.members) : m.1 ≠ "type" := by
  intro hkey
  cases p <;> simp [members] at h <;> grind

theorem readAny_of_mem_members (hfloat : ¬p.HasFloat) {m : String × Json} (h : m ∈ p.members) :
    readAny levels m.2.toDocument = .ok m.2 := by
  have hplain : (∃ s, m.2 = .str s) ∨ ∃ n, m.2 = .num n := by
    cases p with
    | landDeposit => exact absurd (.inl rfl) hfloat
    | landWithdraw => exact absurd (.inr rfl) hfloat
    | _ =>
        simp only [members] at h
        grind
  rcases hplain with ⟨s, hs⟩ | ⟨n, hn⟩
  · rw [hs]
    rfl
  · rw [hn]
    rfl

/-- Members are read as they were written. -/
theorem readMembers_memberDocuments
    (h : ∀ m ∈ ms, m.1 ≠ "type" ∧ readAny levels m.2.toDocument = .ok m.2) :
    readMembers levels (some kind) acc (toDocument.memberDocuments ms) =
      .ok (some kind, acc.reverse ++ ms) := by
  induction ms generalizing acc with
  | nil =>
      rw [List.append_nil]
      rfl
  | cons m ms ih =>
      obtain ⟨key, v⟩ := m
      obtain ⟨hkey, hv⟩ := h (key, v) List.mem_cons_self
      have hms := @ih ((key, v) :: acc) fun m hm => h m (List.mem_cons_of_mem _ hm)
      rw [List.reverse_cons, List.append_assoc, List.singleton_append] at hms
      refine bind_eq_ok_iff.mpr ⟨key, rfl, ?_⟩
      rw [if_neg (by simpa using hkey)]
      exact bind_eq_ok_iff.mpr ⟨v, hv, hms⟩

/-- Members that have the keys of readers, in order, are found by them. -/
theorem valuesOfMembers_eq (hkeys : (ms.map Prod.fst).Nodup)
    (h : List.Forall₂ (fun r m => r.1 = m.1 ∧ readValue r.2 m.2 = .ok m.2) readers ms) :
    valuesOfMembers readers ms = .ok (ms.map Prod.snd) := by
  rw [valuesOfMembers, mapM_eq_ok_iff, List.forall₂_map_right_iff]
  rw [List.forall₂_iff_zip] at h ⊢
  refine ⟨h.1, ?_⟩
  rintro ⟨name, read⟩ ⟨key, v⟩ hzip
  obtain ⟨rfl, hread⟩ := h.2 hzip
  simp only [filter_eq_singleton_of_mem hkeys (List.of_mem_zip hzip).2]
  exact hread

theorem fieldReaders_members (hfloat : ¬p.HasFloat) (hfits : p.FitsInt64) :
    List.Forall₂ (fun r m => r.1 = m.1 ∧ readValue r.2 m.2 = .ok m.2) (fieldReaders p.kind)
      p.members := by
  cases p with
  | landDeposit => exact absurd (.inl rfl) hfloat
  | landWithdraw => exact absurd (.inr rfl) hfloat
  | viewForced dx dy =>
      have hread {n : Int} (hn : IsInt64 n) (name : String) :
          readValue (fieldReaders.int name).2 (.num (.int n)) = .ok (.num (.int n)) := by
        have hint : readInt64 maxLevels (.num (.ok (.int n))) = .ok n :=
          if_pos hn
        simp only [readValue, toDocument, fieldReaders.int, hint, Except.map]
      exact .cons ⟨rfl, hread hfits.1 _⟩ (.cons ⟨rfl, hread hfits.2 _⟩ .nil)
  | kick | disconnect | playerIdle | playerResume | gameCrashed => exact .nil
  | join | quit | viewSync => exact .cons ⟨rfl, rfl⟩ .nil
  | whisper | landInvite => exact .cons ⟨rfl, rfl⟩ (.cons ⟨rfl, rfl⟩ .nil)
  | message =>
      exact .cons ⟨rfl, rfl⟩ (.cons ⟨rfl, rfl⟩ (.cons ⟨rfl, rfl⟩ (.cons ⟨rfl, rfl⟩
        (.cons ⟨rfl, rfl⟩ .nil))))

theorem ofValues?_members (hfloat : ¬p.HasFloat) :
    ofValues? p.kind (p.members.map Prod.snd) = some p := by
  cases p with
  | landDeposit => exact absurd (.inl rfl) hfloat
  | landWithdraw => exact absurd (.inr rfl) hfloat
  | _ => rfl

/-- A payload is read from the value that it is written as. -/
theorem read_toJson (hfloat : ¬p.HasFloat) (hfits : p.FitsInt64) (hlevels : 1 < levels) :
    Payload.read levels p.toJson.toDocument = .ok p := by
  have henter : enter levels = .ok (levels - 1) := by
    rw [enter, if_neg (Nat.not_le.mpr hlevels)]
  have hmembers := @readMembers_memberDocuments p.kind (levels - 1) p.members [] fun m hm =>
    ⟨ne_type_of_mem_members hm, readAny_of_mem_members hfloat hm⟩
  have hvalues := valuesOfMembers_eq (nodup_keys_members p) (fieldReaders_members hfloat hfits)
  have hname : readMembers (levels - 1) none []
      (toDocument.memberDocuments (("type", .str p.kind.name) :: p.members)) =
      .ok (some p.kind, p.members) := by
    refine bind_eq_ok_iff.mpr ⟨"type", rfl, ?_⟩
    refine bind_eq_ok_iff.mpr ⟨p.kind.name, rfl, ?_⟩
    simp only [ofName?_name]
    exact hmembers
  refine bind_eq_ok_iff.mpr ⟨levels - 1, henter, ?_⟩
  refine bind_eq_ok_iff.mpr ⟨(some p.kind, p.members), hname, ?_⟩
  refine bind_eq_ok_iff.mpr ⟨(), rfl, ?_⟩
  refine bind_eq_ok_iff.mpr ⟨p.kind, rfl, ?_⟩
  refine bind_eq_ok_iff.mpr ⟨p.members.map Prod.snd, hvalues, ?_⟩
  rw [ofValues?_members hfloat]
  rfl

theorem isWhole_toJson (hfloat : ¬p.HasFloat) (hfits : p.FitsInt64) : p.toJson.IsWhole := by
  have hword {n : Int} (hn : IsInt64 n) : (Json.num (.int n)).IsWhole :=
    ⟨hn.1, Int.le_trans hn.2 (by decide)⟩
  cases p with
  | landDeposit => exact absurd (.inl rfl) hfloat
  | landWithdraw => exact absurd (.inr rfl) hfloat
  | viewForced dx dy => exact ⟨trivial, hword hfits.1, hword hfits.2, trivial⟩
  | _ => simp [toJson, members, IsWhole, IsWhole.wholeMembers]

/-! ## What is read fits -/

theorem readInt_bounds {lo hi n : Int} (h : readInt lo hi levels d = .ok n) : lo ≤ n ∧ n ≤ hi := by
  cases d with
  | num x =>
      obtain ⟨x, -, h⟩ := bind_eq_ok_iff.mp h
      cases x with
      | int k =>
          simp only at h
          split_ifs at h with hk
          cases h
          exact hk
      | float x => cases h
  | _ => cases h

theorem valuesOfMembers_read (h : valuesOfMembers readers ms = .ok vs) :
    List.Forall₂ (fun r v => ∃ w, readValue r.2 w = .ok v) readers vs := by
  refine (mapM_eq_ok_iff.mp h).imp ?_
  rintro ⟨name, read⟩ v hv
  simp only at hv
  split at hv
  case h_1 w _ => exact ⟨w, hv⟩
  case h_2 => cases hv

theorem valuesOfItems_read {ws : List Json} (h : valuesOfItems readers ws = .ok vs) :
    List.Forall₂ (fun r v => ∃ w, readValue r.2 w = .ok v) readers vs := by
  induction readers generalizing ws vs with
  | nil =>
      cases ws with
      | nil =>
          cases h
          exact .nil
      | cons w ws => cases h
  | cons r readers ih =>
      cases ws with
      | nil => cases h
      | cons w ws =>
          obtain ⟨v, hv, h⟩ := bind_eq_ok_iff.mp h
          obtain ⟨vs, hvs, h⟩ := bind_eq_ok_iff.mp h
          cases h
          exact .cons ⟨w, hv⟩ (ih hvs)

theorem fitsInt64_of_ofValues?
    (hread : List.Forall₂ (fun r v => ∃ w, readValue r.2 w = .ok v) (fieldReaders kind) vs)
    (h : ofValues? kind vs = some p) : p.FitsInt64 := by
  cases p with
  | viewForced dx dy =>
      have hcase : kind = .viewForced ∧ vs = [.num (.int dx), .num (.int dy)] := by
        simp only [ofValues?] at h
        split at h <;> cases h
        exact ⟨rfl, rfl⟩
      obtain ⟨rfl, rfl⟩ := hcase
      have hbounds {name : String} {n : Int}
          (h : ∃ w, readValue (fieldReaders.int name).2 w = .ok (.num (.int n))) : IsInt64 n := by
        obtain ⟨w, hw⟩ := h
        obtain ⟨k, hk, heq⟩ := map_eq_ok_iff.mp hw
        cases heq
        exact readInt_bounds hk
      cases hread with
      | cons hdx hread =>
          cases hread with
          | cons hdy _ => exact ⟨hbounds hdx, hbounds hdy⟩
  | _ => trivial

/-- The whole numbers of a payload that is read fit 64 bits. -/
theorem fitsInt64_of_read (h : Payload.read levels d = .ok p) : p.FitsInt64 := by
  cases d with
  | obj members tail =>
      obtain ⟨_, -, h⟩ := bind_eq_ok_iff.mp h
      obtain ⟨⟨_, ms⟩, -, h⟩ := bind_eq_ok_iff.mp h
      obtain ⟨_, -, h⟩ := bind_eq_ok_iff.mp h
      obtain ⟨kind, -, h⟩ := bind_eq_ok_iff.mp h
      obtain ⟨vs, hvs, h⟩ := bind_eq_ok_iff.mp h
      exact fitsInt64_of_ofValues? (valuesOfMembers_read hvs) (eq_some_of_required h)
  | arr items tail =>
      obtain ⟨_, -, h⟩ := bind_eq_ok_iff.mp h
      cases items with
      | nil =>
          obtain ⟨_, -, h⟩ := bind_eq_ok_iff.mp h
          cases h
      | cons d rest =>
          obtain ⟨name, -, h⟩ := bind_eq_ok_iff.mp h
          split at h
          case h_1 kind _ =>
            obtain ⟨_, -, h⟩ := bind_eq_ok_iff.mp h
            obtain ⟨_, -, h⟩ := bind_eq_ok_iff.mp h
            obtain ⟨vs, hvs, h⟩ := bind_eq_ok_iff.mp h
            exact fitsInt64_of_ofValues? (valuesOfItems_read hvs) (eq_some_of_required h)
          case h_2 => cases h
  | _ => cases h

end Payload

theorem Timestamp.inCalendar_of_read {levels : Nat} {d : Document} {t : Timestamp}
    (h : Timestamp.read levels d = .ok t) : t.InCalendar := by
  obtain ⟨s, -, h⟩ := bind_eq_ok_iff.mp h
  exact inCalendar_of_ofText? (eq_some_of_required h)

namespace EventRecord

variable {r : EventRecord}

/-- Whether the whole numbers of an event fit 64 bits and its time stands in the calendar. -/
structure InRange (r : EventRecord) : Prop where
  payload : r.event.payload.FitsInt64
  occurredAt : r.occurredAt.InCalendar

/-- Whether the fields that have been read are those of such an event. -/
structure Partial.InRange (s : Partial) : Prop where
  payload : ∀ p ∈ s.payload, p.FitsInt64
  occurredAt : ∀ t ∈ s.occurredAt, t.InCalendar

/-- An event that is read is in range. -/
theorem inRange_of_read {levels : Nat} {d : Document} (h : EventRecord.read levels d = .ok r) :
    r.InRange := by
  have hstart : Partial.InRange ⟨none, none, none, none⟩ := by
    constructor
    · intro p hp
      cases hp
    · intro t ht
      cases ht
  refine (readRecord_invariant (P := Partial.InRange) ?_ hstart h).elim ?_
  · intro f hf s levels d s' hs hset
    simp only [List.mem_cons, List.not_mem_nil, or_false] at hf
    rcases hf with rfl | rfl | rfl | rfl
    all_goals obtain ⟨a, ha, rfl⟩ := map_eq_ok_iff.mp hset
    · exact ⟨hs.payload, hs.occurredAt⟩
    · exact ⟨hs.payload, hs.occurredAt⟩
    · refine ⟨fun p hp => ?_, hs.occurredAt⟩
      cases hp
      exact Payload.fitsInt64_of_read ha
    · refine ⟨hs.payload, fun t ht => ?_⟩
      cases ht
      exact Timestamp.inCalendar_of_read ha
  · rintro s ⟨hs, h⟩
    obtain ⟨id, -, h⟩ := bind_eq_ok_iff.mp h
    obtain ⟨kind, -, h⟩ := bind_eq_ok_iff.mp h
    obtain ⟨payload, hp, h⟩ := bind_eq_ok_iff.mp h
    obtain ⟨t, ht, h⟩ := bind_eq_ok_iff.mp h
    cases h
    exact ⟨hs.payload _ (eq_some_of_required hp), hs.occurredAt _ (eq_some_of_required ht)⟩

theorem isWhole_toJson (hfloat : ¬r.event.payload.HasFloat) (hr : r.InRange) :
    r.toJson.IsWhole :=
  ⟨trivial, trivial, Payload.isWhole_toJson hfloat hr.payload, trivial, trivial⟩

/-- The tree of a record with some tree in the place of its payload. -/
def document (r : EventRecord) (payload : Document) : Document :=
  .obj [(⟨.ok "event_id", none⟩, .str ⟨.ok (String.ofList r.id.text), none⟩),
    (⟨.ok "kind", none⟩, .str ⟨.ok r.event.kind, none⟩), (⟨.ok "payload", none⟩, payload),
    (⟨.ok "occurred_at", none⟩, .str ⟨.ok (String.ofList r.occurredAt.text), none⟩)] .closed

/-- A record is read as far as its payload is. -/
theorem read_document (r : EventRecord) (d : Document) (hcalendar : r.occurredAt.InCalendar)
    (hyear : 0 ≤ r.occurredAt.date.year ∧ r.occurredAt.date.year ≤ 9999)
    (hnano : r.occurredAt.nano < 1000000000) :
    EventRecord.read maxLevels (r.document d) =
      (Payload.read 127 d).map fun p => ⟨r.id, ⟨r.event.kind, p⟩, r.occurredAt⟩ := by
  have hid : Uuid.read 127 (.str ⟨.ok (String.ofList r.id.text), none⟩) = .ok r.id := by
    simp [Uuid.read, readString, bind, Except.bind, Uuid.ofText?_text, required]
  have htime : Timestamp.read 127 (.str ⟨.ok (String.ofList r.occurredAt.text), none⟩) =
      .ok r.occurredAt := by
    simp [Timestamp.read, readString, bind, Except.bind,
      Timestamp.ofText?_text hcalendar hyear hnano, required]
  have hkind : readString 127 (.str ⟨.ok r.event.kind, none⟩) = .ok r.event.kind := rfl
  rw [read, document, readRecord]
  change (do
    let s ← setMembers _ 127 _ _
    finish .closed
    _) = _
  rw [setMembers_field (by rfl) (by rfl) hid, setMembers_field (by rfl) (by rfl) hkind]
  cases hpayload : Payload.read 127 d with
  | ok p =>
      rw [setMembers_field (by rfl) (by rfl) hpayload, setMembers_field (by rfl) (by rfl) htime]
      rfl
  | error f =>
      rw [setMembers_field_error (by rfl) (by rfl) hpayload]
      rfl

/-- An event is read from the value that it is written as. -/
theorem read_toJson (hfloat : ¬r.event.payload.HasFloat) (hr : r.InRange)
    (hyear : 0 ≤ r.occurredAt.date.year ∧ r.occurredAt.date.year ≤ 9999)
    (hnano : r.occurredAt.nano < 1000000000) :
    EventRecord.read maxLevels r.toJson.toDocument = .ok r := by
  have hpayload := @Payload.read_toJson r.event.payload 127 hfloat hr.payload (by decide)
  change EventRecord.read maxLevels (r.document r.event.payload.toJson.toDocument) = _
  rw [read_document r _ hr.occurredAt hyear hnano, hpayload]
  rfl

/-- An event without floating-point numbers, with a year of four digits and no leap second, is read
back from its text, whether it was given or read from another text. -/
theorem read_back (hfloat : ¬r.event.payload.HasFloat)
    (hyear : 0 ≤ r.occurredAt.date.year ∧ r.occurredAt.date.year ≤ 9999)
    (hnano : r.occurredAt.nano < 1000000000) :
    (r.InRange → readText EventRecord.read r.toJson.compactText = .ok r) ∧
      ∀ text, readText EventRecord.read text = .ok r →
        readText EventRecord.read r.toJson.compactText = .ok r := by
  have hback (hr : r.InRange) : readText EventRecord.read r.toJson.compactText = .ok r := by
    rw [readText_compactText _ (isWhole_toJson hfloat hr), read_toJson hfloat hr hyear hnano]
  refine ⟨hback, fun text htext => hback ?_⟩
  -- what a text reads as is in range
  obtain ⟨r', hread, h⟩ := bind_eq_ok_iff.mp htext
  split at h
  · cases h
  · cases h
    exact inRange_of_read hread

/-- An event half an hour after the end of a leap day. -/
def turned : EventRecord :=
  ⟨⟨0x1f⟩, ⟨"turned", .viewForced (-9223372036854775808) 7⟩, ⟨⟨2024, 3, 1⟩, 1800, 500000000⟩⟩

/-- The same event as an array, its identifier in another spelling and its time an hour west. -/
def turnedText : String :=
  "[\"urn:uuid:00000000-0000-0000-0000-00000000001F\", \"turned\", " ++
    "[\"view_forced\", -9223372036854775808, 7], \"2024-02-29t23:30:00.5-01:00\"]"

theorem turned_read_back :
    turned.InRange ∧ readText EventRecord.read turnedText = .ok turned ∧
      readText EventRecord.read turned.toJson.compactText = .ok turned := by
  have hrange : turned.InRange :=
    ⟨⟨⟨by decide, by decide⟩, by decide, by decide⟩, by decide, by decide⟩
  have htext : readText EventRecord.read turnedText = .ok turned := by
    decide +kernel
  have hback := read_back (r := turned) (by simp [turned, Payload.HasFloat, Payload.kind])
    (by decide) (by decide)
  exact ⟨hrange, htext, hback.2 turnedText htext⟩

end EventRecord

end LogWarden
