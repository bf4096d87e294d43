import LogWarden.Proofs.Event.RoundTrip
import LogWarden.Proofs.Json.Fractions
import LogWarden.Proofs.Rules.LandLedger

/-!
# Amounts in the ledger of a land

The amount of an event of the ledger is read from its text without commas and without blanks around
it. It is a finite number if this text is a numeral that the format has room for, and then the event
can be read back, if not with the same amount. Another text may be the name of infinity or of
not-a-number: then there is an event as well, but its amount is written as `null`, and nobody can
read it back.
-/

namespace LogWarden

open Json

namespace Binary64

variable {cs : List Char} {x : Binary64}

/-- A text is read as a finite number if it is a numeral that the format has room for. -/
theorem isFinite_of_ofText? (h : ofText? cs = some x) :
    x.isFinite = true ↔ ∃ n : Numeral, n.text = cs ∧ |n.value| < overflow := by
  constructor
  · intro hfinite
    rcases ofText?_eq_some_iff.mp h with ⟨n, htext, rfl⟩ | ⟨_, _, -, ⟨-, rfl⟩ | ⟨-, rfl⟩⟩
    · exact ⟨n, htext, n.isFinite_nearest_iff.mp hfinite⟩
    · cases hfinite
    · cases hfinite
  · rintro ⟨n, rfl, hvalue⟩
    obtain rfl : n.nearest = x := Option.some.inj ((ofText?_text n).symm.trans h)
    exact n.isFinite_nearest_iff.mpr hvalue

theorem isProper_of_ofText? (h : ofText? cs = some x) (hfinite : x.isFinite = true) :
    x.IsProper := by
  rcases ofText?_eq_some_iff.mp h with ⟨n, -, rfl⟩ | ⟨_, _, -, ⟨-, rfl⟩ | ⟨-, rfl⟩⟩
  · rcases ofDecimal_spec (n.sign == some true) n.significand n.exponent with
      ⟨-, heq⟩ | ⟨-, m, e, heq, hformat, -⟩
    · rw [Numeral.nearest, heq] at hfinite
      cases hfinite
    · exact ⟨_, m, e, heq, hformat⟩
  · cases hfinite
  · cases hfinite

/-- A text is not read as a number if it is neither a numeral nor a name. -/
theorem ofText?_eq_none_iff :
    ofText? cs = none ↔ (∀ n : Numeral, n.text ≠ cs) ∧
      ∀ sign name, cs = signText sign ++ name →
        ¬IsName (String.ofList (name.map Char.toLower)) := by
  rw [← not_iff_not, ← ne_eq, Option.ne_none_iff_exists']
  simp only [ofText?_eq_some_iff, not_and_or, not_forall, not_not, ne_eq]
  constructor
  · rintro ⟨x, ⟨n, htext, -⟩ | ⟨sign, name, heq, ⟨hname, -⟩ | ⟨hname | hname, -⟩⟩⟩
    · exact .inl ⟨n, htext⟩
    · exact .inr ⟨sign, name, heq, .inr (.inr hname)⟩
    · exact .inr ⟨sign, name, heq, .inl hname⟩
    · exact .inr ⟨sign, name, heq, .inr (.inl hname)⟩
  · rintro (⟨n, htext⟩ | ⟨sign, name, heq, hname | hname | hname⟩)
    · exact ⟨n.nearest, .inl ⟨n, htext, rfl⟩⟩
    · exact ⟨_, .inr ⟨sign, name, heq, .inr ⟨.inl hname, rfl⟩⟩⟩
    · exact ⟨_, .inr ⟨sign, name, heq, .inr ⟨.inr hname, rfl⟩⟩⟩
    · exact ⟨_, .inr ⟨sign, name, heq, .inl ⟨hname, rfl⟩⟩⟩

end Binary64

namespace Builtin

variable {kind field raw : String} {x : Binary64} {e : ClassifyError}

/-- What an amount is read from: its text without commas, and without blanks around it. -/
def amountText (raw : String) : List Char := Text.trimChars (raw.toList.filter (· != ','))

theorem amount_eq_ok_iff :
    amount kind field raw = .ok x ↔ Binary64.ofText? (amountText raw) = some x := by
  unfold amount amountText
  cases Binary64.ofText? (Text.trimChars (raw.toList.filter (· != ','))) <;> simp

theorem amount_eq_error_iff :
    amount kind field raw = .error e ↔
      Binary64.ofText? (amountText raw) = none ∧ e = .invalidField kind field raw := by
  unfold amount amountText
  cases Binary64.ofText? (Text.trimChars (raw.toList.filter (· != ','))) with
  | none => simp [eq_comm]
  | some x => simp

end Builtin

theorem Payload.floatValue_eq_null_iff {x : Binary64} :
    floatValue x = .null ↔ x.isFinite = false := by
  cases x <;> simp [floatValue, Binary64.isFinite]

theorem Captures.get?_of_required {caps : Captures} {kind name s : String}
    (h : caps.required kind name = .ok s) : caps.get? name = some s := by
  rw [required] at h
  split at h <;> cases h
  assumption

namespace Booking

variable {b : Booking} {aliases : Aliases} {kind land player raw left : String}
  {caps : Captures} {p : Payload} {x : Binary64}

theorem mem_bindings (b : Booking) (aliases : Aliases) :
    ⟨b.kind, b.registration⟩ ∈ Builtin.bindings aliases := by
  cases b <;> simp [Builtin.bindings, kind, registration]

theorem construct_builtin (b : Booking) (aliases : Aliases) (caps : Captures) :
    (Registry.builtin aliases).construct b.kind caps = b.registration.construct b.kind caps := by
  rw [Registry.construct, Registry.find?_builtin (b.mem_bindings aliases)]

/-- The payloads of the ledger come from the kinds of the ledger. -/
theorem exists_kind (h : (Registry.builtin aliases).construct kind caps = .ok p)
    (hfloat : p.HasFloat) : ∃ b : Booking, kind = b.kind := by
  have hinverse := Registry.empty_inverse.afterAll (Builtin.bindings aliases)
  rw [← Registry.builtin_eq] at hinverse
  have hkind := (hinverse.payloadOf?_iff _ _).mp (Registry.payloadOf?_builtin h)
  obtain ⟨b, hb⟩ : ∃ b : Booking, p.kind = b.registration.payload := by
    rcases hfloat with hp | hp
    · exact ⟨.deposit, hp⟩
    · exact ⟨.withdrawal, hp⟩
  have hbooking : (Registry.builtin aliases).payloadOf? b.kind = some p.kind := by
    rw [Registry.payloadOf?, Registry.find?_builtin (b.mem_bindings aliases), hb]
    rfl
  exact ⟨b, Option.some.inj (hkind.symm.trans ((hinverse.payloadOf?_iff _ _).mp hbooking))⟩

/-- What the constructors of the ledger have in common. -/
theorem construct_eq (b : Booking) (kind : String) (caps : Captures) :
    b.registration.construct kind caps = (do
      let land ← caps.required kind "land_name"
      let player ← caps.required kind "player"
      let raw ← caps.required kind b.field
      let x ← Builtin.amount kind b.field raw
      let left ← caps.required kind "now_value"
      return b.payload land player x left) := by
  cases b
  · simp [registration, Builtin.landDeposit, field, payload]
  · simp [registration, Builtin.landWithdraw, field, payload]

/-- An event of the ledger is refused for the text of its amount if this is not read as a number. -/
theorem construct_eq_invalid_iff (hland : caps.get? "land_name" = some land)
    (hplayer : caps.get? "player" = some player) (hraw : caps.get? b.field = some raw) :
    b.registration.construct kind caps = .error (.invalidField kind b.field raw) ↔
      Binary64.ofText? (Builtin.amountText raw) = none := by
  -- what comes behind the amount can only be missing
  have hleft : caps.required kind "now_value" ≠ .error (.invalidField kind b.field raw) := by
    rw [Captures.required]
    split <;> simp
  rw [construct_eq]
  simp only [bind_eq_error_iff, Captures.required_eq_ok hland, Captures.required_eq_ok hplayer,
    Captures.required_eq_ok hraw, Except.ok.injEq, exists_eq_left', reduceCtorEq, false_or,
    Builtin.amount_eq_error_iff, pure, Except.pure, hleft, and_false, exists_false, or_false,
    and_true]

theorem field?_payload : (b.payload land player x left).field? b.field = some (Payload.floatValue x) := by
  cases b <;> rfl

/-- The tree of a payload of the ledger with some tree in the place of its amount. -/
def document (b : Booking) (land player : String) (amount : Document) (left : String) : Document :=
  .obj [(⟨.ok "type", none⟩, .str ⟨.ok b.registration.payload.name, none⟩),
    (⟨.ok "land_name", none⟩, .str ⟨.ok land, none⟩), (⟨.ok "player", none⟩, .str ⟨.ok player, none⟩),
    (⟨.ok b.field, none⟩, amount), (⟨.ok "now_value", none⟩, .str ⟨.ok left, none⟩)] .closed

theorem toDocument_payload :
    (b.payload land player x left).toJson.toDocument =
      b.document land player (Payload.floatValue x).toDocument left := by
  cases b <;> rfl

theorem read_number (b : Booking) (land player left : String) (x : Binary64) :
    Payload.read 127 (b.document land player (.num (.ok (.float x))) left) =
      .ok (b.payload land player x left) := by
  cases b <;> rfl

theorem read_null (b : Booking) (land player left : String) :
    Payload.read 127 (b.document land player .null left) = .error .mismatched := by
  cases b <;> rfl

end Booking

namespace Booking

variable {b : Booking} {land player left : String} {x : Binary64}

theorem isWhole_null (b : Booking) (hx : x.isFinite = false) :
    (b.payload land player x left).toJson.IsWhole := by
  cases b <;> simp [payload, Payload.toJson, Payload.members, Payload.floatValue, hx, Json.IsWhole,
    IsWhole.wholeMembers]

end Booking

/-- A record of the ledger whose amount is not finite cannot be read back. -/
theorem EventRecord.not_read_back (b : Booking) (land player left : String) {x : Binary64}
    (hx : x.isFinite = false) {r : EventRecord}
    (hr : r.event.payload = b.payload land player x left)
    (hcalendar : r.occurredAt.InCalendar)
    (hyear : 0 ≤ r.occurredAt.date.year ∧ r.occurredAt.date.year ≤ 9999)
    (hnano : r.occurredAt.nano < 1000000000) :
    readText EventRecord.read r.toJson.compactText = .error .mismatched := by
  have hwhole : r.toJson.IsWhole :=
    ⟨trivial, trivial, hr ▸ b.isWhole_null hx, trivial, trivial⟩
  have hamount : (Payload.floatValue x).toDocument = .null := by
    rw [Payload.floatValue, hx]
    rfl
  rw [readText_compactText _ hwhole]
  change EventRecord.read maxLevels (r.document r.event.payload.toJson.toDocument) = _
  rw [read_document r _ hcalendar hyear hnano, hr, Booking.toDocument_payload, hamount,
    Booking.read_null]
  rfl

/-- The text of a payload of the ledger spells one with an amount that its amount reads as. -/
theorem Booking.exists_spells (b : Booking) (land player left : String) {x : Binary64}
    (hx : x.IsProper) :
    ∃ y : Binary64, y.isFinite = true ∧
      Spells (b.payload land player y left).toJson (b.payload land player x left).toJson.compact := by
  obtain ⟨y, hfinite, hspells⟩ := exists_spells_float hx
  have hy : Payload.floatValue y = .num (.float y) := by rw [Payload.floatValue, hfinite]; rfl
  have hx : Payload.floatValue x = .num (.float x) := by rw [Payload.floatValue, hx.isFinite]; rfl
  refine ⟨y, hfinite, ?_⟩
  cases b
  all_goals
    refine .obj (spells_compactMembers_of_forall₂ ?_)
    simp only [payload, Payload.members, hx, hy]
    exact .cons ⟨rfl, .str⟩ (.cons ⟨rfl, .str⟩ (.cons ⟨rfl, .str⟩ (.cons ⟨rfl, hspells⟩
      (.cons ⟨rfl, .str⟩ .nil))))

/-- A record of the ledger whose amount is finite can be read back, with an amount that is finite. -/
theorem EventRecord.read_back_finite (b : Booking) (land player left : String) {x : Binary64}
    (hx : x.IsProper) {r : EventRecord} (hr : r.event.payload = b.payload land player x left)
    (hcalendar : r.occurredAt.InCalendar)
    (hyear : 0 ≤ r.occurredAt.date.year ∧ r.occurredAt.date.year ≤ 9999)
    (hnano : r.occurredAt.nano < 1000000000) :
    ∃ y : Binary64, y.isFinite = true ∧ readText EventRecord.read r.toJson.compactText =
      .ok ⟨r.id, ⟨r.event.kind, b.payload land player y left⟩, r.occurredAt⟩ := by
  obtain ⟨y, hfinite, hspells⟩ := b.exists_spells land player left hx
  refine ⟨y, hfinite, ?_⟩
  let back : EventRecord := ⟨r.id, ⟨r.event.kind, b.payload land player y left⟩, r.occurredAt⟩
  have hrecord : Spells back.toJson r.toJson.compact := by
    refine .obj (spells_compactMembers_of_forall₂ ?_)
    exact .cons ⟨rfl, .str⟩ (.cons ⟨rfl, .str⟩ (.cons ⟨rfl, hr ▸ hspells⟩ (.cons ⟨rfl, .str⟩ .nil)))
  have hamount : (Payload.floatValue y).toDocument = .num (.ok (.float y)) := by
    rw [Payload.floatValue, hfinite]
    rfl
  have htext : r.toJson.compactText.toList = r.toJson.compact := by
    rw [compactText, String.toList_ofList]
  rw [readText_of_document EventRecord.read (document_of_spells (htext ▸ hrecord))]
  change EventRecord.read maxLevels (back.document (b.payload land player y left).toJson.toDocument) = _
  rw [read_document back _ hcalendar hyear hnano, Booking.toDocument_payload, hamount,
    Booking.read_number]
  rfl

/-- The amount of an event of the ledger is finite if the text that was captured for it is a numeral
that the format has room for. Then the event can be read back, and again its amount is finite.
Otherwise the amount is written as `null`, and the event cannot be read back. The text is reported
only if it is neither a numeral nor the name of infinity or of not-a-number. -/
theorem ledger_amount_finite_iff_numeral (aliases : Aliases) (caps : Captures) :
    (∀ kind p, (Registry.builtin aliases).construct kind caps = .ok p → p.HasFloat →
      ∃ (b : Booking) (land player raw left : String) (x : Binary64),
        kind = b.kind ∧ p = b.payload land player x left ∧ caps.get? b.field = some raw ∧
        (x.isFinite = true ↔ ∃ n : Numeral, n.text = Builtin.amountText raw ∧
          |n.value| < Binary64.overflow) ∧
        (p.field? b.field = some .null ↔ x.isFinite = false) ∧
        ∀ id (t : Timestamp), t.InCalendar → 0 ≤ t.date.year ∧ t.date.year ≤ 9999 →
          t.nano < 1000000000 →
          (x.isFinite = true → ∃ y : Binary64, y.isFinite = true ∧
            readText EventRecord.read (EventRecord.toJson ⟨id, ⟨kind, p⟩, t⟩).compactText =
              .ok ⟨id, ⟨kind, b.payload land player y left⟩, t⟩) ∧
          (x.isFinite = false →
            readText EventRecord.read (EventRecord.toJson ⟨id, ⟨kind, p⟩, t⟩).compactText =
              .error .mismatched)) ∧
    ∀ (b : Booking) (land player raw : String), caps.get? "land_name" = some land →
      caps.get? "player" = some player → caps.get? b.field = some raw →
      ((Registry.builtin aliases).construct b.kind caps =
          .error (.invalidField b.kind b.field raw) ↔
        (∀ n : Numeral, n.text ≠ Builtin.amountText raw) ∧
          ∀ sign name, Builtin.amountText raw = signText sign ++ name →
            ¬Binary64.IsName (String.ofList (name.map Char.toLower))) := by
  constructor
  · intro kind p h hfloat
    obtain ⟨b, rfl⟩ := Booking.exists_kind h hfloat
    rw [b.construct_builtin, b.construct_eq] at h
    obtain ⟨land, -, h⟩ := bind_eq_ok_iff.mp h
    obtain ⟨player, -, h⟩ := bind_eq_ok_iff.mp h
    obtain ⟨raw, hraw, h⟩ := bind_eq_ok_iff.mp h
    obtain ⟨x, hx, h⟩ := bind_eq_ok_iff.mp h
    obtain ⟨left, -, h⟩ := bind_eq_ok_iff.mp h
    cases h
    refine ⟨b, land, player, raw, left, x, rfl, rfl, Captures.get?_of_required hraw,
      Binary64.isFinite_of_ofText? (Builtin.amount_eq_ok_iff.mp hx), ?_, ?_⟩
    · rw [Booking.field?_payload, Option.some.injEq, Payload.floatValue_eq_null_iff]
    · intro id t hcalendar hyear hnano
      constructor
      · intro hfinite
        have hproper := Binary64.isProper_of_ofText? (Builtin.amount_eq_ok_iff.mp hx) hfinite
        exact EventRecord.read_back_finite b land player left hproper rfl hcalendar hyear hnano
      · intro hfinite
        exact EventRecord.not_read_back b land player left hfinite rfl hcalendar hyear hnano
  · intro b land player raw hland hplayer hraw
    rw [b.construct_builtin, Booking.construct_eq_invalid_iff hland hplayer hraw,
      Binary64.ofText?_eq_none_iff]

/-- What a match has captured in which the text of the amount is not a numeral. -/
def boundlessDeposit : Captures :=
  [("land_name", some "L"), ("player", some "P"), ("in_value", some "inf"), ("now_value", some "1")]

/-- An event whose amount is infinite. -/
theorem ledger_amount_of_boundlessDeposit :
    (Registry.builtin []).construct "land-deposit" boundlessDeposit =
        .ok (.landDeposit "L" "P" (.infinite false) "1") ∧
      (Payload.landDeposit "L" "P" (.infinite false) "1").HasFloat ∧
      ¬∃ n : Numeral, n.text = Builtin.amountText "inf" ∧ |n.value| < Binary64.overflow := by
  have hconstruct : (Registry.builtin []).construct "land-deposit" boundlessDeposit =
      .ok (.landDeposit "L" "P" (.infinite false) "1") := by
    decide +kernel
  have hfloat : (Payload.landDeposit "L" "P" (.infinite false) "1").HasFloat := .inl rfl
  obtain ⟨b, land, player, raw, left, x, hb, hp, hraw, hfinite, -⟩ :=
    (ledger_amount_finite_iff_numeral [] boundlessDeposit).1 _ _ hconstruct hfloat
  cases b with
  | withdrawal => cases hp
  | deposit =>
      cases hp
      obtain rfl : "inf" = raw := Option.some.inj hraw
      exact ⟨hconstruct, hfloat, fun hnumeral => by cases hfinite.mpr hnumeral⟩

/-- So the amount of an event of the ledger may be no number. -/
theorem not_ledger_amount_finite :
    ¬∀ aliases kind caps p, (Registry.builtin aliases).construct kind caps = .ok p →
      ∀ (b : Booking) land player x left, p = b.payload land player x left →
        x.isFinite = true := by
  intro hclaim
  have hconstruct : (Registry.builtin []).construct "land-deposit" boundlessDeposit =
      .ok (.landDeposit "L" "P" (.infinite false) "1") := by
    decide +kernel
  cases hclaim _ _ _ _ hconstruct .deposit _ _ _ _ rfl

end LogWarden
