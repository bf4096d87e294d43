import LogWarden.Proofs.Event.RoundTrip
import LogWarden.Proofs.Number.Nearest
import LogWarden.Proofs.Trigger.Grammar
import LogWarden.Proofs.Trigger.Selection

/-!
# Conditions on numbers

A number in a condition is compared with a number in an event after both have been rounded. So the
condition holds exactly if one value of the format is nearest to both. Where both have the bits that
the format has, this says that they are equal; but of whole numbers beyond 2⁵³ several are the same.
-/

namespace LogWarden

open Binary64

/-- Whether a number is one that JSON values hold: a whole number of 64 bits, with a sign or
without, or a finite number of the format. -/
def JsonNumber.IsHeld : JsonNumber → Prop
  | .int n => -2 ^ 63 ≤ n ∧ n < 2 ^ 64
  | .float x => x.IsStandard

variable {m n : JsonNumber} {field : Option Json} {items : List Json} {c : Condition}

/-- A number is rounded to the nearest value of the format. -/
theorem JsonNumber.IsHeld.nearest (h : n.IsHeld) :
    n.toBinary64.IsStandard ∧ Nearest n.value n.toBinary64.value := by
  cases n with
  | int n =>
      obtain ⟨hlow, hhigh⟩ := h
      exact ofInt_nearest (abs_le.mpr ⟨by omega, hhigh.le⟩)
  | float x => exact ⟨h, nearest_self h.isExact⟩

theorem JsonNumber.numEq_iff (hn : n.IsHeld) (hm : m.IsHeld) :
    n.toBinary64.numEq m.toBinary64 = true ↔ RoundAlike n.value m.value :=
  numEq_iff_roundAlike hn.nearest.1 hm.nearest.1 hn.nearest.2 hm.nearest.2

theorem Json.agrees_num_iff {v : Json} :
    v.Agrees (.num m) ↔ ∃ n, v = .num n ∧ n.toBinary64.numEq m.toBinary64 = true := by
  constructor
  · rintro (_ | _ | h)
    exact ⟨_, rfl, h⟩
  · rintro ⟨n, rfl, h⟩
    exact .number h

/-- A condition that is a number holds for a number if both are rounded alike. -/
theorem Condition.holds_num_iff [PatternWording] (hn : n.IsHeld) (hm : m.IsHeld)
    (hc : compile (.num n) = .ok c) (hfield : field = some (.num m)) :
    c.holds field = true ↔ RoundAlike n.value m.value := by
  subst hfield
  have hnumber : ((some (Json.num m)).getD .null).IsField := .number m
  rw [holds_iff_admits hc hnumber, Json.admits_plain (by simp) (by simp), Option.getD_some,
    Json.agrees_num_iff, ← JsonNumber.numEq_iff hn hm]
  simp

/-- A condition that is a list holds for a number if it is rounded alike with one in the list. -/
theorem Condition.holds_items_iff [PatternWording] (hitems : ∀ n, .num n ∈ items → n.IsHeld)
    (hm : m.IsHeld)
    (hc : compile (.arr items) = .ok c) (hfield : field = some (.num m)) :
    c.holds field = true ↔ ∃ n, .num n ∈ items ∧ RoundAlike n.value m.value := by
  subst hfield
  have hnumber : ((some (Json.num m)).getD .null).IsField := .number m
  rw [holds_iff_admits hc hnumber, Json.admits_arr, Option.getD_some]
  constructor
  · rintro ⟨_, hmem, h⟩
    obtain ⟨n, rfl, hequal⟩ := Json.agrees_num_iff.mp h
    exact ⟨n, hmem, (JsonNumber.numEq_iff (hitems n hmem) hm).mp hequal⟩
  · rintro ⟨n, hmem, h⟩
    exact ⟨_, hmem, .number ((JsonNumber.numEq_iff (hitems n hmem) hm).mpr h)⟩

/-- A condition that is a number, or a list, holds for a field that is a number exactly if one value
of the format is nearest to both numbers. So it compares the numbers by value if both are values of
the format, and if both are whole and one of them is below 2⁵³. -/
theorem number_condition_holds_iff [PatternWording] {e : Event} {name : String} {m : JsonNumber}
    (hfield : e.payload.field? name = some (.num m)) (hm : m.IsHeld) :
    (∀ n c, n.IsHeld → Condition.compile (.num n) = .ok c →
      (c.holds (e.payload.field? name) = true ↔ RoundAlike n.value m.value) ∧
      (IsExact n.value → IsExact m.value →
        (c.holds (e.payload.field? name) = true ↔ n.value = m.value)) ∧
      ∀ k l : Int, n = .int k → m = .int l → |k| < 2 ^ 53 ∨ |l| < 2 ^ 53 →
        (c.holds (e.payload.field? name) = true ↔ k = l)) ∧
    ∀ items c, (∀ n, .num n ∈ items → n.IsHeld) → Condition.compile (.arr items) = .ok c →
      (c.holds (e.payload.field? name) = true ↔
        ∃ n, .num n ∈ items ∧ RoundAlike n.value m.value) := by
  refine ⟨fun n c hn hc => ?_, fun items c hitems hc =>
    Condition.holds_items_iff hitems hm hc hfield⟩
  have hholds := Condition.holds_num_iff hn hm hc hfield
  refine ⟨hholds, fun hnexact hmexact => ?_, fun k l hk hl hsmall => ?_⟩
  · exact hholds.trans (roundAlike_of_isExact hnexact hmexact)
  · subst hk hl
    exact hholds.trans (roundAlike_intCast hsmall)

/-- A rule that jumps when the view is turned by so much. -/
def turnRule (dx : Int) : TriggerSpec :=
  ⟨"view-forced", [("dx", .num (.int dx))], ⟨"jump", [], []⟩⟩

/-- A turn of the view. -/
def turnEvent (dx : Int) : Event := ⟨"view-forced", .viewForced dx 0⟩

/-- The rule for a turn by the whole number behind 2⁵³, loaded. -/
def turnTrigger : Trigger :=
  ⟨0, "view-forced", [("dx", .equals (.num (.int 9007199254740993)))], .jump, [], [], none⟩

/-- 2⁵³ and the whole number behind it are rounded alike. -/
theorem number_condition_holds_at_power :
    (turnEvent 9007199254740992).payload.field? "dx" = some (.num (.int 9007199254740992)) ∧
      (JsonNumber.int 9007199254740992).IsHeld ∧
      RoundAlike 9007199254740993 9007199254740992 := by
  have hfield : (turnEvent 9007199254740992).payload.field? "dx" =
      some (.num (.int 9007199254740992)) := rfl
  have hm : (JsonNumber.int 9007199254740992).IsHeld := by norm_num [JsonNumber.IsHeld]
  have hn : (JsonNumber.int 9007199254740993).IsHeld := by norm_num [JsonNumber.IsHeld]
  obtain ⟨hiff, -⟩ := (number_condition_holds_iff hfield hm).1 _
    (.equals (.num (.int 9007199254740993))) hn rfl
  exact ⟨hfield, hm, by exact_mod_cast hiff.mp rfl⟩

/-- So a rule for one turn of the view fires for another. -/
theorem not_number_condition_holds_iff_eq :
    ¬∀ k l : Int, (JsonNumber.int k).IsHeld → Payload.IsInt64 l → ∀ ts,
      TriggerSet.compile [turnRule k] [] 0 = .ok ts →
        ((∃ r, (0, r) ∈ ts.fire (turnEvent l)) ↔ k = l) := by
  intro hclaim
  have hload : TriggerSet.compile [turnRule 9007199254740993] [] 0 =
      .ok ⟨[turnTrigger], [], 0⟩ := rfl
  have hequal := (hclaim 9007199254740993 9007199254740992 (by norm_num [JsonNumber.IsHeld])
    (by norm_num [Payload.IsInt64]) _ hload).mp ⟨_, List.mem_singleton.mpr rfl⟩
  norm_num at hequal

end LogWarden
