import LogWarden.Proofs.Json.Edited
import LogWarden.Trigger.Spec

/-!
# Documents of triggers

A trigger is read from its document and from every document that this can be edited into, as long
as its values have the order that maps have once they were read.
-/

namespace LogWarden

open Json

namespace TriggerAction

/-- The fields of an action. The name of the command may be called in another way as well. -/
def shape : Shape :=
  .record [("action", .plain), ("args", .plain), ("chain", .plain)] ["cmd"]

/-- Whether the values of an action are ordered as values that were read are. -/
def IsOrdered (a : TriggerAction) : Prop :=
  (Json.obj a.args).IsOrdered ∧ ∀ call ∈ a.chain, (Json.arr call).IsOrdered

/-- What has been read of an action when the members of some keys have been. -/
def readSoFar (a : TriggerAction) (done : String → Bool) : Partial :=
  ⟨if done "action" then some a.action else none, if done "args" then some a.args else none,
    if done "chain" then some a.chain else none⟩

/-- The fields that the members of an action may set. -/
def memberFields : List (Json.Field Partial) :=
  [field "action" Partial.action setName readString, field "cmd" Partial.action setName readString,
    field "args" Partial.args (fun s v => { s with args := v }) (readMap readSorted),
    field "chain" Partial.chain (fun s v => { s with chain := v })
      (readList (readList readSorted))]

theorem restores_args {args : List (String × Json)} (h : (Json.obj args).IsOrdered) :
    Restores (readMap readSorted) .plain (.obj args) args :=
  restores_readMap h.1 (restores_members args h.2)

theorem restores_chain {calls : List (List Json)}
    (h : ∀ call ∈ calls, (Json.arr call).IsOrdered) :
    Restores (readList (readList readSorted)) .plain (.arr (calls.map .arr)) calls := by
  apply restores_readList
  rw [List.forall₂_map_left_iff, List.forall₂_same]
  intro call hcall
  exact restores_readList (restores_items call (h call hcall))

theorem sets_members {a : TriggerAction} (h : a.IsOrdered) :
    ∀ m ∈ [("action", Json.str a.action), ("args", .obj a.args),
        ("chain", .arr (a.chain.map .arr))],
      Sets memberFields shape a.readSoFar m := by
  simp only [List.forall_mem_cons, List.not_mem_nil, false_implies, implies_true, and_true]
  refine ⟨?_, ?_, ?_⟩
  · exact sets_field rfl (fun _ => rfl) (by simp [readSoFar, setName])
      (restores_readString a.action)
  · exact sets_field rfl (fun _ => rfl) (by simp [readSoFar]) (restores_args h.1)
  · exact sets_field rfl (fun _ => rfl) (by simp [readSoFar]) (restores_chain h.2)

theorem restores_read {a : TriggerAction} (h : a.IsOrdered) :
    Restores TriggerAction.read shape a.toJson a := by
  intro levels d hdepth hedited
  have hrecord : readRecord memberFields ⟨none, none, none⟩ (fun s : Partial => do
      return ⟨← required s.action, s.args.getD [], s.chain.getD []⟩) levels d = .ok a := by
    refine restores_readRecord rfl (sets_members h) ?_ ?_ ?_ levels d hdepth hedited
    · exact skipsUnknown_record (by simp [memberFields, field])
    · simp
    · simp [readSoFar, required, bind, Except.bind, pure, Except.pure]
  cases hedited
  exact hrecord

end TriggerAction

namespace TriggerSpec

/-- The fields of a trigger. -/
def shape : Shape :=
  .record [("on", .plain), ("when", .plain), ("do", TriggerAction.shape)] []

/-- Whether the values of a trigger are ordered as values that were read are. -/
def IsOrdered (t : TriggerSpec) : Prop :=
  (Json.obj t.conditions).IsOrdered ∧ t.action.IsOrdered

/-- What has been read of a trigger when the members of some keys have been. -/
def readSoFar (t : TriggerSpec) (done : String → Bool) : Partial :=
  ⟨if done "on" then some t.on else none, if done "when" then some t.conditions else none,
    if done "do" then some t.action else none⟩

theorem restores_read {t : TriggerSpec} (h : t.IsOrdered) :
    Restores TriggerSpec.read shape t.toJson t := by
  have hstart : t.readSoFar (fun _ => false) = ⟨none, none, none⟩ := rfl
  refine restores_readRecord hstart ?_ ?_ ?_ ?_
  · simp only [List.forall_mem_cons, List.not_mem_nil, false_implies, implies_true, and_true]
    refine ⟨?_, ?_, ?_⟩
    · exact sets_field rfl (fun _ => rfl) (by simp [readSoFar]) (restores_readString t.on)
    · exact sets_field rfl (fun _ => rfl) (by simp [readSoFar]) (TriggerAction.restores_args h.1)
    · exact sets_field rfl (fun _ => rfl) (by simp [readSoFar]) (TriggerAction.restores_read h.2)
  · exact skipsUnknown_record (by simp [field])
  · simp
  · simp [readSoFar, required, bind, Except.bind, pure, Except.pure]

end TriggerSpec

end LogWarden
