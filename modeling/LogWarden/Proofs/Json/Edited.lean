import LogWarden.Proofs.Json.Sorted

/-!
# Documents that were edited

A document of a value may be edited and still be read as the value: the members of an object may
stand in another order, a text may be spelled in another way, and a record may have members of
names that none of its fields has. A shape says where the records of a value are.
-/

namespace LogWarden.Json

/-- What a value is to its reader, as far as it matters for editing its document. -/
inductive Shape
  | plain
  | list (item : Shape)
  /-- A record whose fields have these names, and others that a reader knows as well. -/
  | record (fields : List (String × Shape)) (aliases : List String)

namespace Shape

/-- The shape of an item. -/
def item : Shape → Shape
  | list item => item
  | _ => plain

/-- The shape of the member of a key. -/
def member (key : String) : Shape → Shape
  | record fields _ => (fields.lookup key).getD plain
  | _ => plain

/-- Whether a member means nothing to the reader of a record, and can be skipped. -/
def Unknown (m : QuotedText × Document) : Shape → Prop
  | record fields aliases =>
    ∃ key, m.1.value = .ok key ∧ key ∉ fields.map Prod.fst ++ aliases ∧ skip m.2 = .ok ()
  | _ => False

end Shape

mutual

/-- The documents that a value's own document can be edited into. -/
inductive Edited : Shape → Json → Document → Prop
  | null {s : Shape} : Edited s .null .null
  | bool {s : Shape} {b : Bool} : Edited s (.bool b) (.bool b)
  | num {s : Shape} {n : JsonNumber} : Edited s (.num n) (.num (.ok n))
  | str {s : Shape} {text : String} {q : QuotedText} (hq : q.value = .ok text) :
      Edited s (.str text) (.str q)
  | arr {s : Shape} {vs : List Json} {ds : List Document} (hitems : EditedItems s vs ds) :
      Edited s (.arr vs) (.arr ds .closed)
  | obj {s : Shape} {ms : List (String × Json)}
      {known unknown members : List (QuotedText × Document)} (hknown : EditedMembers s ms known)
      (hunknown : ∀ m ∈ unknown, s.Unknown m) (horder : (known ++ unknown).Perm members) :
      Edited s (.obj ms) (.obj members .closed)

inductive EditedItems : Shape → List Json → List Document → Prop
  | nil {s : Shape} : EditedItems s [] []
  | cons {s : Shape} {v : Json} {vs : List Json} {d : Document} {ds : List Document}
      (hitem : Edited s.item v d) (hitems : EditedItems s vs ds) : EditedItems s (v :: vs) (d :: ds)

inductive EditedMembers : Shape → List (String × Json) → List (QuotedText × Document) → Prop
  | nil {s : Shape} : EditedMembers s [] []
  | cons {s : Shape} {key : String} {v : Json} {ms : List (String × Json)} {q : QuotedText}
      {d : Document} {members : List (QuotedText × Document)} (hkey : q.value = .ok key)
      (hmember : Edited (s.member key) v d) (hmembers : EditedMembers s ms members) :
      EditedMembers s ((key, v) :: ms) ((q, d) :: members)

end

variable {α β : Type} {s : Shape} {v : Json} {vs : List Json} {ds : List Document}
  {ms : List (String × Json)} {members : List (QuotedText × Document)} {levels n : Nat} {a : α}

theorem editedMembers_iff :
    EditedMembers s ms members ↔
      List.Forall₂ (fun m x => x.1.value = .ok m.1 ∧ Edited (s.member m.1) m.2 x.2) ms
        members := by
  constructor
  · intro h
    induction ms generalizing members with
    | nil =>
        cases h
        exact .nil
    | cons m ms ih =>
        cases h with
        | cons hkey hmember hmembers => exact .cons ⟨hkey, hmember⟩ (ih hmembers)
  · intro h
    induction h with
    | nil => exact .nil
    | cons hhead _ ih => exact .cons hhead.1 hhead.2 ih

mutual

/-- A document that was not edited is one that was edited into itself. -/
theorem edited_toDocument : ∀ (s : Shape) (v : Json), Edited s v v.toDocument
  | _, .null => .null
  | _, .bool _ => .bool
  | _, .num _ => .num
  | _, .str _ => .str rfl
  | s, .arr vs => .arr (editedItems_itemDocuments s vs)
  | s, .obj ms => by
      have hmembers := editedMembers_memberDocuments s ms
      exact .obj hmembers (fun _ h => absurd h List.not_mem_nil) (List.append_nil _ ▸ .refl _)

theorem editedItems_itemDocuments :
    ∀ (s : Shape) (vs : List Json), EditedItems s vs (toDocument.itemDocuments vs)
  | _, [] => .nil
  | s, v :: vs => .cons (edited_toDocument s.item v) (editedItems_itemDocuments s vs)

theorem editedMembers_memberDocuments :
    ∀ (s : Shape) (ms : List (String × Json)), EditedMembers s ms (toDocument.memberDocuments ms)
  | _, [] => .nil
  | s, (key, v) :: ms =>
      .cons rfl (edited_toDocument (s.member key) v) (editedMembers_memberDocuments s ms)

end

/-! ## Depth and order -/

/-- How deep arrays and objects of a value nest. -/
def depth : Json → Nat
  | .arr items => depthItems items + 1
  | .obj members => depthMembers members + 1
  | _ => 0
where
  depthItems : List Json → Nat
    | [] => 0
    | v :: rest => max v.depth (depthItems rest)
  depthMembers : List (String × Json) → Nat
    | [] => 0
    | (_, v) :: rest => max v.depth (depthMembers rest)

theorem depth_arr_le_iff : (Json.arr vs).depth ≤ n + 1 ↔ ∀ v ∈ vs, v.depth ≤ n := by
  rw [depth, Nat.add_le_add_iff_right]
  induction vs with
  | nil => simp [depth.depthItems]
  | cons v vs ih => simp [depth.depthItems, ih]

theorem depth_obj_le_iff : (Json.obj ms).depth ≤ n + 1 ↔ ∀ m ∈ ms, m.2.depth ≤ n := by
  rw [depth, Nat.add_le_add_iff_right]
  induction ms with
  | nil => simp [depth.depthMembers]
  | cons m ms ih =>
      obtain ⟨key, v⟩ := m
      simp [depth.depthMembers, ih]

/-- An item nests one level less deep than its array may. -/
theorem depth_lt_of_mem_arr (h : (Json.arr vs).depth < levels) (hv : v ∈ vs) :
    v.depth < levels - 1 := by
  have hpos : 1 < levels := Nat.lt_of_le_of_lt (Nat.le_add_left 1 _) h
  have hle : (Json.arr vs).depth ≤ levels - 2 + 1 := by omega
  have hv := depth_arr_le_iff.mp hle v hv
  omega

/-- A member nests one level less deep than its object may. -/
theorem depth_lt_of_mem_obj {m : String × Json} (h : (Json.obj ms).depth < levels) (hm : m ∈ ms) :
    m.2.depth < levels - 1 := by
  have hpos : 1 < levels := Nat.lt_of_le_of_lt (Nat.le_add_left 1 _) h
  have hle : (Json.obj ms).depth ≤ levels - 2 + 1 := by omega
  have hm := depth_obj_le_iff.mp hle m hm
  omega

theorem enter_of_lt (h : n + 1 < levels) : enter levels = .ok (levels - 1) := by
  have hlevels : ¬levels ≤ 1 := by omega
  exact if_neg hlevels

/-- Whether the objects of a value, at any depth, are sorted by key. -/
def IsOrdered : Json → Prop
  | .arr items => orderedItems items
  | .obj members => KeysSorted members ∧ orderedMembers members
  | _ => True
where
  orderedItems : List Json → Prop
    | [] => True
    | v :: rest => v.IsOrdered ∧ orderedItems rest
  orderedMembers : List (String × Json) → Prop
    | [] => True
    | (_, v) :: rest => v.IsOrdered ∧ orderedMembers rest

/-! ## Lists and maps -/

/-- A reader makes the same of every edited document of a value, if it does not nest too deep. -/
def Restores (read : Reads α) (s : Shape) (v : Json) (a : α) : Prop :=
  ∀ levels d, v.depth < levels → Edited s v d → read levels d = .ok a

theorem restores_readString (text : String) : Restores readString s (.str text) text := by
  intro levels d _ h
  cases h with
  | str hq => exact hq

theorem restores_readNat {bound : Nat} (h : n < bound) :
    Restores (readNat bound) s (.num (.int n)) n := by
  intro levels d _ hedited
  cases hedited with
  | num =>
      have hread : readInt 0 (bound - 1) levels (.num (.ok (.int n))) = .ok (n : Int) :=
        if_pos (by omega)
      exact map_eq_ok_iff.mpr ⟨n, hread, Int.toNat_natCast n⟩

theorem restores_readVariant {variant? : String → Option α} {name : String}
    (h : variant? name = some a) : Restores (readVariant variant?) s (.str name) a := by
  intro levels d _ hedited
  cases hedited with
  | str hq =>
      refine bind_eq_ok_iff.mpr ⟨name, hq, ?_⟩
      rw [h]

/-- Steps taken on each of a list have the same results in another order. -/
theorem mapM_perm {ε : Type} {f : α → Except ε β} {as as' : List α} {bs : List β}
    (h : as.mapM f = .ok bs) (horder : as.Perm as') :
    ∃ bs', as'.mapM f = .ok bs' ∧ bs'.Perm bs := by
  obtain ⟨bs', hbs', horder'⟩ := List.perm_comp_forall₂ horder.symm (mapM_eq_ok_iff.mp h)
  exact ⟨bs', mapM_eq_ok_iff.mpr hbs', horder'⟩

theorem KeysSorted.sortMembers_eq {as as' : List (String × α)} (h : KeysSorted as)
    (horder : as'.Perm as) : sortMembers as' = as := by
  have hnodup : (as'.map Prod.fst).Nodup := (horder.map Prod.fst).nodup_iff.mpr h.nodup
  refine (sortMembers_keysSorted as').eq_of_mem_iff h fun m => ?_
  exact (mem_sortMembers_of_nodup hnodup).trans horder.mem_iff

theorem mapM_of_editedItems {item : Reads α} {as : List α}
    (h : List.Forall₂ (Restores item s.item) vs as) (hitems : EditedItems s vs ds)
    (hdepth : ∀ v ∈ vs, v.depth < levels) : ds.mapM (item levels) = .ok as := by
  rw [mapM_eq_ok_iff]
  induction h generalizing ds with
  | nil =>
      cases hitems
      exact .nil
  | cons hread _ ih =>
      cases hitems with
      | cons hitem hitems =>
          refine .cons ?_ (ih hitems fun v hv => hdepth v (List.mem_cons_of_mem _ hv))
          exact hread levels _ (hdepth _ List.mem_cons_self) hitem

theorem restores_readList {item : Reads α} {as : List α}
    (h : List.Forall₂ (Restores item s.item) vs as) : Restores (readList item) s (.arr vs) as := by
  intro levels d hdepth hedited
  cases hedited with
  | arr hitems =>
      have hread := mapM_of_editedItems h hitems fun v hv => depth_lt_of_mem_arr hdepth hv
      refine bind_eq_ok_iff.mpr ⟨levels - 1, enter_of_lt hdepth, ?_⟩
      exact bind_eq_ok_iff.mpr ⟨as, hread, rfl⟩

/-- Reads a member of a map. -/
def readMember (item : Reads α) (levels : Nat) (x : QuotedText × Document) :
    Except JsonFault (String × α) := do
  let key ← x.1.value
  let a ← item levels x.2
  return (key, a)

theorem readMap_obj (item : Reads α) (levels : Nat) (members : List (QuotedText × Document))
    (tail : Tail) :
    readMap item levels (.obj members tail) = (do
      let inner ← enter levels
      let as ← members.mapM (readMember item inner)
      finish tail
      return sortMembers as) :=
  rfl

theorem mapM_of_editedMembers {item : Reads α} {as : List (String × α)}
    (h : List.Forall₂ (fun m a => m.1 = a.1 ∧ Restores item (s.member m.1) m.2 a.2) ms as)
    (hmembers : EditedMembers s ms members) (hdepth : ∀ m ∈ ms, m.2.depth < levels) :
    members.mapM (readMember item levels) = .ok as := by
  rw [mapM_eq_ok_iff]
  induction h generalizing members with
  | nil =>
      cases hmembers
      exact .nil
  | @cons m a _ _ hread _ ih =>
      cases hmembers with
      | cons hkey hmember hmembers =>
          refine .cons ?_ (ih hmembers fun m hm => hdepth m (List.mem_cons_of_mem _ hm))
          refine bind_eq_ok_iff.mpr ⟨a.1, hread.1 ▸ hkey, ?_⟩
          have hvalue := hread.2 levels _ (hdepth _ List.mem_cons_self) hmember
          exact bind_eq_ok_iff.mpr ⟨a.2, hvalue, rfl⟩

/-- A map has no members to skip, so reading it in any order gives what sorting gives. -/
theorem restores_readMap {item : Reads α} {as : List (String × α)} (hsorted : KeysSorted as)
    (h : List.Forall₂ (fun m a => m.1 = a.1 ∧ Restores item .plain m.2 a.2) ms as) :
    Restores (readMap item) .plain (.obj ms) as := by
  intro levels d hdepth hedited
  cases hedited with
  | @obj _ _ _ unknown _ hknown hunknown horder =>
      obtain rfl : unknown = [] := List.eq_nil_iff_forall_not_mem.mpr hunknown
      rw [List.append_nil] at horder
      have hread := mapM_of_editedMembers h hknown fun m hm => depth_lt_of_mem_obj hdepth hm
      obtain ⟨as', hread', horder'⟩ := mapM_perm hread horder
      rw [readMap_obj]
      refine bind_eq_ok_iff.mpr ⟨levels - 1, enter_of_lt hdepth, ?_⟩
      refine bind_eq_ok_iff.mpr ⟨as', hread', ?_⟩
      refine bind_eq_ok_iff.mpr ⟨(), rfl, ?_⟩
      exact congrArg Except.ok (hsorted.sortMembers_eq horder')

/-! ## Any value -/

theorem anyItems_sorted (levels : Nat) (ds : List Document) :
    (readAny.anyItems levels ds).map sorted.sortedItems = ds.mapM (readSorted levels) := by
  induction ds with
  | nil => rfl
  | cons d ds ih =>
      rw [List.mapM_cons, ← ih, readAny.anyItems, readSorted]
      cases readAny levels d <;> cases readAny.anyItems levels ds <;> rfl

theorem anyMembers_sorted (levels : Nat) (members : List (QuotedText × Document)) :
    (readAny.anyMembers levels members).map sorted.sortedMembers =
      members.mapM (readMember readSorted levels) := by
  induction members with
  | nil => rfl
  | cons x members ih =>
      obtain ⟨q, d⟩ := x
      rw [List.mapM_cons, ← ih, readAny.anyMembers, readMember, readSorted]
      cases q.value <;> cases readAny levels d <;> cases readAny.anyMembers levels members <;> rfl

/-- An array of any values is read as a list of any values is. -/
theorem readSorted_arr (levels : Nat) (ds : List Document) (tail : Tail) :
    readSorted levels (.arr ds tail) = (readList readSorted levels (.arr ds tail)).map .arr := by
  rw [readSorted, readAny, readList]
  cases enter levels with
  | error f => rfl
  | ok inner =>
      have hitems := anyItems_sorted inner ds
      simp only [bind, Except.bind, ← hitems]
      cases readAny.anyItems inner ds <;> cases finish tail <;> rfl

/-- An object of any values is read as a map of any values is. -/
theorem readSorted_obj (levels : Nat) (members : List (QuotedText × Document)) (tail : Tail) :
    readSorted levels (.obj members tail) =
      (readMap readSorted levels (.obj members tail)).map .obj := by
  rw [readSorted, readAny, readMap_obj]
  cases enter levels with
  | error f => rfl
  | ok inner =>
      have hmembers := anyMembers_sorted inner members
      simp only [bind, Except.bind, ← hmembers]
      cases readAny.anyMembers inner members <;> cases finish tail <;> rfl

mutual

/-- A value with sorted objects is read from every edited document of it. -/
theorem restores_readSorted : ∀ v : Json, v.IsOrdered → Restores readSorted .plain v v
  | .null, _ => fun _ _ _ h => by cases h; rfl
  | .bool _, _ => fun _ _ _ h => by cases h; rfl
  | .num _, _ => fun _ _ _ h => by cases h; rfl
  | .str _, _ => fun _ _ _ h => by
      cases h with
      | str hq => exact map_eq_ok_iff.mpr ⟨_, map_eq_ok_iff.mpr ⟨_, hq, rfl⟩, rfl⟩
  | .arr vs, hordered => fun levels d hdepth h => by
      have hread := restores_readList (s := .plain) (restores_items vs hordered) levels d hdepth h
      cases h
      rw [readSorted_arr, hread]
      rfl
  | .obj ms, hordered => fun levels d hdepth h => by
      have hread := restores_readMap hordered.1 (restores_members ms hordered.2) levels d hdepth h
      cases h
      rw [readSorted_obj, hread]
      rfl

theorem restores_items : ∀ vs : List Json, IsOrdered.orderedItems vs →
    List.Forall₂ (Restores readSorted .plain) vs vs
  | [], _ => .nil
  | v :: vs, h => .cons (restores_readSorted v h.1) (restores_items vs h.2)

theorem restores_members : ∀ ms : List (String × Json), IsOrdered.orderedMembers ms →
    List.Forall₂ (fun m a => m.1 = a.1 ∧ Restores readSorted .plain m.2 a.2) ms ms
  | [], _ => .nil
  | (_, v) :: ms, h => .cons ⟨rfl, restores_readSorted v h.1⟩ (restores_members ms h.2)

end

/-! ## Records

A record is read by steps that each set one field, so what has been read so far is told by the
keys that have been met: a family of states, one for each set of keys. -/

section Records

variable {σ : Type} {fields : List (Field σ)} {start : σ} {complete : σ → Except JsonFault α}
  {state : (String → Bool) → σ} {done : String → Bool}
  {known unknown : List (QuotedText × Document)}

/-- Whether an edited member sets a field that its key is the name of, and nothing else. -/
def Sets (fields : List (Field σ)) (s : Shape) (state : (String → Bool) → σ)
    (m : String × Json) : Prop :=
  ∀ levels done d, m.2.depth < levels → done m.1 = false → Edited (s.member m.1) m.2 d →
    ∃ f, fields.find? (·.name == m.1) = some f ∧ f.isSet (state done) = false ∧
      f.set (state done) levels d = .ok (state fun key => key == m.1 || done key)

/-- Whether members that mean nothing to the shape of a record name none of its fields. -/
def SkipsUnknown (fields : List (Field σ)) (s : Shape) : Prop :=
  ∀ m : QuotedText × Document, s.Unknown m →
    ∃ key, m.1.value = .ok key ∧ fields.find? (·.name == key) = none ∧ skip m.2 = .ok ()

theorem skipsUnknown_record {shapes : List (String × Shape)} {aliases : List String}
    (h : ∀ f ∈ fields, f.name ∈ shapes.map Prod.fst ++ aliases) :
    SkipsUnknown fields (.record shapes aliases) := by
  intro m hm
  obtain ⟨key, hkey, hfresh, hskip⟩ := hm
  refine ⟨key, hkey, List.find?_eq_none.mpr fun f hf hname => ?_, hskip⟩
  exact hfresh (eq_of_beq hname ▸ h f hf)

/-- A field that is kept as an option is set by its member. -/
theorem sets_field {name : String} {get : σ → Option β} {put : σ → Option β → σ}
    {read : Reads β} {b : β}
    (hfind : fields.find? (·.name == name) = some (field name get put read))
    (hget : ∀ done, get (state done) = if done name then some b else none)
    (hput : ∀ done, put (state done) (some b) = state fun key => key == name || done key)
    (hread : Restores read (s.member name) v b) : Sets fields s state (name, v) := by
  intro levels done d hdepth hfresh hedited
  refine ⟨_, hfind, ?_, ?_⟩
  · have hunset : get (state done) = none := by rw [hget, hfresh, if_neg Bool.false_ne_true]
    exact Option.isSome_eq_false_iff.mpr (Option.isNone_iff_eq_none.mpr hunset)
  · exact map_eq_ok_iff.mpr ⟨b, hread levels d hdepth hedited, hput done⟩

theorem setMembers_known {m : String × Json} {x : QuotedText × Document}
    (hset : Sets fields s state m) (hdepth : m.2.depth < levels) (hfresh : done m.1 = false)
    (hkey : x.1.value = .ok m.1) (hedited : Edited (s.member m.1) m.2 x.2) :
    setMembers fields levels (state done) (x :: members) =
      setMembers fields levels (state fun key => key == m.1 || done key) members := by
  obtain ⟨f, hfind, hunset, hf⟩ := hset levels done x.2 hdepth hfresh hedited
  simp only [setMembers, hkey, bind, Except.bind, hfind, hunset, hf]
  rfl

theorem setMembers_unknown {x : QuotedText × Document} (hskip : SkipsUnknown fields s)
    (hx : s.Unknown x) :
    setMembers fields levels (state done) (x :: members) =
      setMembers fields levels (state done) members := by
  obtain ⟨key, hkey, hfind, hx⟩ := hskip x hx
  simp only [setMembers, hkey, bind, Except.bind, hfind, hx]

/-- Of the known members of an edited record one may come first: what it was made from is taken out
with it. -/
theorem exists_of_mem_known {x : QuotedText × Document} {rest : List (QuotedText × Document)}
    (hknown : EditedMembers s ms known) (hx : x ∈ known)
    (horder : (known ++ unknown).Perm (x :: rest)) :
    ∃ m ms' known', (m :: ms').Perm ms ∧ x.1.value = .ok m.1 ∧ Edited (s.member m.1) m.2 x.2 ∧
      EditedMembers s ms' known' ∧ (known' ++ unknown).Perm rest := by
  obtain ⟨before, behind, rfl⟩ := List.append_of_mem hx
  have hmiddle : (before ++ x :: behind).Perm (x :: (before ++ behind)) := List.perm_middle
  have hrest : (before ++ behind ++ unknown).Perm rest :=
    List.Perm.cons_inv ((hmiddle.append_right unknown).symm.trans horder)
  obtain ⟨all, hall, hperm⟩ :=
    List.perm_comp_forall₂ hmiddle.symm (editedMembers_iff.mp hknown).flip
  cases hall with
  | @cons _ m _ ms' hm hms' =>
      exact ⟨m, ms', _, hperm, hm.1, hm.2, editedMembers_iff.mpr hms'.flip, hrest⟩

/-- Of the unknown members of an edited record one may come first. -/
theorem exists_of_mem_unknown {x : QuotedText × Document} {rest : List (QuotedText × Document)}
    (hx : x ∈ unknown) (horder : (known ++ unknown).Perm (x :: rest)) :
    ∃ unknown', unknown' ⊆ unknown ∧ (known ++ unknown').Perm rest := by
  obtain ⟨before, behind, rfl⟩ := List.append_of_mem hx
  have hmiddle : (before ++ x :: behind).Perm (x :: (before ++ behind)) := List.perm_middle
  have hfirst : (known ++ x :: (before ++ behind)).Perm (x :: rest) :=
    (hmiddle.append_left known).symm.trans horder
  refine ⟨before ++ behind, fun y hy => ?_, ?_⟩
  · exact hmiddle.mem_iff.mpr (List.mem_cons_of_mem x hy)
  · exact List.Perm.cons_inv (List.perm_middle.symm.trans hfirst)

/-- The members of a record set their fields, in whatever order they stand and whatever stands
between them. -/
theorem setMembers_of_edited (hset : ∀ m ∈ ms, Sets fields s state m)
    (hskip : SkipsUnknown fields s) (hnodup : (ms.map Prod.fst).Nodup)
    (hdepth : ∀ m ∈ ms, m.2.depth < levels) (hfresh : ∀ m ∈ ms, done m.1 = false)
    (hknown : EditedMembers s ms known) (hunknown : ∀ x ∈ unknown, s.Unknown x)
    (horder : (known ++ unknown).Perm members) :
    setMembers fields levels (state done) members =
      .ok (state fun key => done key || (ms.map Prod.fst).contains key) := by
  induction members generalizing ms known unknown done with
  | nil =>
      obtain ⟨rfl, -⟩ := List.append_eq_nil_iff.mp horder.eq_nil
      cases hknown
      simp [setMembers]
  | cons x rest ih =>
      rcases List.mem_append.mp (horder.mem_iff.mpr List.mem_cons_self) with hx | hx
      · obtain ⟨m, ms', known', hperm, hkey, hm, hknown', hrest⟩ :=
          exists_of_mem_known hknown hx horder
        have hmem : m ∈ ms := hperm.mem_iff.mp List.mem_cons_self
        have hsub : ∀ m' ∈ ms', m' ∈ ms := fun m' hm' =>
          hperm.mem_iff.mp (List.mem_cons_of_mem m hm')
        have hkeys : (m.1 :: ms'.map Prod.fst).Nodup :=
          (hperm.map Prod.fst).nodup_iff.mpr hnodup
        have hother : ∀ m' ∈ ms', (m'.1 == m.1 || done m'.1) = false := by
          intro m' hm'
          have hne : m'.1 ≠ m.1 := fun heq =>
            (List.nodup_cons.mp hkeys).1 (heq ▸ List.mem_map_of_mem hm')
          rw [beq_eq_false_iff_ne.mpr hne, hfresh m' (hsub m' hm')]
          rfl
        rw [setMembers_known (hset m hmem) (hdepth m hmem) (hfresh m hmem) hkey hm,
          ih (fun m' hm' => hset m' (hsub m' hm')) (List.nodup_cons.mp hkeys).2
            (fun m' hm' => hdepth m' (hsub m' hm')) hother hknown' hunknown hrest]
        congr 2
        funext key
        rw [← (hperm.map Prod.fst).contains_eq, List.map_cons, List.contains_cons]
        cases done key <;> cases key == m.1 <;> rfl
      · obtain ⟨unknown', hsub, hrest⟩ := exists_of_mem_unknown hx horder
        rw [setMembers_unknown hskip (hunknown x hx)]
        exact ih hset hnodup hdepth hfresh hknown (fun y hy => hunknown y (hsub hy)) hrest

/-- A record is read from every edited document of it, as what its members make of it. -/
theorem restores_readRecord (hstart : state (fun _ => false) = start)
    (hset : ∀ m ∈ ms, Sets fields s state m) (hskip : SkipsUnknown fields s)
    (hnodup : (ms.map Prod.fst).Nodup)
    (hcomplete : complete (state (ms.map Prod.fst).contains) = .ok a) :
    Restores (readRecord fields start complete) s (.obj ms) a := by
  intro levels d hdepth hedited
  cases hedited with
  | @obj _ _ _ _ members hknown hunknown horder =>
      have hread : setMembers fields (levels - 1) (state fun _ => false) members =
          .ok (state (ms.map Prod.fst).contains) :=
        setMembers_of_edited hset hskip hnodup (fun m hm => depth_lt_of_mem_obj hdepth hm)
          (fun _ _ => rfl) hknown hunknown horder
      rw [hstart] at hread
      refine bind_eq_ok_iff.mpr ⟨levels - 1, enter_of_lt hdepth, ?_⟩
      refine bind_eq_ok_iff.mpr ⟨_, hread, ?_⟩
      exact bind_eq_ok_iff.mpr ⟨(), rfl, hcomplete⟩

end Records

end LogWarden.Json
