import LogWarden.Config.Document
import LogWarden.Proofs.Json.Printed
import LogWarden.Proofs.Trigger.Documents

/-!
# Settings merged over the defaults

A configuration document may leave out any sections and any settings inside of sections, hold
members that mean nothing, and have its members in any order. What it leaves out has its default,
and everything else is what the document says.
-/

namespace LogWarden

open Json

/-! ## Leaving members out -/

namespace Json

variable {α σ : Type} {gone : String → Bool} {v : Json} {ms : List (String × Json)}

/-- An object without the members of some keys. -/
def without (gone : String → Bool) : Json → Json
  | .obj ms => .obj (ms.filter fun m => !gone m.1)
  | v => v

/-- An object of sections without some sections and without some members of sections, told by the
paths that lead to them. -/
def withoutPaths (gone : List String → Bool) : Json → Json
  | .obj ms =>
    without (fun key => gone [key])
      (.obj (ms.map fun m => (m.1, m.2.without fun key => gone [m.1, key])))
  | v => v

theorem depth_without_le (gone : String → Bool) (v : Json) : (v.without gone).depth ≤ v.depth := by
  cases v with
  | obj ms =>
      have hall := depth_obj_le_iff.mp (Nat.le_refl (Json.obj ms).depth)
      exact depth_obj_le_iff.mpr fun m hm => hall m (List.mem_filter.mp hm).1
  | _ => exact Nat.le_refl _

theorem depth_withoutPaths_le (gone : List String → Bool) (v : Json) :
    (v.withoutPaths gone).depth ≤ v.depth := by
  cases v with
  | obj ms =>
      have hall := depth_obj_le_iff.mp (Nat.le_refl (Json.obj ms).depth)
      rw [withoutPaths]
      apply Nat.le_trans (depth_without_le _ _)
      refine depth_obj_le_iff.mpr fun m hm => ?_
      obtain ⟨m', hm', rfl⟩ := List.mem_map.mp hm
      exact Nat.le_trans (depth_without_le (fun key => gone [m'.1, key]) m'.2) (hall m' hm')
  | _ => exact Nat.le_refl _

/-- A record whose members are left out is read as what the members that are left make of it. -/
theorem restores_without {fields : List (Field σ)} {start : σ} {complete : σ → Except JsonFault α}
    {state : (String → Bool) → σ} {s : Shape} {a : α} (hstart : state (fun _ => false) = start)
    (hset : ∀ m ∈ ms, Sets fields s state m) (hskip : SkipsUnknown fields s)
    (hnodup : (ms.map Prod.fst).Nodup)
    (hcomplete : complete (state fun key => (ms.map Prod.fst).contains key && !gone key) = .ok a) :
    Restores (readRecord fields start complete) s (without gone (.obj ms)) a := by
  have hkeys : ((ms.filter fun m => !gone m.1).map Prod.fst) =
      (ms.map Prod.fst).filter fun key => !gone key := by
    rw [List.filter_map]
    rfl
  refine restores_readRecord hstart (fun m hm => hset m (List.mem_filter.mp hm).1) hskip ?_ ?_
  · rw [hkeys]
    exact hnodup.filter _
  · rw [← hcomplete, hkeys]
    congr 2
    funext key
    rw [Bool.eq_iff_iff]
    simp

end Json

section Sections

variable {α : Type} {gone : String → Bool} {a d : α} {b : Bool}

/-- A setting that has been read unless it was left out. -/
theorem getD_unless : (if b = false then some a else none).getD d = if b then d else a := by
  cases b <;> rfl

namespace PlayerSettings

def shape : Shape :=
  .record [("user_id", .plain), ("game_title", .plain)] []

/-- Settings some of which have their defaults again. -/
def reset (gone : String → Bool) (s : PlayerSettings) : PlayerSettings :=
  let d : PlayerSettings := {}
  { userId := if gone "user_id" then d.userId else s.userId
    gameTitle := if gone "game_title" then d.gameTitle else s.gameTitle }

/-- What has been read of settings when the members of some keys have been. -/
def readSoFar (s : PlayerSettings) (done : String → Bool) : Partial :=
  ⟨if done "user_id" then some s.userId else none,
    if done "game_title" then some s.gameTitle else none⟩

theorem restores_read (s : PlayerSettings) :
    Restores PlayerSettings.read shape (s.toJson.without gone) (s.reset gone) := by
  have hstart : s.readSoFar (fun _ => false) = {} := rfl
  refine restores_without hstart ?_ ?_ ?_ ?_
  · simp only [List.forall_mem_cons, List.not_mem_nil, false_implies, implies_true, and_true]
    constructor
    · exact sets_field rfl (fun _ => rfl) (by simp [readSoFar]) (restores_readString s.userId)
    · exact sets_field rfl (fun _ => rfl) (by simp [readSoFar]) (restores_readString s.gameTitle)
  · exact skipsUnknown_record (by simp [field])
  · simp
  · simp [readSoFar, Partial.complete, reset, getD_unless]

end PlayerSettings

namespace IngestSettings

def shape : Shape :=
  .record [("mode", .plain), ("encoding", .plain), ("host", .plain), ("port", .plain),
    ("log_path", .plain), ("poll_interval_ms", .plain), ("retry_limit", .plain),
    ("retry_backoff_ms", .plain)] []

/-- Settings some of which have their defaults again. -/
def reset (gone : String → Bool) (s : IngestSettings) : IngestSettings :=
  let d : IngestSettings := {}
  { mode := if gone "mode" then d.mode else s.mode
    encoding := if gone "encoding" then d.encoding else s.encoding
    host := if gone "host" then d.host else s.host
    port := if gone "port" then d.port else s.port
    logPath := if gone "log_path" then d.logPath else s.logPath
    pollIntervalMs := if gone "poll_interval_ms" then d.pollIntervalMs else s.pollIntervalMs
    retryLimit := if gone "retry_limit" then d.retryLimit else s.retryLimit
    retryBackoffMs := if gone "retry_backoff_ms" then d.retryBackoffMs else s.retryBackoffMs }

/-- Whether the numbers fit the words that hold them. -/
structure InRange (s : IngestSettings) : Prop where
  port : s.port < 65536
  pollIntervalMs : s.pollIntervalMs < 18446744073709551616
  retryLimit : s.retryLimit < 4294967296
  retryBackoffMs : s.retryBackoffMs < 18446744073709551616

/-- What has been read of settings when the members of some keys have been. -/
def readSoFar (s : IngestSettings) (done : String → Bool) : Partial :=
  { mode := if done "mode" then some s.mode else none
    encoding := if done "encoding" then some s.encoding else none
    host := if done "host" then some s.host else none
    port := if done "port" then some s.port else none
    logPath := if done "log_path" then some s.logPath else none
    pollIntervalMs := if done "poll_interval_ms" then some s.pollIntervalMs else none
    retryLimit := if done "retry_limit" then some s.retryLimit else none
    retryBackoffMs := if done "retry_backoff_ms" then some s.retryBackoffMs else none }

theorem ofName?_name (mode : SourceMode) : SourceMode.ofName? mode.name = some mode := by
  cases mode <;> rfl

theorem restores_read {s : IngestSettings} (h : s.InRange) :
    Restores IngestSettings.read shape (s.toJson.without gone) (s.reset gone) := by
  have hstart : s.readSoFar (fun _ => false) = {} := rfl
  refine restores_without hstart ?_ ?_ ?_ ?_
  · simp only [List.forall_mem_cons, List.not_mem_nil, false_implies, implies_true, and_true]
    refine ⟨?_, ?_, ?_, ?_, ?_, ?_, ?_, ?_⟩
    · exact sets_field rfl (fun _ => rfl) (by simp [readSoFar])
        (restores_readVariant (ofName?_name s.mode))
    · exact sets_field rfl (fun _ => rfl) (by simp [readSoFar]) (restores_readString s.encoding)
    · exact sets_field rfl (fun _ => rfl) (by simp [readSoFar]) (restores_readString s.host)
    · exact sets_field rfl (fun _ => rfl) (by simp [readSoFar]) (restores_readNat h.port)
    · exact sets_field rfl (fun _ => rfl) (by simp [readSoFar]) (restores_readString s.logPath)
    · exact sets_field rfl (fun _ => rfl) (by simp [readSoFar]) (restores_readNat h.pollIntervalMs)
    · exact sets_field rfl (fun _ => rfl) (by simp [readSoFar]) (restores_readNat h.retryLimit)
    · exact sets_field rfl (fun _ => rfl) (by simp [readSoFar]) (restores_readNat h.retryBackoffMs)
  · exact skipsUnknown_record (by simp [field])
  · simp
  · simp [readSoFar, Partial.complete, reset, getD_unless]

end IngestSettings

namespace ServerSettings

def shape : Shape :=
  .record [("chat_channels", .plain)] []

/-- Settings some of which have their defaults again. -/
def reset (gone : String → Bool) (s : ServerSettings) : ServerSettings :=
  { chatChannels := if gone "chat_channels" then defaultChannels else s.chatChannels }

/-- What has been read of settings when the members of some keys have been. -/
def readSoFar (s : ServerSettings) (done : String → Bool) : Partial :=
  ⟨if done "chat_channels" then some s.chatChannels else none⟩

theorem restores_channels {channels : Aliases} (h : KeysSorted channels) :
    Restores (readMap readString) .plain (.obj (channels.map fun (k, v) => (k, .str v)))
      channels := by
  apply restores_readMap h
  rw [List.forall₂_map_left_iff, List.forall₂_same]
  exact fun m _ => ⟨rfl, restores_readString m.2⟩

theorem restores_read {s : ServerSettings} (h : KeysSorted s.chatChannels) :
    Restores ServerSettings.read shape (s.toJson.without gone) (s.reset gone) := by
  have hstart : s.readSoFar (fun _ => false) = {} := rfl
  refine restores_without hstart ?_ ?_ ?_ ?_
  · simp only [List.forall_mem_cons, List.not_mem_nil, false_implies, implies_true, and_true]
    exact sets_field rfl (fun _ => rfl) (by simp [readSoFar]) (restores_channels h)
  · exact skipsUnknown_record (by simp [field])
  · simp
  · simp [readSoFar, Partial.complete, reset, getD_unless]

end ServerSettings

namespace SchedulerSettings

def shape : Shape :=
  .record [("event_buffer", .plain)] []

/-- Settings some of which have their defaults again. -/
def reset (gone : String → Bool) (s : SchedulerSettings) : SchedulerSettings :=
  let d : SchedulerSettings := {}
  { eventBuffer := if gone "event_buffer" then d.eventBuffer else s.eventBuffer }

/-- What has been read of settings when the members of some keys have been. -/
def readSoFar (s : SchedulerSettings) (done : String → Bool) : Partial :=
  ⟨if done "event_buffer" then some s.eventBuffer else none⟩

theorem restores_read {s : SchedulerSettings} (h : s.eventBuffer < 18446744073709551616) :
    Restores SchedulerSettings.read shape (s.toJson.without gone) (s.reset gone) := by
  have hstart : s.readSoFar (fun _ => false) = {} := rfl
  refine restores_without hstart ?_ ?_ ?_ ?_
  · simp only [List.forall_mem_cons, List.not_mem_nil, false_implies, implies_true, and_true]
    exact sets_field rfl (fun _ => rfl) (by simp [readSoFar]) (restores_readNat h)
  · exact skipsUnknown_record (by simp [field])
  · simp
  · simp [readSoFar, Partial.complete, reset, getD_unless]

end SchedulerSettings

namespace ActionSettings

def shape : Shape :=
  .record [("step_timeout_ms", .plain), ("probe_timeout_ms", .plain)] []

/-- Settings some of which have their defaults again. -/
def reset (gone : String → Bool) (s : ActionSettings) : ActionSettings :=
  let d : ActionSettings := {}
  { stepTimeoutMs := if gone "step_timeout_ms" then d.stepTimeoutMs else s.stepTimeoutMs
    probeTimeoutMs := if gone "probe_timeout_ms" then d.probeTimeoutMs else s.probeTimeoutMs }

/-- Whether the numbers fit the words that hold them. -/
structure InRange (s : ActionSettings) : Prop where
  stepTimeoutMs : s.stepTimeoutMs < 18446744073709551616
  probeTimeoutMs : s.probeTimeoutMs < 18446744073709551616

/-- What has been read of settings when the members of some keys have been. -/
def readSoFar (s : ActionSettings) (done : String → Bool) : Partial :=
  ⟨if done "step_timeout_ms" then some s.stepTimeoutMs else none,
    if done "probe_timeout_ms" then some s.probeTimeoutMs else none⟩

theorem restores_read {s : ActionSettings} (h : s.InRange) :
    Restores ActionSettings.read shape (s.toJson.without gone) (s.reset gone) := by
  have hstart : s.readSoFar (fun _ => false) = {} := rfl
  refine restores_without hstart ?_ ?_ ?_ ?_
  · simp only [List.forall_mem_cons, List.not_mem_nil, false_implies, implies_true, and_true]
    constructor
    · exact sets_field rfl (fun _ => rfl) (by simp [readSoFar]) (restores_readNat h.stepTimeoutMs)
    · exact sets_field rfl (fun _ => rfl) (by simp [readSoFar]) (restores_readNat h.probeTimeoutMs)
  · exact skipsUnknown_record (by simp [field])
  · simp
  · simp [readSoFar, Partial.complete, reset, getD_unless]

end ActionSettings

end Sections

/-! ## All settings -/

namespace Config

/-- Where the records of a configuration document are. -/
def shape : Shape :=
  .record [("player", PlayerSettings.shape), ("ingest", IngestSettings.shape),
    ("server", ServerSettings.shape), ("scheduler", SchedulerSettings.shape),
    ("actions", ActionSettings.shape), ("triggers", .list TriggerSpec.shape)] []

/-- Settings of which some sections, and some settings inside of sections, have their defaults
again. A path leads to a section or to a setting inside of one. -/
def reset (gone : List String → Bool) (c : Config) : Config :=
  { player := if gone ["player"] then {} else c.player.reset fun key => gone ["player", key]
    ingest := if gone ["ingest"] then {} else c.ingest.reset fun key => gone ["ingest", key]
    server := if gone ["server"] then {} else c.server.reset fun key => gone ["server", key]
    scheduler :=
      if gone ["scheduler"] then {} else c.scheduler.reset fun key => gone ["scheduler", key]
    actions := if gone ["actions"] then {} else c.actions.reset fun key => gone ["actions", key]
    triggers := if gone ["triggers"] then [] else c.triggers }

/-- Whether settings can be held: numbers fit their words, and maps are ordered by key. -/
structure InRange (c : Config) : Prop where
  ingest : c.ingest.InRange
  server : KeysSorted c.server.chatChannels
  scheduler : c.scheduler.eventBuffer < 18446744073709551616
  actions : c.actions.InRange
  triggers : ∀ t ∈ c.triggers, t.IsOrdered

variable {c : Config} {gone : List String → Bool}

/-- What has been read of sections when the members of some keys have been. -/
def readSoFar (gone : List String → Bool) (c : Config) (done : String → Bool) : Partial :=
  { player := if done "player" then some (c.player.reset fun key => gone ["player", key]) else none
    ingest := if done "ingest" then some (c.ingest.reset fun key => gone ["ingest", key]) else none
    server := if done "server" then some (c.server.reset fun key => gone ["server", key]) else none
    scheduler :=
      if done "scheduler" then some (c.scheduler.reset fun key => gone ["scheduler", key]) else none
    actions :=
      if done "actions" then some (c.actions.reset fun key => gone ["actions", key]) else none
    triggers := if done "triggers" then some c.triggers else none }

theorem restores_triggers {triggers : List TriggerSpec} (h : ∀ t ∈ triggers, t.IsOrdered) :
    Restores (readList TriggerSpec.read) (.list TriggerSpec.shape)
      (.arr (triggers.map TriggerSpec.toJson)) triggers := by
  apply restores_readList
  rw [List.forall₂_map_left_iff, List.forall₂_same]
  exact fun t ht => TriggerSpec.restores_read (h t ht)

theorem restores_read (h : c.InRange) :
    Restores Config.read shape (c.toJson.withoutPaths gone) (c.reset gone) := by
  have hstart : c.readSoFar gone (fun _ => false) = {} := rfl
  rw [toJson, withoutPaths]
  refine restores_without hstart ?_ ?_ ?_ ?_
  · simp only [List.map_cons, List.map_nil, List.forall_mem_cons, List.not_mem_nil, false_implies,
      implies_true, and_true]
    refine ⟨?_, ?_, ?_, ?_, ?_, ?_⟩
    · exact sets_field rfl (fun _ => rfl) (by simp [readSoFar])
        (PlayerSettings.restores_read c.player)
    · exact sets_field rfl (fun _ => rfl) (by simp [readSoFar])
        (IngestSettings.restores_read h.ingest)
    · exact sets_field rfl (fun _ => rfl) (by simp [readSoFar])
        (ServerSettings.restores_read h.server)
    · exact sets_field rfl (fun _ => rfl) (by simp [readSoFar])
        (SchedulerSettings.restores_read h.scheduler)
    · exact sets_field rfl (fun _ => rfl) (by simp [readSoFar])
        (ActionSettings.restores_read h.actions)
    · exact sets_field rfl (fun _ => rfl) (by simp [readSoFar]) (restores_triggers h.triggers)
  · exact skipsUnknown_record (by simp [field])
  · simp
  · simp [readSoFar, Partial.complete, reset, getD_unless]

theorem reset_nothing (c : Config) : c.reset (fun _ => false) = c :=
  rfl

theorem withoutPaths_nothing (c : Config) : c.toJson.withoutPaths (fun _ => false) = c.toJson :=
  rfl

/-- Whether the numbers in the triggers are whole. -/
def HasWholeTriggers (c : Config) : Prop :=
  ∀ t ∈ c.triggers, t.toJson.IsWhole

theorem isWhole_natJson {n : Nat} (h : n < 18446744073709551616) : (natJson n).IsWhole := by
  have hle : n ≤ Reader.maxWord := Nat.le_of_lt_succ h
  exact ⟨by omega, by exact_mod_cast hle⟩

theorem isWhole_toJson (h : c.InRange) (hwhole : c.HasWholeTriggers) : c.toJson.IsWhole := by
  have hport : c.ingest.port < 18446744073709551616 := Nat.lt_trans h.ingest.port (by decide)
  have hretries : c.ingest.retryLimit < 18446744073709551616 :=
    Nat.lt_trans h.ingest.retryLimit (by decide)
  have htext (text : String) : (Json.str text).IsWhole := trivial
  simp only [toJson, isWhole_obj_iff, List.forall_mem_cons, List.not_mem_nil, false_implies,
    implies_true, and_true]
  refine ⟨?_, ?_, ?_, ?_, ?_, ?_⟩
  · simp only [PlayerSettings.toJson, isWhole_obj_iff, List.forall_mem_cons, htext, true_and]
    simp
  · simp only [IngestSettings.toJson, isWhole_obj_iff, List.forall_mem_cons, htext, true_and]
    refine ⟨isWhole_natJson hport, isWhole_natJson h.ingest.pollIntervalMs,
      isWhole_natJson hretries, isWhole_natJson h.ingest.retryBackoffMs, by simp⟩
  · simp only [ServerSettings.toJson, isWhole_obj_iff, List.forall_mem_singleton,
      List.forall_mem_map, htext, implies_true]
  · simp only [SchedulerSettings.toJson, isWhole_obj_iff, List.forall_mem_singleton]
    exact isWhole_natJson h.scheduler
  · simp only [ActionSettings.toJson, isWhole_obj_iff, List.forall_mem_cons]
    exact ⟨isWhole_natJson h.actions.stepTimeoutMs, isWhole_natJson h.actions.probeTimeoutMs,
      by simp⟩
  · exact isWhole_arr_iff.mpr (List.forall_mem_map.mpr hwhole)

theorem read_of_edited (h : c.InRange) (hdepth : c.toJson.depth ≤ 127) {d : Document}
    (hedited : Edited shape (c.toJson.withoutPaths gone) d) :
    read maxLevels d = .ok (c.reset gone) := by
  have hless : (c.toJson.withoutPaths gone).depth < maxLevels :=
    Nat.lt_succ_of_le (Nat.le_trans (depth_withoutPaths_le gone c.toJson) hdepth)
  exact restores_read h maxLevels d hless hedited

theorem ofText_eq_ok_iff {path text : String} :
    ofText path text = .ok c ↔ readText read text = .ok c :=
  mapError_eq_ok_iff

/-- What a document leaves out has its default, and the rest is what it says: whichever text has
the document, also when it is one that was written, and so settings are read as they were
written. -/
theorem ofText_of_edited (h : c.InRange) (hwhole : c.HasWholeTriggers)
    (hdepth : c.toJson.depth ≤ 127) (gone : List String → Bool) (path : String) :
    (∀ text d, document text = (d, none) → Edited shape (c.toJson.withoutPaths gone) d →
      ofText path text = .ok (c.reset gone)) ∧
    (∀ v : Json, v.IsWhole → Edited shape (c.toJson.withoutPaths gone) v.toDocument →
      ofText path v.compactText = .ok (c.reset gone) ∧
        ofText path v.prettyText = .ok (c.reset gone)) ∧
    ofText path c.toJson.compactText = .ok c ∧ ofText path c.toJson.prettyText = .ok c := by
  have hsame : read maxLevels c.toJson.toDocument = .ok c := by
    have hread := read_of_edited h hdepth
      (edited_toDocument shape (c.toJson.withoutPaths fun _ => false))
    rwa [withoutPaths_nothing, reset_nothing] at hread
  have hc := isWhole_toJson h hwhole
  refine ⟨?_, ?_, ?_, ?_⟩
  · intro text d htext hedited
    rw [ofText_eq_ok_iff, readText_of_document read htext]
    exact read_of_edited h hdepth hedited
  · intro v hv hedited
    rw [ofText_eq_ok_iff, ofText_eq_ok_iff, readText_compactText read hv,
      readText_prettyText read hv]
    exact ⟨read_of_edited h hdepth hedited, read_of_edited h hdepth hedited⟩
  · rw [ofText_eq_ok_iff, readText_compactText read hc]
    exact hsame
  · rw [ofText_eq_ok_iff, readText_prettyText read hc]
    exact hsame

/-- Settings with a trigger that answers a greeting. -/
def greeting : Config :=
  { player := { userId := "Alex", gameTitle := "Minecraft" }
    triggers := [{
      on := "message"
      conditions := [("content", .arr [.str "hi", .str "hello"])]
      action := ⟨"chat", [], [[.str "timeout", .num (.int 5)]]⟩ }] }

/-- A document of the greeting's player and triggers, in another order and with more members. -/
def greetingDocument : Json :=
  .obj [("triggers", .arr (greeting.triggers.map TriggerSpec.toJson)), ("note", .arr [.null]),
    ("player", .obj [("colour", .bool true), ("user_id", .str "Alex")])]

theorem ofText_greetingDocument :
    greeting.InRange ∧ greeting.HasWholeTriggers ∧ greeting.toJson.depth ≤ 127 ∧
      ofText "config.json" greetingDocument.compactText =
        .ok { player := { userId := "Alex" }, triggers := greeting.triggers } := by
  have hchannels : KeysSorted defaultChannels := by
    unfold KeysSorted
    decide +kernel
  have hordered : ∀ t ∈ greeting.triggers, t.IsOrdered := by
    simp [greeting, TriggerSpec.IsOrdered, TriggerAction.IsOrdered, KeysSorted, IsOrdered,
      IsOrdered.orderedMembers, IsOrdered.orderedItems]
  have hrange : greeting.InRange :=
    ⟨⟨by decide, by decide, by decide, by decide⟩, hchannels, by decide, ⟨by decide, by decide⟩,
      hordered⟩
  have hwhole : greeting.HasWholeTriggers := by
    simp [HasWholeTriggers, greeting, TriggerSpec.toJson, TriggerAction.toJson, IsWhole,
      IsWhole.wholeMembers, IsWhole.wholeItems, Reader.maxWord]
  have hdepth : greeting.toJson.depth ≤ 127 := by
    decide
  have hwritten : greetingDocument.IsWhole :=
    ⟨isWhole_arr_iff.mpr (List.forall_mem_map.mpr hwhole), ⟨trivial, trivial⟩,
      ⟨trivial, trivial, trivial⟩, trivial⟩
  -- The player's section and the whole document have one member each that nobody knows.
  have hplayer : Edited PlayerSettings.shape (.obj [("user_id", .str "Alex")])
      (toDocument (.obj [("colour", .bool true), ("user_id", .str "Alex")])) := by
    have hcolour : PlayerSettings.shape.Unknown (⟨.ok "colour", none⟩, .bool true) :=
      ⟨"colour", rfl, by simp, rfl⟩
    have hname := editedMembers_memberDocuments PlayerSettings.shape [("user_id", .str "Alex")]
    exact .obj hname (List.forall_mem_singleton.mpr hcolour) (.swap _ _ [])
  have hnote : shape.Unknown (⟨.ok "note", none⟩, .arr [.null] .closed) :=
    ⟨"note", rfl, by simp, rfl⟩
  have hedited : Edited shape (.obj [("player", .obj [("user_id", .str "Alex")]),
      ("triggers", .arr (greeting.triggers.map TriggerSpec.toJson))])
      greetingDocument.toDocument := by
    have htriggers := edited_toDocument (.list TriggerSpec.shape)
      (.arr (greeting.triggers.map TriggerSpec.toJson))
    refine .obj (.cons (q := ⟨.ok "player", none⟩) rfl hplayer
      (.cons (q := ⟨.ok "triggers", none⟩) rfl htriggers .nil))
      (List.forall_mem_singleton.mpr hnote) ?_
    exact (List.Perm.swap _ _ _).trans ((List.Perm.swap _ _ []).cons _)
  refine ⟨hrange, hwhole, hdepth, ?_⟩
  have hgone : greeting.toJson.withoutPaths
      (fun path => path ∉ [["player"], ["player", "user_id"], ["triggers"]]) =
      .obj [("player", .obj [("user_id", .str "Alex")]),
        ("triggers", .arr (greeting.triggers.map TriggerSpec.toJson))] := by
    simp [toJson, withoutPaths, without, greeting, PlayerSettings.toJson]
  rw [← hgone] at hedited
  exact ((ofText_of_edited hrange hwhole hdepth _ "config.json").2.1 greetingDocument hwritten
    hedited).1

end Config

end LogWarden
