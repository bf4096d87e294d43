import LogWarden.Config.Basic

/-! # Configuration documents

The settings as a JSON document. A section or setting that is left out has its default. -/

namespace LogWarden

open Json

namespace PlayerSettings

/-- The settings that have been read. -/
structure Partial where
  userId : Option String := none
  gameTitle : Option String := none

def Partial.complete (s : Partial) : PlayerSettings :=
  let d : PlayerSettings := {}
  ⟨s.userId.getD d.userId, s.gameTitle.getD d.gameTitle⟩

def read : Reads PlayerSettings :=
  readRecord
    [field "user_id" Partial.userId (fun s v => { s with userId := v }) readString,
     field "game_title" Partial.gameTitle (fun s v => { s with gameTitle := v }) readString]
    {} fun s => .ok s.complete

def toJson (s : PlayerSettings) : Json :=
  .obj [("user_id", .str s.userId), ("game_title", .str s.gameTitle)]

end PlayerSettings

/-- A natural number as JSON. -/
def natJson (n : Nat) : Json := .num (.int n)

namespace IngestSettings

/-- The settings that have been read. -/
structure Partial where
  mode : Option SourceMode := none
  encoding : Option String := none
  host : Option String := none
  port : Option Nat := none
  logPath : Option String := none
  pollIntervalMs : Option Nat := none
  retryLimit : Option Nat := none
  retryBackoffMs : Option Nat := none

def Partial.complete (s : Partial) : IngestSettings :=
  let d : IngestSettings := {}
  { mode := s.mode.getD d.mode
    encoding := s.encoding.getD d.encoding
    host := s.host.getD d.host
    port := s.port.getD d.port
    logPath := s.logPath.getD d.logPath
    pollIntervalMs := s.pollIntervalMs.getD d.pollIntervalMs
    retryLimit := s.retryLimit.getD d.retryLimit
    retryBackoffMs := s.retryBackoffMs.getD d.retryBackoffMs }

def read : Reads IngestSettings :=
  readRecord
    [field "mode" Partial.mode (fun s v => { s with mode := v }) (readVariant SourceMode.ofName?),
     field "encoding" Partial.encoding (fun s v => { s with encoding := v }) readString,
     field "host" Partial.host (fun s v => { s with host := v }) readString,
     field "port" Partial.port (fun s v => { s with port := v }) (readNat 65536),
     field "log_path" Partial.logPath (fun s v => { s with logPath := v }) readString,
     field "poll_interval_ms" Partial.pollIntervalMs (fun s v => { s with pollIntervalMs := v })
       (readNat 18446744073709551616),
     field "retry_limit" Partial.retryLimit (fun s v => { s with retryLimit := v })
       (readNat 4294967296),
     field "retry_backoff_ms" Partial.retryBackoffMs (fun s v => { s with retryBackoffMs := v })
       (readNat 18446744073709551616)]
    {} fun s => .ok s.complete

def toJson (s : IngestSettings) : Json :=
  .obj [("mode", .str s.mode.name), ("encoding", .str s.encoding), ("host", .str s.host),
    ("port", natJson s.port), ("log_path", .str s.logPath),
    ("poll_interval_ms", natJson s.pollIntervalMs), ("retry_limit", natJson s.retryLimit),
    ("retry_backoff_ms", natJson s.retryBackoffMs)]

end IngestSettings

namespace ServerSettings

/-- The settings that have been read. -/
structure Partial where
  chatChannels : Option Aliases := none

def Partial.complete (s : Partial) : ServerSettings :=
  ⟨s.chatChannels.getD defaultChannels⟩

def read : Reads ServerSettings :=
  readRecord
    [field "chat_channels" Partial.chatChannels (fun s v => { s with chatChannels := v })
       (readMap readString)]
    {} fun s => .ok s.complete

def toJson (s : ServerSettings) : Json :=
  .obj [("chat_channels", .obj (s.chatChannels.map fun (k, v) => (k, .str v)))]

end ServerSettings

namespace SchedulerSettings

/-- The settings that have been read. -/
structure Partial where
  eventBuffer : Option Nat := none

def Partial.complete (s : Partial) : SchedulerSettings :=
  let d : SchedulerSettings := {}
  ⟨s.eventBuffer.getD d.eventBuffer⟩

def read : Reads SchedulerSettings :=
  readRecord
    [field "event_buffer" Partial.eventBuffer (fun s v => { s with eventBuffer := v })
       (readNat 18446744073709551616)]
    {} fun s => .ok s.complete

def toJson (s : SchedulerSettings) : Json :=
  .obj [("event_buffer", natJson s.eventBuffer)]

end SchedulerSettings

namespace ActionSettings

/-- The settings that have been read. -/
structure Partial where
  stepTimeoutMs : Option Nat := none
  probeTimeoutMs : Option Nat := none

def Partial.complete (s : Partial) : ActionSettings :=
  let d : ActionSettings := {}
  ⟨s.stepTimeoutMs.getD d.stepTimeoutMs, s.probeTimeoutMs.getD d.probeTimeoutMs⟩

def read : Reads ActionSettings :=
  readRecord
    [field "step_timeout_ms" Partial.stepTimeoutMs (fun s v => { s with stepTimeoutMs := v })
       (readNat 18446744073709551616),
     field "probe_timeout_ms" Partial.probeTimeoutMs (fun s v => { s with probeTimeoutMs := v })
       (readNat 18446744073709551616)]
    {} fun s => .ok s.complete

def toJson (s : ActionSettings) : Json :=
  .obj [("step_timeout_ms", natJson s.stepTimeoutMs), ("probe_timeout_ms", natJson s.probeTimeoutMs)]

end ActionSettings

namespace Config

/-- The sections that have been read. -/
structure Partial where
  player : Option PlayerSettings := none
  ingest : Option IngestSettings := none
  server : Option ServerSettings := none
  scheduler : Option SchedulerSettings := none
  actions : Option ActionSettings := none
  triggers : Option (List TriggerSpec) := none

def Partial.complete (s : Partial) : Config :=
  { player := s.player.getD {}
    ingest := s.ingest.getD {}
    server := s.server.getD {}
    scheduler := s.scheduler.getD {}
    actions := s.actions.getD {}
    triggers := s.triggers.getD [] }

def read : Reads Config :=
  readRecord
    [field "player" Partial.player (fun s v => { s with player := v }) PlayerSettings.read,
     field "ingest" Partial.ingest (fun s v => { s with ingest := v }) IngestSettings.read,
     field "server" Partial.server (fun s v => { s with server := v }) ServerSettings.read,
     field "scheduler" Partial.scheduler (fun s v => { s with scheduler := v })
       SchedulerSettings.read,
     field "actions" Partial.actions (fun s v => { s with actions := v }) ActionSettings.read,
     field "triggers" Partial.triggers (fun s v => { s with triggers := v })
       (readList TriggerSpec.read)]
    {} fun s => .ok s.complete

def toJson (c : Config) : Json :=
  .obj [("player", c.player.toJson), ("ingest", c.ingest.toJson), ("server", c.server.toJson),
    ("scheduler", c.scheduler.toJson), ("actions", c.actions.toJson),
    ("triggers", .arr (c.triggers.map TriggerSpec.toJson))]

/-- Reads the document of a file. -/
def ofText (path text : String) : Except ConfigError Config :=
  (readText read text).mapError (.malformed path)

end Config

end LogWarden
