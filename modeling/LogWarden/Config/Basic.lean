import LogWarden.Duration
import LogWarden.Encoding.Basic
import LogWarden.Error
import LogWarden.Event.Registry
import LogWarden.Trigger.Spec

/-! # Configuration

The settings of the program, in sections. Every setting has a default. -/

namespace LogWarden

/-- Where log lines come from. -/
inductive SourceMode
  /-- A growing file. -/
  | file
  /-- A forwarding endpoint, with the file to fall back on. -/
  | stream
  deriving DecidableEq, Repr

/-- The name of a mode. -/
def SourceMode.name : SourceMode → String
  | .file => "file"
  | .stream => "stream"

/-- The mode of a name. -/
def SourceMode.ofName? (s : String) : Option SourceMode :=
  [SourceMode.file, .stream].find? (·.name == s)

/-- Who plays. -/
structure PlayerSettings where
  userId : String := "Steve"
  gameTitle : String := "Minecraft* 1.21.8"
  deriving DecidableEq, Repr

/-- How log lines are obtained. -/
structure IngestSettings where
  mode : SourceMode := .stream
  encoding : String := "gbk"
  host : String := "127.0.0.1"
  port : Nat := 25334
  logPath : String := "latest.log"
  pollIntervalMs : Nat := 200
  retryLimit : Nat := 10
  retryBackoffMs : Nat := 2000
  deriving DecidableEq, Repr

namespace IngestSettings

/-- The encoding of log lines. -/
def textEncoding (s : IngestSettings) : Except ConfigError Encoding :=
  match Encoding.ofLabel? s.encoding with
  | some e => .ok e
  | none => .error (.unknownEncoding s.encoding)

/-- Host and port of the forwarding endpoint. -/
def addr (s : IngestSettings) : String :=
  s.host ++ ":" ++ natText s.port

def pollInterval (s : IngestSettings) : Nanos := .ofMillis s.pollIntervalMs

def retryBackoff (s : IngestSettings) : Nanos := .ofMillis s.retryBackoffMs

end IngestSettings

/-- The prefixes of chat channels by their tags and by what users call them, sorted. -/
def defaultChannels : Aliases :=
  [("G", "global"), ("L", "local"), ("RP", "rp"), ("交易", "tc"), ("全局", "global"),
   ("国家", "nations chat")]

/-- What is particular to a server. -/
structure ServerSettings where
  chatChannels : Aliases := defaultChannels
  deriving DecidableEq, Repr

/-- How events are handed on. -/
structure SchedulerSettings where
  /-- How many events may wait between the sources and the dispatcher. -/
  eventBuffer : Nat := 1024
  deriving DecidableEq, Repr

/-- How actions are carried out. -/
structure ActionSettings where
  stepTimeoutMs : Nat := 10000
  probeTimeoutMs : Nat := 5000
  deriving DecidableEq, Repr

namespace ActionSettings

def stepTimeout (s : ActionSettings) : Nanos := .ofMillis s.stepTimeoutMs

def probeTimeout (s : ActionSettings) : Nanos := .ofMillis s.probeTimeoutMs

end ActionSettings

/-- All settings. -/
structure Config where
  player : PlayerSettings := {}
  ingest : IngestSettings := {}
  server : ServerSettings := {}
  scheduler : SchedulerSettings := {}
  actions : ActionSettings := {}
  triggers : List TriggerSpec := []
  deriving Repr

/-- Whether every setting has its default. -/
def Config.isDefault (c : Config) : Bool :=
  c.player == {} && c.ingest == {} && c.server == {} && c.scheduler == {} && c.actions == {}
    && c.triggers.isEmpty

end LogWarden
