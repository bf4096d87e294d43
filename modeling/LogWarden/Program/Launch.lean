import LogWarden.Config.Store
import LogWarden.Program.CommandLine
import LogWarden.Program.Replies
import LogWarden.Warden.Basic

/-! # Starting the program

The program loads its settings, then its table of rules; both are written where they are missing.
Then it compiles the triggers and finds out the source. Whatever fails first is what it ends with;
otherwise there is a warden that begins to dispatch. -/

namespace LogWarden

/-- The version of the program, as it is shown. -/
def versionText : String := "mcreact 0.1.0"

/-- What starting the program comes to. -/
inductive Launch
  | help
  | version
  /-- The arguments are wrong. -/
  | misused
  | failed (e : ConfigError)
  /-- The program breaks off: the settings have seconds that no duration can hold. -/
  | broken
  /-- A warden is at work. It reads the file at a path, if it reads one. -/
  | begun (logPath : String) (w : Warden)

namespace Launch

/-- What the program exits with, once its warden has ended if there is one. -/
def exitCode : Launch → Nat
  | .help | .version | .begun .. => 0
  | .failed _ => 1
  | .misused => 2
  | .broken => 101

/-- Why triggers that do not compile end the program. -/
def ofCompileError : TriggerCompileError → Launch
  | .config e => .failed e
  | .secondsOverflow => .broken

end Launch

/-- The settings with what the command line says. -/
def Options.adjust (o : Options) (c : Config) : Config :=
  match o.mode with
  | some mode => { c with ingest := { c.ingest with mode } }
  | none => c

/-- The services that the program has, each with its name. -/
def serviceMembers : List (Consumer × Conduct) :=
  [(.reactor ChannelTracker.name ChannelTracker.subscription, .trackChannel),
   (.reactor IdleGuard.name IdleGuard.subscription, .guardIdling),
   (.reactor TriggerSet.name .all, .fireTriggers)]

/-- All consumers of events, services first. -/
def programMembers (limit : Nanos) : List (Consumer × Conduct) :=
  serviceMembers ++ (Reply.all limit).map fun reply =>
    (Consumer.handler reply.1, Conduct.script reply.2)

/-- The warden of some settings and a table. Identifiers of probes depend on `seed`. -/
def Warden.ofSettings (c : Config) (table : RuleTable) (seed : Nat) : Except Launch Warden := do
  let channels := c.server.chatChannels
  let limit := c.actions.stepTimeout
  let triggers ← (TriggerSet.compile c.triggers channels limit).mapError Launch.ofCompileError
  let source ← (Source.ofSettings c.ingest).mapError Launch.failed
  let members := programMembers limit
  let w : Warden := Warden.start .dryRun ⟨table, .builtin channels⟩
    (.start c.player.userId c.actions.probeTimeout) { IdleGuard.start with stepLimit := limit }
    triggers (.start (members.map (·.1)) c.scheduler.eventBuffer 1 1 [source])
  let w : Warden := { w with
    conducts := members.map (·.2)
    startup := [[.notify (.actuatorReady c.player.gameTitle)]]
    shutdown := [[.shutDownQueue, .reportQueue]]
    probeSeed := seed }
  let starting :=
    Notice.starting source.describe table.sets.length triggers.rules.length c.player.userId
  return (w.notify [starting]).spawn .background (.dispatch none)

/-- Starts the program with options. -/
def Options.launch {m : Type → Type} [Monad m] (files : FileAccess m) (seed : Nat) (o : Options) :
    m Launch := do
  match ← files.load Config.lookup o.config with
  | .error e => return .failed e
  | .ok config =>
    let config := o.adjust config
    match ← files.load RuleTable.lookup o.patterns with
    | .error e => return .failed e
    | .ok table =>
      match Warden.ofSettings config table seed with
      | .error launch => return launch
      | .ok w => return .begun config.ingest.logPath w

/-- Starts the program with its arguments. -/
def launch {m : Type → Type} [Monad m] (files : FileAccess m) (seed : Nat) (args : List String) :
    m Launch :=
  match Invocation.ofArgs args with
  | .run o => o.launch files seed
  | .help => return .help
  | .version => return .version
  | .misuse => return .misused

end LogWarden
