import LogWarden.Config.Basic

/-! # The command line

On the command line the program is told where its documents are, where log lines come from, and
whether it is to say more. Arguments are read from the left. The first one that is wrong, or that
asks for help or for the version, decides what happens. -/

namespace LogWarden

/-- What the program is told on the command line. -/
structure Options where
  config : String := "config.json"
  patterns : String := "patterns.json"
  /-- Where log lines come from, whatever the settings say. -/
  mode : Option SourceMode := none
  debug : Bool := false
  deriving DecidableEq, Repr

/-- What the program is asked to do. -/
inductive Invocation
  | run (o : Options)
  | help
  | version
  /-- The arguments are wrong. -/
  | misuse
  deriving DecidableEq, Repr

/-- The arguments that have a value. -/
inductive Setting
  | config | patterns | mode
  deriving DecidableEq, Repr

/-- The arguments that have none. -/
inductive Switch
  | debug | help | version
  deriving DecidableEq, Repr

/-- An argument by its name. -/
inductive Flag
  | setting (s : Setting)
  | switch (s : Switch)
  deriving DecidableEq, Repr

namespace Flag

def all : List Flag :=
  [.setting .config, .setting .patterns, .setting .mode, .switch .debug, .switch .help,
   .switch .version]

/-- The name behind two hyphens. -/
def long : Flag → String
  | .setting .config => "config"
  | .setting .patterns => "patterns"
  | .setting .mode => "mode"
  | .switch .debug => "debug"
  | .switch .help => "help"
  | .switch .version => "version"

/-- The letter behind one hyphen. -/
def short : Flag → Char
  | .setting .config => 'c'
  | .setting .patterns => 'p'
  | .setting .mode => 'm'
  | .switch .debug => 'd'
  | .switch .help => 'h'
  | .switch .version => 'V'

end Flag

/-- What has been told so far. Nothing may be told twice. -/
structure Told where
  config : Option String := none
  patterns : Option String := none
  mode : Option SourceMode := none
  debug : Bool := false
  deriving DecidableEq, Repr

namespace Told

/-- Takes the value of a setting. A path is not empty. -/
def set? (t : Told) (value : String) : Setting → Option Told
  | .config =>
    if t.config.isSome || value.isEmpty then none else some { t with config := some value }
  | .patterns =>
    if t.patterns.isSome || value.isEmpty then none else some { t with patterns := some value }
  | .mode =>
    if t.mode.isSome then none
    else (SourceMode.ofName? value).map fun mode => { t with mode := some mode }

/-- The options, with defaults for what has not been told. -/
def options (t : Told) : Options :=
  let defaults : Options := {}
  { config := t.config.getD defaults.config
    patterns := t.patterns.getD defaults.patterns
    mode := t.mode
    debug := t.debug }

end Told

/-- How far the arguments have been read. -/
inductive ArgumentState
  | reading (t : Told)
  /-- The next argument is the value of a setting. -/
  | awaiting (t : Told) (s : Setting)
  /-- No more arguments are expected. -/
  | closed (t : Told)
  /-- It is known what the program is asked to do. -/
  | decided (i : Invocation)
  deriving DecidableEq, Repr

namespace ArgumentState

/-- The state behind a setting with its value. -/
def set (t : Told) (s : Setting) (value : String) : ArgumentState :=
  match t.set? value s with
  | some t => .reading t
  | none => .decided .misuse

/-- The state behind a switch. -/
def turnOn (t : Told) : Switch → ArgumentState
  | .debug => if t.debug then .decided .misuse else .reading { t with debug := true }
  | .help => .decided .help
  | .version => .decided .version

/-- Reads letters that stand behind one hyphen. What follows the letter of a setting is its value. -/
def readLetters (t : Told) : List Char → ArgumentState
  | [] => .reading t
  | c :: rest =>
    match Flag.all.find? (·.short == c) with
    | none => .decided .misuse
    | some (.switch s) =>
      match turnOn t s with
      | .reading t => readLetters t rest
      | state => state
    | some (.setting s) =>
      match rest with
      | [] => .awaiting t s
      | '=' :: value => set t s (String.ofList value)
      | value => set t s (String.ofList value)

/-- Reads a name that stands behind two hyphens, with its value if there is one. -/
def readName (t : Told) (cs : List Char) : ArgumentState :=
  let name := String.ofList (cs.takeWhile (· != '='))
  let value := (cs.dropWhile (· != '=')).tail?.map String.ofList
  match Flag.all.find? (·.long == name), value with
  | some (.setting s), some value => set t s value
  | some (.setting s), none => .awaiting t s
  | some (.switch s), none => turnOn t s
  | _, _ => .decided .misuse

/-- Reads the next argument. -/
def next (state : ArgumentState) (arg : String) : ArgumentState :=
  match state with
  | .decided i => .decided i
  | .closed _ => .decided .misuse
  | .awaiting t s =>
    match arg.toList with
    | '-' :: _ :: _ => .decided .misuse
    | _ => set t s arg
  | .reading t =>
    match arg.toList with
    | ['-', '-'] => .closed t
    | '-' :: '-' :: name => readName t name
    | '-' :: c :: letters => readLetters t (c :: letters)
    | _ => .decided .misuse

/-- What the program is asked to do when there are no more arguments. -/
def finish : ArgumentState → Invocation
  | .reading t | .closed t => .run t.options
  | .awaiting .. => .misuse
  | .decided i => i

end ArgumentState

/-- What the program is asked to do by its arguments. -/
def Invocation.ofArgs (args : List String) : Invocation :=
  (args.foldl ArgumentState.next (.reading {})).finish

end LogWarden
