import LogWarden.Program.Launch
import LogWarden.Warden.Run

/-! # The program

The program runs its warden in step with the clock and prints what notice is given of and what would
be typed and pressed. It opens no connections: an endpoint counts as one that refuses them. -/

open LogWarden

/-- What there is at a path. -/
def lookAt (path : String) : IO FileState := do
  match ← (IO.FS.readBinFile path).toBaseIO with
  | .ok bytes => return .content bytes.toList
  | .error (.noFileOrDirectory ..) => return .absent
  | .error e => return .unreadable (toString e)

/-- The way to the files of the system. -/
def systemFiles : FileAccess IO where
  look := lookAt
  write path text := do
    match ← (IO.FS.writeFile path text).toBaseIO with
    | .ok _ => return none
    | .error e => return some (toString e)

/-- Prints what is new, and forgets it. -/
def report (w : Warden) : IO Warden := do
  for text in w.queue.marks.reverse.filterMap (·.2.text?) do
    IO.println (NoticeLevel.info.name ++ " " ++ text)
  for n in w.notices.reverse do
    IO.println n.text
  return { w with notices := [], journal := [], hookRuns := [], queue := { w.queue with marks := [] } }

/-- Lets a warden go on until its dispatcher has ended. Its time is counted from `began`. -/
partial def attend (logPath : String) (began : Nat) (w : Warden) : IO Unit := do
  let now : Nanos := (← IO.monoNanosNow) - began
  let around : Surroundings := ⟨← lookAt logPath, .refusing⟩
  let w ← report { w with now, surroundings := around }.quiesce
  unless w.outcome.isSome do
    let pause := match w.nextAlarm? with
      | some alarm => (alarm - w.now) / 1000000 + 1
      | none => 1000
    IO.sleep pause.toUInt32
    attend logPath began w

/-- How the program is used. -/
def usage : String :=
  "Usage: mcreact [-c|--config FILE] [-p|--patterns FILE] [-m|--mode file|stream] [-d|--debug]"

def main (args : List String) : IO UInt32 := do
  let began ← IO.monoNanosNow
  let l ← launch systemFiles began args
  match l with
  | .help => IO.println usage
  | .version => IO.println versionText
  | .misused => IO.eprintln usage
  | .failed e => IO.eprintln ("ERROR mcreact stopped with an error error=" ++ (Error.config e).message)
  | .broken => IO.eprintln secondsOverflowMessage
  | .begun logPath w => attend logPath began w
  return l.exitCode.toUInt32
