import LogWarden.Action.Actuator

/-! # Rehearsals

In a rehearsal the beginning and the end of each action can be seen, and what is typed decides how it
goes: a first line may ask for a longer pause, for a failure or for a panic. -/

namespace LogWarden.Actuator

/-- The natural number that a text of digits denotes; zero if it is no such text. -/
def pauseOf (digits : List Char) : Nat :=
  match Binary64.digitRun 0 0 digits with
  | (n, _, []) => n
  | _ => 0

/-- What follows a word at the start of a text. -/
def after? (word text : String) : Option (List Char) :=
  if word.toList.isPrefixOf text.toList then some (text.toList.drop word.length) else none

/-- The performance of typing in a rehearsal. -/
def rehearseTyping (lines : List String) (pause : Nanos) : Performance :=
  let a := Action.type lines pause
  let began := Beat.mark (.began a)
  let ended := [Beat.pause pause, .mark (.ended a.name)]
  match lines with
  | [] => ⟨began :: ended, .done⟩
  | first :: _ =>
    if first = "panic" then ⟨[began], .panicked⟩
    else
      match after? "hold:" first, after? "fail:" first with
      | some digits, _ => ⟨began :: .pause (.ofMillis (pauseOf digits)) :: ended, .done⟩
      | none, some reason => ⟨[began], .failed (.failed a.name (String.ofList reason))⟩
      | none, none => ⟨began :: ended, .done⟩

/-- An actuator for rehearsals, in which jumps may fail at their end. -/
def rehearsal (jumpsFail : Bool) : Actuator
  | _, .type lines pause => rehearseTyping lines pause
  | _, .jump times interval =>
    let a := Action.jump times interval
    let beats := [Beat.mark (.began a), .pause ((times - 1) * interval)]
    if jumpsFail then ⟨beats, .failed (.failed a.name "slipped")⟩
    else ⟨beats ++ [.mark (.ended a.name)], .done⟩
  | _, .hold d => ⟨[.pause d], .done⟩

end LogWarden.Actuator
