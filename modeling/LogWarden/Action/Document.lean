import LogWarden.Action.Step
import LogWarden.Json.Value

/-! # Steps as JSON -/

namespace LogWarden

/-- A duration as JSON: whole seconds, and the nanoseconds beyond them. -/
def Nanos.toJson (d : Nanos) : Json :=
  .obj [("s", .num (.int d.seconds)), ("ns", .num (.int d.subsecond))]

/-- An action as JSON. -/
def Action.toJson : Action → Json
  | .jump times interval =>
    .obj [("times", .num (.int times)), ("interval", interval.toJson)]
  | .hold d => .obj [("duration", d.toJson)]
  | .type lines pause => .obj [("lines", .arr (lines.map .str)), ("pause", pause.toJson)]

/-- A step as JSON. -/
def Step.toJson (s : Step) : Json :=
  .obj [("name", .str s.action.name), ("action", s.action.toJson), ("display", .str s.action.text),
    ("timeout", s.limit.toJson)]

end LogWarden
