import LogWarden.Event.Payload

/-! # Events

An event is what a line says: the name of an event kind and a payload. A subscription says which
payloads somebody wants. -/

namespace LogWarden

/-- An event kind and its payload. -/
structure Event where
  kind : String
  payload : Payload
  deriving DecidableEq, Repr

/-- The kinds of payloads that a consumer accepts. -/
inductive Subscription
  | all
  | only (kinds : List PayloadKind)
  deriving DecidableEq, Repr

namespace Subscription

def accepts : Subscription → PayloadKind → Bool
  | .all, _ => true
  | .only kinds, k => kinds.contains k

/-- The accepted kinds, in order. -/
def accepted (s : Subscription) : List PayloadKind :=
  PayloadKind.all.filter s.accepts

end Subscription

end LogWarden
