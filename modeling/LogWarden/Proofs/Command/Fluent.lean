import LogWarden.Proofs.Trigger.Calls

/-!
# Commands as they are written down

A command is written down as a start and calls upon it. Each call is offered by what it is made
upon, and leads on to what the next one is made upon, so that no call can stand where it is not
offered. Making the same calls one after another, each being checked when it is made, comes to the
same.
-/

namespace LogWarden

/-- What a command in the making is at a stage. -/
def Stage.Making : Stage → Type
  | .chat => ChatCommand
  | .jump => JumpCommand
  | .pay => PayCommand
  | .land => LandCommand
  | .landEdit => LandEditor
  | .trust => TrustCommand
  | .claim => ClaimCommand

/-- The step of a command. An edit of which it has not been said what is edited has none. -/
def Stage.build : (s : Stage) → s ≠ .landEdit → s.Making → Except CommandError Step
  | .chat, _, c => ChatCommand.build c
  | .jump, _, c => .ok (JumpCommand.build c)
  | .pay, _, c => PayCommand.build c
  | .land, _, c => LandCommand.build c
  | .landEdit, h, _ => absurd rfl h
  | .trust, _, c => TrustCommand.build c
  | .claim, _, c => ClaimCommand.build c

/-- A command in the making, whatever its stage is. -/
def Builder.of : (s : Stage) → s.Making → Builder
  | .chat, c => .chat c
  | .jump, c => .jump c
  | .pay, c => .pay c
  | .land, c => .land c
  | .landEdit, e => .landEdit e
  | .trust, c => .trust c
  | .claim, c => .claim c

/-- How a command is started. -/
inductive Start
  | chat (content : String)
  | jump (times : Nat)
  | pay (amount : Int)
  | land (name : String)
  deriving DecidableEq, Repr

/-- The stage of a command that has been started. -/
def Start.stage : Start → Stage
  | .chat _ => .chat
  | .jump _ => .jump
  | .pay _ => .pay
  | .land _ => .land

/-- Starts a command. -/
def Start.make : (a : Start) → a.stage.Making
  | .chat content => ChatCommand.start content
  | .jump times => JumpCommand.start times
  | .pay amount => PayCommand.start amount
  | .land name => LandCommand.start name

/-- A call, with the stage that offers it and the one that it leads to. -/
inductive StageCall : Stage → Stage → Type
  | sendTo (player : String) : StageCall .chat .chat
  | toAll : StageCall .chat .chat
  | switchChannel (channel : String) : StageCall .chat .chat
  | pause (d : Nanos) : StageCall .chat .chat
  | interval (d : Nanos) : StageCall .jump .jump
  | transferTo (player : String) : StageCall .pay .pay
  | invite : StageCall .land .land
  | accept : StageCall .land .land
  | reject : StageCall .land .land
  | deposit (value : String) : StageCall .land .land
  | edit : StageCall .land .landEdit
  | trust : StageCall .landEdit .trust
  | claim : StageCall .landEdit .claim
  | add (player : String) : StageCall .trust .trust
  | remove (player : String) : StageCall .trust .trust
  | draw : StageCall .claim .claim
  | erase : StageCall .claim .claim
  | radius (chunks : Nat) : StageCall .claim .claim
  | auto : StageCall .claim .claim
  | fill : StageCall .claim .claim

namespace StageCall

/-- The call, wherever it is made. -/
def call {s s' : Stage} : StageCall s s' → Call
  | .sendTo player => .sendTo player
  | .toAll => .toAll
  | .switchChannel channel => .switchChannel channel
  | .pause d | .interval d => .interval d
  | .transferTo player => .transferTo player
  | .invite => .invite
  | .accept => .accept
  | .reject => .reject
  | .deposit value => .deposit value
  | .edit => .edit
  | .trust => .trust
  | .claim => .claim
  | .add player => .add player
  | .remove player => .remove player
  | .draw => .draw
  | .erase => .erase
  | .radius chunks => .radius chunks
  | .auto => .auto
  | .fill => .fill

/-- Makes a call. -/
def make {s s' : Stage} : StageCall s s' → s.Making → s'.Making
  | .sendTo player, c => ChatCommand.sendTo c player
  | .toAll, c => ChatCommand.toAll c
  | .switchChannel channel, c => ChatCommand.switchChannel c channel
  | .pause d, c => ChatCommand.every c d
  | .interval d, c => JumpCommand.every c d
  | .transferTo player, c => PayCommand.transferTo c player
  | .invite, c => LandCommand.invite c
  | .accept, c => LandCommand.accept c
  | .reject, c => LandCommand.reject c
  | .deposit value, c => LandCommand.deposit c value
  | .edit, c => LandCommand.edit c
  | .trust, e => LandEditor.trust e
  | .claim, e => LandEditor.claim e
  | .add player, c => TrustCommand.add c player
  | .remove player, c => TrustCommand.remove c player
  | .draw, c => ClaimCommand.draw c
  | .erase, c => ClaimCommand.erase c
  | .radius chunks, c => ClaimCommand.reshape c (.radius chunks)
  | .auto, c => ClaimCommand.reshape c .auto
  | .fill, c => ClaimCommand.reshape c .fill

end StageCall

/-- A command as it is written down: a start, and calls made one upon another. -/
inductive Fluent (a : Start) : Stage → Type
  | start : Fluent a a.stage
  | call {s s' : Stage} (f : Fluent a s) (c : StageCall s s') : Fluent a s'

namespace Fluent

variable {a : Start} {s : Stage}

/-- What is made of a command. -/
def make {s : Stage} : Fluent a s → s.Making
  | .start => a.make
  | .call f c => c.make f.make

/-- The calls of a command, in order. -/
def calls {s : Stage} : Fluent a s → List Call
  | .start => []
  | .call f c => f.calls ++ [c.call]

/-- The step of a command. -/
def build (f : Fluent a s) (h : s ≠ .landEdit) : Except CommandError Step := s.build h f.make

end Fluent

variable {a : Start} {s s' : Stage}

/-! ## Calls wherever they are made -/

theorem Builder.build_of (h : s ≠ .landEdit) (x : s.Making) :
    (of s x).build = s.build h x := by
  cases s with
  | landEdit => exact absurd rfl h
  | _ => rfl

theorem StageCall.builder_call (c : StageCall s s') (x : s.Making) :
    (Builder.of s x).call c.call = .ok (.of s' (c.make x)) := by
  cases c <;> rfl

theorem StageCall.exists_of_mem {c : Call} (h : c.method ∈ s.methods) :
    ∃ k : StageCall s (c.method.next s), k.call = c := by
  cases s <;> cases c <;> simp [Stage.methods, Call.method] at h
  case chat.sendTo player => exact ⟨.sendTo player, rfl⟩
  case chat.toAll => exact ⟨.toAll, rfl⟩
  case chat.switchChannel channel => exact ⟨.switchChannel channel, rfl⟩
  case chat.interval d => exact ⟨.pause d, rfl⟩
  case jump.interval d => exact ⟨.interval d, rfl⟩
  case pay.transferTo player => exact ⟨.transferTo player, rfl⟩
  case land.invite => exact ⟨.invite, rfl⟩
  case land.accept => exact ⟨.accept, rfl⟩
  case land.reject => exact ⟨.reject, rfl⟩
  case land.deposit value => exact ⟨.deposit value, rfl⟩
  case land.edit => exact ⟨.edit, rfl⟩
  case landEdit.trust => exact ⟨.trust, rfl⟩
  case landEdit.claim => exact ⟨.claim, rfl⟩
  case trust.add player => exact ⟨.add player, rfl⟩
  case trust.remove player => exact ⟨.remove player, rfl⟩
  case claim.draw => exact ⟨.draw, rfl⟩
  case claim.erase => exact ⟨.erase, rfl⟩
  case claim.radius chunks => exact ⟨.radius chunks, rfl⟩
  case claim.auto => exact ⟨.auto, rfl⟩
  case claim.fill => exact ⟨.fill, rfl⟩

namespace Fluent

theorem callAll_make (f : Fluent a s) :
    f.calls.foldlM Builder.call (.of a.stage a.make) = .ok (.of s f.make) := by
  induction f with
  | start => rfl
  | call f c ih =>
      rw [calls, List.foldlM_append, ih]
      exact bind_eq_ok_iff.mpr ⟨_, rfl, bind_eq_ok_iff.mpr ⟨_, c.builder_call f.make, rfl⟩⟩

/-- Making the calls wherever they are comes to what is written down. -/
theorem run_eq (f : Fluent a s) (h : s ≠ .landEdit) :
    (Builder.of a.stage a.make).run f.calls = f.build h := by
  rw [Builder.run, f.callAll_make]
  exact Builder.build_of h f.make

end Fluent

end LogWarden
