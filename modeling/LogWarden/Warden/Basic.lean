import LogWarden.Warden.Activity

/-! # The warden

A warden is a queue of actions with all that uses it: services, triggers and a dispatcher. Its
activities take turns; between two turns nothing changes. Time passes only when no activity can go
on. -/

namespace LogWarden

/-- A warden at a moment. -/
structure Warden where
  now : Nanos
  actuator : Actuator
  classifier : Classifier
  surroundings : Surroundings
  queue : Queue
  tracker : ChannelTracker
  guard : IdleGuard
  triggers : TriggerSet
  dispatcher : Dispatcher
  /-- How the consumers treat events, in their order. -/
  conducts : List Conduct
  startup : List (List Deed)
  shutdown : List (List Deed)
  /-- What the identifiers of probes depend on, and how many there have been. -/
  probeSeed : Nat
  probeCount : Nat
  /-- The activities, in the order in which they last went on. -/
  tasks : List Task
  /-- The activities that can go on, in the order in which that was noticed. -/
  ready : List Nat
  /-- How many activities there have been. -/
  born : Nat
  /-- Notices given, the latest first. -/
  notices : List Notice
  /-- What became of deliveries, the latest first. -/
  journal : List (Delivery × JournalEntry)
  /-- Hooks that have been run, the latest first. -/
  hookRuns : List HookRun
  /-- What named activities ended with and when, the latest first. -/
  endings : List (String × Nanos × Ended)
  /-- What the dispatcher ended with. -/
  outcome : Option (Except Error Unit)

namespace Warden

/-- Begins an activity. -/
def spawn (w : Warden) (role : Role) (a : Activity) : Warden :=
  { w with
    tasks := w.tasks ++ [⟨w.born, role, a, false⟩]
    ready := w.ready ++ [w.born]
    born := w.born + 1 }

/-- A warden whose queue has a worker and nothing to do. -/
def start (actuator : Actuator) (classifier : Classifier) (tracker : ChannelTracker)
    (guard : IdleGuard) (triggers : TriggerSet) (dispatcher : Dispatcher) : Warden :=
  let w : Warden :=
    { now := 0, actuator, classifier, surroundings := ⟨.absent, .unknown⟩, queue := .start, tracker
      guard, triggers, dispatcher, conducts := [], startup := [], shutdown := [], probeSeed := 0
      probeCount := 0, tasks := [], ready := [], born := 0, notices := [], journal := []
      hookRuns := [], endings := [], outcome := none }
  w.spawn .background .worker

/-- The identifier of the next probe. -/
def freshProbe (w : Warden) : String × Warden :=
  (probeId w.probeSeed w.probeCount, { w with probeCount := w.probeCount + 1 })

/-- Gives notices. -/
def notify (w : Warden) (ns : List Notice) : Warden :=
  { w with notices := ns.reverse ++ w.notices }

/-- What a turn of an activity came to. -/
inductive Step
  | goes (w : Warden) (a : Activity)
  | waits
  | ends (w : Warden) (e : Ended)

namespace Step

/-- A turn of a part as a turn of an activity. -/
def ofTurn {σ α : Type} (w : Warden) (f : σ → Activity) (g : α → Ended) : Turn σ α → Step
  | .goes s => .goes w (f s)
  | .waits => .waits
  | .ends a => .ends w (g a)

end Step

/-- The activities that begin with deliveries. -/
def deliver (w : Warden) (made : List Delivery) : Warden :=
  made.foldl (fun w d =>
    match w.conducts[d.consumer]? with
    | some c => w.spawn (.delivery d) (.consume c d.event)
    | none => w) w

/-- The activities of the pumps, which start. -/
def startPumps (w : Warden) : Warden :=
  (List.range w.dispatcher.pumps.length).foldl (fun w i => w.spawn .background (.pump i)) w

/-- What a startup or a shutdown hook does. -/
def hookDeeds (w : Warden) (isStartup : Bool) (hook : Nat) : List Deed :=
  (if isStartup then w.startup else w.shutdown)[hook]?.getD []

/-- A turn of the dispatcher. -/
def stepDispatch (w : Warden) : Option Script → Step
  | some hook =>
    let t := hook.next w.queue w.now
    let d := if t.drains then w.dispatcher.requestDrain else w.dispatcher
    let w := { w with queue := t.queue, dispatcher := d }
    match t.turn with
    | .goes s => .goes (w.notify t.notices) (.dispatch (some s))
    | .waits => .waits
    | .ends .panicked => .ends w (.verdict .panicked)
    | .ends v =>
      let (d, notices) := w.dispatcher.hookEnded (match v with
        | .failed e => .error e
        | _ => .ok ())
      .goes ({ w with dispatcher := d }.notify (t.notices ++ notices)) (.dispatch none)
  | none =>
    match w.dispatcher.next with
    | .refused e => .ends { w with outcome := some (.error (.config e)) } (.verdict .ok)
    | .begins isStartup hook =>
      let run : HookRun := ⟨isStartup, hook, w.dispatcher.lifecycle⟩
      .goes { w with hookRuns := run :: w.hookRuns }
        (.dispatch (some (.start (w.hookDeeds isStartup hook))))
    | .opens d => .goes { w with dispatcher := d }.startPumps (.dispatch none)
    | .delivers d _ made => .goes ({ w with dispatcher := d }.deliver made) (.dispatch none)
    | .enters d notices | .goes d notices =>
      .goes ({ w with dispatcher := d }.notify notices) (.dispatch none)
    | .waits => .waits
    | .over => .ends { w with outcome := some (.ok ()) } (.verdict .ok)

/-- The first turn of a consumer. -/
def stepConsume (w : Warden) (e : Event) : Conduct → Step
  | .script deeds => .goes w (.script (.start (deeds e)))
  | .trackChannel => .ends { w with tracker := w.tracker.react e } (.verdict .ok)
  | .guardIdling =>
    match w.guard.react e with
    | (guard, some evasion) => .goes { w with guard } (.evasion evasion)
    | (guard, none) => .ends { w with guard } (.verdict .ok)
  | .fireTriggers =>
    match Reaction.start? w.triggers e with
    | some r => .goes w (.reaction r)
    | none => .ends w (.verdict .panicked)

/-- A turn of an activity. -/
def step (w : Warden) : Activity → Step
  | .worker =>
    match w.queue.work w.actuator w.now with
    | some (queue, work) =>
      .goes ({ w with queue }.notify (work.toList.flatMap QueueWork.notices)) .worker
    | none => .waits
  | .pump i =>
    match w.dispatcher.pumpNext w.classifier w.surroundings w.now i with
    | some (dispatcher, notices) =>
      let w := { w with dispatcher }.notify notices
      if dispatcher.isPumping i then .goes w (.pump i) else .ends w (.verdict .ok)
    | none => .waits
  | .dispatch hook => w.stepDispatch hook
  | .consume c e => w.stepConsume e c
  | .script s =>
    let t := s.next w.queue w.now
    let dispatcher := if t.drains then w.dispatcher.requestDrain else w.dispatcher
    .ofTurn ({ w with queue := t.queue, dispatcher }.notify t.notices) .script .verdict t.turn
  | .evasion e =>
    let (guard, queue, turn, notices) := e.next w.guard w.queue w.now
    .ofTurn ({ w with guard, queue }.notify notices) .evasion .verdict turn
  | .reaction r =>
    let (queue, turn, notices) := r.next w.queue w.now
    .ofTurn ({ w with queue }.notify notices) .reaction (.verdict <| .ofResult ·) turn
  | .ticket t => .ofTurn w .ticket (.verdict <| .ofAction ·) (t.next w.queue w.now)
  | .chain r =>
    let (queue, turn) := r.next w.queue w.now
    .ofTurn { w with queue := if turn matches .ends _ then queue.release else queue } .chain
      (.verdict <| .ofAction ·) turn
  | .question q =>
    let (tracker, queue, turn, notices) := q.next w.tracker w.queue w.now
    .ofTurn ({ w with tracker, queue }.notify notices) .question .answer turn
  | .echo e =>
    let (probes, turn) := e.next w.tracker.probes w.now
    .ofTurn { w with tracker := { w.tracker with probes } } .echo .answer turn
  | .shutdown s =>
    let (queue, turn) := s.next w.queue
    .ofTurn { w with queue } .shutdown (fun _ => .down) turn
  | .drain d =>
    let (dispatcher, turn) := d.next w.dispatcher
    .ofTurn { w with dispatcher } .drain (fun _ => .seen dispatcher.lifecycle) turn

/-- When an activity that waits may go on by itself. -/
def alarms (w : Warden) : Activity → List Nanos
  | .worker => w.queue.alarm?.toList
  | .pump i => (w.dispatcher.pumps[i]?.bind Pump.alarm?).toList
  | .dispatch hook => (hook.map Script.alarms).getD []
  | .consume .. | .shutdown _ | .drain _ => []
  | .script s => s.alarms
  | .evasion e => e.alarms
  | .reaction r => r.alarm?.toList
  | .ticket t => t.alarm?.toList
  | .chain r => r.alarms
  | .question q => q.alarm?.toList
  | .echo e => [e.deadline]

end Warden

end LogWarden
