import LogWarden.Proofs.Channel.Asking
import LogWarden.Proofs.Warden.Invariant
import Mathlib.Logic.Function.Basic

/-!
# What a warden does to its tracker

Whatever goes on in a warden, what becomes of its tracker is made of moves: consumers react to
events, activities that ask for the channel take the turns of a call each, and all others leave the
tracker alone. So what holds after every run of a tracker holds of the tracker of a warden at any
time.

## Implementation notes

Probes that are awaited apart from a call for the channel are not among the moves of a tracker, and
so a warden with an activity that awaits one is left out.
-/

namespace LogWarden

open Asking (step_turn)

/-- Whether an activity has nothing to do with a call for the channel that has begun. -/
def Activity.isApart : Activity → Bool
  | .question (.fresh _) => true
  | .question _ | .echo _ => false
  | _ => true

/-- A call that goes on is under way. -/
theorem ChannelQuestion.next_goes {t t' : ChannelTracker} {q q' : Queue} {now : Nanos}
    {c c' : ChannelQuestion} {notices : List Notice}
    (h : c.next t q now = (t', q', .goes c', notices)) :
    ∃ x, ChannelCall.ofTurn? (.goes c') = some x ∧ x.question? = some c' := by
  cases c' with
  | typing id w => exact ⟨_, rfl, rfl⟩
  | listening w => exact ⟨_, rfl, rfl⟩
  | fresh id =>
      cases c with
      | fresh id' =>
          obtain ⟨q'', w, hnext⟩ | ⟨_, hnext⟩ := ChannelQuestion.next_fresh t q now id' <;>
            simp [hnext] at h
      | typing id' w =>
          obtain hnext | ⟨_, hnext⟩ | hnext := ChannelQuestion.next_typing t q now id' w <;>
            simp [hnext] at h
      | listening w =>
          cases hv : t.probes.value? w.id with
          | some v => simp [ChannelQuestion.next_listening_of_echo q now hv] at h
          | none =>
              rw [ChannelQuestion.next_listening_of_none q now hv] at h
              split at h <;> simp at h

namespace Warden

/-- A warden has the tracker to which a run leads, and each of some activities that ask for the
channel takes the turns of a call of its own. -/
structure Asks (s : Asking) (call : Nat → Nat) (w : Warden) (tasks : List Task) : Prop where
  now_eq : s.now = w.now
  queue_eq : s.queue = w.queue
  tracker_eq : s.tracker = w.tracker
  asked : ∀ t ∈ tasks, t.activity.isApart = false →
    ∃ c, t.activity = .question c ∧ s.calls[call t.id]?.bind ChannelCall.question? = some c
  distinct : ∀ t ∈ tasks, ∀ v ∈ tasks, t.activity.isApart = false → v.activity.isApart = false →
    call t.id = call v.id → t.id = v.id

/-- The same for a run that has gone on from a state. -/
def AsksFrom (s : Asking) (w : Warden) (tasks : List Task) : Prop :=
  ∃ moves call, Asks (s.run moves) call w tasks

/-- Nothing is different that concerns the tracker or those who ask it. -/
structure Bystands (w w' : Warden) : Prop where
  tracker_eq : w'.tracker = w.tracker
  tasks : ∀ t ∈ w'.tasks, t ∈ w.tasks ∨ t.activity.isApart = true

/-- What a turn of an activity comes to does not concern the tracker. -/
def Step.Bystands (w : Warden) : Step → Prop
  | .goes w' a => w.Bystands w' ∧ a.isApart = true
  | .ends w' _ => w.Bystands w'
  | .waits => True

variable {s : Asking} {call : Nat → Nat} {w w' w₁ : Warden} {tasks tasks' : List Task} {t : Task}

namespace Bystands

theorem of_eq (ht : w'.tracker = w.tracker) (htasks : w'.tasks = w.tasks) : w.Bystands w' :=
  ⟨ht, fun _ h => .inl (htasks ▸ h)⟩

theorem trans (h : w.Bystands w₁) (h' : w₁.Bystands w') : w.Bystands w' where
  tracker_eq := h'.tracker_eq.trans h.tracker_eq
  tasks := by
    intro t ht
    rcases h'.tasks t ht with ht | hapart
    · exact h.tasks t ht
    · exact .inr hapart

theorem spawn (w : Warden) (role : Role) {a : Activity} (h : a.isApart = true) :
    w.Bystands (w.spawn role a) where
  tracker_eq := rfl
  tasks := by
    intro t ht
    rcases List.mem_append.mp ht with ht | ht
    · exact .inl ht
    · obtain rfl := List.mem_singleton.mp ht
      exact .inr h

theorem foldl {α : Type} {f : Warden → α → Warden} (hf : ∀ (w : Warden) x, w.Bystands (f w x))
    (xs : List α) (w : Warden) : w.Bystands (xs.foldl f w) := by
  induction xs generalizing w with
  | nil => exact .of_eq rfl rfl
  | cons x xs ih => exact (hf w x).trans (ih (f w x))

theorem deliver (w : Warden) (made : List Delivery) : w.Bystands (w.deliver made) := by
  refine foldl (fun w d => ?_) made w
  split
  · exact .spawn w _ rfl
  · exact .of_eq rfl rfl

theorem startPumps (w : Warden) : w.Bystands w.startPumps :=
  foldl (fun w _ => .spawn w _ rfl) _ w

end Bystands

theorem stepDispatch_bystands (w : Warden) (hook : Option Script) :
    (w.stepDispatch hook).Bystands w := by
  cases hook with
  | some hook =>
      simp only [stepDispatch]
      split
      · exact ⟨.of_eq rfl rfl, rfl⟩
      · trivial
      · exact .of_eq rfl rfl
      · exact ⟨.of_eq rfl rfl, rfl⟩
  | none =>
      simp only [stepDispatch]
      split
      · exact .of_eq rfl rfl
      · exact ⟨.of_eq rfl rfl, rfl⟩
      · refine ⟨.trans ?_ (.startPumps _), rfl⟩
        exact .of_eq rfl rfl
      · refine ⟨.trans ?_ (.deliver _ _), rfl⟩
        exact .of_eq rfl rfl
      · exact ⟨.of_eq rfl rfl, rfl⟩
      · exact ⟨.of_eq rfl rfl, rfl⟩
      · trivial
      · exact .of_eq rfl rfl

theorem ofTurn_bystands {σ α : Type} {f : σ → Activity} {g : α → Ended} {turn : Turn σ α}
    (h : w.Bystands w') (hf : ∀ x, (f x).isApart = true) :
    Step.Bystands w (.ofTurn w' f g turn) := by
  cases turn with
  | goes x => exact ⟨h, hf x⟩
  | waits => trivial
  | ends => exact h

theorem stepConsume_bystands (w : Warden) (e : Event) {c : Conduct} (h : c ≠ .trackChannel) :
    (w.stepConsume e c).Bystands w := by
  cases c with
  | script => exact ⟨.of_eq rfl rfl, rfl⟩
  | trackChannel => exact absurd rfl h
  | guardIdling | fireTriggers =>
      simp only [stepConsume]
      split
      · exact ⟨.of_eq rfl rfl, rfl⟩
      · exact .of_eq rfl rfl

/-- The turn of an activity that neither asks for the channel nor reacts to an event on behalf of
the tracker. -/
theorem step_bystands (w : Warden) {a : Activity} (hquestion : ∀ c, a ≠ .question c)
    (hecho : ∀ e, a ≠ .echo e) (htrack : ∀ e, a ≠ .consume .trackChannel e) :
    (w.step a).Bystands w := by
  cases a with
  | worker =>
      simp only [step]
      split
      · exact ⟨.of_eq rfl rfl, rfl⟩
      · trivial
  | pump i =>
      simp only [step]
      split
      · split
        · exact ⟨.of_eq rfl rfl, rfl⟩
        · exact .of_eq rfl rfl
      · trivial
  | dispatch hook => exact w.stepDispatch_bystands hook
  | consume c e => exact w.stepConsume_bystands e fun hc => htrack e (hc ▸ rfl)
  | question c => exact absurd rfl (hquestion c)
  | echo e => exact absurd rfl (hecho e)
  | script | evasion | reaction | ticket | chain | shutdown | drain =>
      exact ofTurn_bystands (.of_eq rfl rfl) fun _ => rfl

namespace Asks

variable (k : Asks s call w tasks)
include k

/-- Where fewer activities ask for the channel and those that do are the same. -/
theorem frame (hnow : w'.now = w.now) (hqueue : w'.queue = w.queue)
    (htracker : w'.tracker = w.tracker)
    (htasks : ∀ t ∈ tasks', t.activity.isApart = false →
      ∃ v ∈ tasks, v.id = t.id ∧ v.activity = t.activity) : Asks s call w' tasks' where
  now_eq := k.now_eq.trans hnow.symm
  queue_eq := k.queue_eq.trans hqueue.symm
  tracker_eq := k.tracker_eq.trans htracker.symm
  asked := by
    intro t ht hapart
    obtain ⟨v, hv, hid, hactivity⟩ := htasks t ht hapart
    rw [← hid, ← hactivity]
    exact k.asked v hv (hactivity ▸ hapart)
  distinct := by
    intro t ht t' ht' hapart hapart' hcall
    obtain ⟨v, hv, hid, hactivity⟩ := htasks t ht hapart
    obtain ⟨v', hv', hid', hactivity'⟩ := htasks t' ht' hapart'
    rw [← hid, ← hid'] at hcall ⊢
    exact k.distinct v hv v' hv' (hactivity ▸ hapart) (hactivity' ▸ hapart') hcall

/-- Where the queue and the time are different ones. -/
theorem aside (w' : Warden) (htracker : w'.tracker = w.tracker) :
    Asks (s.run [.queue fun _ => w'.queue, .clock w'.now]) call w' tasks where
  now_eq := rfl
  queue_eq := rfl
  tracker_eq := k.tracker_eq.trans htracker.symm
  asked := k.asked
  distinct := k.distinct

theorem hear (e : Event) (htracker : w'.tracker = w.tracker.react e) (hnow : w'.now = w.now)
    (hqueue : w'.queue = w.queue) : Asks (s.step (.hear e)).1 call w' tasks where
  now_eq := k.now_eq.trans hnow.symm
  queue_eq := k.queue_eq.trans hqueue.symm
  tracker_eq := by
    rw [htracker, ← k.tracker_eq]
    rfl
  asked := k.asked
  distinct := k.distinct

/-- Where an activity has ended and the calls of the others stand where they stood. -/
theorem stop {s' : Asking} (hnow : s'.now = w'.now) (hqueue : s'.queue = w'.queue)
    (htracker : s'.tracker = w'.tracker)
    (hcalls : ∀ v ∈ tasks, v.activity.isApart = false →
      s'.calls[call v.id]? = s.calls[call v.id]?) : Asks s' call w' tasks where
  now_eq := hnow
  queue_eq := hqueue
  tracker_eq := htracker
  asked := by
    intro v hv hapart
    rw [hcalls v hv hapart]
    exact k.asked v hv hapart
  distinct := k.distinct

/-- Where an activity goes on with a call that is its own. -/
theorem goOn {n : Nat} {c : ChannelQuestion} (hid : ∀ v ∈ tasks, v.id ≠ t.id)
    (hfree : ∀ v ∈ tasks, v.activity.isApart = false → call v.id ≠ n)
    (hc : s.calls[n]?.bind ChannelCall.question? = some c) :
    Asks s (Function.update call t.id n) w
      (tasks ++ [{ t with activity := .question c, begun := true }]) where
  now_eq := k.now_eq
  queue_eq := k.queue_eq
  tracker_eq := k.tracker_eq
  asked := by
    intro v hv hapart
    rcases List.mem_append.mp hv with hv | hv
    · rw [Function.update_of_ne (hid v hv)]
      exact k.asked v hv hapart
    · obtain rfl := List.mem_singleton.mp hv
      exact ⟨c, rfl, by rwa [Function.update_self]⟩
  distinct := by
    intro v hv v' hv' hapart hapart' hcall
    rcases List.mem_append.mp hv with hv | hv <;> rcases List.mem_append.mp hv' with hv' | hv'
    · rw [Function.update_of_ne (hid v hv), Function.update_of_ne (hid v' hv')] at hcall
      exact k.distinct v hv v' hv' hapart hapart' hcall
    · obtain rfl := List.mem_singleton.mp hv'
      rw [Function.update_of_ne (hid v hv), Function.update_self] at hcall
      exact absurd hcall (hfree v hv hapart)
    · obtain rfl := List.mem_singleton.mp hv
      rw [Function.update_of_ne (hid v' hv'), Function.update_self] at hcall
      exact absurd hcall.symm (hfree v' hv' hapart')
    · rw [List.mem_singleton.mp hv, List.mem_singleton.mp hv']

theorem lt_length (ht : t ∈ tasks) (hapart : t.activity.isApart = false) :
    call t.id < s.calls.length := by
  obtain ⟨c, -, hc⟩ := k.asked t ht hapart
  obtain ⟨x, hx, -⟩ := Option.bind_eq_some_iff.mp hc
  exact (List.getElem?_eq_some_iff.mp hx).1

end Asks

/-- What a turn of an activity comes to leaves a warden that asks what a longer run lets it ask. -/
def Step.AsksFrom (s : Asking) (t : Task) : Step → Prop
  | .goes w a =>
    w.AsksFrom s (w.tasks.filter (·.id ≠ t.id) ++ [{ t with activity := a, begun := true }])
  | .ends w _ => w.AsksFrom s (w.tasks.filter (·.id ≠ t.id))
  | .waits => True

/-- Those beside an activity. -/
theorem Asks.others (k : Asks s call w w.tasks) (t : Task) :
    Asks s call w (w.tasks.filter (·.id ≠ t.id)) :=
  k.frame rfl rfl rfl fun v hv _ => ⟨v, (List.mem_filter.mp hv).1, rfl, rfl⟩

theorem id_ne_of_mem_others {v : Task} (h : v ∈ tasks.filter (·.id ≠ t.id)) : v.id ≠ t.id := by
  simpa using (List.mem_filter.mp h).2

/-- A call begins. -/
theorem Asks.ask (k : Asks s call w w.tasks) (t : Task) (id : String) :
    (w.step (.question (.fresh id))).AsksFrom s t := by
  have others := k.others t
  have hlt : ∀ v ∈ w.tasks.filter (·.id ≠ t.id), v.activity.isApart = false →
      call v.id < s.calls.length := fun v hv => others.lt_length hv
  obtain ⟨now, queue, tracker, calls⟩ := s
  obtain ⟨rfl, rfl, rfl, -, -⟩ := k
  obtain ⟨q', tw, hnext⟩ | ⟨notices, hnext⟩ := ChannelQuestion.next_fresh w.tracker w.queue w.now id
  · have hmove : ((⟨w.now, w.queue, w.tracker, calls⟩ : Asking).step (.ask id)).1 =
        ⟨w.now, q', { w.tracker with probes := w.tracker.probes.register id },
          calls ++ [.typing id tw]⟩ := by
      simp [Asking.step, hnext, ChannelCall.ofTurn?]
    simp only [step, hnext, Step.ofTurn, Step.AsksFrom]
    refine ⟨[.ask id], Function.update call t.id calls.length, ?_⟩
    rw [Asking.run_cons, Asking.run_nil, hmove]
    refine Asks.goOn (others.stop rfl rfl rfl fun v hv hapart => ?_) (fun v => id_ne_of_mem_others)
      (fun v hv hapart => Nat.ne_of_lt (hlt v hv hapart)) ?_
    · exact List.getElem?_append_left (hlt v hv hapart)
    · simp [ChannelCall.question?]
  · have hmove : ((⟨w.now, w.queue, w.tracker, calls⟩ : Asking).step (.ask id)).1 =
        ⟨w.now, w.queue, { w.tracker with probes := (w.tracker.probes.register id).drop id },
          calls ++ [.answered w.tracker.current]⟩ := by
      simp [Asking.step, hnext, ChannelCall.ofTurn?]
    simp only [step, hnext, Step.ofTurn, Step.AsksFrom]
    refine ⟨[.ask id], call, ?_⟩
    rw [Asking.run_cons, Asking.run_nil, hmove]
    exact others.stop rfl rfl rfl fun v hv hapart => List.getElem?_append_left (hlt v hv hapart)

/-- A call takes a turn. -/
theorem Asks.turn (k : Asks s call w w.tasks) (ht : t ∈ w.tasks)
    (hapart : t.activity.isApart = false) {c : ChannelQuestion} (ha : t.activity = .question c) :
    (w.step (.question c)).AsksFrom s t := by
  have others := k.others t
  have hfree : ∀ v ∈ w.tasks.filter (·.id ≠ t.id), v.activity.isApart = false →
      call v.id ≠ call t.id := by
    intro v hv hvapart hcall
    exact id_ne_of_mem_others hv (k.distinct v (List.mem_filter.mp hv).1 t ht hvapart hapart hcall)
  have hlt := k.lt_length ht hapart
  obtain ⟨c', hc', hcall⟩ := k.asked t ht hapart
  obtain rfl : c = c' := Activity.question.inj (ha.symm.trans hc')
  obtain ⟨now, queue, tracker, calls⟩ := s
  obtain ⟨rfl, rfl, rfl, -, -⟩ := k
  rcases hnext : c.next w.tracker w.queue w.now with ⟨tracker', queue', turn, notices⟩
  have hmove := step_turn hcall hnext
  simp only [step, hnext]
  cases turn with
  | waits => trivial
  | goes c' =>
      obtain ⟨x, hx, hxc⟩ := ChannelQuestion.next_goes hnext
      refine ⟨[.turn (call t.id)], Function.update call t.id (call t.id), ?_⟩
      rw [Asking.run_cons, Asking.run_nil, hmove, hx]
      refine Asks.goOn (others.stop rfl rfl rfl fun v hv hvapart => ?_)
        (fun v => id_ne_of_mem_others) hfree ?_
      · exact List.getElem?_set_ne (hfree v hv hvapart).symm
      · simp [hlt, hxc]
  | ends v =>
      refine ⟨[.turn (call t.id)], call, ?_⟩
      rw [Asking.run_cons, Asking.run_nil, hmove]
      refine others.stop rfl rfl rfl fun v hv hvapart => ?_
      exact List.getElem?_set_ne (hfree v hv hvapart).symm

theorem Asks.bystand (k : Asks s call w w.tasks) (h : w.Bystands w')
    (htasks : ∀ v ∈ tasks', v ∈ w'.tasks ∨ v.activity.isApart = true) : w'.AsksFrom s tasks' := by
  refine ⟨_, call, (k.frame rfl rfl rfl fun v hv hapart => ?_).aside w' h.tracker_eq⟩
  rcases htasks v hv with hv | hv
  · rcases h.tasks v hv with hv | hv
    · exact ⟨v, hv, rfl, rfl⟩
    · simp [hv] at hapart
  · simp [hv] at hapart

theorem Asks.step_of_bystands (k : Asks s call w w.tasks) {st : Step} (h : st.Bystands w) :
    st.AsksFrom s t := by
  cases st with
  | waits => trivial
  | ends w' e => exact k.bystand h fun v hv => .inl (List.mem_filter.mp hv).1
  | goes w' a =>
      refine k.bystand h.1 fun v hv => ?_
      rcases List.mem_append.mp hv with hv | hv
      · exact .inl (List.mem_filter.mp hv).1
      · obtain rfl := List.mem_singleton.mp hv
        exact .inr h.2

/-- What a turn of an activity makes of the tracker is made of moves. -/
theorem Asks.step (k : Asks s call w w.tasks) (ht : t ∈ w.tasks) :
    (w.step t.activity).AsksFrom s t := by
  cases ha : t.activity with
  | question c =>
      cases c with
      | fresh id => exact k.ask t id
      | typing | listening => exact k.turn ht (by rw [ha]; rfl) ha
  | echo e =>
      obtain ⟨c, hc, -⟩ := k.asked t ht (by rw [ha]; rfl)
      simp [ha] at hc
  | consume c e =>
      by_cases hc : c = .trackChannel
      · subst hc
        exact ⟨[.hear e], call, (k.others t).hear e rfl rfl rfl⟩
      · have htrack : ∀ e', Activity.consume c e ≠ .consume .trackChannel e' :=
          fun _ h => hc (Activity.consume.inj h).1
        exact k.step_of_bystands (w.step_bystands nofun nofun htrack)
  | worker | pump | dispatch | script | evasion | reaction | ticket | chain | shutdown | drain =>
      exact k.step_of_bystands (w.step_bystands nofun nofun nofun)

/-! ### Turns of a warden -/

/-- Nothing is different of what a warden asks. -/
structure Alike (w w' : Warden) : Prop where
  now_eq : w'.now = w.now
  queue_eq : w'.queue = w.queue
  tracker_eq : w'.tracker = w.tracker
  tasks_eq : w'.tasks = w.tasks

theorem begin_alike (w : Warden) (t : Task) : w.Alike (w.begin t) := by
  unfold begin
  split
  · split <;> exact ⟨rfl, rfl, rfl, rfl⟩
  · exact ⟨rfl, rfl, rfl, rfl⟩

theorem conclude_alike (w : Warden) (t : Task) (e : Ended) : w.Alike (w.conclude t e) := by
  unfold conclude
  split
  · exact ⟨rfl, rfl, rfl, rfl⟩
  · exact ⟨rfl, rfl, rfl, rfl⟩
  · split <;> exact ⟨rfl, rfl, rfl, rfl⟩

theorem Asks.alike (k : Asks s call w w.tasks) (h : w.Alike w') : Asks s call w' w'.tasks := by
  rw [h.tasks_eq]
  exact k.frame h.now_eq h.queue_eq h.tracker_eq fun v hv _ => ⟨v, hv, rfl, rfl⟩

theorem Asks.leave (k : Asks s call w tasks) (ready : List Nat) :
    Asks s call { w with tasks, ready } tasks :=
  k.frame rfl rfl rfl fun v hv _ => ⟨v, hv, rfl, rfl⟩

/-- A turn of a warden makes moves of its tracker. -/
theorem Asks.turn_of_warden (k : Asks s call w w.tasks) (h : w.turn = some w') :
    w'.AsksFrom s w'.tasks := by
  unfold Warden.turn at h
  split at h
  · cases h
  · rename_i id rest _
    split at h
    · obtain rfl := Option.some.inj h
      exact ⟨[], call, k.alike ⟨rfl, rfl, rfl, rfl⟩⟩
    · rename_i t hfind
      have ht : t ∈ w.tasks := List.mem_of_find?_eq_some hfind
      obtain rfl : t.id = id := by simpa using List.find?_some hfind
      split at h
      · rename_i x _
        obtain rfl := Option.some.inj h
        exact ⟨[], call, ((k.others t).leave rest).alike ⟨rfl, rfl, rfl, rfl⟩⟩
      · have hbegin := w.begin_alike t
        have hstep := (k.alike hbegin).step (hbegin.tasks_eq ▸ ht)
        split at h <;> rename_i heq <;> rw [heq] at hstep <;> obtain rfl := Option.some.inj h
        · exact ⟨[], call, k.alike ⟨rfl, rfl, rfl, rfl⟩⟩
        · obtain ⟨moves, call', k'⟩ := hstep
          exact ⟨moves, call', k'.leave _⟩
        · obtain ⟨moves, call', k'⟩ := hstep
          exact ⟨moves, call', ((k'.leave rest).alike (conclude_alike _ t _)).alike
            ⟨rfl, rfl, rfl, rfl⟩⟩

/-- Whatever goes on in a warden is made of moves of its tracker. -/
theorem asks_invariant (s : Asking) : Invariant fun w => w.AsksFrom s w.tasks where
  turn := by
    rintro w w' ⟨moves, call, k⟩ h
    obtain ⟨moves', call', k'⟩ := k.turn_of_warden h
    rw [← Asking.run_append] at k'
    exact ⟨_, call', k'⟩
  between := by
    rintro w ⟨moves, call, k⟩ now surroundings ready
    refine ⟨moves ++ [.queue fun _ => w.queue, .clock now], call, ?_⟩
    rw [Asking.run_append]
    exact k.aside { w with now, surroundings, ready } rfl

/-- A warden that nobody has asked for the channel. -/
theorem asks_start (user : String) (limit : Nanos) (htracker : w.tracker = .start user limit)
    (hapart : ∀ t ∈ w.tasks, t.activity.isApart = true) :
    w.AsksFrom (.start user limit w.queue) w.tasks :=
  ⟨[.clock w.now], id, rfl, rfl, htracker.symm,
    fun t ht h => absurd (hapart t ht) (by simp [h]),
    fun t ht _ _ h => absurd (hapart t ht) (by simp [h])⟩

/-- Somebody may ask for the channel at any time. -/
theorem spawn_asks (h : w.AsksFrom s w.tasks) (role : Role) {a : Activity}
    (ha : a.isApart = true) : (w.spawn role a).AsksFrom s (w.spawn role a).tasks := by
  obtain ⟨moves, call, k⟩ := h
  obtain ⟨moves', call', k'⟩ := k.bystand (.spawn w role ha) fun v hv => .inl hv
  rw [← Asking.run_append] at k'
  exact ⟨_, call', k'⟩

/-- As time passes, what becomes of the tracker of a warden and of the calls that ask it is made of
moves. -/
theorem advance_asks (h : w.AsksFrom s w.tasks) (d : Nanos) :
    (w.advance d).AsksFrom s (w.advance d).tasks :=
  (asks_invariant s).advance h d

theorem passUntilEnded_asks (h : w.AsksFrom s w.tasks) (name : String) (n : Nat) :
    (passUntilEnded name n w).AsksFrom s (passUntilEnded name n w).tasks :=
  (asks_invariant s).passUntilEnded h name n

/-- The same holds of a warden that runs until its dispatcher has ended. -/
theorem passUntilOver_asks (h : w.AsksFrom s w.tasks)
    (around : Warden → Surroundings) (n : Nat) :
    (passUntilOver around n w).AsksFrom s (passUntilOver around n w).tasks :=
  (asks_invariant s).passUntilOver h around n

end Warden

end LogWarden
