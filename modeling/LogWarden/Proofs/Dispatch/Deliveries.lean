import Mathlib.Data.List.Nodup
import LogWarden.Proofs.Dispatch.Moves

/-!
# Deliveries

Every event that leaves the buffer makes one delivery for each consumer that accepts it. Each
delivery is in progress until it ends, which it does once, and all of them have ended when the
shutdown hooks begin.
-/

namespace LogWarden

/-- The event that leaves the buffer with the pump that it comes from, and the deliveries that are
made of it, if something shown is that. -/
@[simp] def DispatchEvent.fanOut? : DispatchEvent → Option ((Nat × Event) × List Delivery)
  | .delivered i e made => some ((i, e), made)
  | _ => none

/-- The delivery that ends and its verdict, if something shown is that. -/
@[simp] def DispatchEvent.ending? : DispatchEvent → Option (Delivery × Option Verdict)
  | .ended x v => some (x, v)
  | _ => none

section Histories
variable (tr : List DispatchEvent)

/-- The events that have left the buffer, each with its pump and its deliveries. -/
def fanOutsIn : List ((Nat × Event) × List Delivery) := tr.filterMap DispatchEvent.fanOut?

/-- All deliveries that have been made. -/
def madeIn : List Delivery := (fanOutsIn tr).flatMap Prod.snd

/-- The deliveries that have ended. -/
def endingsIn : List (Delivery × Option Verdict) := tr.filterMap DispatchEvent.ending?

end Histories

/-- The positions of the consumers that accept an event. -/
def recipients (consumers : List Consumer) (e : Event) : List Nat :=
  (consumers.zipIdx.filter fun p => p.1.accepts e).map Prod.snd

/-- The deliveries made of an event are what it is due: one to every reactor whose subscription
accepts its payload, one to every handler of its kind, and none to anybody else. -/
structure FansOut (consumers : List Consumer) (e : Event) (made : List Delivery) : Prop where
  event_eq : ∀ x ∈ made, x.event = e
  nodup : (made.map Delivery.consumer).Nodup
  reactors : ∀ k name s, consumers[k]? = some ⟨.payloads s, name⟩ →
    (k ∈ made.map Delivery.consumer ↔ s.accepts e.payload.kind = true)
  handlers : ∀ k kind name, consumers[k]? = some ⟨.kind kind, name⟩ →
    (k ∈ made.map Delivery.consumer ↔ e.kind = kind)
  others : ∀ k ∈ made.map Delivery.consumer, k < consumers.length

namespace Phase

/-- Whether all deliveries have ended when a dispatcher is in a phase. -/
@[simp] def isSettled : Phase → Bool
  | .shutdown _ | .over => true
  | _ => false

/-- Whether deliveries may have been cancelled when a dispatcher is in a phase. -/
@[simp] def hasCancelled : Phase → Bool
  | .stoppingDeliveries | .shutdown _ | .over => true
  | _ => false

end Phase

section FanOut
variable {consumers : List Consumer} {e : Event} {i id k : Nat} {made : List Delivery}

theorem mem_recipients :
    k ∈ recipients consumers e ↔ ∃ c, consumers[k]? = some c ∧ c.accepts e = true := by
  simp only [recipients, List.mem_map, List.mem_filter, Prod.exists, List.mem_zipIdx_iff_getElem?]
  constructor
  · rintro ⟨c, _, ⟨hc, haccepts⟩, rfl⟩
    exact ⟨c, hc, haccepts⟩
  · rintro ⟨c, hc, haccepts⟩
    exact ⟨c, k, ⟨hc, haccepts⟩, rfl⟩

theorem recipients_nodup (consumers : List Consumer) (e : Event) :
    (recipients consumers e).Nodup := by
  have hsub : (recipients consumers e).Sublist (consumers.zipIdx.map Prod.snd) :=
    List.filter_sublist.map Prod.snd
  rw [List.zipIdx_map_snd] at hsub
  exact hsub.nodup List.nodup_range'

namespace Dispatcher

theorem event_eq_of_mem_deliveries {x : Delivery} (h : x ∈ deliveries e id i consumers) :
    x.event = e := by
  induction consumers generalizing id i with
  | nil => simp [deliveries] at h
  | cons c rest ih =>
      rw [deliveries] at h
      split at h
      · rcases List.mem_cons.mp h with rfl | h
        · rfl
        · exact ih h
      · exact ih h

theorem deliveries_consumer (e : Event) (id i : Nat) (consumers : List Consumer) :
    (deliveries e id i consumers).map Delivery.consumer =
      ((consumers.zipIdx i).filter fun p => p.1.accepts e).map Prod.snd := by
  induction consumers generalizing id i with
  | nil => rfl
  | cons c rest ih =>
      rw [deliveries, List.zipIdx_cons, List.filter_cons]
      split
      · simp [ih]
      · exact ih id (i + 1)

/-- The deliveries of an event are numbered one after another. -/
theorem deliveries_id (e : Event) (id i : Nat) (consumers : List Consumer) :
    (deliveries e id i consumers).map Delivery.id =
      List.range' id (deliveries e id i consumers).length := by
  induction consumers generalizing id i with
  | nil => rfl
  | cons c rest ih =>
      rw [deliveries]
      split
      · simp [ih, List.range'_succ]
      · exact ih id (i + 1)

end Dispatcher

/-- What ends leaves the others in progress. -/
theorem perm_cons_filter {xs : List Delivery} {x : Delivery} (h : (xs.map Delivery.id).Nodup)
    (hx : x ∈ xs) : xs.Perm (x :: xs.filter (·.id ≠ x.id)) := by
  have hfilter : xs.filter (·.id ≠ x.id) = xs.erase x := by
    rw [h.of_map.erase_eq_filter]
    refine List.filter_congr fun y hy => ?_
    have hid : y.id = x.id ↔ y = x :=
      ⟨fun heq => List.inj_on_of_nodup_map h hy hx heq, congrArg Delivery.id⟩
    by_cases heq : y = x <;> simp [hid, heq]
  rw [hfilter]
  exact List.perm_cons_erase hx

theorem fansOut_of_recipients (hevent : ∀ x ∈ made, x.event = e)
    (hconsumer : made.map Delivery.consumer = recipients consumers e) :
    FansOut consumers e made where
  event_eq := hevent
  nodup := hconsumer ▸ recipients_nodup consumers e
  reactors := fun k name s hk => by
    simp [hconsumer, mem_recipients, hk, Consumer.accepts]
  handlers := fun k kind name hk => by
    simp [hconsumer, mem_recipients, hk, Consumer.accepts]
  others := fun k hk => by
    obtain ⟨c, hc, _⟩ := mem_recipients.mp (hconsumer ▸ hk)
    exact (List.getElem?_eq_some_iff.mp hc).1

end FanOut

namespace Dispatching

/-- A history of a dispatcher with some consumers agrees with its deliveries. -/
structure DeliveryBooks (consumers : List Consumer) (tr : List DispatchEvent) (d : Dispatcher) :
    Prop where
  consumers_eq : d.consumers = consumers
  /-- Each event that has left the buffer is delivered to its recipients. -/
  recipients_eq : ∀ x ∈ fanOutsIn tr,
    x.2.map Delivery.consumer = recipients consumers x.1.2 ∧ ∀ y ∈ x.2, y.event = x.1.2
  ids : (madeIn tr).map Delivery.id = List.range d.delivered
  perm : (madeIn tr).Perm ((endingsIn tr).map Prod.fst ++ d.inProgress)
  /-- What has ended is looked at in order. -/
  ended_suffix : d.ended <:+ endingsIn tr
  settled : d.phase.isSettled = true → d.inProgress = [] ∧ d.ended = []
  uncancelled : d.phase.hasCancelled = false → ∀ x, (x, none) ∉ endingsIn tr

variable {consumers : List Consumer} {tr : List DispatchEvent} {d d' : Dispatcher}
variable {c : Classifier} {s s' : Dispatching} {mv : Move} {e : Option DispatchEvent}
variable {x : Delivery} {v : Option Verdict}

theorem fanOutsIn_of_none (tr : List DispatchEvent) (h : e.bind DispatchEvent.fanOut? = none) :
    fanOutsIn (tr ++ e.toList) = fanOutsIn tr := by
  rw [fanOutsIn, filterMap_append_toList, h, Option.toList_none, List.append_nil, fanOutsIn]

theorem endingsIn_of_none (tr : List DispatchEvent) (h : e.bind DispatchEvent.ending? = none) :
    endingsIn (tr ++ e.toList) = endingsIn tr := by
  rw [endingsIn, filterMap_append_toList, h, Option.toList_none, List.append_nil, endingsIn]

namespace DeliveryBooks

theorem inProgress_nodup (k : DeliveryBooks consumers tr d) :
    (d.inProgress.map Delivery.id).Nodup := by
  have hmade : ((madeIn tr).map Delivery.id).Nodup := k.ids ▸ List.nodup_range
  have hall := (k.perm.map Delivery.id).nodup_iff.mp hmade
  rw [List.map_append] at hall
  exact (List.nodup_append.mp hall).2.1

/-- A change that leaves the deliveries alone. -/
theorem frame (k : DeliveryBooks consumers tr d) (hc : d'.consumers = d.consumers)
    (hn : d'.delivered = d.delivered) (hx : d'.inProgress = d.inProgress)
    (he : d'.ended <:+ d.ended)
    (hs : d'.phase.isSettled = true → d.inProgress = [] ∧ d'.ended = [])
    (hu : d'.phase.hasCancelled = false → d.phase.hasCancelled = false)
    (hf : e.bind DispatchEvent.fanOut? = none) (hd : e.bind DispatchEvent.ending? = none) :
    DeliveryBooks consumers (tr ++ e.toList) d' := by
  have hfan := fanOutsIn_of_none tr hf
  have hend := endingsIn_of_none tr hd
  constructor
  · exact hc.trans k.consumers_eq
  · rw [hfan]
    exact k.recipients_eq
  · rw [madeIn, hfan, hn]
    exact k.ids
  · rw [madeIn, hfan, hend, hx]
    exact k.perm
  · rw [hend]
    exact he.trans k.ended_suffix
  · rw [hx]
    exact hs
  · rw [hend]
    exact fun h => k.uncancelled (hu h)

theorem deliver (k : DeliveryBooks consumers tr d) (hs : d.phase.isSettled = false) (i : Nat)
    (e : Event) (rest : List Event) :
    DeliveryBooks consumers (tr ++ [.delivered i e (d.deliveriesOf e)]) (d.fanOut e rest) := by
  have hfan : fanOutsIn (tr ++ [.delivered i e (d.deliveriesOf e)]) =
      fanOutsIn tr ++ [((i, e), d.deliveriesOf e)] := by simp [fanOutsIn]
  have hmade : madeIn (tr ++ [.delivered i e (d.deliveriesOf e)]) =
      madeIn tr ++ d.deliveriesOf e := by simp [madeIn, hfan]
  have hend : endingsIn (tr ++ [.delivered i e (d.deliveriesOf e)]) = endingsIn tr := by
    simp [endingsIn]
  constructor
  · exact k.consumers_eq
  · intro x hx
    rw [hfan, List.mem_append, List.mem_singleton] at hx
    rcases hx with hx | rfl
    · exact k.recipients_eq x hx
    · constructor
      · rw [recipients, ← k.consumers_eq, ← Dispatcher.deliveries_consumer]
        rfl
      · exact fun y hy => Dispatcher.event_eq_of_mem_deliveries hy
  · rw [hmade, List.map_append, k.ids, Dispatcher.deliveriesOf, Dispatcher.deliveries_id,
      List.range_eq_range', List.range_eq_range', Dispatcher.fanOut, ← List.range'_append_1,
      Nat.zero_add, Dispatcher.deliveriesOf]
  · rw [hmade, hend]
    simpa [Dispatcher.fanOut] using k.perm.append_right (d.deliveriesOf e)
  · rw [hend]
    exact k.ended_suffix
  · intro hsettled
    exact absurd hsettled (Bool.eq_false_iff.mp hs)
  · rw [hend]
    exact k.uncancelled

/-- A delivery in progress ends. -/
theorem finish (k : DeliveryBooks consumers tr d)
    (hx : d.inProgress.find? (·.id == x.id) = some x)
    (hv : v = none → d.phase.hasCancelled = true) :
    DeliveryBooks consumers (tr ++ [.ended x v]) (d.deliveryEnded x v) := by
  have hmem : x ∈ d.inProgress := List.mem_of_find?_eq_some hx
  have hfan : fanOutsIn (tr ++ [.ended x v]) = fanOutsIn tr := by simp [fanOutsIn]
  have hend : endingsIn (tr ++ [.ended x v]) = endingsIn tr ++ [(x, v)] := by simp [endingsIn]
  constructor
  · exact k.consumers_eq
  · rw [hfan]
    exact k.recipients_eq
  · rw [madeIn, hfan]
    exact k.ids
  · rw [madeIn, hfan, hend]
    refine k.perm.trans ?_
    simpa [Dispatcher.deliveryEnded] using
      (perm_cons_filter k.inProgress_nodup hmem).append_left ((endingsIn tr).map Prod.fst)
  · rw [hend]
    obtain ⟨seen, hseen⟩ := k.ended_suffix
    exact ⟨seen, by rw [← hseen, Dispatcher.deliveryEnded, List.append_assoc]⟩
  · intro hsettled
    have hnil := (k.settled hsettled).1
    simp [hnil] at hmem
  · intro hu y hy
    rw [hend, List.mem_append, List.mem_singleton] at hy
    rcases hy with hy | hy
    · exact k.uncancelled hu y hy
    · cases hy
      exact absurd (hv rfl) (Bool.eq_false_iff.mp hu)

theorem own (k : DeliveryBooks consumers tr s.dispatcher) (h : OwnChange s e s') :
    DeliveryBooks consumers (tr ++ e.toList) s'.dispatcher := by
  cases h with
  | deliver hp hd he hb => exact k.deliver (by rw [hp]; rfl) _ _ _
  | start hp | openPumps hp | cancelDeliveries hp =>
      exact k.frame rfl rfl rfl List.suffix_rfl (by rintro ⟨⟩) (by simp [hp]) rfl rfl
  | finish hp | drain hp =>
      exact k.frame rfl rfl rfl List.suffix_rfl (by rintro ⟨⟩) (by simp [hp]) rfl rfl
  | terminate hp he =>
      refine k.frame rfl rfl rfl ?_ (by rintro ⟨⟩) (by simp [hp]) rfl rfl
      rw [he]
      exact List.suffix_cons ..
  | observe hp he | joinDelivery hp he =>
      refine k.frame rfl rfl rfl ?_ (by simp [hp, Dispatcher.observe]) id rfl rfl
      rw [he]
      exact List.suffix_cons ..
  | clear hp hx he =>
      exact k.frame rfl rfl rfl List.suffix_rfl (fun _ => ⟨hx, he⟩) (by simp [hp]) rfl rfl
  | stop hp hk =>
      have hsettled := k.settled (by rw [hp]; rfl)
      exact k.frame rfl rfl rfl List.suffix_rfl (fun _ => hsettled) (by rintro ⟨⟩) rfl rfl
  | refuse | beginStartup | exhaust | joinPump | beginShutdown | «return» =>
      exact k.frame rfl rfl rfl List.suffix_rfl k.settled id rfl rfl

theorem change (k : DeliveryBooks consumers tr s.dispatcher) (h : Change c s mv e s') :
    DeliveryBooks consumers (tr ++ e.toList) s'.dispatcher := by
  cases h with
  | own _ _ h => exact k.own h
  | endDelivery v hx => exact k.finish hx (by rintro ⟨⟩)
  | cancelDelivery hp hx => exact k.finish hx fun _ => by rw [hp]; rfl
  | endStartup r hh _ hp =>
      exact k.frame rfl rfl rfl List.suffix_rfl (by rintro ⟨⟩) (by simp [hp]) rfl rfl
  | endShutdown r hh _ hp =>
      have hsettled := k.settled (by rw [hp]; rfl)
      exact k.frame rfl rfl rfl List.suffix_rfl (fun _ => hsettled) (by simp) rfl rfl
  | pumpWait _ he =>
      refine k.frame rfl rfl rfl List.suffix_rfl k.settled id ?_ ?_ <;>
        rcases he with rfl | ⟨rfl, _⟩ <;> rfl
  | pump _ _ h =>
      refine k.frame rfl rfl rfl List.suffix_rfl k.settled id ?_ ?_ <;> cases h <;> rfl
  | _ => exact k.frame rfl rfl rfl List.suffix_rfl k.settled id rfl rfl

end DeliveryBooks

/-- What a history shows of the deliveries agrees with the dispatcher. -/
theorem Run.deliveryBooks {buffer startups shutdowns : Nat} {sources : List Source}
    {ms : List Move} (run : Run c (start consumers buffer startups shutdowns sources) ms tr s) :
    DeliveryBooks consumers tr s.dispatcher := by
  induction run with
  | refl =>
      refine ⟨rfl, ?_, rfl, .nil, List.suffix_rfl, by rintro ⟨⟩, ?_⟩
      · simp [fanOutsIn]
      · simp [endingsIn]
  | tail _ h ih => exact ih.change (change_of_move h)

end Dispatching

end LogWarden
