import Mathlib.Data.List.Basic
import LogWarden.Proofs.Dispatch.Flow

/-!
# What a run delivers

Every run delivers a first part of what each source gives, in order and to the right consumers. A
run that ends by itself delivers all of it, so that what it delivers depends only on the lines of
the sources.
-/

namespace LogWarden

/-- The consumer and the event of a delivery. -/
def Delivery.target (x : Delivery) : Nat × Event := (x.consumer, x.event)

/-- The deliveries that an event is due. -/
def due (consumers : List Consumer) (e : Event) : List (Nat × Event) :=
  (recipients consumers e).map fun k => (k, e)

section Grouping
variable {α : Type} {n : Nat} {xs : List (Nat × α)}

theorem map_fromSource (i : Nat) (xs : List (Nat × α)) :
    (fromSource i xs).map (fun x => (i, x)) = xs.filter fun x => x.1 = i := by
  induction xs with
  | nil => rfl
  | cons x xs ih =>
      obtain ⟨j, y⟩ := x
      by_cases h : j = i <;> simpa [fromSource, h] using ih

theorem filter_lt_perm (xs : List (Nat × α)) (n : Nat) :
    (xs.filter fun x => x.1 < n).Perm
      ((List.range n).flatMap fun i => (fromSource i xs).map fun x => (i, x)) := by
  induction n with
  | zero => simp
  | succ n ih =>
      rw [List.range_succ, List.flatMap_append, List.flatMap_singleton, map_fromSource]
      have hsplit := List.filter_append_perm (fun x => decide (x.1 < n))
        (xs.filter fun x => x.1 < n + 1)
      rw [List.filter_filter, List.filter_filter] at hsplit
      have hlow : (xs.filter fun x => decide (x.1 < n) && decide (x.1 < n + 1)) =
          xs.filter fun x => x.1 < n := by
        refine List.filter_congr fun x _ => ?_
        rw [Bool.eq_iff_iff]
        simp
        omega
      have hlast : (xs.filter fun x => !decide (x.1 < n) && decide (x.1 < n + 1)) =
          xs.filter fun x => x.1 = n := by
        refine List.filter_congr fun x _ => ?_
        rw [Bool.eq_iff_iff]
        simp
        omega
      rw [hlow, hlast] at hsplit
      exact hsplit.symm.trans (ih.append_right _)

/-- A list is the lists of the sources put together. -/
theorem perm_flatMap_fromSource (h : ∀ x ∈ xs, x.1 < n) :
    xs.Perm ((List.range n).flatMap fun i => (fromSource i xs).map fun x => (i, x)) := by
  have hall : xs.filter (fun x => x.1 < n) = xs := List.filter_eq_self.mpr (by simpa using h)
  exact (List.Perm.of_eq hall.symm).trans (filter_lt_perm xs n)

end Grouping

namespace Dispatching

variable {consumers : List Consumer} {c : Classifier} {s s' : Dispatching} {n i : Nat}
variable {tr tr' tr₁ tr₂ : List DispatchEvent} {d : Dispatcher}
variable {buffer startups shutdowns : Nat} {sources : List Source} {ms ms' : List Move}

/-- The deliveries that have been made are those that the delivered events are due. -/
theorem DeliveryBooks.map_target (k : DeliveryBooks consumers tr d) :
    (madeIn tr).map Delivery.target =
      (deliveredIn tr).flatMap fun x => due consumers x.2 := by
  rw [madeIn, List.map_flatMap, deliveredIn, List.flatMap_map]
  refine List.flatMap_congr fun x hx => ?_
  obtain ⟨hconsumers, hevents⟩ := k.recipients_eq x hx
  rw [due, ← hconsumers, List.map_map]
  exact List.map_congr_left fun y hy => by simp [Delivery.target, hevents y hy]

/-- An event that is handed on comes from one of the sources. -/
theorem Run.sent_lt (run : Run c (start consumers buffer startups shutdowns sources) ms tr s)
    {x : Nat × Event} (hx : x ∈ sentIn tr) : x.1 < sources.length := by
  obtain ⟨e, he, hsent⟩ := List.mem_filterMap.mp hx
  obtain ⟨ms₁, tr₁, s₁, m, s₂, first, change⟩ := run.change_of_mem he
  cases change with
  | send hi =>
      cases hsent
      exact (first.pumpBooks.lt_of_getElem? hi).2
  | pumpWait _ he =>
      rcases he with he | ⟨he, _⟩
      · cases he
      · cases he
        cases hsent
  | pump _ _ h => cases h <;> cases hsent
  | own _ _ h => cases h <;> cases hsent
  | _ => cases hsent

/-- What has been delivered, source by source. -/
theorem Run.deliveries_perm
    (run : Run c (start consumers buffer startups shutdowns sources) ms tr s) :
    ((madeIn tr).map Delivery.target).Perm
      ((List.range sources.length).flatMap fun i =>
        (deliveredFrom i tr).flatMap (due consumers)) := by
  have hlt : ∀ x ∈ deliveredIn tr, x.1 < sources.length :=
    fun x hx => run.sent_lt (run.flow.1.buffer.subset hx)
  rw [run.deliveryBooks.map_target]
  refine ((perm_flatMap_fromSource hlt).flatMap_right _).trans (List.Perm.of_eq ?_)
  rw [List.flatMap_assoc]
  refine List.flatMap_congr fun i _ => ?_
  rw [List.flatMap_map]
  rfl

/-- A run that has ended by itself has delivered everything: the loop was left after a first part of
its history when every source had given its last reading. -/
structure Served (c : Classifier) (consumers : List Consumer) (n : Nat)
    (tr₁ tr : List DispatchEvent) : Prop where
  lost : ∀ i < n, SourceLost tr₁ i
  events_eq : ∀ i, deliveredFrom i tr = eventsFrom c i tr
  /-- The deliveries, in some order, are what the events of all lines are due. -/
  deliveries : ((madeIn tr).map Delivery.target).Perm
    ((List.range n).flatMap fun i => (eventsFrom c i tr).flatMap (due consumers))
  ended : ∀ x ∈ madeIn tr, ∃ v, .ended x (some v) ∈ tr₁
  /-- Until then no shutdown hook has begun. -/
  hooks : ∀ k l, .hookBegan false k l ∉ tr₁

/-- What a run has delivered to some consumers from so many sources. -/
structure DeliveryAccount (c : Classifier) (consumers : List Consumer) (n : Nat)
    (tr : List DispatchEvent) : Prop where
  /-- The delivered events of a source are a first part of what its lines give. -/
  in_order : ∀ i, deliveredFrom i tr <+: eventsFrom c i tr
  fansOut : ∀ i e made, .delivered i e made ∈ tr → FansOut consumers e made
  /-- No delivery is made twice. -/
  distinct : ((madeIn tr).map Delivery.id).Nodup
  /-- No delivery ends twice, and none ends that was not made. -/
  ends_once : ((endingsIn tr).map fun x => x.1.id).Nodup
  made_of_ended : ∀ x v, .ended x v ∈ tr → x ∈ madeIn tr
  served : ∀ tr₁ tr₂, tr = tr₁ ++ .moved .draining :: tr₂ → ¬ StopSignalled tr₁ →
    Served c consumers n tr₁ tr

theorem mem_fanOutsIn {e : Event} {made : List Delivery} (h : .delivered i e made ∈ tr) :
    ((i, e), made) ∈ fanOutsIn tr :=
  List.mem_filterMap.mpr ⟨_, h, rfl⟩

theorem InOrder.deliveredFrom_prefix_eventsFrom (k : InOrder c tr) (i : Nat) :
    deliveredFrom i tr <+: eventsFrom c i tr :=
  (k.buffer.filterMap _).trans (k.pumps i)

/-- In the loop, all events are delivered when none is under way. -/
theorem Flow.deliveredFrom_eq (k : Flow c tr s) (hb : s.dispatcher.buffer = [])
    (hp : ∀ j, s.dispatcher.isPumping j = false) (i : Nat) :
    deliveredFrom i tr = eventsFrom c i tr := by
  have hsent : sentIn tr = deliveredIn tr := by
    rw [k.buffered, hb, List.zip_nil_right, List.append_nil]
  rw [k.pending, Dispatcher.pendingAt_eq_nil (hp i), List.append_nil, hsent, deliveredFrom]

theorem Run.served (run : Run c (start consumers buffer startups shutdowns sources) ms
      (tr₁ ++ .moved .draining :: tr₂) s) (hs : ¬ StopSignalled tr₁) :
    Served c consumers sources.length tr₁ (tr₁ ++ .moved .draining :: tr₂) := by
  obtain ⟨ms₁, s₁, m, s₂, ms₂, first, move, second⟩ := run.move_at
  have change := change_of_move move
  obtain ⟨hp, hp₂, -⟩ := change.leaves
  obtain ⟨hx, hb, hdead⟩ := change.leaves_unsignalled first.deliveryBooks first.signalBooks hs
  obtain ⟨hlost, hended⟩ :=
    change.lost_and_ended first.pumpBooks first.deliveryBooks first.signalBooks hs
  -- behind the loop nothing is read or delivered, so the first part tells it all
  obtain ⟨-, hlines, hfan⟩ := (first.tail move).still (by rw [hp₂]; rfl) second
  rw [linesIn_of_none tr₁ rfl, List.append_assoc, Option.toList_some,
    List.singleton_append] at hlines
  rw [fanOutsIn_of_none tr₁ rfl, List.append_assoc, Option.toList_some,
    List.singleton_append] at hfan
  have hevents : ∀ i, deliveredFrom i (tr₁ ++ .moved .draining :: tr₂) =
      eventsFrom c i (tr₁ ++ .moved .draining :: tr₂) := by
    intro i
    have hflow := (first.flow.2 (by rw [hp]; rfl)).deliveredFrom_eq hb hdead i
    simpa only [deliveredFrom, deliveredIn, eventsFrom, linesFrom, hlines, hfan] using hflow
  refine ⟨hlost, hevents, ?_, ?_, ?_⟩
  · simpa only [hevents] using run.deliveries_perm
  · simpa only [madeIn, hfan] using hended
  · intro k l hmem
    have hbegun : ((false, k), l) ∈ hooksBegun tr₁ := List.mem_filterMap.mpr ⟨_, hmem, rfl⟩
    rw [first.course.begun_eq] at hbegun
    simp [standing, hp, hookNames, hookInState] at hbegun

/-- Every run delivers the events of each source in order, each to the consumers that accept it and
to nobody else; a run that ends by itself delivers all of them, and what it delivers to whom is the
same in every other such run in which the sources give the same lines. -/
theorem events_delivered
    (run : Run c (start consumers buffer startups shutdowns sources) ms tr s) :
    DeliveryAccount c consumers sources.length tr ∧
      ∀ {buffer' startups' shutdowns' : Nat} {sources' : List Source} {ms' : List Move}
        {tr' : List DispatchEvent} {s' : Dispatching} {tr₁ tr₂ tr₁' tr₂' : List DispatchEvent},
        Run c (start consumers buffer' startups' shutdowns' sources') ms' tr' s' →
        sources'.length = sources.length → (∀ i, linesFrom i tr' = linesFrom i tr) →
        tr = tr₁ ++ .moved .draining :: tr₂ → ¬ StopSignalled tr₁ →
        tr' = tr₁' ++ .moved .draining :: tr₂' → ¬ StopSignalled tr₁' →
        ((madeIn tr').map Delivery.target).Perm ((madeIn tr).map Delivery.target) := by
  have books := run.deliveryBooks
  have hids : ((madeIn tr).map Delivery.id).Nodup := books.ids ▸ List.nodup_range
  refine ⟨⟨run.flow.1.deliveredFrom_prefix_eventsFrom, ?_, hids, ?_, ?_, ?_⟩, ?_⟩
  · intro i e made hmem
    obtain ⟨hconsumers, hevents⟩ := books.recipients_eq _ (mem_fanOutsIn hmem)
    exact fansOut_of_recipients hevents hconsumers
  · have hall := (books.perm.map Delivery.id).nodup_iff.mp hids
    rw [List.map_append, List.map_map] at hall
    exact (List.nodup_append.mp hall).1
  · intro x v hmem
    refine books.perm.symm.subset (List.mem_append_left _ ?_)
    exact List.mem_map.mpr ⟨_, mem_endingsIn.mpr hmem, rfl⟩
  · rintro tr₁ tr₂ rfl hs
    exact run.served hs
  · rintro _ _ _ sources' _ _ _ tr₁ tr₂ tr₁' tr₂' run' hlength hlines rfl hs rfl hs'
    have hevents : ∀ i, eventsFrom c i (tr₁' ++ .moved .draining :: tr₂') =
        eventsFrom c i (tr₁ ++ .moved .draining :: tr₂) := by
      intro i
      rw [eventsFrom, hlines, eventsFrom]
    have hserved' := (run'.served hs').deliveries
    simp only [hlength, hevents] at hserved'
    exact hserved'.trans (run.served hs).deliveries.symm

/-- A kick is delivered to both consumers, and again so with a larger buffer and a handler that
panics. -/
theorem kick_delivered :
    (∃ s, Run kicks (kickStart 1 ["a"]) (kickMoves .ok) (kickHistory .ok) s) ∧
      Served kicks kickConsumers 1 (kickLoop .ok) (kickHistory .ok) ∧
      ((madeIn (kickHistory .panicked)).map Delivery.target).Perm
        ((madeIn (kickHistory .ok)).map Delivery.target) := by
  have run : Run kicks (kickStart 1 ["a"]) (kickMoves .ok) (kickHistory .ok) _ := Run.of_play rfl
  have run' : Run kicks (kickStart 7 ["a"]) (kickMoves .panicked) (kickHistory .panicked) _ :=
    Run.of_play rfl
  have hs : ¬ StopSignalled (kickLoop .ok) := by simp [StopSignalled, kickLoop, kickOpening]
  have hs' : ¬ StopSignalled (kickLoop .panicked) := by
    simp [StopSignalled, kickLoop, kickOpening]
  obtain ⟨account, others⟩ := events_delivered run
  exact ⟨⟨_, run⟩, account.served _ _ rfl hs, others run' rfl (fun _ => rfl) rfl hs rfl hs'⟩

end Dispatching

end LogWarden
