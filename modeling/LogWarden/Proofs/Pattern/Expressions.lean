import LogWarden.Proofs.Pattern.Ways

/-!
# The ways through a pattern

What a pattern prefers can be read off the pattern itself: how its plan numbers the choices and
copies what is repeated makes no difference. So a search with the plan of a pattern finds the
leftmost match of the pattern, and of the matches that start there the preferred one.
-/

namespace LogWarden.Pattern

open Cursor

namespace Way

/-- A number of rounds in a row. -/
def inARow (round : Way → Way) (k : Way) : Nat → Way
  | 0 => k
  | n + 1 => round (inARow round k n)

theorem inARow_round (round : Way → Way) (k : Way) (n : Nat) :
    inARow round (round k) n = inARow round k (n + 1) := by
  induction n with
  | zero => rfl
  | succ n ih =>
      rw [inARow, ih]
      rfl

end Way

namespace Expr

open Way

/-- Tries the ways through a pattern in order of preference, and goes on with `k` behind each. -/
def first : Expr → Way → Way
  | .empty, k => k
  | .chars cls, k => (Plan.chars cls).first k
  | .look l, k => (Plan.look l).first k
  | .group i e, k => fun c => e.first (fun d => k (d.record i c.pos)) c
  | .seq a b, k => a.first (b.first k)
  | .alt a b, k => fun c => (a.first k c).or (b.first k c)
  | .repeated e least (some most) greedy, k =>
    inARow e.first (moreRounds e.first greedy k (most - least)) least
  | .repeated e least none greedy, k => inARow e.first (again e.first greedy k) least

/-- Whether the repetitions of a pattern that have no bound are of single characters. -/
def LoopsOverChars : Expr → Prop
  | .empty | .chars _ | .look _ => True
  | .group _ e => e.LoopsOverChars
  | .seq a b | .alt a b => a.LoopsOverChars ∧ b.LoopsOverChars
  | .repeated e _ (some _) _ => e.LoopsOverChars
  | .repeated e _ none _ => ∃ cls, e = .chars cls

instance decidableLoopsOverChars : (e : Expr) → Decidable e.LoopsOverChars
  | .empty | .chars _ | .look _ => .isTrue trivial
  | .group _ e | .repeated e _ (some _) _ => decidableLoopsOverChars e
  | .seq a b | .alt a b =>
    @instDecidableAnd _ _ (decidableLoopsOverChars a) (decidableLoopsOverChars b)
  | .repeated (.chars cls) _ none _ => .isTrue ⟨cls, rfl⟩
  | .repeated .empty _ none _ | .repeated (.look _) _ none _ | .repeated (.group _ _) _ none _
  | .repeated (.seq _ _) _ none _ | .repeated (.alt _ _) _ none _
  | .repeated (.repeated _ _ _ _) _ none _ => .isFalse nofun

end Expr

/-! ## Plans of patterns -/

namespace Plan

open Way

variable {make : Nat → Plan × Nat} {round : Way → Way} {greedy : Bool} {p q : Plan}
  {lo mid hi i : Nat}

theorem first_optional (greedy : Bool) (p : Plan) (k : Way) (c : Cursor) :
    (optional i greedy p).first k c = prefer greedy (p.first k c) (k c) := by
  cases greedy <;> rfl

theorem first_copies (hmake : ∀ next, (make next).1.first = round) (k : Way) (n next : Nat) :
    (copies make n next).1.first k = inARow round k n := by
  induction n generalizing next with
  | zero => rfl
  | succ n ih =>
      rw [copies, inARow, ← ih (make next).2, ← hmake next]
      rfl

theorem first_upTo (hmake : ∀ next, (make next).1.first = round) (k : Way) (n next : Nat) :
    (upTo make greedy n next).1.first k = moreRounds round greedy k n := by
  induction n generalizing next with
  | zero => rfl
  | succ n ih =>
      funext c
      rw [upTo, moreRounds, first_optional, first, ih, hmake]

theorem loopsOverChars_optional (h : p.LoopsOverChars) :
    (optional i greedy p).LoopsOverChars := by
  cases greedy with
  | true => exact ⟨h, trivial⟩
  | false => exact ⟨trivial, h⟩

theorem loopsOverChars_copies (hmake : ∀ next, (make next).1.LoopsOverChars) (n next : Nat) :
    (copies make n next).1.LoopsOverChars := by
  induction n generalizing next with
  | zero => trivial
  | succ n ih => exact ⟨hmake next, ih _⟩

theorem loopsOverChars_upTo (hmake : ∀ next, (make next).1.LoopsOverChars) (n next : Nat) :
    (upTo make greedy n next).1.LoopsOverChars := by
  induction n generalizing next with
  | zero => trivial
  | succ n ih => exact loopsOverChars_optional ⟨hmake _, ih _⟩

/-- The choices of a plan differ, and their numbers are taken in a range. -/
structure Numbered (p : Plan) (lo hi : Nat) : Prop where
  nodup : p.choices.Nodup
  range : ∀ i ∈ p.choices, lo ≤ i ∧ i < hi
  le : lo ≤ hi

theorem numbered_of_choices_eq_nil (h : p.choices = []) (lo : Nat) : p.Numbered lo lo :=
  ⟨h ▸ List.nodup_nil, fun _ hi => absurd (h ▸ hi) List.not_mem_nil, Nat.le_refl lo⟩

theorem Numbered.seq (hp : p.Numbered lo mid) (hq : q.Numbered mid hi) :
    (Plan.seq p q).Numbered lo hi := by
  refine ⟨List.nodup_append.mpr ⟨hp.nodup, hq.nodup, fun i hi j hj => ?_⟩, fun i hi => ?_,
    Nat.le_trans hp.le hq.le⟩
  · have hlt := (hp.range i hi).2
    have hle := (hq.range j hj).1
    omega
  · rcases List.mem_append.mp hi with hi | hi
    · exact ⟨(hp.range i hi).1, Nat.lt_of_lt_of_le (hp.range i hi).2 hq.le⟩
    · exact ⟨Nat.le_trans hp.le (hq.range i hi).1, (hq.range i hi).2⟩

/-- A choice in front of numbered ones. -/
theorem Numbered.cons (hp : p.Numbered (lo + 1) hi) (h : q.choices = lo :: p.choices) :
    q.Numbered lo hi := by
  have hle := hp.le
  refine ⟨?_, fun i hi => ?_, by omega⟩
  · rw [h]
    exact List.nodup_cons.mpr ⟨fun hmem => absurd (hp.range lo hmem).1 (by omega), hp.nodup⟩
  · rcases List.mem_cons.mp (h ▸ hi) with rfl | hi
    · omega
    · have hrange := hp.range i hi
      omega

theorem Numbered.optional (hp : p.Numbered (lo + 1) hi) :
    (optional lo greedy p).Numbered lo hi := by
  apply hp.cons
  cases greedy <;> simp [Plan.optional, choices]

theorem numbered_copies (hmake : ∀ next, (make next).1.Numbered next (make next).2) (n lo : Nat) :
    (copies make n lo).1.Numbered lo (copies make n lo).2 := by
  induction n generalizing lo with
  | zero => exact numbered_of_choices_eq_nil rfl lo
  | succ n ih => exact (hmake lo).seq (ih _)

theorem numbered_upTo (hmake : ∀ next, (make next).1.Numbered next (make next).2) (n lo : Nat) :
    (upTo make greedy n lo).1.Numbered lo (upTo make greedy n lo).2 := by
  induction n generalizing lo with
  | zero => exact numbered_of_choices_eq_nil rfl lo
  | succ n ih => exact ((hmake (lo + 1)).seq (ih _)).optional

theorem numbered_rounds (hmake : ∀ next, (make next).1.Numbered next (make next).2)
    (least : Nat) (most : Option Nat) (lo : Nat) :
    (rounds make least most greedy lo).1.Numbered lo (rounds make least most greedy lo).2 := by
  cases most with
  | some most => exact (numbered_copies hmake least lo).seq (numbered_upTo hmake _ _)
  | none =>
      cases least with
      | zero =>
          have hloop : (Plan.loop (lo + 1) greedy (make (lo + 2)).1).Numbered (lo + 1)
              (make (lo + 2)).2 := (hmake (lo + 2)).cons rfl
          exact hloop.optional
      | succ n =>
          have hcopies := numbered_copies hmake n lo
          exact hcopies.seq ((hmake _).cons rfl)

end Plan

namespace Expr

open Way

variable {e : Expr}

theorem numbered_plan (e : Expr) (lo : Nat) : (e.plan lo).1.Numbered lo (e.plan lo).2 := by
  induction e generalizing lo with
  | empty => exact Plan.numbered_of_choices_eq_nil rfl lo
  | chars => exact Plan.numbered_of_choices_eq_nil rfl lo
  | look => exact Plan.numbered_of_choices_eq_nil rfl lo
  | group index e ih => exact ⟨(ih lo).nodup, (ih lo).range, (ih lo).le⟩
  | seq a b iha ihb => exact (iha lo).seq (ihb _)
  | alt a b iha ihb => exact ((iha (lo + 1)).seq (ihb _)).cons rfl
  | repeated e least most greedy ih => exact Plan.numbered_rounds ih least most lo

theorem loopsOverChars_plan (h : e.LoopsOverChars) (lo : Nat) :
    (e.plan lo).1.LoopsOverChars := by
  induction e generalizing lo with
  | empty => trivial
  | chars => trivial
  | look => trivial
  | group index e ih => exact ih h lo
  | seq a b iha ihb => exact ⟨iha h.1 lo, ihb h.2 _⟩
  | alt a b iha ihb => exact ⟨iha h.1 _, ihb h.2 _⟩
  | repeated e least most greedy ih =>
      cases most with
      | some most =>
          exact ⟨Plan.loopsOverChars_copies (ih h) least lo, Plan.loopsOverChars_upTo (ih h) _ _⟩
      | none =>
          obtain ⟨cls, rfl⟩ := h
          cases least with
          | zero => exact Plan.loopsOverChars_optional ⟨cls, rfl⟩
          | succ n =>
              have hchars : ∀ next, ((chars cls).plan next).1.LoopsOverChars := fun _ => trivial
              exact ⟨Plan.loopsOverChars_copies hchars n lo, cls, rfl⟩

/-- The plan of a pattern prefers what the pattern prefers. -/
theorem first_plan (h : e.LoopsOverChars) (lo : Nat) : (e.plan lo).1.first = e.first := by
  induction e generalizing lo with
  | empty => rfl
  | chars => rfl
  | look => rfl
  | group index e ih =>
      funext k c
      rw [plan, Plan.first, first, ih h]
  | seq a b iha ihb =>
      funext k
      rw [plan, Plan.first, first, iha h.1, ihb h.2]
  | alt a b iha ihb =>
      funext k c
      rw [plan, Plan.first, first, iha h.1, ihb h.2]
  | repeated e least most greedy ih =>
      funext k
      cases most with
      | some most =>
          rw [plan, Plan.rounds, Plan.first, first, Plan.first_copies (ih h),
            Plan.first_upTo (ih h)]
      | none =>
          obtain ⟨cls, rfl⟩ := h
          cases least with
          | zero =>
              funext c
              rw [plan, Plan.rounds, Plan.first_optional, first, inARow]
              exact (Plan.again_chars cls greedy k c).symm
          | succ n =>
              have hchars : ∀ next, ((chars cls).plan next).1.first = (chars cls).first :=
                fun _ => rfl
              rw [plan, Plan.rounds, Plan.first, Plan.first_copies hchars, first, ← inARow_round]
              rfl

/-- A search with the plan of a pattern finds the leftmost match of the pattern, and of the matches
that start there the preferred one. -/
theorem search_plan (h : e.LoopsOverChars) (text : List Char) :
    ((e.plan 0).1.search text).map (fun m => (m.1, m.2.still)) =
      leftmost (e.first some) text none 0 := by
  rw [search_eq_leftmost (loopsOverChars_plan h 0) (numbered_plan e 0).nodup, first_plan h]

/-! ## Where a pattern leads -/

/-- Whether `n` rounds lead from one place to another. -/
def RoundsLead (round : Cursor → Cursor → Prop) : Nat → Cursor → Cursor → Prop
  | 0, c, d => c = d
  | n + 1, c, d => ∃ m, round c m ∧ RoundsLead round n m d

/-- Whether some way through a pattern leads from one place to another, preferred or not. -/
def Leads : Expr → Cursor → Cursor → Prop
  | .empty, c, d => c = d
  | .chars cls, c, d => ∃ x rest, c.rest = x :: rest ∧ cls.mem x = true ∧ c.read x rest = d
  | .look l, c, d => l.holds c.before c.rest.head? = true ∧ c = d
  | .group i e, c, d => ∃ m, e.Leads c m ∧ m.record i c.pos = d
  | .seq a b, c, d => ∃ m, a.Leads c m ∧ b.Leads m d
  | .alt a b, c, d => a.Leads c d ∨ b.Leads c d
  | .repeated e least most _, c, d =>
    ∃ n, least ≤ n ∧ (∀ bound ∈ most, n ≤ max least bound) ∧ RoundsLead e.Leads n c d

/-- Whether no text that a pattern reads holds a character. -/
def avoids (x : Char) : Expr → Bool
  | .empty | .look _ => true
  | .chars cls => !cls.mem x
  | .group _ e | .repeated e _ _ _ => e.avoids x
  | .seq a b | .alt a b => a.avoids x && b.avoids x

theorem exists_rest_of_avoids {x : Char} {c d : Cursor} (he : e.avoids x = true)
    (h : e.Leads c d) : ∃ v, x ∉ v ∧ c.rest = v ++ d.rest := by
  induction e generalizing c d with
  | empty =>
      cases h
      exact ⟨[], List.not_mem_nil, rfl⟩
  | chars cls =>
      obtain ⟨y, rest, hrest, hy, rfl⟩ := h
      refine ⟨[y], ?_, hrest⟩
      rw [List.mem_singleton]
      rintro rfl
      rw [avoids, hy] at he
      cases he
  | look l =>
      obtain ⟨-, rfl⟩ := h
      exact ⟨[], List.not_mem_nil, rfl⟩
  | group i e ih =>
      obtain ⟨m, hm, rfl⟩ := h
      obtain ⟨v, hv, hrest⟩ := ih he hm
      exact ⟨v, hv, hrest⟩
  | seq a b iha ihb =>
      obtain ⟨ha, hb⟩ := Bool.and_eq_true_iff.mp he
      obtain ⟨m, hm, hd⟩ := h
      obtain ⟨v, hv, hrest⟩ := iha ha hm
      obtain ⟨w, hw, hrest'⟩ := ihb hb hd
      refine ⟨v ++ w, by simp [hv, hw], ?_⟩
      rw [hrest, hrest', List.append_assoc]
  | alt a b iha ihb =>
      obtain ⟨ha, hb⟩ := Bool.and_eq_true_iff.mp he
      exact h.elim (iha ha) (ihb hb)
  | repeated e least most greedy ih =>
      obtain ⟨n, -, -, hrounds⟩ := h
      induction n generalizing c with
      | zero =>
          cases hrounds
          exact ⟨[], List.not_mem_nil, rfl⟩
      | succ n ihn =>
          obtain ⟨m, hm, hd⟩ := hrounds
          obtain ⟨v, hv, hrest⟩ := ih he hm
          obtain ⟨w, hw, hrest'⟩ := ihn hd
          refine ⟨v ++ w, by simp [hv, hw], ?_⟩
          rw [hrest, hrest', List.append_assoc]

/-- Whether a way that is preferred is one that leads on, and there is one whenever any leads on. -/
structure Follows (w : Way → Way) (leads : Cursor → Cursor → Prop) : Prop where
  sound : ∀ {k c r}, w k c = some r → ∃ d, leads c d ∧ k d = some r
  complete : ∀ {k c d}, leads c d → (k d).isSome → (w k c).isSome

variable {w : Way → Way} {leads : Cursor → Cursor → Prop} {k : Way} {c d : Cursor}

theorem Follows.inARow (h : Follows w leads) (n : Nat) :
    Follows (fun k => Way.inARow w k n) (RoundsLead leads n) := by
  induction n with
  | zero => exact ⟨fun h => ⟨_, rfl, h⟩, fun h hk => h ▸ hk⟩
  | succ n ih =>
      refine ⟨fun hr => ?_, fun ⟨m, hm, hd⟩ hk => h.complete hm (ih.complete hd hk)⟩
      obtain ⟨m, hm, hr⟩ := h.sound hr
      obtain ⟨d, hd, hr⟩ := ih.sound hr
      exact ⟨d, ⟨m, hm, hd⟩, hr⟩

theorem Follows.moreRounds (h : Follows w leads) (greedy : Bool) (n : Nat) :
    Follows (fun k => Way.moreRounds w greedy k n)
      (fun c d => ∃ j ≤ n, RoundsLead leads j c d) := by
  induction n with
  | zero =>
      refine ⟨fun h => ⟨_, ⟨0, Nat.le_refl 0, rfl⟩, h⟩, fun ⟨j, hj, hd⟩ hk => ?_⟩
      obtain rfl := Nat.le_zero.mp hj
      cases hd
      exact hk
  | succ n ih =>
      refine ⟨fun {k c r} hr => ?_, fun {k c d} ⟨j, hj, hd⟩ hk => ?_⟩
      · have hway : w (fun d => Way.moreRounds w greedy k n d) c = some r ∨ k c = some r := by
          cases greedy with
          | true => exact (Option.or_eq_some_iff.mp hr).imp_right And.right
          | false => exact (Option.or_eq_some_iff.mp hr).symm.imp_left And.right
        rcases hway with hr | hr
        · obtain ⟨m, hm, hr⟩ := h.sound hr
          obtain ⟨d, ⟨j, hj, hd⟩, hr⟩ := ih.sound hr
          exact ⟨d, ⟨j + 1, Nat.succ_le_succ hj, m, hm, hd⟩, hr⟩
        · exact ⟨c, ⟨0, Nat.zero_le _, rfl⟩, hr⟩
      · rw [Way.moreRounds, Way.prefer_isSome]
        cases j with
        | zero =>
            cases hd
            exact .inr hk
        | succ j =>
            obtain ⟨m, hm, hd⟩ := hd
            exact .inl (h.complete hm (ih.complete ⟨j, Nat.le_of_succ_le_succ hj, hd⟩ hk))

theorem roundsLead_add {round : Cursor → Cursor → Prop} {m n : Nat} :
    RoundsLead round (m + n) c d ↔ ∃ x, RoundsLead round m c x ∧ RoundsLead round n x d := by
  induction m generalizing c with
  | zero => simp [RoundsLead]
  | succ m ih =>
      rw [Nat.succ_add]
      simp only [RoundsLead, ih]
      constructor
      · rintro ⟨y, hy, x, hx, hd⟩
        exact ⟨x, ⟨y, hy, hx⟩, hd⟩
      · rintro ⟨x, ⟨y, hy, hx⟩, hd⟩
        exact ⟨y, hy, x, hx, hd⟩

/-- Each round of a repetition of characters reads one of them. -/
theorem RoundsLead.le_length {cls : CharClass} {n : Nat}
    (h : RoundsLead (Expr.chars cls).Leads n c d) : n ≤ c.rest.length := by
  induction n generalizing c with
  | zero => exact Nat.zero_le _
  | succ n ih =>
      obtain ⟨m, ⟨x, rest, hrest, -, rfl⟩, h⟩ := h
      have hle : n ≤ rest.length := ih h
      rw [hrest, List.length_cons]
      exact Nat.succ_le_succ hle

theorem follows_chars (cls : CharClass) : Follows (chars cls).first (chars cls).Leads := by
  constructor
  · intro k c r h
    cases hrest : c.rest with
    | nil =>
        rw [first, Plan.first_chars_nil hrest] at h
        cases h
    | cons x rest =>
        rw [first, Plan.first_chars_cons hrest] at h
        split at h
        · next hx => exact ⟨_, ⟨x, rest, hrest, hx, rfl⟩, h⟩
        · cases h
  · rintro k c d ⟨x, rest, hrest, hx, rfl⟩ hk
    rw [first, Plan.first_chars_cons hrest, if_pos hx]
    exact hk

theorem follows_look (l : Look) : Follows (look l).first (look l).Leads := by
  constructor
  · intro k c r hr
    obtain ⟨hl, hr⟩ := Option.ite_none_right_eq_some.mp hr
    exact ⟨c, ⟨hl, rfl⟩, hr⟩
  · rintro k c d ⟨hl, rfl⟩ hk
    exact (congrArg Option.isSome (if_pos hl)).trans hk

theorem Follows.group (h : Follows e.first e.Leads) (index : Nat) :
    Follows (group index e).first (group index e).Leads := by
  constructor
  · intro k c r hr
    obtain ⟨m, hm, hr⟩ := h.sound hr
    exact ⟨_, ⟨m, hm, rfl⟩, hr⟩
  · rintro k c d ⟨m, hm, rfl⟩ hk
    exact h.complete hm hk

theorem Follows.seq {a b : Expr} (ha : Follows a.first a.Leads) (hb : Follows b.first b.Leads) :
    Follows (seq a b).first (seq a b).Leads := by
  constructor
  · intro k c r hr
    obtain ⟨m, hm, hr⟩ := ha.sound hr
    obtain ⟨d, hd, hr⟩ := hb.sound hr
    exact ⟨d, ⟨m, hm, hd⟩, hr⟩
  · rintro k c d ⟨m, hm, hd⟩ hk
    exact ha.complete hm (hb.complete hd hk)

theorem Follows.alt {a b : Expr} (ha : Follows a.first a.Leads) (hb : Follows b.first b.Leads) :
    Follows (alt a b).first (alt a b).Leads := by
  constructor
  · intro k c r hr
    rcases Option.or_eq_some_iff.mp hr with hr | ⟨-, hr⟩
    · obtain ⟨d, hd, hr⟩ := ha.sound hr
      exact ⟨d, .inl hd, hr⟩
    · obtain ⟨d, hd, hr⟩ := hb.sound hr
      exact ⟨d, .inr hd, hr⟩
  · intro k c d hd hk
    rw [first, Option.isSome_or, Bool.or_eq_true]
    exact hd.imp (fun hd => ha.complete hd hk) (fun hd => hb.complete hd hk)

/-- A repetition with a bound goes on as long as rounds are left. -/
theorem Follows.repeated (h : Follows e.first e.Leads) (least most : Nat) (greedy : Bool) :
    Follows (repeated e least (some most) greedy).first
      (repeated e least (some most) greedy).Leads := by
  have hleast := h.inARow least
  have hmore := h.moreRounds greedy (most - least)
  constructor
  · intro k c r hr
    obtain ⟨m, hm, hr⟩ := hleast.sound hr
    obtain ⟨d, ⟨j, hj, hd⟩, hr⟩ := hmore.sound hr
    have hbound : ∀ bound ∈ some most, least + j ≤ max least bound := by
      rintro _ ⟨⟩
      omega
    exact ⟨d, ⟨least + j, Nat.le_add_right _ _, hbound, roundsLead_add.mpr ⟨m, hm, hd⟩⟩, hr⟩
  · rintro k c d ⟨n, hn, hbound, hd⟩ hk
    obtain ⟨j, rfl⟩ := Nat.exists_eq_add_of_le hn
    obtain ⟨m, hm, hd⟩ := roundsLead_add.mp hd
    have hj : j ≤ most - least := by
      have hmax := hbound most rfl
      omega
    exact hleast.complete hm (hmore.complete ⟨j, hj, hd⟩ hk)

/-- A repetition of characters without a bound ends with the text. -/
theorem follows_repeated_chars (cls : CharClass) (least : Nat) (greedy : Bool) :
    Follows (repeated (chars cls) least none greedy).first
      (repeated (chars cls) least none greedy).Leads := by
  have hleast := (follows_chars cls).inARow least
  have hmore := (follows_chars cls).moreRounds greedy
  constructor
  · intro k c r hr
    obtain ⟨m, hm, hr⟩ := hleast.sound hr
    obtain ⟨d, ⟨j, -, hd⟩, hr⟩ := (hmore m.rest.length).sound hr
    have hbound : ∀ bound ∈ none, least + j ≤ max least bound := fun bound hb =>
      absurd hb (Option.not_mem_none bound)
    exact ⟨d, ⟨least + j, Nat.le_add_right _ _, hbound, roundsLead_add.mpr ⟨m, hm, hd⟩⟩, hr⟩
  · rintro k c d ⟨n, hn, -, hd⟩ hk
    obtain ⟨j, rfl⟩ := Nat.exists_eq_add_of_le hn
    obtain ⟨m, hm, hd⟩ := roundsLead_add.mp hd
    exact hleast.complete hm ((hmore m.rest.length).complete ⟨j, hd.le_length, hd⟩ hk)

/-- What a pattern prefers is a way through it, and it prefers one whenever there is one. -/
theorem follows_first (h : e.LoopsOverChars) : Follows e.first e.Leads := by
  induction e with
  | empty => exact ⟨fun h => ⟨_, rfl, h⟩, fun h hk => h ▸ hk⟩
  | chars cls => exact follows_chars cls
  | look l => exact follows_look l
  | group index e ih => exact (ih h).group index
  | seq a b iha ihb => exact (iha h.1).seq (ihb h.2)
  | alt a b iha ihb => exact (iha h.1).alt (ihb h.2)
  | repeated e least most greedy ih =>
      cases most with
      | some most => exact (ih h).repeated least most greedy
      | none =>
          obtain ⟨cls, rfl⟩ := h
          exact follows_repeated_chars cls least greedy

end Expr

end LogWarden.Pattern
