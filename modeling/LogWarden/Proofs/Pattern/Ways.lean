import LogWarden.Pattern.Search
import Mathlib.Data.List.Nodup
import Mathlib.Data.Option.Basic

/-!
# The ways through a plan

A search that remembered nothing would try the ways through a plan in order of preference, at each
choice all ways of the one kind before all ways of the other. Whether there is a way at all depends
on the place alone and not on what was captured before. So a choice that has failed at a place would
fail there again, and a search that remembers its failures finds the same way as one that does not.
This holds for plans whose loops run over single characters.
-/

namespace LogWarden.Pattern

/-- What the rest of a search makes of a place if nothing is remembered. -/
abbrev Way := Cursor → Option Cursor

namespace Cursor

/-- A place without the choices met on the way to it. -/
def still (c : Cursor) : Cursor :=
  { c with trail := [] }

/-- Whether two cursors are at one place, whatever was captured on the way. -/
def Same (c d : Cursor) : Prop :=
  c.pos = d.pos ∧ c.before = d.before ∧ c.rest = d.rest

/-- A place of a text. -/
def place (text : List Char) (pos : Nat) : Cursor :=
  ⟨pos, (text.take pos).getLast?, text.drop pos, [], []⟩

/-- Whether a cursor is at a place of a text. -/
def IsAt (text : List Char) (c : Cursor) : Prop :=
  c.Same (place text c.pos)

variable {text : List Char} {c d : Cursor} {x : Char} {rest : List Char}

theorem Same.refl (c : Cursor) : c.Same c :=
  ⟨rfl, rfl, rfl⟩

theorem Same.symm (h : c.Same d) : d.Same c :=
  ⟨h.1.symm, h.2.1.symm, h.2.2.symm⟩

theorem Same.read (h : c.Same d) (x : Char) (rest : List Char) :
    (c.read x rest).Same (d.read x rest) :=
  ⟨congrArg (· + 1) h.1, rfl, rfl⟩

theorem isAt_start (text : List Char) : (start text).IsAt text :=
  ⟨rfl, rfl, rfl⟩

theorem IsAt.length_le (h : c.IsAt text) : c.rest.length ≤ text.length := by
  rw [h.2.2]
  simp [place]

/-- The place behind the next character. -/
theorem IsAt.read (h : c.IsAt text) (hrest : c.rest = x :: rest) : (c.read x rest).IsAt text := by
  have hdrop : text.drop c.pos = x :: rest := h.2.2.symm.trans hrest
  have hlt : c.pos < text.length := by
    have hlength := congrArg List.length hdrop
    simp only [List.length_drop, List.length_cons] at hlength
    omega
  have hx : text[c.pos] = x := by
    rw [List.drop_eq_getElem_cons hlt] at hdrop
    exact (List.cons.inj hdrop).1
  refine ⟨rfl, ?_, ?_⟩
  · change some x = (text.take (c.pos + 1)).getLast?
    rw [List.take_succ_eq_append_getElem hlt, List.getLast?_concat, hx]
  · change rest = text.drop (c.pos + 1)
    rw [← List.tail_drop, hdrop]
    rfl

end Cursor

open Cursor

/-! ## Ways -/

namespace Way

/-- The preferred one of going on with one more round and of stopping. -/
def prefer (greedy : Bool) (more stop : Option Cursor) : Option Cursor :=
  if greedy then more.or stop else stop.or more

/-- At most `n` more rounds. -/
def moreRounds (round : Way → Way) (greedy : Bool) (k : Way) : Nat → Way
  | 0 => k
  | n + 1 => fun c => prefer greedy (round (moreRounds round greedy k n) c) (k c)

/-- One more round or the way on, behind a round of a loop that reads a character each round. -/
def again (round : Way → Way) (greedy : Bool) (k : Way) : Way :=
  fun c => moreRounds round greedy k c.rest.length c

/-- Whether two ways lead on from the same places. -/
def SamePlaces (k l : Way) : Prop :=
  ∀ c d, c.Same d → ((k c).isSome ↔ (l d).isSome)

/-- Whether a way leads on from a place whatever was captured before. -/
abbrev IsBlind (k : Way) : Prop :=
  SamePlaces k k

variable {round : Way → Way} {greedy : Bool} {k l : Way} {c d : Cursor}

theorem moreRounds_succ (round : Way → Way) (greedy : Bool) (k : Way) (n : Nat) (c : Cursor) :
    moreRounds round greedy k (n + 1) c =
      prefer greedy (round (moreRounds round greedy k n) c) (k c) :=
  rfl

theorem prefer_isSome (greedy : Bool) (more stop : Option Cursor) :
    (prefer greedy more stop).isSome ↔ more.isSome ∨ stop.isSome := by
  cases greedy <;> cases more <;> cases stop <;> simp [prefer]

theorem prefer_eq_none_iff {more stop : Option Cursor} :
    prefer greedy more stop = none ↔ more = none ∧ stop = none := by
  cases greedy <;> cases more <;> cases stop <;> simp [prefer]

theorem moreRounds_samePlaces
    (hround : ∀ {k l : Way}, SamePlaces k l → SamePlaces (round k) (round l))
    (h : SamePlaces k l) (n : Nat) :
    SamePlaces (moreRounds round greedy k n) (moreRounds round greedy l n) := by
  induction n with
  | zero => exact h
  | succ n ih =>
      intro c d hcd
      rw [moreRounds, moreRounds, prefer_isSome, prefer_isSome, hround ih c d hcd, h c d hcd]

theorem again_samePlaces (greedy : Bool)
    (hround : ∀ {k l : Way}, SamePlaces k l → SamePlaces (round k) (round l))
    (h : SamePlaces k l) : SamePlaces (again round greedy k) (again round greedy l) := by
  intro c d hcd
  rw [again, again, ← hcd.2.2]
  exact moreRounds_samePlaces hround h _ c d hcd

theorem isBlind_some : IsBlind some :=
  fun _ _ _ => Iff.rfl

theorem SamePlaces.eq_none_iff (h : SamePlaces k l) (hcd : c.Same d) : k c = none ↔ l d = none := by
  rw [← Option.not_isSome_iff_eq_none, ← Option.not_isSome_iff_eq_none, h c d hcd]

end Way

namespace Plan

open Way

/-- Tries the ways through a plan in order of preference, and goes on with `k` behind each. -/
def first : Plan → Way → Way
  | .empty, k => k
  | .chars cls, k => fun c =>
    match c.rest with
    | [] => none
    | x :: rest => if cls.mem x then k (c.read x rest) else none
  | .look l, k => fun c => if l.holds c.before c.rest.head? then k c else none
  | .group i p, k => fun c => p.first (fun d => k (d.record i c.pos)) c
  | .seq p q, k => p.first (q.first k)
  | .alt _ p q, k => fun c => (p.first k c).or (q.first k c)
  | .loop _ greedy p, k => p.first (again p.first greedy k)

/-- Whether the loops of a plan run over single characters. -/
def LoopsOverChars : Plan → Prop
  | .empty | .chars _ | .look _ => True
  | .group _ p => p.LoopsOverChars
  | .seq p q | .alt _ p q => p.LoopsOverChars ∧ q.LoopsOverChars
  | .loop _ _ p => ∃ cls, p = .chars cls

variable {p q : Plan} {k l w : Way} {c d : Cursor} {i j : Nat} {cls : CharClass} {greedy : Bool}

theorem first_chars_nil (h : c.rest = []) : (Plan.chars cls).first k c = none := by
  simp only [first, h]

theorem first_chars_cons {x : Char} {rest : List Char} (h : c.rest = x :: rest) :
    (Plan.chars cls).first k c = if cls.mem x then k (c.read x rest) else none := by
  simp only [first, h]

/-- From where there is a way through a plan depends on from where there is a way on. -/
theorem first_samePlaces (p : Plan) (h : SamePlaces k l) : SamePlaces (p.first k) (p.first l) := by
  induction p generalizing k l with
  | empty => exact h
  | chars cls =>
      intro c d hcd
      cases hrest : c.rest with
      | nil => rw [first_chars_nil hrest, first_chars_nil (hcd.2.2 ▸ hrest)]
      | cons x rest =>
          rw [first_chars_cons hrest, first_chars_cons (hcd.2.2 ▸ hrest)]
          split
          · exact h _ _ (hcd.read x rest)
          · rfl
  | look look =>
      intro c d hcd
      simp only [first, ← hcd.2.1, ← hcd.2.2]
      split
      · exact h c d hcd
      · rfl
  | group index p ih =>
      intro c d hcd
      refine ih (fun c' d' hcd' => ?_) c d hcd
      exact h (c'.record index c.pos) (d'.record index d.pos) hcd'
  | seq p q ihp ihq => exact ihp (ihq h)
  | alt choice p q ihp ihq =>
      intro c d hcd
      simp only [first, Option.isSome_or, Bool.or_eq_true]
      rw [ihp h c d hcd, ihq h c d hcd]
  | loop choice greedy p ih => exact ih (again_samePlaces greedy ih h)

/-- What follows a round of a loop over characters: one more round or the way on. -/
theorem again_chars (cls : CharClass) (greedy : Bool) (k : Way) (c : Cursor) :
    again (Plan.chars cls).first greedy k c =
      prefer greedy
        ((Plan.chars cls).first (again (Plan.chars cls).first greedy k) c) (k c) := by
  cases hrest : c.rest with
  | nil =>
      rw [again, hrest, first_chars_nil hrest]
      cases hk : k c <;> cases greedy <;> simp [moreRounds, prefer, hk]
  | cons x rest =>
      rw [again, hrest, first_chars_cons hrest]
      change prefer greedy ((Plan.chars cls).first _ c) (k c) = _
      rw [first_chars_cons hrest]
      rfl

/-- The choices of a plan that fail at a place, where `k` is what comes behind the plan. -/
def Fails : Plan → Way → Nat → Cursor → Prop
  | .empty, _, _, _ | .chars _, _, _, _ | .look _, _, _, _ => False
  | .group _ p, k, i, c => p.Fails k i c
  | .seq p q, k, i, c => p.Fails (q.first k) i c ∨ q.Fails k i c
  | .alt j p q, k, i, c =>
    i = j ∧ p.first k c = none ∧ q.first k c = none ∨ p.Fails k i c ∨ q.Fails k i c
  | .loop j greedy p, k, i, c =>
    i = j ∧ again p.first greedy k c = none ∨ p.Fails (again p.first greedy k) i c

theorem Fails.mem_choices (h : p.Fails k i c) : i ∈ p.choices := by
  induction p generalizing k with
  | empty => cases h
  | chars => cases h
  | look => cases h
  | group index p ih => exact ih h
  | seq p q ihp ihq => exact List.mem_append.mpr (h.imp ihp ihq)
  | alt j p q ihp ihq =>
      rcases h with ⟨rfl, -⟩ | h | h
      · exact List.mem_cons_self
      · exact List.mem_cons_of_mem j (List.mem_append_left _ (ihp h))
      · exact List.mem_cons_of_mem j (List.mem_append_right _ (ihq h))
  | loop j greedy p ih =>
      rcases h with ⟨rfl, -⟩ | h
      · exact List.mem_cons_self
      · exact List.mem_cons_of_mem j (ih h)

theorem fails_alt_left (hi : i ∈ p.choices) (hj : j ∉ p.choices) (hq : i ∉ q.choices) :
    (Plan.alt j p q).Fails k i c ↔ p.Fails k i c := by
  have hne : i ≠ j := fun heq => hj (heq ▸ hi)
  have hother : ¬q.Fails k i c := fun h => hq h.mem_choices
  simp only [Fails, hne, hother, false_and, false_or, or_false]

theorem fails_alt_right (hi : i ∈ q.choices) (hj : j ∉ q.choices) (hp : i ∉ p.choices) :
    (Plan.alt j p q).Fails k i c ↔ q.Fails k i c := by
  have hne : i ≠ j := fun heq => hj (heq ▸ hi)
  have hother : ¬p.Fails k i c := fun h => hp h.mem_choices
  simp only [Fails, hne, hother, false_and, false_or]

theorem fails_alt_self (hp : i ∉ p.choices) (hq : i ∉ q.choices) :
    (Plan.alt i p q).Fails k i c ↔ p.first k c = none ∧ q.first k c = none := by
  have hleft : ¬p.Fails k i c := fun h => hp h.mem_choices
  have hright : ¬q.Fails k i c := fun h => hq h.mem_choices
  simp only [Fails, hleft, hright, true_and, or_false]

/-- Which choices fail depends on the place and on from where there is a way on. -/
theorem fails_congr (h : SamePlaces k l) (hcd : c.Same d) : p.Fails k i c ↔ p.Fails l i d := by
  induction p generalizing k l with
  | empty => rfl
  | chars => rfl
  | look => rfl
  | group index p ih => exact ih h
  | seq p q ihp ihq => exact or_congr (ihp (q.first_samePlaces h)) (ihq h)
  | alt j p q ihp ihq =>
      refine or_congr (and_congr_right fun _ => and_congr ?_ ?_) (or_congr (ihp h) (ihq h))
      · exact (p.first_samePlaces h).eq_none_iff hcd
      · exact (q.first_samePlaces h).eq_none_iff hcd
  | loop j greedy p ih =>
      have hrounds := again_samePlaces greedy p.first_samePlaces h
      exact or_congr (and_congr_right fun _ => hrounds.eq_none_iff hcd) (ih hrounds)

end Plan

/-! ## Searches that remember failures -/

/-- Whether each remembered failure is one: `fails` says which choices fail at which places. -/
def IsSound (fails : Nat → Nat → Prop) (failed : Failed) : Prop :=
  ∀ i pos, (i, pos) ∈ failed → fails i pos

/-- Whether at a place a search that remembers failures makes of the rest what one without memory
makes of it, as long as the choices met on the way to the place do not come up again before a
character is read. -/
def Tracks (fails : Nat → Nat → Prop) (choices : List Nat) (k : Continue) (w : Way)
    (c : Cursor) : Prop :=
  ∀ failed, IsSound fails failed → (∀ i ∈ c.trail, i ∉ choices) →
    (k c failed).1.map still = w c.still ∧ IsSound fails (k c failed).2

section Tracking

variable {text : List Char} {fails : Nat → Nat → Prop} {choices choices' : List Nat}
  {k k' : Continue} {w w' : Way} {c : Cursor} {i : Nat} {cls : CharClass} {greedy : Bool}
  {failed : Failed}

theorem Tracks.mono (h : Tracks fails choices k w c) (hsub : choices ⊆ choices') :
    Tracks fails choices' k w c :=
  fun failed hsound htrail => h failed hsound fun i hi hmem => htrail i hi (hsub hmem)

theorem Tracks.congr (heq : w c.still = w' c.still) (h : Tracks fails choices k w c) :
    Tracks fails choices k w' c := by
  intro failed hsound htrail
  rw [← heq]
  exact h failed hsound htrail

theorem IsSound.insert (h : IsSound fails failed) {pos : Nat} (hi : fails i pos) :
    IsSound fails (failed.insert (i, pos)) := by
  intro j pos' hmem
  rcases Std.HashSet.mem_insert.mp hmem with heq | hmem
  · cases eq_of_beq heq
    exact hi
  · exact h j pos' hmem

/-- A choice is met once on a way, so its own memory decides only whether it has failed before. -/
theorem tracks_decideAt (hfirst : Tracks fails choices k w (c.meet i))
    (hsecond : Tracks fails choices k' w' (c.meet i)) (hi : i ∉ choices)
    (hfails : fails i c.pos ↔ w c.still = none ∧ w' c.still = none) :
    Tracks fails (i :: choices) (Plan.decideAt i k k') (fun d => (w d).or (w' d)) c := by
  intro failed hsound htrail
  have hfresh : i ∉ c.trail := fun hmem => htrail i hmem List.mem_cons_self
  have hmet : ∀ j ∈ (c.meet i).trail, j ∉ choices := by
    intro j hj
    rcases List.mem_cons.mp hj with rfl | hj
    · exact hi
    · exact fun hmem => htrail j hj (List.mem_cons_of_mem i hmem)
  have hstill : (c.meet i).still = c.still := rfl
  rw [Plan.decideAt]
  split_ifs with hknown
  · -- The choice has failed here before, so there is no way.
    have hfailed : (i, c.pos) ∈ failed := by
      simpa [hfresh] using hknown
    obtain ⟨hw, hw'⟩ := hfails.mp (hsound i c.pos hfailed)
    exact ⟨by simp only [hw, hw', Option.map_none, Option.or_none], hsound⟩
  · obtain ⟨hresult, hsound₁⟩ := hfirst failed hsound hmet
    rcases hk : k (c.meet i) failed with ⟨_ | r, failed₁⟩
    · simp only [hk, hstill] at hresult hsound₁ ⊢
      obtain ⟨hresult', hsound₂⟩ := hsecond failed₁ hsound₁ hmet
      rcases hk' : k' (c.meet i) failed₁ with ⟨_ | r, failed₂⟩
      · simp only [hk', hstill] at hresult' hsound₂ ⊢
        have hnone : w c.still = none ∧ w' c.still = none := ⟨hresult.symm, hresult'.symm⟩
        refine ⟨?_, hsound₂.insert (hfails.mpr hnone)⟩
        simp only [hnone, Option.map_none, Option.or_none]
      · simp only [hk', hstill] at hresult' hsound₂ ⊢
        exact ⟨by simp only [← hresult, ← hresult', Option.map_none, Option.none_or], hsound₂⟩
    · simp only [hk, hstill] at hresult hsound₁ ⊢
      exact ⟨by simp only [← hresult, Option.map_some, Option.some_or], hsound₁⟩

theorem tracks_chars (size : Nat)
    (hk : ∀ x rest, c.rest = x :: rest → Tracks fails choices k w (c.read x rest)) :
    Tracks fails choices' ((Plan.chars cls).explore size k) ((Plan.chars cls).first w) c := by
  intro failed hsound _
  cases hrest : c.rest with
  | nil =>
      rw [Plan.explore, Plan.first_chars_nil (c := c.still) hrest]
      simp only [hrest]
      exact ⟨rfl, hsound⟩
  | cons x rest =>
      rw [Plan.explore, Plan.first_chars_cons (c := c.still) hrest]
      simp only [hrest]
      split
      · exact hk x rest hrest failed hsound fun i hi => absurd hi List.not_mem_nil
      · exact ⟨rfl, hsound⟩

/-- Behind a round of a loop over characters, which has read a character, the bound on the number of
rounds is no bound. -/
theorem tracks_afterRound {size n : Nat} (hc : c.IsAt text)
    (hk : ∀ d : Cursor, d.IsAt text → Tracks fails choices k w d) (hblind : w.IsBlind)
    (hi : i ∉ choices)
    (hfails : ∀ pos, fails i pos ↔
      Way.again (Plan.chars cls).first greedy w (place text pos) = none)
    (hn : c.rest.length < n) :
    Tracks fails (i :: choices)
      (Plan.afterRound ((Plan.chars cls).explore size) i greedy k n)
      (Way.again (Plan.chars cls).first greedy w) c := by
  induction n generalizing c with
  | zero => exact absurd hn (Nat.not_lt_zero _)
  | succ n ih =>
      have hround : ∀ x rest, (c.meet i).rest = x :: rest →
          Tracks fails (i :: choices) (Plan.afterRound ((Plan.chars cls).explore size) i greedy k n)
            (Way.again (Plan.chars cls).first greedy w) ((c.meet i).read x rest) := by
        intro x rest hrest
        have hlength : rest.length < n := by
          have hrest' : c.rest = x :: rest := hrest
          rw [hrest', List.length_cons] at hn
          omega
        exact ih (Cursor.IsAt.read hc hrest) hlength
      have hmore : Tracks fails choices
          ((Plan.chars cls).explore size
            (Plan.afterRound ((Plan.chars cls).explore size) i greedy k n))
          ((Plan.chars cls).first (Way.again (Plan.chars cls).first greedy w)) (c.meet i) :=
        tracks_chars _ hround
      have hstop : Tracks fails choices k w (c.meet i) := hk _ hc
      have hboth : fails i c.pos ↔
          (Plan.chars cls).first (Way.again (Plan.chars cls).first greedy w) c.still = none ∧
            w c.still = none := by
        have hplaces := Way.again_samePlaces greedy (Plan.chars cls).first_samePlaces hblind
        rw [hfails, hplaces.eq_none_iff (Same.symm hc : (place text c.pos).Same c.still),
          Plan.again_chars, Way.prefer_eq_none_iff]
      cases greedy with
      | true =>
          have h := tracks_decideAt hmore hstop hi hboth
          exact h.congr (Plan.again_chars cls true w c.still).symm
      | false =>
          have h := tracks_decideAt hstop hmore hi (hboth.trans and_comm)
          exact h.congr (Plan.again_chars cls false w c.still).symm

theorem tracks_loop (hc : c.IsAt text)
    (hk : ∀ d : Cursor, d.IsAt text → Tracks fails choices k w d) (hblind : w.IsBlind)
    (hi : i ∉ choices)
    (hfails : ∀ pos, fails i pos ↔
      (Plan.loop i greedy (.chars cls)).Fails w i (place text pos)) :
    Tracks fails (i :: choices) ((Plan.loop i greedy (.chars cls)).explore text.length k)
      ((Plan.loop i greedy (.chars cls)).first w) c := by
  have hnone (pos : Nat) : fails i pos ↔
      Way.again (Plan.chars cls).first greedy w (place text pos) = none := by
    rw [hfails]
    simp only [Plan.Fails, true_and, or_false]
  have hround : ∀ x rest, c.rest = x :: rest → Tracks fails (i :: choices)
      (Plan.afterRound ((Plan.chars cls).explore text.length) i greedy k (text.length + 2))
      (Way.again (Plan.chars cls).first greedy w) (c.read x rest) := by
    intro x rest hrest
    have hread := hc.read hrest
    exact tracks_afterRound hread hk hblind hi hnone
      (Nat.lt_of_le_of_lt hread.length_le (Nat.lt_add_of_pos_right Nat.two_pos))
  exact tracks_chars text.length hround

/-- The two ways of a choice meet no choice in common with each other, and not the choice itself. -/
theorem tracks_alt {p q : Plan} {size : Nat} (hc : c.IsAt text)
    (hp : Tracks fails (p.choices ++ choices) (p.explore size k) (p.first w) (c.meet i))
    (hq : Tracks fails (q.choices ++ choices) (q.explore size k) (q.first w) (c.meet i))
    (hblind : w.IsBlind) (hpq : i ∉ p.choices ++ q.choices) (hi : i ∉ choices)
    (hfails : fails i c.pos ↔ (Plan.alt i p q).Fails w i (place text c.pos)) :
    Tracks fails ((Plan.alt i p q).choices ++ choices) ((Plan.alt i p q).explore size k)
      ((Plan.alt i p q).first w) c := by
  obtain ⟨hip, hiq⟩ := not_or.mp (mt List.mem_append.mpr hpq)
  have hboth : fails i c.pos ↔ p.first w c.still = none ∧ q.first w c.still = none := by
    have hplace : (place text c.pos).Same c.still := Same.symm hc
    rw [hfails, Plan.fails_alt_self hip hiq, (p.first_samePlaces hblind).eq_none_iff hplace,
      (q.first_samePlaces hblind).eq_none_iff hplace]
  have hsub : p.choices ++ choices ⊆ p.choices ++ q.choices ++ choices :=
    List.append_subset.mpr
      ⟨fun j hj => List.mem_append_left _ (List.mem_append_left _ hj),
        List.subset_append_right _ _⟩
  have hsub' : q.choices ++ choices ⊆ p.choices ++ q.choices ++ choices := by
    rw [List.append_assoc]
    exact List.subset_append_right _ _
  have hfresh : i ∉ p.choices ++ q.choices ++ choices := fun hmem =>
    (List.mem_append.mp hmem).elim hpq hi
  exact tracks_decideAt (hp.mono hsub) (hq.mono hsub') hfresh hboth

/-- A search that remembers failures goes through a plan as one without memory does. -/
theorem tracks_explore {p : Plan} (hloops : p.LoopsOverChars) (hnodup : p.choices.Nodup)
    (hdisjoint : ∀ i ∈ p.choices, i ∉ choices)
    (hk : ∀ d : Cursor, d.IsAt text → Tracks fails choices k w d) (hblind : w.IsBlind)
    (hfails : ∀ i ∈ p.choices, ∀ pos, fails i pos ↔ p.Fails w i (place text pos))
    (hc : c.IsAt text) :
    Tracks fails (p.choices ++ choices) (p.explore text.length k) (p.first w) c := by
  induction p generalizing k w choices c with
  | empty => exact hk c hc
  | chars cls => exact tracks_chars _ fun x rest hrest => hk _ (hc.read hrest)
  | look look =>
      intro failed hsound htrail
      simp only [Plan.explore, Plan.first]
      have hlook : look.holds c.still.before c.still.rest.head? =
          look.holds c.before c.rest.head? := rfl
      rw [hlook]
      split
      · exact hk c hc failed hsound htrail
      · exact ⟨rfl, hsound⟩
  | group index p ih =>
      have hrecord : Way.SamePlaces (fun d => w (d.record index c.pos)) w :=
        fun d d' hd => hblind (d.record index c.pos) d' hd
      refine ih (k := fun d failed => k (d.record index c.pos) failed) hloops hnodup hdisjoint
        (fun d hd => hk (d.record index c.pos) hd) (fun d d' hd => hblind _ _ hd)
        (fun i hi pos => ?_) hc
      rw [hfails i hi pos]
      exact (Plan.fails_congr hrecord (Same.refl _)).symm
  | seq p q ihp ihq =>
      obtain ⟨hp, hq, hpq⟩ := List.nodup_append.mp hnodup
      have hbehind : ∀ d : Cursor, d.IsAt text →
          Tracks fails (q.choices ++ choices) (q.explore text.length k) (q.first w) d := by
        intro d hd
        refine ihq hloops.2 hq (fun i hi => hdisjoint i (List.mem_append_right _ hi)) hk hblind
          (fun i hi pos => ?_) hd
        rw [hfails i (List.mem_append_right _ hi) pos]
        exact or_iff_right fun h => hpq i h.mem_choices i hi rfl
      rw [Plan.choices, List.append_assoc]
      refine ihp hloops.1 hp (fun i hi hmem => ?_) hbehind (q.first_samePlaces hblind)
        (fun i hi pos => ?_) hc
      · rcases List.mem_append.mp hmem with hmem | hmem
        · exact hpq i hi i hmem rfl
        · exact hdisjoint i (List.mem_append_left _ hi) hmem
      · rw [hfails i (List.mem_append_left _ hi) pos]
        exact or_iff_left fun h => hpq i hi i h.mem_choices rfl
  | alt i p q ihp ihq =>
      obtain ⟨hi, hpq⟩ := List.nodup_cons.mp hnodup
      obtain ⟨hp, hq, hpq⟩ := List.nodup_append.mp hpq
      obtain ⟨hip, hiq⟩ := not_or.mp (mt List.mem_append.mpr hi)
      have hleft : p.choices ⊆ (Plan.alt i p q).choices := fun j hj =>
        List.mem_cons_of_mem i (List.mem_append_left _ hj)
      have hright : q.choices ⊆ (Plan.alt i p q).choices := fun j hj =>
        List.mem_cons_of_mem i (List.mem_append_right _ hj)
      have hfirst : Tracks fails (p.choices ++ choices) (p.explore text.length k) (p.first w)
          (c.meet i) := by
        refine ihp hloops.1 hp (fun j hj => hdisjoint j (hleft hj)) hk hblind
          (fun j hj pos => ?_) hc
        rw [hfails j (hleft hj) pos]
        exact Plan.fails_alt_left hj hip fun hmem => hpq j hj j hmem rfl
      have hsecond : Tracks fails (q.choices ++ choices) (q.explore text.length k) (q.first w)
          (c.meet i) := by
        refine ihq hloops.2 hq (fun j hj => hdisjoint j (hright hj)) hk hblind
          (fun j hj pos => ?_) hc
        rw [hfails j (hright hj) pos]
        exact Plan.fails_alt_right hj hiq fun hmem => hpq j hmem j hj rfl
      exact tracks_alt hc hfirst hsecond hblind hi (hdisjoint i List.mem_cons_self)
        (hfails i List.mem_cons_self c.pos)
  | loop i greedy p ih =>
      obtain ⟨cls, rfl⟩ := hloops
      exact tracks_loop hc hk hblind (hdisjoint i List.mem_cons_self)
        (hfails i List.mem_cons_self)

end Tracking

/-! ## The leftmost match -/

/-- The first place of a text from which a way leads on, from the left: its position and where the
way leads. -/
def leftmost (w : Way) : List Char → Option Char → Nat → Option (Nat × Cursor)
  | rest, before, pos =>
    match w ⟨pos, before, rest, [], []⟩ with
    | some c => some (pos, c)
    | none =>
      match rest with
      | [] => none
      | x :: rest => leftmost w rest (some x) (pos + 1)

theorem leftmost_of_eq_some {w : Way} {rest : List Char} {before : Option Char} {pos : Nat}
    {c : Cursor} (h : w ⟨pos, before, rest, [], []⟩ = some c) :
    leftmost w rest before pos = some (pos, c) := by
  cases rest <;> simp only [leftmost, h]

/-- The place that was found first is one from which the way leads on. -/
theorem exists_of_leftmost_eq_some {w : Way} {text rest : List Char} {before : Option Char}
    {pos : Nat} {m : Nat × Cursor} (hat : Cursor.IsAt text ⟨pos, before, rest, [], []⟩)
    (h : leftmost w rest before pos = some m) : ∃ c, c.IsAt text ∧ w c = some m.2 := by
  induction rest generalizing before pos with
  | nil =>
      rw [leftmost] at h
      split at h
      · next hw =>
          cases h
          exact ⟨_, hat, hw⟩
      · cases h
  | cons x rest ih =>
      rw [leftmost] at h
      split at h
      · next hw =>
          cases h
          exact ⟨_, hat, hw⟩
      · exact ih (hat.read rfl) h

section Searching

variable {text : List Char} {p : Plan}

/-- What a search from one place finds, and that its memory stays sound. -/
theorem explore_eq (hloops : p.LoopsOverChars) (hnodup : p.choices.Nodup) {c : Cursor}
    {failed : Failed} (hc : c.IsAt text) (htrail : c.trail = [])
    (hsound : IsSound (fun i pos => p.Fails some i (place text pos)) failed) :
    (p.explore text.length (fun c failed => (some c, failed)) c failed).1.map still =
        p.first some c ∧
      IsSound (fun i pos => p.Fails some i (place text pos))
        (p.explore text.length (fun c failed => (some c, failed)) c failed).2 := by
  have hend : ∀ d : Cursor, d.IsAt text →
      Tracks (fun i pos => p.Fails some i (place text pos)) []
        (fun c failed => (some c, failed)) some d :=
    fun d _ failed hsound _ => ⟨rfl, hsound⟩
  have htracks := tracks_explore hloops hnodup (fun _ _ => List.not_mem_nil) hend Way.isBlind_some
    (fun _ _ _ => Iff.rfl) hc failed hsound
  have hstill : c.still = c := by
    rw [still, ← htrail]
  rw [hstill] at htracks
  exact htracks fun i hi => absurd (htrail ▸ hi) List.not_mem_nil

/-- From one place on, a search with sound memory finds what one without memory finds. -/
theorem searchFrom_eq (hloops : p.LoopsOverChars) (hnodup : p.choices.Nodup) (rest : List Char)
    (before : Option Char) (pos : Nat) (failed : Failed)
    (hat : Cursor.IsAt text ⟨pos, before, rest, [], []⟩)
    (hsound : IsSound (fun i pos => p.Fails some i (place text pos)) failed) :
    (p.searchFrom text.length rest before pos failed).map (fun m => (m.1, m.2.still)) =
      leftmost (p.first some) rest before pos := by
  induction rest generalizing before pos failed with
  | nil =>
      obtain ⟨hresult, -⟩ := explore_eq hloops hnodup hat rfl hsound
      rw [Plan.searchFrom, leftmost, ← hresult]
      rcases p.explore text.length _ _ failed with ⟨_ | r, failed'⟩ <;> rfl
  | cons x rest ih =>
      obtain ⟨hresult, hsound'⟩ := explore_eq hloops hnodup hat rfl hsound
      rw [Plan.searchFrom, leftmost, ← hresult]
      rcases hp : p.explore text.length (fun c failed => (some c, failed))
        ⟨pos, before, x :: rest, [], []⟩ failed with ⟨_ | r, failed'⟩
      · rw [hp] at hsound'
        exact ih (some x) (pos + 1) failed' (hat.read rfl) hsound'
      · rfl

/-- A search finds the leftmost match, and of the matches that start there the preferred one. -/
theorem search_eq_leftmost (hloops : p.LoopsOverChars) (hnodup : p.choices.Nodup)
    (text : List Char) :
    (p.search text).map (fun m => (m.1, m.2.still)) = leftmost (p.first some) text none 0 := by
  refine searchFrom_eq hloops hnodup text none 0 ∅ (isAt_start text) fun i pos h => ?_
  simp at h

end Searching

end LogWarden.Pattern
