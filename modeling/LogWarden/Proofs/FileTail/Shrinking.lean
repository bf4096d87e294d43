import LogWarden.Proofs.FileTail.Growing

/-!
# Reading a file that became shorter

A look finds that a file became shorter only if it holds less than has been read. The bytes of a
line that is held back have been seen and not read; so where the file became shorter by some of them
only, the tail goes on in the new content behind as many bytes as it has read of the old one.
-/

namespace LogWarden

namespace Tailing

/-- As long as the file only grows, looks bring to light, behind what was found earlier, the texts
of all its lines from `base` on. -/
def ReadsOnFrom (s : Tailing) (base : Nat) (earlier : List String) : Prop :=
  ∀ moves, (∀ m ∈ moves, TailMove.keeps m) → ∀ m seen, (s.run moves).sees? m = some seen →
    ∃ offset lines,
      ((s.run moves).step m).HasRead s.tail.encoding base earlier seen offset lines ∧
        10 ∉ seen.drop offset

variable {s : Tailing} {m : TailMove} {encoding : Encoding} {base offset : Nat}
  {earlier : List String} {bytes : List UInt8} {lines : List (List UInt8)}

theorem HasRead.readsOnFrom (h : s.HasRead encoding base earlier bytes offset lines) :
    s.ReadsOnFrom base earlier := by
  intro moves hkeeps m seen hsees
  rw [h.encoding_eq]
  exact (h.look_of_grown hkeeps hsees).2

/-- A look leaves no line feed in the file, unless the tail stands at the start behind it. -/
theorem exists_offset_of_look (h : s.sees? m = some bytes) :
    ∃ offset, (s.step m).tail.offset = some offset ∧ offset ≤ bytes.length ∧
      (0 < offset → 10 ∉ bytes.drop offset) := by
  obtain ⟨asleepUntil, hstep⟩ := step_of_sees h
  cases hbefore : s.tail.offset with
  | none =>
      rw [FileTail.look_of_unread hbefore] at hstep
      exact ⟨bytes.length, by rw [hstep], Nat.le_refl _, by simp⟩
  | some before =>
      rcases Nat.lt_or_ge bytes.length before with hlt | hle
      · rw [FileTail.look_of_shrunk hbefore hlt] at hstep
        exact ⟨0, by rw [hstep], Nat.zero_le _, fun hpos => absurd hpos (Nat.lt_irrefl 0)⟩
      · obtain ⟨offset, lines, hread, hrest⟩ := (hasRead_self (file_of_sees h) hbefore hle).look h
        exact ⟨offset, hread.offset_eq, hread.offset_le, fun _ => hrest⟩

/-- A look that finds no less than has been read goes on there. It leaves the tail at the start only
if the tail stood there and the file has no line. -/
theorem look_of_le (hoffset : s.tail.offset = some offset) (hle : offset ≤ bytes.length)
    (h : s.sees? m = some bytes) :
    ∃ offset' lines,
      (s.step m).HasRead s.tail.encoding offset s.found bytes offset' lines ∧
        (offset' = 0 ↔ offset = 0 ∧ 10 ∉ bytes) := by
  obtain ⟨offset', lines, hread, hrest⟩ := (hasRead_self (file_of_sees h) hoffset hle).look h
  refine ⟨offset', lines, hread, ⟨?_, ?_⟩⟩
  · rintro rfl
    exact ⟨Nat.le_zero.mp hread.base_le, by simpa using hrest⟩
  · rintro ⟨rfl, hnone⟩
    refine hread.border.resolve_right fun ⟨_, hfeed⟩ => hnone ?_
    exact List.mem_of_getElem? hfeed

end Tailing

/-- Let a file be shorter at a look of a tail than at the look before, after which the tail stood at
`offset`. The look goes back to the start of the file if the file holds less than `offset` bytes;
then all lines of the new content come to light. Otherwise the look goes on at `offset` in the new
content, and only what stands behind comes to light; unless that is the start, the tail was holding
back a line at the look before. -/
theorem shrink_is_noticed_iff {s e : Tailing} {first second : TailMove} {between : List TailMove}
    {bytes bytes' : List UInt8} (hfirst : s.sees? first = some bytes)
    (hblind : (s.step first).IsBlind between) (he : e = (s.step first).run between)
    (hsecond : e.sees? second = some bytes') (hshrunk : bytes'.length < bytes.length) :
    ∃ offset, (s.step first).tail.offset = some offset ∧
      ((e.step second).tail.offset = some 0 ↔
        bytes'.length < offset ∨ offset = 0 ∧ 10 ∉ bytes') ∧
      (bytes'.length < offset → (e.step second).ReadsOnFrom 0 e.found) ∧
      (offset ≤ bytes'.length →
        (e.step second).ReadsOnFrom offset e.found ∧
          (0 < offset → offset < bytes.length ∧ 10 ∉ bytes.drop offset)) := by
  obtain ⟨offset, hoffset, hle, hheld⟩ := Tailing.exists_offset_of_look hfirst
  have hstands : e.tail.offset = some offset := by
    rw [he, hblind.keeps.offset_eq, hoffset]
  refine ⟨offset, hoffset, ?_⟩
  rcases Nat.lt_or_ge bytes'.length offset with hlt | hge
  · have hread := Tailing.hasRead_of_begins hsecond (.atStart hstands hlt)
    refine ⟨by simp [hread.offset_eq, hlt], fun _ => hread.readsOnFrom, ?_⟩
    exact fun hle' => absurd hlt (Nat.not_lt.mpr hle')
  · obtain ⟨offset', lines, hread, hzero⟩ := Tailing.look_of_le hstands hge hsecond
    refine ⟨?_, fun hlt => absurd hge (Nat.not_le.mpr hlt), fun _ => ⟨hread.readsOnFrom, ?_⟩⟩
    · simp [hread.offset_eq, hzero, Nat.not_lt.mpr hge]
    · exact fun hpos => ⟨Nat.lt_of_le_of_lt hge hshrunk, hheld hpos⟩

/-- A tail that holds back a line, in the place of which the file gets other lines. -/
def heldBack : Tailing :=
  (Tailing.start "latest.log" .utf8 0 (.content [111, 108, 100, 10])).run
    [.poll, .append [112, 97, 114, 116]]

/-- The tail goes on behind the fourth byte, in the middle of a line. -/
theorem shrink_is_not_noticed_while_held_back :
    let e := (heldBack.step .poll).run [.replace (.content [97, 98, 10, 99, 100, 10])]
    (e.step .poll).tail.offset ≠ some 0 ∧ (e.step .poll).ReadsOnFrom 4 [] := by
  intro e
  have hfirst : heldBack.sees? .poll = some [111, 108, 100, 10, 112, 97, 114, 116] := rfl
  have hsecond : e.sees? .poll = some [97, 98, 10, 99, 100, 10] := rfl
  have hblind : (heldBack.step .poll).IsBlind [.replace (.content [97, 98, 10, 99, 100, 10])] :=
    ⟨rfl, trivial⟩
  obtain ⟨offset, hoffset, hzero, _, hmissed⟩ :=
    shrink_is_noticed_iff hfirst hblind (Eq.refl e) hsecond (by decide)
  obtain rfl : 4 = offset := Option.some.inj hoffset
  exact ⟨mt hzero.mp (by decide), (hmissed (by decide)).1⟩

/-- So it is not true that a look goes back to the start whenever the file became shorter. -/
theorem not_rewound_of_shrunk :
    ¬∀ (path : String) (encoding : Encoding) (interval : Nanos) (file : FileState)
        (before between : List TailMove) (first second : TailMove) (bytes bytes' : List UInt8)
        (s e : Tailing),
      s = (Tailing.start path encoding interval file).run before → s.sees? first = some bytes →
        (s.step first).IsBlind between → e = (s.step first).run between →
          e.sees? second = some bytes' → bytes'.length < bytes.length →
            (e.step second).tail.offset = some 0 := by
  intro hclaim
  have hzero := hclaim "latest.log" .utf8 0 (.content [111, 108, 100, 10])
    [.poll, .append [112, 97, 114, 116]] [.replace (.content [97, 98, 10, 99, 100, 10])] .poll .poll
    _ _ heldBack _ rfl rfl ⟨rfl, trivial⟩ rfl rfl (by decide)
  exact absurd hzero (by decide)

end LogWarden
