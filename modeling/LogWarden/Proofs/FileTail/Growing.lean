import LogWarden.Proofs.FileTail.Lines
import LogWarden.Proofs.FileTail.Tailing

/-!
# Reading a file that grows

From the look that begins to read a file on, as long as the file only grows, a tail brings to light
the texts of the lines behind the byte at which it began, whichever way the bytes come and whenever
the tail looks. Behind a look no line is left in the file.
-/

namespace LogWarden

/-- A look at a file of some length begins to read it: the first look behind the last byte, a look
that finds less than has been read at the first byte. -/
inductive FileTail.BeginsAt (t : FileTail) (length : Nat) : Nat → Prop
  | atEnd (h : t.offset = none) : BeginsAt t length length
  | atStart {offset} (h : t.offset = some offset) (hlt : length < offset) : BeginsAt t length 0

/-- The bytes that a move adds to the file. -/
def TailMove.added : TailMove → List UInt8
  | .append more => more
  | _ => []

/-- The bytes that moves add to the file. -/
def addedBy (moves : List TailMove) : List UInt8 := moves.flatMap TailMove.added

namespace Tailing

/-- A tail has read the bytes of its file from `base` up to `offset`, which are `lines`: behind what
it had brought to light before, it has brought to light the texts of those lines. -/
structure HasRead (s : Tailing) (encoding : Encoding) (base : Nat) (earlier : List String)
    (bytes : List UInt8) (offset : Nat) (lines : List (List UInt8)) : Prop where
  file_eq : s.file.content? = some bytes
  encoding_eq : s.tail.encoding = encoding
  offset_eq : s.tail.offset = some offset
  base_le : base ≤ offset
  offset_le : offset ≤ bytes.length
  isLine : ∀ line ∈ lines, IsLine line
  flatten_eq : lines.flatten = (bytes.take offset).drop base
  found_eq : s.found = earlier ++ (lines.map encoding.decodeLine).filter (· ≠ "")

variable {s : Tailing} {m : TailMove} {moves : List TailMove} {encoding : Encoding}
  {base offset : Nat} {earlier : List String} {bytes seen : List UInt8} {lines : List (List UInt8)}

theorem file_of_sees (h : s.sees? m = some seen) : s.file.content? = some seen := by
  cases m with
  | poll => exact FileTail.content?_of_sees h
  | ask now =>
      simp only [sees?] at h
      split at h
      · exact FileTail.content?_of_sees h
      · simp at h
  | _ => simp [sees?] at h

theorem added_of_sees (h : s.sees? m = some seen) : m.added = [] ∧ m.fileAfter s.file = s.file := by
  cases m with
  | poll | ask => exact ⟨rfl, rfl⟩
  | _ => simp [sees?] at h

namespace HasRead

theorem offset_eq_add (h : s.HasRead encoding base earlier bytes offset lines) :
    offset = base + lines.flatten.length := by
  rw [h.flatten_eq, List.length_drop, List.length_take_of_le h.offset_le]
  have hle := h.base_le
  omega

/-- The tail stands where it began or behind a line feed. -/
theorem border (h : s.HasRead encoding base earlier bytes offset lines) :
    offset = base ∨ base < offset ∧ bytes[offset - 1]? = some 10 := by
  by_cases hnil : lines = []
  · exact .inl (by simpa [hnil] using h.offset_eq_add)
  · have hlast := getLast?_flatten_of_isLine h.isLine hnil
    rw [h.flatten_eq, List.getLast?_drop, List.length_take_of_le h.offset_le] at hlast
    have hlt : base < offset := by
      refine Nat.lt_of_not_le fun hge => ?_
      simp [hge] at hlast
    have hat : offset - 1 < bytes.length := by
      have hle := h.offset_le
      omega
    rw [if_neg (Nat.not_le.mpr hlt), List.getLast?_take, if_neg (by omega),
      List.getElem?_eq_getElem hat] at hlast
    exact .inr ⟨hlt, by rw [List.getElem?_eq_getElem hat]; simpa using hlast⟩

/-- More bytes in the file change nothing. -/
theorem keep {s' : Tailing} {more : List UInt8}
    (h : s.HasRead encoding base earlier bytes offset lines) (hkeeps : Keeps s s')
    (hfile : s'.file.content? = some (bytes ++ more)) :
    s'.HasRead encoding base earlier (bytes ++ more) offset lines where
  file_eq := hfile
  encoding_eq := hkeeps.encoding_eq.trans h.encoding_eq
  offset_eq := hkeeps.offset_eq.trans h.offset_eq
  base_le := h.base_le
  offset_le := Nat.le_trans h.offset_le (by simp)
  isLine := h.isLine
  flatten_eq := by rw [List.take_append_of_le_length h.offset_le, h.flatten_eq]
  found_eq := hkeeps.found_eq.trans h.found_eq

/-- A look adds the lines behind those that have been read. -/
theorem look (h : s.HasRead encoding base earlier bytes offset lines)
    (hsees : s.sees? m = some bytes) :
    ∃ offset' lines', (s.step m).HasRead encoding base earlier bytes offset' lines' ∧
      10 ∉ bytes.drop offset' := by
  obtain ⟨asleepUntil, hstep⟩ := step_of_sees hsees
  obtain ⟨rest, hcut⟩ := cutInto_wholeLines (bytes.drop offset)
  have hlook := FileTail.look_of_le h.offset_eq h.offset_le
  generalize hnew : wholeLines (bytes.drop offset) = new at hcut hlook
  rw [hlook] at hstep
  have hlength : offset + (new.flatten.length + rest.length) = bytes.length := by
    have hsplit := congrArg List.length hcut.eq
    rw [List.length_drop, List.length_append] at hsplit
    have hle := h.offset_le
    omega
  refine ⟨offset + new.flatten.length, lines ++ new, ⟨?_, ?_, ?_, ?_, ?_, ?_, ?_, ?_⟩, ?_⟩
  · rw [hstep]
    exact h.file_eq
  · rw [hstep]
    exact h.encoding_eq
  · rw [hstep]
  · exact Nat.le_trans h.base_le (Nat.le_add_right _ _)
  · omega
  · intro line hmem
    rcases List.mem_append.mp hmem with hmem | hmem
    · exact h.isLine line hmem
    · exact hcut.isLine line hmem
  · have hbase : base ≤ (bytes.take offset).length := by
      rw [List.length_take_of_le h.offset_le]
      exact h.base_le
    calc
      (lines ++ new).flatten = (bytes.take offset).drop base ++ new.flatten := by
        rw [List.flatten_append, h.flatten_eq]
      _ = (bytes.take offset).drop base ++ (bytes.drop offset).take new.flatten.length := by
        rw [hcut.eq, List.take_left]
      _ = (bytes.take (offset + new.flatten.length)).drop base := by
        rw [List.take_add, List.drop_append_of_le_length hbase]
  · calc
      (s.step m).found = s.found ++ (new.map encoding.decodeLine).filter (· ≠ "") := by
        rw [hstep, ← h.encoding_eq]
        simp [found, Encoding.lineTexts, List.append_assoc]
      _ = earlier ++ ((lines ++ new).map encoding.decodeLine).filter (· ≠ "") := by
        rw [h.found_eq, List.map_append, List.filter_append, List.append_assoc]
  · rw [← List.drop_drop, hcut.eq, List.drop_left]
    exact hcut.unended

theorem step (h : s.HasRead encoding base earlier bytes offset lines) (hkeeps : m.keeps) :
    ∃ offset' lines',
      (s.step m).HasRead encoding base earlier (bytes ++ m.added) offset' lines' := by
  cases hsees : s.sees? m with
  | none =>
      refine ⟨offset, lines, h.keep (step_of_not_sees hsees) ?_⟩
      rw [step_file]
      cases m with
      | replace => simp [TailMove.keeps] at hkeeps
      | append more => exact FileState.content?_grow h.file_eq more
      | _ => simpa [TailMove.fileAfter, TailMove.added] using h.file_eq
  | some seen =>
      obtain rfl : bytes = seen := by simpa [h.file_eq] using file_of_sees hsees
      obtain ⟨offset', lines', hread, _⟩ := h.look hsees
      exact ⟨offset', lines', by simpa [(added_of_sees hsees).1] using hread⟩

theorem run (h : s.HasRead encoding base earlier bytes offset lines)
    (hkeeps : ∀ m ∈ moves, m.keeps) :
    ∃ offset' lines',
      (s.run moves).HasRead encoding base earlier (bytes ++ addedBy moves) offset' lines' := by
  induction moves generalizing s bytes offset lines with
  | nil => exact ⟨offset, lines, by simpa [addedBy] using h⟩
  | cons m rest ih =>
      obtain ⟨offset', lines', hstep⟩ := h.step (hkeeps m (by simp))
      simpa [addedBy, List.append_assoc] using ih hstep fun m' hm' => hkeeps m' (by simp [hm'])

/-- A look at a file that has only grown since. -/
theorem look_of_grown (h : s.HasRead encoding base earlier bytes offset lines)
    (hkeeps : ∀ m ∈ moves, m.keeps) (hsees : (s.run moves).sees? m = some seen) :
    seen = bytes ++ addedBy moves ∧
      ∃ offset' lines',
        ((s.run moves).step m).HasRead encoding base earlier seen offset' lines' ∧
          10 ∉ seen.drop offset' := by
  obtain ⟨offset', lines', hread⟩ := h.run hkeeps
  obtain rfl : bytes ++ addedBy moves = seen := by
    simpa [hread.file_eq] using file_of_sees hsees
  exact ⟨rfl, hread.look hsees⟩

/-- Where no line is left, the lines that have been read are all there are from `base` on. -/
theorem cutInto (h : s.HasRead encoding base earlier bytes offset lines)
    (hrest : 10 ∉ bytes.drop offset) : CutInto (bytes.drop base) lines (bytes.drop offset) := by
  refine ⟨?_, h.isLine, hrest⟩
  have hbase : base ≤ (bytes.take offset).length := by
    rw [List.length_take_of_le h.offset_le]
    exact h.base_le
  rw [h.flatten_eq, ← List.drop_append_of_le_length hbase, List.take_append_drop]

end HasRead

/-- A tail has read nothing from the place on where it stands. -/
theorem hasRead_self (hfile : s.file.content? = some bytes) (hoffset : s.tail.offset = some offset)
    (hle : offset ≤ bytes.length) :
    s.HasRead s.tail.encoding offset s.found bytes offset [] :=
  ⟨hfile, rfl, hoffset, Nat.le_refl _, hle, by simp, by simp, by simp⟩

/-- The look that begins to read brings nothing to light itself. -/
theorem hasRead_of_begins (hsees : s.sees? m = some bytes) (h : s.tail.BeginsAt bytes.length base) :
    (s.step m).HasRead s.tail.encoding base s.found bytes base [] := by
  obtain ⟨asleepUntil, hstep⟩ := step_of_sees hsees
  have hfile := file_of_sees hsees
  cases h with
  | atEnd hnone =>
      rw [FileTail.look_of_unread hnone] at hstep
      rw [hstep]
      exact hasRead_self hfile rfl (Nat.le_refl _)
  | atStart hoffset hlt =>
      rw [FileTail.look_of_shrunk hoffset hlt] at hstep
      rw [hstep]
      exact hasRead_self hfile rfl (Nat.zero_le _)

/-- Bytes that are added in other pieces, and between other requests, bring the same to light. -/
theorem found_eq_of_addedBy_eq {moves' : List TailMove} {last last' : TailMove}
    {seen' : List UInt8} (hsees : s.sees? m = some bytes)
    (hbegins : s.tail.BeginsAt bytes.length base) (hkeeps : ∀ m ∈ moves, m.keeps)
    (hkeeps' : ∀ m ∈ moves', m.keeps) (hadded : addedBy moves = addedBy moves')
    (hlast : ((s.step m).run moves).sees? last = some seen)
    (hlast' : ((s.step m).run moves').sees? last' = some seen') :
    (((s.step m).run moves).step last).found = (((s.step m).run moves').step last').found ∧
      (((s.step m).run moves).step last).tail.offset =
        (((s.step m).run moves').step last').tail.offset := by
  have hbegun := hasRead_of_begins hsees hbegins
  obtain ⟨hseen, offset, lines, hread, hrest⟩ := hbegun.look_of_grown hkeeps hlast
  obtain ⟨hseen', offset', lines', hread', hrest'⟩ := hbegun.look_of_grown hkeeps' hlast'
  obtain rfl : seen = seen' := by rw [hseen, hseen', hadded]
  obtain ⟨rfl, _⟩ := (hread.cutInto hrest).unique (hread'.cutInto hrest')
  refine ⟨hread.found_eq.trans hread'.found_eq.symm, ?_⟩
  rw [hread.offset_eq, hread'.offset_eq, hread.offset_eq_add, hread'.offset_eq_add]

end Tailing

/-- Let a look of a tail begin to read its file at `base`, and let the file only grow from then on,
in whatever pieces and whatever is asked of the tail meanwhile. Then at any time the tail stands at
`base` or behind a line feed, and what it has brought to light since is the texts of the lines from
`base` up to where it stands. A look, which sees all bytes added by then, leaves no line feed behind
that place. The first look of all begins behind the last byte, with nothing brought to light. -/
theorem growing_file_is_read {path : String} {encoding : Encoding} {interval : Nanos}
    {file : FileState} {before moves : List TailMove} {first : TailMove} {bytes : List UInt8}
    {base : Nat} {s e : Tailing} (hs : s = (Tailing.start path encoding interval file).run before)
    (hsees : s.sees? first = some bytes) (hbegins : s.tail.BeginsAt bytes.length base)
    (hkeeps : ∀ m ∈ moves, m.keeps) (he : e = (s.step first).run moves) :
    (∃ offset lines,
        e.HasRead encoding base s.found (bytes ++ addedBy moves) offset lines ∧
          (offset = base ∨ base < offset ∧ (bytes ++ addedBy moves)[offset - 1]? = some 10)) ∧
      (∀ m seen, e.sees? m = some seen →
        seen = bytes ++ addedBy moves ∧
          ∃ offset lines, (e.step m).HasRead encoding base s.found seen offset lines ∧
            10 ∉ seen.drop offset) ∧
      (s.tail.offset = none → base = bytes.length ∧ s.found = []) := by
  have hencoding : encoding = s.tail.encoding := by rw [hs, Tailing.run_encoding]; rfl
  have hunread : s.tail.offset = none → s.found = [] := by
    rw [hs]
    exact Tailing.found_of_unread
  subst he hencoding
  have hbegun := Tailing.hasRead_of_begins hsees hbegins
  refine ⟨?_, fun m seen => hbegun.look_of_grown hkeeps, ?_⟩
  · obtain ⟨offset, lines, hread⟩ := hbegun.run hkeeps
    exact ⟨offset, lines, hread, hread.border⟩
  · intro hnone
    refine ⟨?_, hunread hnone⟩
    cases hbegins with
    | atEnd => rfl
    | atStart hoffset => simp [hnone] at hoffset

/-- A file that was emptied, to which a line comes in pieces that cut a character and its end: the
character is brought to light. -/
theorem emptied_file_is_read :
    let s := (Tailing.start "latest.log" .utf8 0 (.content [111, 108, 100, 10])).run
      [.poll, .replace (.content [])]
    let e := (s.step .poll).run
      [.append [0xE5], .ask 0, .append [0x9C, 0xA8, 13], .poll, .append [10, 97]]
    s.sees? .poll = some [] ∧ s.tail.BeginsAt 0 0 ∧ (e.step .poll).found = ["在"] ∧
      ∃ offset lines,
        (e.step .poll).HasRead .utf8 0 [] [0xE5, 0x9C, 0xA8, 13, 10, 97] offset lines ∧
          (10 : UInt8) ∉ List.drop offset [0xE5, 0x9C, 0xA8, 13, 10, 97] := by
  intro s e
  have hbegins : s.tail.BeginsAt 0 0 := .atStart rfl (by decide)
  have hsees : s.sees? .poll = some [] := rfl
  have hread := growing_file_is_read (Eq.refl s) hsees hbegins (by decide) (Eq.refl e)
  exact ⟨hsees, hbegins, by decide +kernel, (hread.2.1 .poll _ rfl).2⟩

end LogWarden
