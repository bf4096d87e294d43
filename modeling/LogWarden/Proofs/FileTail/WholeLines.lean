import LogWarden.Proofs.FileTail.Growing

/-!
# Whole lines

The first look of a tail notes the end of its file and not the end of the last line. So what a tail
brings to light of a file that grows are lines of the file, one after another; but if the file ended
inside a line at the first look, the first of them lacks what stood there of it.
-/

namespace LogWarden

variable {bytes part : List UInt8} {lines old : List (List UInt8)}

/-- A line with something in front of it is a line, unless a line ends in front of it. -/
theorem IsLine.append {line : List UInt8} (h : IsLine line) (hpart : 10 ∉ part) :
    IsLine (part ++ line) := by
  obtain ⟨body, rfl, hbody⟩ := h
  refine ⟨part ++ body, by rw [List.append_assoc], ?_⟩
  rw [List.mem_append]
  exact not_or.mpr ⟨hpart, hbody⟩

/-- Bytes behind a line that is left open complete it with their first line. -/
theorem wholeLines_append_flatten (hcut : CutInto bytes old part)
    (hlines : ∀ line ∈ lines, IsLine line) (hne : lines ≠ []) (after : List UInt8) :
    wholeLines (bytes ++ (lines.flatten ++ after)) =
      old ++ lines.modifyHead (part ++ ·) ++ wholeLines after := by
  obtain ⟨line, rest, rfl⟩ := List.exists_cons_of_ne_nil hne
  have hall : ∀ l ∈ old ++ (part ++ line) :: rest, IsLine l := by
    intro l hl
    rw [List.mem_append, List.mem_cons] at hl
    rcases hl with hl | rfl | hl
    · exact hcut.isLine l hl
    · exact (hlines line List.mem_cons_self).append hcut.unended
    · exact hlines l (List.mem_cons_of_mem _ hl)
  have hbytes : bytes ++ ((line :: rest).flatten ++ after) =
      (old ++ (part ++ line) :: rest).flatten ++ after := by
    simp [hcut.eq, List.append_assoc]
  rw [hbytes, wholeLines_flatten_append hall, List.modifyHead_cons]

/-- What stands in front of the first of some lines changes it, unless it is nothing. -/
theorem modifyHead_append_eq_self_iff :
    lines.modifyHead (part ++ ·) = lines ↔ lines = [] ∨ part = [] := by
  cases lines with
  | nil => simp
  | cons line rest => simp

namespace Tailing

variable {s e : Tailing} {first : TailMove} {moves : List TailMove} {encoding : Encoding}
  {earlier : List String} {offset : Nat}

/-- What has been read from the end of the bytes that stood in a file on makes lines of the file, of
which the first begins with what was left open. -/
theorem HasRead.prefix_wholeLines {seen : List UInt8} (hcut : CutInto bytes old part)
    (h : e.HasRead encoding bytes.length earlier (bytes ++ seen) offset lines) :
    old ++ lines.modifyHead (part ++ ·) <+: wholeLines (bytes ++ seen) := by
  have hbytes : bytes ++ seen = bytes ++ (lines.flatten ++ (bytes ++ seen).drop offset) := by
    have hlength : bytes.length ≤ ((bytes ++ seen).take offset).length := by
      rw [List.length_take_of_le h.offset_le]
      exact h.base_le
    calc
      bytes ++ seen = bytes ++ (bytes ++ seen).drop bytes.length := by rw [List.drop_left]
      _ = bytes ++ ((bytes ++ seen).take offset ++ (bytes ++ seen).drop offset).drop
            bytes.length := by rw [List.take_append_drop]
      _ = bytes ++ (lines.flatten ++ (bytes ++ seen).drop offset) := by
        rw [List.drop_append_of_le_length hlength, h.flatten_eq]
  by_cases hne : lines = []
  · subst hne
    have hold := wholeLines_flatten_append hcut.isLine (part ++ seen)
    rw [← List.append_assoc, ← hcut.eq] at hold
    rw [List.modifyHead_nil, List.append_nil, hold]
    exact List.prefix_append _ _
  · rw [hbytes, wholeLines_append_flatten hcut h.isLine hne]
    exact List.prefix_append _ _

end Tailing

/-- Let a tail look at its file for the first time, and let the file only grow from then on. What
the tail has brought to light at any time are the texts of lines that it has read. Put behind what
the file held of a line at the first look, these are lines of the file, one after another. So the
lines that were read are lines of the file exactly if the file was empty then or ended with a line
feed, or if no line has been read yet. -/
theorem tail_lines_whole_iff {path : String} {encoding : Encoding} {interval : Nanos}
    {file : FileState} {before moves : List TailMove} {first : TailMove} {bytes : List UInt8}
    {s e : Tailing} (hs : s = (Tailing.start path encoding interval file).run before)
    (hunread : s.tail.offset = none) (hsees : s.sees? first = some bytes)
    (hkeeps : ∀ m ∈ moves, m.keeps) (he : e = (s.step first).run moves) :
    ∃ old part lines, CutInto bytes old part ∧ e.found = encoding.lineTexts lines ∧
      old ++ lines.modifyHead (part ++ ·) <+: wholeLines (bytes ++ addedBy moves) ∧
      (old ++ lines <+: wholeLines (bytes ++ addedBy moves) ↔
        bytes = [] ∨ bytes.getLast? = some 10 ∨ lines = []) ∧
      (bytes = [] ∨ bytes.getLast? = some 10 → ∀ text ∈ e.found,
        ∃ line, IsLineOf (bytes ++ addedBy moves) line ∧ encoding.decodeLine line = text) := by
  have hencoding : s.tail.encoding = encoding := by
    rw [hs, Tailing.run_encoding]
    rfl
  have hfound : s.found = [] := by
    rw [hs] at hunread ⊢
    exact Tailing.found_of_unread hunread
  obtain ⟨part, hcut⟩ := cutInto_wholeLines bytes
  obtain ⟨offset, lines, hread⟩ :=
    (Tailing.hasRead_of_begins hsees (.atEnd hunread)).run hkeeps
  rw [← he, hencoding, hfound] at hread
  have hprefix := hread.prefix_wholeLines hcut
  have hwhole : wholeLines bytes ++ lines <+: wholeLines (bytes ++ addedBy moves) ↔
      lines = [] ∨ part = [] := by
    rw [← modifyHead_append_eq_self_iff]
    constructor
    · intro h
      have heq := (List.prefix_of_prefix_length_le hprefix h (by simp)).eq_of_length (by simp)
      exact List.append_cancel_left heq
    · intro h
      rwa [h] at hprefix
  have hlines : e.found = encoding.lineTexts lines := by
    rw [hread.found_eq, List.nil_append, Encoding.lineTexts]
  refine ⟨wholeLines bytes, part, lines, hcut, hlines, hprefix, ?_, ?_⟩
  · rw [hwhole, or_comm, hcut.rest_eq_nil_iff, or_assoc]
  · intro hends text htext
    have hpart := hcut.rest_eq_nil_iff.mpr hends
    rw [hread.found_eq, List.nil_append] at htext
    obtain ⟨line, hline, rfl⟩ := List.mem_map.mp (List.mem_filter.mp htext).1
    refine ⟨line, ?_, rfl⟩
    rw [isLineOf_iff_mem_wholeLines]
    exact (hwhole.mpr (.inr hpart)).subset (List.mem_append_right _ hline)

/-- A tail that looks at a file for the first time while a line is being written. -/
def lateTail : Tailing :=
  Tailing.start "latest.log" .utf8 0 (.content [111, 107, 10, 112, 97, 114])

/-- The end of the line and the line behind it come to light. -/
theorem lateTail_lines :
    let e := (lateTail.step .poll).run [.append [116, 10, 110, 101], .ask 0, .append [119, 10], .poll]
    lateTail.sees? .poll = some [111, 107, 10, 112, 97, 114] ∧ e.found = ["t", "new"] ∧
      ∃ old part lines, CutInto [111, 107, 10, 112, 97, 114] old part ∧
        e.found = Encoding.utf8.lineTexts lines ∧
        ¬(old ++ lines <+: wholeLines [111, 107, 10, 112, 97, 114, 116, 10, 110, 101, 119, 10]) := by
  intro e
  have hstart : lateTail = (Tailing.start "latest.log" .utf8 0
      (.content [111, 107, 10, 112, 97, 114])).run [] := rfl
  have hsees : lateTail.sees? .poll = some [111, 107, 10, 112, 97, 114] := rfl
  have hfound : e.found = ["t", "new"] := by decide +kernel
  obtain ⟨old, part, lines, hcut, htexts, -, hwhole, -⟩ :=
    tail_lines_whole_iff hstart rfl hsees (by decide) (Eq.refl e)
  refine ⟨hsees, hfound, old, part, lines, hcut, htexts, ?_⟩
  intro hprefix
  rcases hwhole.mp hprefix with hnil | hlast | rfl
  · cases hnil
  · exact absurd hlast (by decide)
  · rw [hfound] at htexts
    exact absurd htexts (by decide)

/-- So it is not true that every line that a tail gives of a file that grows is one of the file. -/
theorem not_isLineOf_of_given :
    ¬∀ (path : String) (encoding : Encoding) (interval : Nanos) (bytes : List UInt8)
        (moves : List TailMove) (e : Tailing), (∀ m ∈ moves, m.keeps) →
      e = (Tailing.start path encoding interval (.content bytes)).run moves →
        ∀ text ∈ e.given, ∃ line, IsLineOf (bytes ++ addedBy moves) line ∧
          encoding.decodeLine line = text := by
  intro hclaim
  obtain ⟨line, hline, htext⟩ := hclaim "latest.log" .utf8 0 [112, 97, 114]
    [.poll, .append [116, 105, 97, 108, 10, 110, 101, 120, 116, 10], .ask 0, .ask 0] _ (by decide)
    rfl "tial" (by decide +kernel)
  rw [isLineOf_iff_mem_wholeLines] at hline
  have hother : ∀ line ∈ wholeLines [112, 97, 114, 116, 105, 97, 108, 10, 110, 101, 120, 116, 10],
      Encoding.utf8.decodeLine line ≠ "tial" := by
    decide +kernel
  exact hother line hline htext

end LogWarden
