import LogWarden.Config.Basic
import LogWarden.Proofs.Encoding.EastAsian
import LogWarden.Proofs.Encoding.Gb18030
import LogWarden.Proofs.Encoding.Utf16
import LogWarden.Proofs.FileTail.Growing

/-!
# Lines of encoded texts

A tail cuts bytes behind line feeds and decodes the lines. In most encodings these are the lines of
the text that the bytes are decoded to. In UTF-16 the byte of a line feed may be half of a unit, and
the cut may be inside one. In ISO-2022-JP a line that is decoded by itself may be decoded in another
mode than behind the line before it.

## Implementation notes

The bytes of a text are any that are decoded to it. So the results also hold of bytes that are lost
in decoding, where the text has a replacement character.
-/

namespace LogWarden

/-- The text of lines, each with a line feed at its end. -/
def Text.ofLines (bodies : List (List Char)) : List Char :=
  (bodies.map (· ++ ['\n'])).flatten

/-- The lines that a reader of a text wants to see: without white space at their ends, and none that
is empty. -/
def Text.shownLines (bodies : List (List Char)) : List String :=
  (bodies.map fun body => String.ofList (trimEnd body)).filter (· ≠ "")

variable {bodies bodies' : List (List Char)} {text text' : List Char} {bytes rest : List UInt8}
  {lines : List (List UInt8)}

namespace Text

/-- A text has its lines in one way. -/
theorem bodies_eq_of_ofLines (hbodies : ∀ b ∈ bodies, '\n' ∉ b) (hbodies' : ∀ b ∈ bodies', '\n' ∉ b)
    (htext : '\n' ∉ text) (h : ofLines bodies ++ text = ofLines bodies') : bodies = bodies' := by
  induction bodies generalizing bodies' with
  | nil =>
      cases bodies' with
      | nil => rfl
      | cons body' bodies' =>
          rw [show text = _ from h] at htext
          simp [ofLines] at htext
  | cons body bodies ih =>
      cases bodies' with
      | nil => simp [ofLines] at h
      | cons body' bodies' =>
          obtain ⟨hbody, hlater⟩ := List.forall_mem_cons.mp hbodies
          obtain ⟨hbody', hlater'⟩ := List.forall_mem_cons.mp hbodies'
          have heq : body ++ '\n' :: (ofLines bodies ++ text) = body' ++ '\n' :: ofLines bodies' := by
            simpa [ofLines] using h
          obtain ⟨rfl, hrest⟩ := body_eq_of_append_eq hbody hbody' heq
          rw [ih hlater hlater' hrest]

theorem trimEnd_append_feed (text : List Char) : trimEnd (text ++ ['\n']) = trimEnd text := by
  have hblank : Unicode.isWhiteSpace '\n' = true := by decide
  simp [trimEnd, hblank]

theorem trimEnd_append_of_not_blank {c : Char} (hc : Unicode.isWhiteSpace c = false)
    (text : List Char) : trimEnd (text ++ [c]) = text ++ [c] := by
  simp [trimEnd, hc]

theorem mem_of_mem_trimEnd {c : Char} (h : c ∈ trimEnd text) : c ∈ text := by
  rw [trimEnd, List.mem_reverse] at h
  exact List.mem_reverse.mp ((List.dropWhile_sublist _).subset h)

end Text

open Text

namespace Encoding

variable {e : Encoding}

/-! ## Encodings that keep lines -/

/-- All encodings but UTF-16 and ISO-2022-JP keep lines; what stands for unsafe encodings has
none. -/
theorem keepsLines {e : Encoding} (hlittle : e ≠ .utf16le) (hbig : e ≠ .utf16be)
    (hmodes : e ≠ .iso2022Jp) (hlossy : e ≠ .replacement) : e.KeepsLines := by
  cases e with
  | utf8 => exact .of_reader Utf8.stopsAtFeeds fun bytes => by rw [decode]
  | gbk => exact .of_reader Gb18030.stopsAtFeeds fun bytes => by rw [decode]
  | gb18030 => exact .of_reader Gb18030.stopsAtFeeds fun bytes => by rw [decode]
  | big5 => exact .of_reader Big5.stopsAtFeeds fun bytes => by rw [decode]
  | eucJp => exact .of_reader EucJp.stopsAtFeeds fun bytes => by rw [decode]
  | shiftJis => exact .of_reader ShiftJis.stopsAtFeeds fun bytes => by rw [decode]
  | eucKr => exact .of_reader EucKr.stopsAtFeeds fun bytes => by rw [decode]
  | userDefined => exact .of_map rfl userDefinedChar_ne fun bytes => by rw [decode]
  | codePage page => exact .of_map rfl page.char_ne fun bytes => by rw [decode]
  | utf16le => exact absurd rfl hlittle
  | utf16be => exact absurd rfl hbig
  | iso2022Jp => exact absurd rfl hmodes
  | replacement => exact absurd rfl hlossy

theorem decode_nil (e : Encoding) : e.decode [] = [] := by
  cases e <;> simp [decode, decodeWith, Iso2022Jp.decode]

namespace KeepsLines

theorem decode_line (h : e.KeepsLines) {line : List UInt8} (hline : IsLine line) :
    ∃ body, '\n' ∉ body ∧ e.decode line = body ++ ['\n'] ∧
      ∀ rest, e.decode (line ++ rest) = body ++ '\n' :: e.decode rest := by
  obtain ⟨bytes, rfl, hbytes⟩ := hline
  obtain ⟨body, hbody, hdecode⟩ := h.line bytes hbytes
  refine ⟨body, hbody, ?_, fun rest => ?_⟩
  · rw [hdecode, decode_nil]
  · rw [List.append_assoc, List.singleton_append, hdecode]

/-- The lines of bytes are decoded to the lines of the text. -/
theorem decode_lines (h : e.KeepsLines) (hcut : CutInto bytes lines rest) :
    ∃ bodies, (∀ b ∈ bodies, '\n' ∉ b) ∧ lines.map e.decode = bodies.map (· ++ ['\n']) ∧
      e.decode bytes = ofLines bodies ++ e.decode rest := by
  obtain ⟨rfl, hlines, -⟩ := hcut
  induction lines with
  | nil => exact ⟨[], by simp, rfl, rfl⟩
  | cons line lines ih =>
      obtain ⟨hline, hlines⟩ := List.forall_mem_cons.mp hlines
      obtain ⟨body, hbody, hdecode, hahead⟩ := h.decode_line hline
      obtain ⟨bodies, hbodies, hmap, hflat⟩ := ih hlines
      refine ⟨body :: bodies, List.forall_mem_cons.mpr ⟨hbody, hbodies⟩, ?_, ?_⟩
      · rw [List.map_cons, List.map_cons, hdecode, hmap]
      · rw [List.flatten_cons, List.append_assoc, hahead, hflat]
        simp [ofLines]

end KeepsLines

/-- The texts of lines that are decoded to the lines of a text. -/
theorem lineTexts_of_map (h : lines.map e.decode = bodies.map (· ++ ['\n'])) :
    e.lineTexts lines = shownLines bodies := by
  have htexts : lines.map e.decodeLine =
      (lines.map e.decode).map fun text => String.ofList (trimEnd text) := by
    rw [List.map_map]
    rfl
  rw [lineTexts, shownLines, htexts, h, List.map_map]
  congr 2
  funext body
  rw [Function.comp_apply, trimEnd_append_feed]

/-- Where the lines of bytes are decoded to lines and what stands in front of the rest of a text, they
are decoded to the lines of the text. -/
theorem lineTexts_of_decoded (hcut : CutInto bytes lines rest) (hbodies : ∀ b ∈ bodies, '\n' ∉ b)
    (hbodies' : ∀ b ∈ bodies', '\n' ∉ b) (hmap : lines.map e.decode = bodies'.map (· ++ ['\n']))
    (htail : '\n' ∉ text) (htext : ofLines bodies' ++ text = ofLines bodies) :
    e.lineTexts (wholeLines bytes) = shownLines bodies := by
  obtain rfl := bodies_eq_of_ofLines hbodies' hbodies htail htext
  rw [hcut.wholeLines_eq]
  exact lineTexts_of_map hmap

/-- In an encoding that is neither UTF-16 nor ISO-2022-JP the lines of bytes are those of their
text. -/
theorem lineTexts_wholeLines (hlittle : e ≠ .utf16le) (hbig : e ≠ .utf16be)
    (hmodes : e ≠ .iso2022Jp) (hbodies : ∀ b ∈ bodies, '\n' ∉ b)
    (htext : e.decode bytes = ofLines bodies) :
    e.lineTexts (wholeLines bytes) = shownLines bodies := by
  by_cases hlossy : e = .replacement
  · -- what stands for all bytes has no line feed at its end, so there are no bytes
    subst hlossy
    have hfeed : '\n' ∉ decode .replacement bytes := by cases bytes <;> simp [decode]
    cases bodies with
    | nil =>
        cases bytes with
        | nil => rfl
        | cons b bytes => simp [decode, ofLines] at htext
    | cons body bodies =>
        rw [htext] at hfeed
        simp [ofLines] at hfeed
  · have hkeeps := keepsLines hlittle hbig hmodes hlossy
    obtain ⟨rest, hcut⟩ := cutInto_wholeLines bytes
    obtain ⟨bodies', hbodies', hmap, hdecode⟩ := hkeeps.decode_lines hcut
    rw [htext] at hdecode
    exact lineTexts_of_decoded hcut hbodies hbodies' hmap (hkeeps.rest rest hcut.unended)
      hdecode.symm

/-! ## Clear texts in ISO-2022-JP -/

namespace Iso2022Jp

theorem isClear_of_isAscii (h : IsAscii text) : IsClear text := by
  intro c hc
  have hlt := h c hc
  refine ⟨?_, ?_, ?_⟩ <;>
    · rintro rfl
      exact absurd hlt (by decide)

theorem isClear_ofLines (h : ∀ b ∈ bodies, IsClear b) : IsClear (ofLines bodies) := by
  intro c hc
  obtain ⟨line, hline, hc⟩ := List.mem_flatten.mp hc
  obtain ⟨body, hbody, rfl⟩ := List.mem_map.mp hline
  rcases List.mem_append.mp hc with hc | hc
  · exact h body hbody c hc
  · rw [List.mem_singleton.mp hc]
    decide

/-- The lines of bytes that are decoded to clear text are decoded to its lines, each by itself. -/
theorem decode_lines {m : Mode} {escaped : Bool} (hlatin : m.IsLatin)
    (hlines : ∀ line ∈ lines, IsLine line)
    (hclear : IsClear (decode m escaped (lines.flatten ++ rest))) :
    ∃ bodies next escaped', (∀ b ∈ bodies, '\n' ∉ b) ∧
      lines.map (decode .ascii false) = bodies.map (· ++ ['\n']) ∧
        decode m escaped (lines.flatten ++ rest) = ofLines bodies ++ decode next escaped' rest := by
  induction lines generalizing m escaped with
  | nil => exact ⟨[], m, escaped, by simp, rfl, rfl⟩
  | cons line lines ih =>
      obtain ⟨⟨body, rfl, hbody⟩, hlater⟩ := List.forall_mem_cons.mp hlines
      simp only [List.flatten_cons, List.append_assoc, List.cons_append, List.nil_append] at hclear ⊢
      obtain ⟨text, next, htext, hnext, hline, hall⟩ := exists_line hbody hclear
      rw [hall, isClear_append, isClear_cons] at hclear
      obtain ⟨bodies, last, escaped', hbodies, hmap, hrest⟩ := ih hnext hlater hclear.2.2
      -- the line is clear, so it is decoded to the same from the first mode
      have hself : decode .ascii false (body ++ [10]) = text ++ ['\n'] := by
        rw [← hline]
        apply decode_ascii_of_isClear hlatin
        rw [hline, isClear_append]
        exact ⟨hclear.1, isClear_cons.mpr ⟨hclear.2.1, List.forall_mem_nil _⟩⟩
      refine ⟨text :: bodies, last, escaped', List.forall_mem_cons.mpr ⟨htext, hbodies⟩, ?_, ?_⟩
      · rw [List.map_cons, List.map_cons, hself, hmap]
      · rw [hall, hrest]
        simp [ofLines]

end Iso2022Jp

/-- In ISO-2022-JP the lines of bytes are those of their text if that is clear. -/
theorem lineTexts_iso2022Jp (hbodies : ∀ b ∈ bodies, '\n' ∉ b)
    (hclear : ∀ b ∈ bodies, Iso2022Jp.IsClear b) (htext : decode .iso2022Jp bytes = ofLines bodies) :
    lineTexts .iso2022Jp (wholeLines bytes) = shownLines bodies := by
  obtain ⟨rest, hcut⟩ := cutInto_wholeLines bytes
  have hall := Iso2022Jp.isClear_ofLines hclear
  rw [← htext, decode, hcut.eq] at hall
  obtain ⟨bodies', next, escaped, hbodies', hmap, hdecode⟩ :=
    Iso2022Jp.decode_lines (.inl rfl) hcut.isLine hall
  rw [← hcut.eq] at hdecode
  have hrest : '\n' ∉ Iso2022Jp.decode next escaped rest := Iso2022Jp.not_mem_decode hcut.unended
  refine lineTexts_of_decoded hcut hbodies hbodies' ?_ hrest ?_
  · rw [← hmap]
    exact List.map_congr_left fun line _ => by rw [decode]
  · rw [← hdecode, ← htext, decode]

/-- In the first line a yen sign is shown, and in the second one a backslash: it is decoded in the
first mode. -/
example :
    decode .iso2022Jp [0x1B, 0x28, 0x4A, 0x5C, 10, 0x5C, 10] = ofLines [['¥'], ['¥']] ∧
      lineTexts .iso2022Jp (wholeLines [0x1B, 0x28, 0x4A, 0x5C, 10, 0x5C, 10]) = ["¥", "\\"] := by
  decide +kernel

/-! ## Texts of ASCII in UTF-16 -/

section Utf16

open Utf16

variable {order : ByteOrder} {body : List Char}

theorem not_mem_flatMap_asciiBytes (hbody : '\n' ∉ body) (hascii : IsAscii body) :
    10 ∉ body.flatMap (asciiBytes order) := by
  intro hmem
  obtain ⟨c, hc, hbyte⟩ := List.mem_flatMap.mp hmem
  have hlt := hascii c hc
  have hchar : (10 : UInt8) = UInt8.ofNat c.toNat := by
    cases order <;> simpa [asciiBytes] using hbyte
  have hfeed : c.toNat = '\n'.toNat := by
    rw [← UInt8.toNat_inj, UInt8.toNat_ofNat', Nat.mod_eq_of_lt (by omega)] at hchar
    exact hchar.symm
  exact hbody (Char.toNat_inj.mp hfeed ▸ hc)

theorem isAscii_ofLines (hascii : ∀ b ∈ bodies, IsAscii b) : IsAscii (ofLines bodies) := by
  intro c hc
  obtain ⟨line, hline, hc⟩ := List.mem_flatten.mp hc
  obtain ⟨body, hbody, rfl⟩ := List.mem_map.mp hline
  rcases List.mem_append.mp hc with hc | hc
  · exact hascii body hbody c hc
  · rw [List.mem_singleton.mp hc]
    decide

theorem flatMap_ofLines (f : Char → List UInt8) (bodies : List (List Char)) :
    (ofLines bodies).flatMap f = (bodies.map fun body => body.flatMap f ++ f '\n').flatten := by
  induction bodies with
  | nil => rfl
  | cons body bodies ih =>
      rw [List.map_cons, List.flatten_cons, ← ih]
      simp [ofLines]

/-- The lines of the bytes of a text of ASCII. -/
theorem cutInto_utf16be (hbodies : ∀ b ∈ bodies, '\n' ∉ b) (hascii : ∀ b ∈ bodies, IsAscii b) :
    CutInto ((ofLines bodies).flatMap (asciiBytes .big))
      (bodies.map fun body => body.flatMap (asciiBytes .big) ++ asciiBytes .big '\n') [] := by
  refine ⟨by rw [flatMap_ofLines, List.append_nil], ?_, List.not_mem_nil⟩
  intro line hline
  obtain ⟨body, hbody, rfl⟩ := List.mem_map.mp hline
  have hnot : 10 ∉ body.flatMap (asciiBytes .big) :=
    not_mem_flatMap_asciiBytes (hbodies body hbody) (hascii body hbody)
  refine ⟨body.flatMap (asciiBytes .big) ++ [0], by simp [asciiBytes], ?_⟩
  simp [hnot]

theorem lineTexts_utf16be (hbodies : ∀ b ∈ bodies, '\n' ∉ b) (hascii : ∀ b ∈ bodies, IsAscii b)
    (htext : decode .utf16be bytes = ofLines bodies) :
    lineTexts .utf16be (wholeLines bytes) = shownLines bodies := by
  rw [decode] at htext
  have hall := isAscii_ofLines hascii
  rw [← htext] at hall
  have hbytes := eq_flatMap_of_decodeWith hall
  rw [htext] at hbytes
  rw [hbytes, (cutInto_utf16be hbodies hascii).wholeLines_eq]
  refine lineTexts_of_map ?_
  rw [List.map_map]
  have hfeed : decodeWith (single (Utf16.read .big)) (asciiBytes .big '\n') = ['\n'] := by
    rw [← List.append_nil (asciiBytes _ _), decodeWith_asciiBytes (by decide), decodeWith]
  refine List.map_congr_left fun body hbody => ?_
  rw [Function.comp_apply, decode, decodeWith_flatMap (hascii body hbody), hfeed]

/-- A character that is not of ASCII may be cut. -/
example :
    decode .utf16be [0x0A, 0x05, 0, 10] = ofLines [['\u0A05']] ∧
      lineTexts .utf16be (wholeLines [0x0A, 0x05, 0, 10]) = ["\uFFFD", "\u0500\uFFFD"] := by
  decide +kernel

/-- The first line has half of a unit behind it, and that is lost. -/
theorem lost_mem_lineTexts_utf16le (hbody : '\n' ∉ body) (hascii : IsAscii body)
    (rest : List UInt8) :
    String.ofList (body ++ ['\uFFFD']) ∈
      lineTexts .utf16le (wholeLines (body.flatMap (asciiBytes .little) ++ 10 :: rest)) := by
  have hline : IsLine (body.flatMap (asciiBytes .little) ++ [10]) :=
    ⟨_, rfl, not_mem_flatMap_asciiBytes hbody hascii⟩
  have hcut := wholeLines_flatten_append (List.forall_mem_singleton.mpr hline) rest
  rw [List.flatten_singleton, List.append_assoc, List.singleton_append] at hcut
  have htext : decodeLine .utf16le (body.flatMap (asciiBytes .little) ++ [10]) =
      String.ofList (body ++ ['\uFFFD']) := by
    have hlost : decodeWith (single (Utf16.read .little)) [10] = ['\uFFFD'] := by
      rw [decodeWith_single_cons, Utf16.read, List.drop_nil, decodeWith]
    rw [decodeLine, decode, decodeWith_flatMap hascii, hlost,
      trimEnd_append_of_not_blank (by decide)]
  rw [hcut, lineTexts, List.singleton_append, List.map_cons, htext, List.mem_filter]
  exact ⟨List.mem_cons_self, by simp⟩

theorem lineTexts_utf16le_ne (hbodies : ∀ b ∈ bodies, '\n' ∉ b) (hascii : ∀ b ∈ bodies, IsAscii b)
    (hne : bodies ≠ []) (htext : decode .utf16le bytes = ofLines bodies) :
    lineTexts .utf16le (wholeLines bytes) ≠ shownLines bodies := by
  rw [decode] at htext
  have hall := isAscii_ofLines hascii
  rw [← htext] at hall
  have hbytes := eq_flatMap_of_decodeWith hall
  rw [htext] at hbytes
  obtain ⟨body, later, rfl⟩ := List.exists_cons_of_ne_nil hne
  have hlost := lost_mem_lineTexts_utf16le (hbodies body (by simp)) (hascii body (by simp))
    (0 :: (ofLines later).flatMap (asciiBytes .little))
  intro heq
  have hfirst : bytes = body.flatMap (asciiBytes .little) ++
      10 :: 0 :: (ofLines later).flatMap (asciiBytes .little) := by
    rw [hbytes, flatMap_ofLines, flatMap_ofLines]
    simp [asciiBytes]
  rw [← hfirst, heq] at hlost
  obtain ⟨other, hother, htexts⟩ := List.mem_map.mp (List.mem_filter.mp hlost).1
  have hmem : '\uFFFD' ∈ trimEnd other := by
    rw [String.ofList_inj.mp htexts]
    simp
  have hlt := hascii other hother _ (mem_of_mem_trimEnd hmem)
  exact absurd hlt (by decide)

/-- In UTF-16LE no text of ASCII has its lines, unless it has none. -/
theorem lineTexts_utf16le_iff (hbodies : ∀ b ∈ bodies, '\n' ∉ b)
    (hascii : ∀ b ∈ bodies, IsAscii b) (htext : decode .utf16le bytes = ofLines bodies) :
    lineTexts .utf16le (wholeLines bytes) = shownLines bodies ↔ bodies = [] := by
  constructor
  · intro heq
    by_contra hne
    exact lineTexts_utf16le_ne hbodies hascii hne htext heq
  · rintro rfl
    cases bytes with
    | nil => rfl
    | cons b bytes => simp [decode, decodeWith, single, ofLines] at htext

end Utf16

end Encoding

/-! ## Tails -/

/-- Once a tail has looked at what was added to its file since it looked first, it has brought to
light the texts of the lines of that. -/
theorem Tailing.found_of_added {path : String} {encoding : Encoding} {interval : Nanos}
    {file : FileState} {before moves : List TailMove} {first last : TailMove} {old seen : List UInt8}
    {s : Tailing} (hs : s = (Tailing.start path encoding interval file).run before)
    (hunread : s.tail.offset = none) (hsees : s.sees? first = some old)
    (hkeeps : ∀ m ∈ moves, m.keeps) (hlast : ((s.step first).run moves).sees? last = some seen) :
    (((s.step first).run moves).step last).found =
      encoding.lineTexts (wholeLines (addedBy moves)) := by
  have hencoding : s.tail.encoding = encoding := by
    rw [hs, Tailing.run_encoding]
    rfl
  have hfound : s.found = [] := by
    rw [hs] at hunread ⊢
    exact Tailing.found_of_unread hunread
  obtain ⟨rfl, offset, lines, hread, hrest⟩ :=
    (Tailing.hasRead_of_begins hsees (.atEnd hunread)).look_of_grown hkeeps hlast
  have hcut := hread.cutInto hrest
  rw [List.drop_left] at hcut
  rw [hread.found_eq, hencoding, hfound, List.nil_append, hcut.wholeLines_eq,
    Encoding.lineTexts]

/-- Let bytes be added to a file since its tail looked at it first, in whatever pieces, and let them
be decoded to a text of lines. Once the tail has looked at all of them, it has brought to light the
lines of the text if the encoding is neither UTF-16 nor ISO-2022-JP; in ISO-2022-JP it has if nothing
is lost and the text has no yen sign and no overline. If all characters of the text are of ASCII, it
has done so in each encoding but UTF-16LE, and in that only if there are no lines. -/
theorem tail_of_encoded_lines {path : String} {encoding : Encoding} {interval : Nanos}
    {file : FileState} {before moves : List TailMove} {first last : TailMove} {old seen : List UInt8}
    {s e : Tailing} (hs : s = (Tailing.start path encoding interval file).run before)
    (hunread : s.tail.offset = none) (hsees : s.sees? first = some old)
    (hkeeps : ∀ m ∈ moves, m.keeps) (he : e = (s.step first).run moves)
    (hlast : e.sees? last = some seen) (hbodies : ∀ b ∈ bodies, '\n' ∉ b)
    (htext : encoding.decode (addedBy moves) = Text.ofLines bodies) :
    (encoding ≠ .utf16le → encoding ≠ .utf16be → encoding ≠ .iso2022Jp →
        (e.step last).found = Text.shownLines bodies) ∧
      (encoding = .iso2022Jp → (∀ b ∈ bodies, ∀ c ∈ b, c ≠ '¥' ∧ c ≠ '‾' ∧ c ≠ '\uFFFD') →
        (e.step last).found = Text.shownLines bodies) ∧
      ((∀ b ∈ bodies, Encoding.IsAscii b) →
        ((e.step last).found = Text.shownLines bodies ↔ encoding ≠ .utf16le ∨ bodies = [])) := by
  subst he
  rw [Tailing.found_of_added hs hunread hsees hkeeps hlast]
  have hclear : encoding = .iso2022Jp → (∀ b ∈ bodies, Encoding.Iso2022Jp.IsClear b) →
      encoding.lineTexts (wholeLines (addedBy moves)) = Text.shownLines bodies := by
    rintro rfl hclear
    exact Encoding.lineTexts_iso2022Jp hbodies hclear htext
  refine ⟨fun hlittle hbig hmodes => ?_, hclear, fun hascii => ?_⟩
  · exact Encoding.lineTexts_wholeLines hlittle hbig hmodes hbodies htext
  · by_cases hlittle : encoding = .utf16le
    · subst hlittle
      simpa using Encoding.lineTexts_utf16le_iff hbodies hascii htext
    · refine iff_of_true ?_ (.inl hlittle)
      by_cases hbig : encoding = .utf16be
      · subst hbig
        exact Encoding.lineTexts_utf16be hbodies hascii htext
      · by_cases hmodes : encoding = .iso2022Jp
        · exact hclear hmodes fun b hb => Encoding.Iso2022Jp.isClear_of_isAscii (hascii b hb)
        · exact Encoding.lineTexts_wholeLines hlittle hbig hmodes hbodies htext

/-- Lines in GB 18030, one of which ends with more white space and one of which is empty, and lines in
ISO-2022-JP. The bytes come in pieces, of which one ends inside a character. -/
theorem tail_of_pieces :
    let settings : IngestSettings := { encoding := " GB18030 " }
    let s := Tailing.start "latest.log" .gb18030 0 (.content [111, 108, 100])
    let moves := [.append [0x94, 0x39], .poll, .append [0xFC, 0x36, 32, 13, 10, 10, 97], .append [10]]
    let e := (s.step .poll).run moves
    let settings' : IngestSettings := { encoding := "csISO2022JP" }
    let s' := Tailing.start "latest.log" .iso2022Jp 0 (.content [])
    let moves' := [.append [0x1B, 0x24, 0x42, 0x28], .poll,
      .append [0x21, 0x1B, 0x28, 0x42, 10, 97, 10]]
    let e' := (s'.step .poll).run moves'
    (settings.textEncoding = .ok .gb18030 ∧
      Encoding.gb18030.decode (addedBy moves) = Text.ofLines [['😀', ' ', '\r'], [], ['a']] ∧
        (e.step .poll).found = ["😀", "a"]) ∧
      settings'.textEncoding = .ok .iso2022Jp ∧
        Encoding.iso2022Jp.decode (addedBy moves') = Text.ofLines [['─'], ['a']] ∧
          (e'.step .poll).found = ["─", "a"] := by
  intro settings s moves e settings' s' moves' e'
  have htext : Encoding.gb18030.decode (addedBy moves) =
      Text.ofLines [['😀', ' ', '\r'], [], ['a']] := by
    decide +kernel
  have hlast : e.sees? .poll =
      some [111, 108, 100, 0x94, 0x39, 0xFC, 0x36, 32, 13, 10, 10, 97, 10] := by
    decide +kernel
  have hgiven := tail_of_encoded_lines (Eq.refl (s.run [])) rfl rfl (by decide) (Eq.refl e) hlast
    (by decide) htext
  have htext' : Encoding.iso2022Jp.decode (addedBy moves') = Text.ofLines [['─'], ['a']] := by
    decide +kernel
  have hlast' : e'.sees? .poll = some (addedBy moves') := by decide +kernel
  have hgiven' := tail_of_encoded_lines (Eq.refl (s'.run [])) rfl rfl (by decide) (Eq.refl e') hlast'
    (by decide) htext'
  refine ⟨⟨by decide +kernel, htext, ?_⟩, by decide +kernel, htext', ?_⟩
  · refine (hgiven.1 (by decide) (by decide) (by decide)).trans ?_
    decide +kernel
  · refine (hgiven'.2.1 rfl (by simp)).trans ?_
    decide +kernel

/-- So it is not true that in each encoding that a label names a tail brings to light the lines of
the text. -/
theorem not_found_eq_shownLines :
    ¬∀ (settings : IngestSettings) (encoding : Encoding) (path : String) (interval : Nanos)
        (old : List UInt8) (moves : List TailMove) (bodies : List (List Char)) (e : Tailing),
      settings.textEncoding = .ok encoding → (∀ m ∈ moves, m.keeps) →
      (∀ b ∈ bodies, '\n' ∉ b) → encoding.decode (addedBy moves) = Text.ofLines bodies →
      e = ((Tailing.start path encoding interval (.content old)).step .poll).run moves →
        (e.step .poll).found = Text.shownLines bodies := by
  intro hclaim
  have hgiven := hclaim { encoding := "utf-16le" } .utf16le "latest.log" 0 []
    [.append [97, 0, 98, 0, 10, 0, 99, 0, 100, 0, 10, 0]] [['a', 'b'], ['c', 'd']] _
    (by decide +kernel) (by decide) (by decide) (by decide +kernel) rfl
  exact absurd hgiven (by decide +kernel)

end LogWarden
