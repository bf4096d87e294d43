import LogWarden.Encoding.Decode
import LogWarden.Proofs.Unicode.Caseless
import Mathlib.Tactic.SplitIfs

/-!
# Line feeds in encoded texts

In most encodings the byte of the line feed is one wherever it stands: it is never part of another
character, and no character is decoded from bytes on both sides of it. So bytes may be cut behind
line feeds before they are decoded. In UTF-16 this is not so.
-/

namespace LogWarden.Encoding

/-- Decoding goes line by line: what a line is decoded to has a line feed at its end and nowhere
else, whatever follows the line. -/
structure KeepsLines (e : Encoding) : Prop where
  line : ∀ body, 10 ∉ body → ∃ text, '\n' ∉ text ∧
    ∀ rest, e.decode (body ++ 10 :: rest) = text ++ '\n' :: e.decode rest
  rest : ∀ bytes, 10 ∉ bytes → '\n' ∉ e.decode bytes

/-- A reader of texts takes a line feed by itself, makes none of other bytes, and does not look behind
one. -/
structure StopsAtFeeds (read : UInt8 → List UInt8 → List Char × Nat) : Prop where
  feed : ∀ rest, read 10 rest = (['\n'], 0)
  not_mem : ∀ b rest, b ≠ 10 → '\n' ∉ (read b rest).1
  before : ∀ b body rest, read b (body ++ 10 :: rest) = read b (body ++ [10]) ∧
    (b ≠ 10 → (read b (body ++ [10])).2 ≤ body.length)

variable {read : UInt8 → List UInt8 → List Char × Nat} {f : UInt8 → Char} {bytes : List UInt8}

/-! ## Readers of texts -/

theorem decodeWith_cons (read : UInt8 → List UInt8 → List Char × Nat) (b : UInt8)
    (rest : List UInt8) :
    decodeWith read (b :: rest) =
      (read b rest).1 ++ decodeWith read (rest.drop (read b rest).2) := by
  rw [decodeWith]

theorem decodeWith_single_cons (read : UInt8 → List UInt8 → Char × Nat) (b : UInt8)
    (rest : List UInt8) :
    decodeWith (single read) (b :: rest) =
      (read b rest).1 :: decodeWith (single read) (rest.drop (read b rest).2) := by
  rw [decodeWith]
  rfl

/-- What holds of a reader of characters makes it a reader of texts that stops at line feeds. -/
theorem StopsAtFeeds.of_single {read : UInt8 → List UInt8 → Char × Nat}
    (hfeed : ∀ rest, read 10 rest = ('\n', 0)) (hother : ∀ b rest, b ≠ 10 → (read b rest).1 ≠ '\n')
    (hbefore : ∀ b body rest, read b (body ++ 10 :: rest) = read b (body ++ [10]) ∧
      (b ≠ 10 → (read b (body ++ [10])).2 ≤ body.length)) : StopsAtFeeds (single read) where
  feed rest := by rw [single, hfeed]
  not_mem b rest hb := by simpa [single] using (hother b rest hb).symm
  before b body rest := by
    obtain ⟨heq, hle⟩ := hbefore b body rest
    exact ⟨by rw [single, single, heq], hle⟩

theorem StopsAtFeeds.not_mem_decodeWith (h : StopsAtFeeds read) (hbytes : 10 ∉ bytes) :
    '\n' ∉ decodeWith read bytes := by
  fun_induction decodeWith read bytes with
  | case1 => exact List.not_mem_nil
  | case2 b rest ih =>
      rw [List.mem_cons, not_or] at hbytes
      rw [List.mem_append, not_or]
      refine ⟨h.not_mem b rest (Ne.symm hbytes.1), ih fun hmem => ?_⟩
      exact hbytes.2 (List.mem_of_mem_drop hmem)

theorem StopsAtFeeds.exists_line (h : StopsAtFeeds read) {body : List UInt8} (hbody : 10 ∉ body) :
    ∃ text, '\n' ∉ text ∧
      ∀ rest, decodeWith read (body ++ 10 :: rest) = text ++ '\n' :: decodeWith read rest := by
  -- the bytes of one text are taken at a time
  induction hlength : body.length using Nat.strongRecOn generalizing body with
  | ind n ih =>
      cases body with
      | nil =>
          refine ⟨[], List.not_mem_nil, fun rest => ?_⟩
          rw [List.nil_append, decodeWith_cons, h.feed]
          rfl
      | cons b body =>
          rw [List.mem_cons, not_or] at hbody
          obtain ⟨hb, hbody⟩ := hbody
          have hle : (read b (body ++ [10])).2 ≤ body.length :=
            (h.before b body []).2 (Ne.symm hb)
          obtain ⟨text, htext, hline⟩ := ih (body.drop (read b (body ++ [10])).2).length
            (by rw [← hlength, List.length_drop, List.length_cons]; omega)
            (fun hmem => hbody (List.mem_of_mem_drop hmem)) rfl
          refine ⟨(read b (body ++ [10])).1 ++ text, ?_, fun rest => ?_⟩
          · rw [List.mem_append, not_or]
            exact ⟨h.not_mem b _ (Ne.symm hb), htext⟩
          · rw [List.cons_append, decodeWith_cons, (h.before b body rest).1,
              List.drop_append_of_le_length hle, hline, List.append_assoc]

/-- Bytes that are decoded one by one are decoded line by line. -/
theorem exists_line_map (hfeed : f 10 = '\n') (hother : ∀ b, b ≠ 10 → f b ≠ '\n')
    {body : List UInt8} (hbody : 10 ∉ body) :
    ∃ text, '\n' ∉ text ∧ ∀ rest, (body ++ 10 :: rest).map f = text ++ '\n' :: rest.map f := by
  refine ⟨body.map f, fun hmem => ?_, fun rest => by rw [List.map_append, List.map_cons, hfeed]⟩
  obtain ⟨b, hb, hfb⟩ := List.mem_map.mp hmem
  exact hother b (fun h => hbody (h ▸ hb)) hfb

theorem not_mem_map (hother : ∀ b, b ≠ 10 → f b ≠ '\n') (hbytes : 10 ∉ bytes) :
    '\n' ∉ bytes.map f := by
  intro hmem
  obtain ⟨b, hb, hfb⟩ := List.mem_map.mp hmem
  exact hother b (fun h => hbytes (h ▸ hb)) hfb

theorem KeepsLines.of_reader {e : Encoding} (h : StopsAtFeeds read)
    (he : ∀ bytes, e.decode bytes = decodeWith read bytes) : e.KeepsLines := by
  constructor
  · intro body hbody
    simpa only [he] using h.exists_line hbody
  · intro bytes hbytes
    rw [he]
    exact h.not_mem_decodeWith hbytes

theorem KeepsLines.of_map {e : Encoding} (hfeed : f 10 = '\n') (hother : ∀ b, b ≠ 10 → f b ≠ '\n')
    (he : ∀ bytes, e.decode bytes = bytes.map f) : e.KeepsLines := by
  constructor
  · intro body hbody
    simpa only [he] using exists_line_map hfeed hother hbody
  · intro bytes hbytes
    rw [he]
    exact not_mem_map hother hbytes

theorem forall_uint8 {P : UInt8 → Prop} (h : ∀ n < 256, P (UInt8.ofNat n)) (b : UInt8) : P b := by
  have hb := h b.toNat b.toNat_lt
  rwa [UInt8.ofNat_toNat] at hb

theorem userDefinedChar_ne : ∀ b, b ≠ 10 → userDefinedChar b ≠ '\n' :=
  forall_uint8 (by decide +kernel)

theorem ofNat_ne_feed {n : Nat} (h : n ≠ 10) : Char.ofNat n ≠ '\n' :=
  fun heq => h (Unicode.toNat_eq_of_ofNat_eq heq (by decide)).symm

/-! ## UTF-8 -/

namespace Utf8

variable {need lo hi code used : Nat}

/-- What is read behind the first byte of a character does not reach a line feed. -/
theorem readRest_before (hlo : 0x80 ≤ lo) (body rest : List UInt8) :
    readRest need lo hi code used (body ++ 10 :: rest) =
        readRest need lo hi code used (body ++ [10]) ∧
      (readRest need lo hi code used (body ++ [10])).2 ≤ used + body.length := by
  induction need generalizing lo hi code used body with
  | zero => cases body <;> simp [readRest]
  | succ need ih =>
      cases body with
      | nil =>
          have hstop : ¬(lo ≤ 10 ∧ 10 ≤ hi) := by omega
          simp [readRest, hstop]
      | cons b body =>
          rw [List.cons_append, List.cons_append, readRest, readRest]
          split_ifs
          · obtain ⟨heq, hle⟩ := @ih 0x80 0xBF (code * 64 + (b.toNat - 0x80)) (used + 1)
              (Nat.le_refl _) body
            exact ⟨heq, by rw [List.length_cons]; omega⟩
          · exact ⟨rfl, by simp⟩

/-- A character of several bytes is none of ASCII. -/
theorem readRest_ne (hcode : 0 < need → 0 < code ∨ 0x80 < lo ∧ 1 < need) (hlast : need = 0 → code ≠ 10)
    (bytes : List UInt8) : (readRest need lo hi code used bytes).1 ≠ '\n' := by
  induction need generalizing lo hi code used bytes with
  | zero => exact ofNat_ne_feed (hlast rfl)
  | succ need ih =>
      cases bytes with
      | nil => exact (by decide : '\uFFFD' ≠ '\n')
      | cons b rest =>
          rw [readRest]
          split_ifs with hb
          · have hcode := hcode (Nat.succ_pos need)
            refine ih (fun _ => .inl ?_) (fun _ => ?_) rest <;> omega
          · exact (by decide : '\uFFFD' ≠ '\n')

/-- A byte stands for a character of its own, or begins one of several bytes. -/
theorem read_cases (b : UInt8) :
    (∃ c, (b ≠ 10 → c ≠ '\n') ∧ ∀ rest, Utf8.read b rest = (c, 0)) ∨
      ∃ need lo hi code, 0x80 ≤ lo ∧ 0 < need ∧ (0 < code ∨ 0x80 < lo ∧ 1 < need) ∧
        ∀ rest, Utf8.read b rest = readRest need lo hi code 0 rest := by
  unfold Utf8.read
  by_cases hascii : b.toNat < 0x80
  · refine .inl ⟨Char.ofNat b.toNat, fun hb => ofNat_ne_feed ?_, fun rest => if_pos hascii⟩
    exact fun h => hb (UInt8.toNat_inj.mp h)
  simp only [hascii, if_false]
  by_cases htwo : 0xC2 ≤ b.toNat ∧ b.toNat ≤ 0xDF
  · exact .inr ⟨1, 0x80, 0xBF, _, by omega, by omega, by omega, fun rest => if_pos htwo⟩
  simp only [htwo, if_false]
  by_cases hthree : b.toNat = 0xE0
  · exact .inr ⟨2, 0xA0, 0xBF, _, by omega, by omega, by omega, fun rest => if_pos hthree⟩
  simp only [hthree, if_false]
  by_cases hsurrogate : b.toNat = 0xED
  · exact .inr ⟨2, 0x80, 0x9F, _, by omega, by omega, by omega, fun rest => if_pos hsurrogate⟩
  simp only [hsurrogate, if_false]
  by_cases hthree' : 0xE1 ≤ b.toNat ∧ b.toNat ≤ 0xEF
  · exact .inr ⟨2, 0x80, 0xBF, _, by omega, by omega, by omega, fun rest => if_pos hthree'⟩
  simp only [hthree', if_false]
  by_cases hfour : b.toNat = 0xF0
  · exact .inr ⟨3, 0x90, 0xBF, _, by omega, by omega, by omega, fun rest => if_pos hfour⟩
  simp only [hfour, if_false]
  by_cases hfour' : 0xF1 ≤ b.toNat ∧ b.toNat ≤ 0xF3
  · exact .inr ⟨3, 0x80, 0xBF, _, by omega, by omega, by omega, fun rest => if_pos hfour'⟩
  simp only [hfour', if_false]
  by_cases hlast : b.toNat = 0xF4
  · exact .inr ⟨3, 0x80, 0x8F, _, by omega, by omega, by omega, fun rest => if_pos hlast⟩
  exact .inl ⟨'\uFFFD', fun _ => by decide, fun rest => if_neg hlast⟩

theorem stopsAtFeeds : StopsAtFeeds (single Utf8.read) := by
  refine .of_single (fun _ => rfl) (fun b rest hb => ?_) fun b body rest => ?_
  · rcases read_cases b with ⟨c, hc, hread⟩ | ⟨need, lo, hi, code, -, hneed, hcode, hread⟩
    · rw [hread]
      exact hc hb
    · rw [hread]
      exact readRest_ne (fun _ => hcode) (by omega) rest
  · rcases read_cases b with ⟨c, -, hread⟩ | ⟨need, lo, hi, code, hlo, -, -, hread⟩
    · rw [hread, hread]
      exact ⟨rfl, fun _ => Nat.zero_le _⟩
    · obtain ⟨heq, hle⟩ := readRest_before hlo body rest
      rw [hread, hread]
      exact ⟨heq, fun _ => (Nat.zero_add body.length).symm ▸ hle⟩

end Utf8

end LogWarden.Encoding
