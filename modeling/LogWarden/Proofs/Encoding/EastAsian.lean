import LogWarden.Proofs.Encoding.LineFeeds

/-!
# Line feeds in East Asian encodings and code pages

No index has a line feed, and no trail byte is one. So Big5, EUC-KR, EUC-JP, Shift_JIS and the code
pages are decoded line by line. In ISO-2022-JP a line begins in the mode that the line before it ends
in, and that matters for two characters only: where a text has neither of them and nothing is lost,
each of its lines can be decoded by itself.
-/

namespace LogWarden.Encoding

theorem Index.char?_ne (x : Index) (n : Nat) : x.char? n ≠ some '\n' := by
  intro h
  have hbeyond := (Option.filter_eq_some_iff.mp h).2
  exact absurd hbeyond (by decide)

theorem CodePage.char_ne (p : CodePage) (b : UInt8) (hb : b ≠ 10) : p.char b ≠ '\n' := by
  unfold CodePage.char
  split_ifs
  · exact ofNat_ne_feed fun h => hb (UInt8.toNat_inj.mp h)
  · cases h : p.index.char? (b.toNat - 0x80) with
    | none => exact (by decide : '\uFFFD' ≠ '\n')
    | some c =>
        rintro rfl
        exact p.index.char?_ne _ h

/-! ## Codes of several bytes -/

/-- What is read behind a byte has no line feed, and none is looked behind. -/
structure TakesNoFeed (take : List UInt8 → List Char × Nat) : Prop where
  not_mem : ∀ rest, '\n' ∉ (take rest).1
  before : ∀ body rest, take (body ++ 10 :: rest) = take (body ++ [10]) ∧
    (take (body ++ [10])).2 ≤ body.length

/-- The texts of trail bytes have no line feed, and the line feed is no trail byte. -/
structure IsPlainTrail (text? : Nat → Option (List Char)) : Prop where
  feed : text? 10 = none
  not_mem : ∀ t text, text? t = some text → '\n' ∉ text

section Readers
variable {read : UInt8 → List UInt8 → List Char × Nat} {text : List Char}
variable {text? : Nat → Option (List Char)}

theorem StopsAtFeeds.of_takes (hfeed : ∀ rest, read 10 rest = (['\n'], 0))
    (htakes : ∀ b, b ≠ 10 → TakesNoFeed (read b)) : StopsAtFeeds read where
  feed := hfeed
  not_mem b rest hb := (htakes b hb).not_mem rest
  before b body rest := by
    by_cases hb : b = 10
    · subst hb
      exact ⟨by rw [hfeed, hfeed], fun hne => absurd rfl hne⟩
    · obtain ⟨heq, hle⟩ := (htakes b hb).before body rest
      exact ⟨heq, fun _ => hle⟩

theorem TakesNoFeed.const (h : '\n' ∉ text) : TakesNoFeed fun _ => (text, 0) :=
  ⟨fun _ => h, fun _ _ => ⟨rfl, Nat.zero_le _⟩⟩

theorem TakesNoFeed.lost : TakesNoFeed fun _ => (['\uFFFD'], 0) := .const (by decide)

theorem TakesNoFeed.ofNat {n : Nat} (h : n ≠ 10) : TakesNoFeed fun _ => ([Char.ofNat n], 0) :=
  .const (by simpa using (ofNat_ne_feed h).symm)

theorem IsPlainTrail.takesNoFeed (h : IsPlainTrail text?) : TakesNoFeed (readTrail text?) where
  not_mem rest := by
    have hlost : '\n' ∉ ['\uFFFD'] := by decide
    cases rest with
    | nil => exact hlost
    | cons t rest =>
        rw [readTrail]
        split
        · next text htext => exact h.not_mem _ _ htext
        · exact hlost
  before body rest := by
    cases body with
    | nil => simp [readTrail, h.feed]
    | cons t body =>
        refine ⟨rfl, ?_⟩
        rw [List.cons_append, readTrail]
        cases text? t.toNat with
        | some text => simp
        | none =>
            dsimp only
            split_ifs <;> simp

theorem not_mem_of_map_char? {x : Index} {n : Nat} (h : (x.char? n).map ([·]) = some text) :
    '\n' ∉ text := by
  obtain ⟨c, hc, rfl⟩ := Option.map_eq_some_iff.mp h
  simp only [List.mem_singleton]
  rintro rfl
  exact x.char?_ne _ hc

end Readers

namespace Big5

theorem not_mem_text? {code : Nat} {text : List Char} (h : text? code = some text) :
    '\n' ∉ text := by
  unfold text? at h
  split at h
  case h_5 => exact not_mem_of_map_char? h
  all_goals
    obtain rfl := Option.some.inj h
    decide

theorem isPlainTrail (lead : Nat) : IsPlainTrail fun t => (code? lead t).bind text? where
  feed := rfl
  not_mem t text h := by
    obtain ⟨code, -, htext⟩ := Option.bind_eq_some_iff.mp h
    exact not_mem_text? htext

theorem stopsAtFeeds : StopsAtFeeds Big5.read := by
  refine .of_takes (fun _ => rfl) fun b hb => ?_
  have hb' : b.toNat ≠ 10 := fun h => hb (UInt8.toNat_inj.mp h)
  unfold Big5.read
  split_ifs
  · exact .ofNat hb'
  · exact (isPlainTrail b.toNat).takesNoFeed
  · exact .lost

end Big5

namespace EucKr

theorem isPlainTrail (lead : Nat) : IsPlainTrail (text? lead) where
  feed := rfl
  not_mem t text h := by
    unfold text? at h
    split_ifs at h
    exact not_mem_of_map_char? h

theorem stopsAtFeeds : StopsAtFeeds EucKr.read := by
  refine .of_takes (fun _ => rfl) fun b hb => ?_
  have hb' : b.toNat ≠ 10 := fun h => hb (UInt8.toNat_inj.mp h)
  unfold EucKr.read
  split_ifs
  · exact .ofNat hb'
  · exact (isPlainTrail b.toNat).takesNoFeed
  · exact .lost

end EucKr

theorem katakana_ne (n : Nat) : katakana n ≠ '\n' := ofNat_ne_feed (by omega)

namespace EucJp

theorem isPlainTrail (x : Index) (lead : Nat) : IsPlainTrail (text? x lead) where
  feed := rfl
  not_mem t text h := by
    unfold text? at h
    split_ifs at h
    exact not_mem_of_map_char? h

theorem isPlainTrail_kana : IsPlainTrail kana? where
  feed := rfl
  not_mem t text h := by
    unfold kana? at h
    split_ifs at h
    obtain rfl := Option.some.inj h
    simpa using (katakana_ne _).symm

theorem takesNoFeed_readFurther : TakesNoFeed readFurther where
  not_mem rest := by
    have hlost : '\n' ∉ ['\uFFFD'] := by decide
    cases rest with
    | nil => exact hlost
    | cons t rest =>
        rw [readFurther]
        split_ifs
        · exact (isPlainTrail .jis0212 t.toNat).takesNoFeed.not_mem rest
        · exact hlost
        · exact hlost
  before body rest := by
    cases body with
    | nil => exact ⟨rfl, Nat.le_refl 0⟩
    | cons t body =>
        obtain ⟨heq, hle⟩ := (isPlainTrail .jis0212 t.toNat).takesNoFeed.before body rest
        simp only [List.cons_append, readFurther, heq, List.length_cons]
        refine ⟨trivial, ?_⟩
        split_ifs
        · exact Nat.succ_le_succ hle
        · exact Nat.zero_le _
        · exact Nat.succ_le_succ (Nat.zero_le _)

theorem stopsAtFeeds : StopsAtFeeds EucJp.read := by
  refine .of_takes (fun _ => rfl) fun b hb => ?_
  have hb' : b.toNat ≠ 10 := fun h => hb (UInt8.toNat_inj.mp h)
  unfold EucJp.read
  split_ifs
  · exact .ofNat hb'
  · exact isPlainTrail_kana.takesNoFeed
  · exact takesNoFeed_readFurther
  · exact (isPlainTrail .jis0208 b.toNat).takesNoFeed
  · exact .lost

end EucJp

namespace ShiftJis

theorem not_mem_text? {code : Nat} {text : List Char} (h : text? code = some text) :
    '\n' ∉ text := by
  unfold text? at h
  split_ifs at h
  · obtain rfl := Option.some.inj h
    simpa using (ofNat_ne_feed (by omega)).symm
  · exact not_mem_of_map_char? h

theorem isPlainTrail (lead : Nat) : IsPlainTrail fun t => (code? lead t).bind text? where
  feed := rfl
  not_mem t text h := by
    obtain ⟨code, -, htext⟩ := Option.bind_eq_some_iff.mp h
    exact not_mem_text? htext

theorem stopsAtFeeds : StopsAtFeeds ShiftJis.read := by
  refine .of_takes (fun _ => rfl) fun b hb => ?_
  have hb' : b.toNat ≠ 10 := fun h => hb (UInt8.toNat_inj.mp h)
  unfold ShiftJis.read
  split_ifs
  · exact .ofNat hb'
  · exact .const (by simpa using (katakana_ne _).symm)
  · exact (isPlainTrail b.toNat).takesNoFeed
  · exact .lost

end ShiftJis

/-! ## Modes -/

namespace Iso2022Jp

/-- Nothing is lost in a text, and it has none of the characters by which the modes of one byte
differ. -/
def IsClear (text : List Char) : Prop := ∀ c ∈ text, c ≠ '¥' ∧ c ≠ '‾' ∧ c ≠ '\uFFFD'

/-- Bytes stand for characters of ASCII in a mode, but for two of them. -/
def Mode.IsLatin (m : Mode) : Prop := m = .ascii ∨ m = .roman

variable {m : Mode} {escaped : Bool} {b : UInt8} {body rest bytes : List UInt8}
variable {text text' : List Char} {c : Char}

theorem isClear_append : IsClear (text ++ text') ↔ IsClear text ∧ IsClear text' :=
  List.forall_mem_append

theorem isClear_cons :
    IsClear (c :: text) ↔ (c ≠ '¥' ∧ c ≠ '‾' ∧ c ≠ '\uFFFD') ∧ IsClear text :=
  List.forall_mem_cons

theorem not_isClear_lost : ¬IsClear ('\uFFFD' :: text) := fun h => (isClear_cons.mp h).1.2.2 rfl

theorem decode_nil (m : Mode) (escaped : Bool) : decode m escaped [] = [] := by
  rw [decode]

theorem decode_escape (m : Mode) (escaped : Bool) (hb : b.toNat = 0x1B) :
    decode m escaped (b :: rest) =
      match escape? rest with
      | some next => (if escaped then ['\uFFFD'] else []) ++ decode next true (rest.drop 2)
      | none => '\uFFFD' :: decode m false rest := by
  cases hnext : escape? rest <;> simp only [decode, hb, hnext, if_true]

theorem decode_byte (m : Mode) (escaped : Bool) (hb : b.toNat ≠ 0x1B) :
    decode m escaped (b :: rest) =
      (m.read b rest).1 :: decode m false (rest.drop (m.read b rest).2) := by
  rw [decode, if_neg hb]

/-- What is clear is decoded to the same in both modes of one byte for ASCII. -/
theorem decode_ascii_of_isClear (hm : m.IsLatin) (h : IsClear (decode m escaped bytes)) :
    decode .ascii false bytes = decode m escaped bytes := by
  induction bytes generalizing escaped with
  | nil => rw [decode_nil, decode_nil]
  | cons b rest ih =>
      by_cases hb : b.toNat = 0x1B
      · rw [decode_escape _ _ hb] at h ⊢
        rw [decode_escape _ _ hb]
        cases hescape : escape? rest with
        | none =>
            rw [hescape] at h
            exact absurd h not_isClear_lost
        | some next =>
            rw [hescape] at h
            cases escaped with
            | false => rfl
            | true => exact absurd h not_isClear_lost
      · rw [decode_byte _ _ hb] at h ⊢
        rw [decode_byte _ _ hb]
        obtain ⟨⟨hyen, hoverline, -⟩, hrest⟩ := isClear_cons.mp h
        rcases hm with rfl | rfl
        · rfl
        · simp only [Mode.read, List.drop_zero] at hyen hoverline hrest ⊢
          rw [ih hrest]
          split_ifs at hyen hoverline ⊢
          · exact absurd rfl hyen
          · exact absurd rfl hoverline
          · rfl

theorem asciiChar_ne {n : Nat} (h : n ≠ 10) : asciiChar n ≠ '\n' := by
  unfold asciiChar
  split_ifs
  · exact ofNat_ne_feed h
  · decide

/-- No line feed is read from another byte. -/
theorem Mode.read_ne (m : Mode) (hb : b ≠ 10) (rest : List UInt8) :
    (m.read b rest).1 ≠ '\n' := by
  have hb' : b.toNat ≠ 10 := fun h => hb (UInt8.toNat_inj.mp h)
  have hlost : '\uFFFD' ≠ '\n' := by decide
  fun_cases Mode.read m b rest with
  | case1 => exact asciiChar_ne hb'
  | case2 =>
      split_ifs
      · decide
      · decide
      · exact asciiChar_ne hb'
  | case3 =>
      split_ifs
      · exact katakana_ne _
      · exact hlost
  | case6 _ t =>
      cases h : kanji? b.toNat t.toNat with
      | none => exact hlost
      | some c =>
          rintro rfl
          unfold kanji? at h
          split_ifs at h
          exact Index.char?_ne _ _ h
  | case4 | case5 | case7 => exact hlost

/-- A character that is not lost is not read from bytes on both sides of a line feed. -/
theorem Mode.read_before (m : Mode) (b : UInt8) (body rest : List UInt8)
    (h : (m.read b (body ++ 10 :: rest)).1 ≠ '\uFFFD') :
    m.read b (body ++ 10 :: rest) = m.read b (body ++ [10]) ∧
      (m.read b (body ++ [10])).2 ≤ body.length := by
  cases m with
  | ascii | roman | katakana => exact ⟨rfl, Nat.zero_le _⟩
  | kanji =>
      cases body with
      | nil =>
          have hnone : kanji? b.toNat 10 = none := rfl
          simp only [Mode.read, List.nil_append, UInt8.reduceToNat, hnone] at h
          split_ifs at h <;> exact absurd rfl h
      | cons t body =>
          refine ⟨rfl, ?_⟩
          simp only [Mode.read, List.cons_append]
          split_ifs <;> simp

/-- In a mode in which the line feed stands for something, it stands for itself. -/
theorem Mode.read_feed (h : (m.read 10 rest).1 ≠ '\uFFFD') :
    m.IsLatin ∧ m.read 10 rest = ('\n', 0) := by
  cases m with
  | ascii => exact ⟨.inl rfl, rfl⟩
  | roman => exact ⟨.inr rfl, rfl⟩
  | katakana | kanji => exact absurd rfl h

/-- An escape does not reach a line feed. -/
theorem escape?_before {next : Mode} (h : escape? (body ++ 10 :: rest) = some next) :
    ∃ a c body', body = a :: c :: body' ∧ escape? (body ++ [10]) = some next := by
  rcases body with _ | ⟨a, _ | ⟨c, body⟩⟩
  · cases rest <;> simp [escape?, Mode.ofEscape?] at h
  · simp [escape?, Mode.ofEscape?] at h
  · exact ⟨a, c, body, rfl, h⟩

theorem not_mem_decode (hbytes : 10 ∉ bytes) : '\n' ∉ decode m escaped bytes := by
  fun_induction decode m escaped bytes with
  | case1 => exact List.not_mem_nil
  | case2 m escaped b rest _ next _ ih =>
      rw [List.mem_append, not_or]
      refine ⟨by split_ifs <;> decide, ih fun hmem => hbytes ?_⟩
      exact List.mem_cons_of_mem _ (List.mem_of_mem_drop hmem)
  | case3 m escaped b rest _ _ ih =>
      rw [List.mem_cons, not_or]
      exact ⟨by decide, ih fun hmem => hbytes (List.mem_cons_of_mem _ hmem)⟩
  | case4 m escaped b rest _ ih =>
      rw [List.mem_cons, not_or] at hbytes ⊢
      refine ⟨(m.read_ne (Ne.symm hbytes.1) rest).symm, ih fun hmem => hbytes.2 ?_⟩
      exact List.mem_of_mem_drop hmem

/-- A line that is decoded to clear text is decoded by itself, up to the mode at its end. -/
theorem exists_line (hbody : 10 ∉ body) (h : IsClear (decode m escaped (body ++ 10 :: rest))) :
    ∃ text next, '\n' ∉ text ∧ next.IsLatin ∧
      decode m escaped (body ++ [10]) = text ++ ['\n'] ∧
        decode m escaped (body ++ 10 :: rest) = text ++ '\n' :: decode next false rest := by
  induction hlength : body.length using Nat.strongRecOn generalizing m escaped body with
  | ind n ih =>
      cases body with
      | nil =>
          rw [List.nil_append, decode_byte _ _ (by decide)] at h
          obtain ⟨hlatin, hread⟩ := m.read_feed (isClear_cons.mp h).1.2.2
          have hfeed (rest : List UInt8) : m.read 10 rest = ('\n', 0) := by
            rcases hlatin with rfl | rfl <;> rfl
          refine ⟨[], m, List.not_mem_nil, hlatin, ?_, ?_⟩
          · rw [List.nil_append, decode_byte _ _ (by decide), hfeed, List.drop_nil, decode_nil]
            rfl
          · rw [List.nil_append, decode_byte _ _ (by decide), hfeed]
            rfl
      | cons b body =>
          rw [List.mem_cons, not_or] at hbody
          obtain ⟨hb, hbody⟩ := hbody
          by_cases hescape : b.toNat = 0x1B
          · rw [List.cons_append, decode_escape _ _ hescape] at h
            cases hnext : escape? (body ++ 10 :: rest) with
            | none =>
                rw [hnext] at h
                exact absurd h not_isClear_lost
            | some next =>
                rw [hnext] at h
                obtain ⟨a, c, body, rfl, hnext'⟩ := escape?_before hnext
                obtain ⟨text, last, htext, hlatin, hline, hlines⟩ :=
                  ih body.length (by rw [← hlength]; simp; omega) (fun hmem => hbody (by simp [hmem]))
                    (isClear_append.mp h).2 rfl
                refine ⟨(if escaped then ['\uFFFD'] else []) ++ text, last, ?_, hlatin, ?_, ?_⟩
                · rw [List.mem_append, not_or]
                  exact ⟨by split_ifs <;> decide, htext⟩
                · rw [List.cons_append, decode_escape _ _ hescape, hnext', List.append_assoc,
                    ← hline]
                  rfl
                · rw [List.cons_append, decode_escape _ _ hescape, hnext, List.append_assoc,
                    ← hlines]
                  rfl
          · rw [List.cons_append, decode_byte _ _ hescape] at h
            obtain ⟨⟨-, -, hlost⟩, hrest⟩ := isClear_cons.mp h
            obtain ⟨heq, hle⟩ := m.read_before b body rest hlost
            rw [heq, List.drop_append_of_le_length hle] at hrest
            obtain ⟨text, last, htext, hlatin, hline, hlines⟩ :=
              ih (body.drop (m.read b (body ++ [10])).2).length
                (by rw [← hlength, List.length_drop, List.length_cons]; omega)
                (fun hmem => hbody (List.mem_of_mem_drop hmem)) hrest rfl
            refine ⟨(m.read b (body ++ [10])).1 :: text, last, ?_, hlatin, ?_, ?_⟩
            · rw [List.mem_cons, not_or]
              exact ⟨(m.read_ne (Ne.symm hb) _).symm, htext⟩
            · rw [List.cons_append, decode_byte _ _ hescape, List.drop_append_of_le_length hle,
                hline, List.cons_append]
            · rw [List.cons_append, decode_byte _ _ hescape, heq,
                List.drop_append_of_le_length hle, hlines, List.cons_append]

end Iso2022Jp

end LogWarden.Encoding
