import LogWarden.Source.FileTail
import Mathlib.Data.List.Basic

/-!
# Lines of bytes

A line is bytes without a line feed and the line feed behind them. Bytes are in one way lines with a
rest that has no end, and cutting bytes gives those lines.
-/

namespace LogWarden

/-- Bytes without a line feed, and the line feed behind them. -/
def IsLine (line : List UInt8) : Prop :=
  ∃ body, line = body ++ [10] ∧ 10 ∉ body

/-- Bytes are lines, one behind the other, and a rest in which no line ends. -/
structure CutInto (bytes : List UInt8) (lines : List (List UInt8)) (rest : List UInt8) : Prop where
  eq : bytes = lines.flatten ++ rest
  isLine : ∀ line ∈ lines, IsLine line
  unended : 10 ∉ rest

variable {bytes rest rest' : List UInt8} {lines lines' : List (List UInt8)}

theorem getLast?_flatten_of_isLine (h : ∀ line ∈ lines, IsLine line) (hne : lines ≠ []) :
    lines.flatten.getLast? = some 10 := by
  obtain ⟨before, line, rfl⟩ := List.eq_nil_or_concat lines |>.resolve_left hne
  obtain ⟨body, rfl, _⟩ := h line (by simp)
  simp

/-- A line ends at its first line feed. -/
theorem body_eq_of_append_eq {α : Type} {feed : α} {body body' rest rest' : List α}
    (hbody : feed ∉ body) (hbody' : feed ∉ body')
    (h : body ++ feed :: rest = body' ++ feed :: rest') : body = body' ∧ rest = rest' := by
  rcases List.append_eq_append_iff.mp h with ⟨c, rfl, hc⟩ | ⟨c, rfl, hc⟩
  all_goals
    cases c with
    | nil => simpa [eq_comm] using hc
    | cons b c => simp_all

/-- What has been cut so far stands in front, the bytes of the line begun last. -/
theorem cutLines_cutInto (line : List UInt8) (lines : List (List UInt8)) (bytes : List UInt8)
    (hline : 10 ∉ line) (hlines : ∀ l ∈ lines, IsLine l) :
    CutInto (lines.reverse.flatten ++ line.reverse ++ bytes) (cutLines line lines bytes).1
      (cutLines line lines bytes).2 := by
  fun_induction cutLines line lines bytes with
  | case1 line lines =>
      exact ⟨by simp, by simpa using hlines, by simpa using hline⟩
  | case2 line lines rest ih =>
      have hcut := ih (by simp) (by
        intro l hl
        rcases List.mem_cons.mp hl with rfl | hl
        · exact ⟨line.reverse, by simp, by simpa using hline⟩
        · exact hlines l hl)
      simpa [List.append_assoc] using hcut
  | case3 line lines b rest hb ih =>
      have hcut := ih (by simp [hline, Ne.symm hb]) hlines
      simpa [List.append_assoc] using hcut

theorem cutInto_wholeLines (bytes : List UInt8) :
    ∃ rest, CutInto bytes (wholeLines bytes) rest := by
  have hcut := cutLines_cutInto [] [] bytes (by simp) (by simp)
  exact ⟨(cutLines [] [] bytes).2, by simpa [wholeLines] using hcut⟩

namespace CutInto

theorem unique (h : CutInto bytes lines rest) (h' : CutInto bytes lines' rest') :
    lines = lines' ∧ rest = rest' := by
  induction lines generalizing bytes lines' with
  | nil =>
      cases lines' with
      | nil => exact ⟨rfl, by simpa [h.eq] using h'.eq⟩
      | cons line' tail' =>
          obtain ⟨body', rfl, _⟩ := h'.isLine line' (by simp)
          have hends : 10 ∈ bytes := by simp [h'.eq]
          exact absurd (by simpa [h.eq] using hends) h.unended
  | cons line tail ih =>
      obtain ⟨body, rfl, hbody⟩ := h.isLine line (by simp)
      cases lines' with
      | nil =>
          have hends : 10 ∈ bytes := by simp [h.eq]
          exact absurd (by simpa [h'.eq] using hends) h'.unended
      | cons line' tail' =>
          obtain ⟨body', rfl, hbody'⟩ := h'.isLine line' (by simp)
          have heq : body ++ 10 :: (tail.flatten ++ rest) =
              body' ++ 10 :: (tail'.flatten ++ rest') := by
            simpa using h.eq.symm.trans h'.eq
          obtain ⟨rfl, htails⟩ := body_eq_of_append_eq hbody hbody' heq
          obtain ⟨rfl, rfl⟩ := ih
            ⟨rfl, fun l hl => h.isLine l (by simp [hl]), h.unended⟩
            ⟨htails, fun l hl => h'.isLine l (by simp [hl]), h'.unended⟩
          exact ⟨rfl, rfl⟩

theorem wholeLines_eq (h : CutInto bytes lines rest) : wholeLines bytes = lines := by
  obtain ⟨rest', hcut⟩ := cutInto_wholeLines bytes
  exact (hcut.unique h).1

/-- No line is left open exactly if there are no bytes or a line feed stands last. -/
theorem rest_eq_nil_iff (h : CutInto bytes lines rest) :
    rest = [] ↔ bytes = [] ∨ bytes.getLast? = some 10 := by
  constructor
  · rintro rfl
    cases lines with
    | nil => exact .inl (by simp [h.eq])
    | cons line tail =>
        right
        rw [h.eq, List.append_nil]
        exact getLast?_flatten_of_isLine h.isLine (List.cons_ne_nil _ _)
  · rintro (hnil | hlast)
    · exact (List.append_eq_nil_iff.mp (h.eq.symm.trans hnil)).2
    · by_cases hrest : rest = []
      · exact hrest
      · rw [h.eq, List.getLast?_append_of_ne_nil _ hrest] at hlast
        exact absurd (List.mem_of_getLast? hlast) h.unended

end CutInto

/-- Lines that stand in front are cut off as they are. -/
theorem wholeLines_flatten_append (h : ∀ line ∈ lines, IsLine line) (bytes : List UInt8) :
    wholeLines (lines.flatten ++ bytes) = lines ++ wholeLines bytes := by
  obtain ⟨rest, hcut⟩ := cutInto_wholeLines bytes
  have hboth : CutInto (lines.flatten ++ bytes) (lines ++ wholeLines bytes) rest := by
    constructor
    · rw [List.flatten_append, List.append_assoc, ← hcut.eq]
    · intro line hline
      rcases List.mem_append.mp hline with hline | hline
      · exact h line hline
      · exact hcut.isLine line hline
    · exact hcut.unended
  exact hboth.wholeLines_eq

/-- A line of some bytes: it begins where they begin or behind a line feed, and ends with the next
line feed. -/
def IsLineOf (bytes line : List UInt8) : Prop :=
  IsLine line ∧ ∃ before after, bytes = before ++ line ++ after ∧
    (before = [] ∨ before.getLast? = some 10)

theorem isLineOf_iff_mem_wholeLines {line : List UInt8} :
    IsLineOf bytes line ↔ line ∈ wholeLines bytes := by
  constructor
  · rintro ⟨hline, before, after, rfl, hborder⟩
    obtain ⟨rest, hcut⟩ := cutInto_wholeLines before
    have hbefore : before = (wholeLines before).flatten := by
      have heq := hcut.eq
      rwa [hcut.rest_eq_nil_iff.mpr hborder, List.append_nil] at heq
    have hlines : ∀ l ∈ wholeLines before ++ [line], IsLine l := by
      intro l hl
      rcases List.mem_append.mp hl with hl | hl
      · exact hcut.isLine l hl
      · exact List.mem_singleton.mp hl ▸ hline
    have hcuts := wholeLines_flatten_append hlines after
    rw [List.flatten_append, ← hbefore, List.flatten_singleton] at hcuts
    rw [hcuts]
    simp
  · intro hmem
    obtain ⟨rest, hcut⟩ := cutInto_wholeLines bytes
    obtain ⟨earlier, later, hsplit⟩ := List.append_of_mem hmem
    refine ⟨hcut.isLine line hmem, earlier.flatten, later.flatten ++ rest, ?_, ?_⟩
    · have heq := hcut.eq
      rw [hsplit] at heq
      simpa [List.append_assoc] using heq
    · rcases List.eq_nil_or_concat earlier with rfl | ⟨init, last, rfl⟩
      · exact .inl rfl
      · right
        refine getLast?_flatten_of_isLine (fun l hl => hcut.isLine l ?_) (by simp)
        rw [hsplit]
        exact List.mem_append_left _ hl

end LogWarden
