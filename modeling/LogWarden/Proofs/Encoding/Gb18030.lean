import LogWarden.Proofs.Encoding.LineFeeds

/-!
# Line feeds in GB 18030

No code of several bytes has the byte of the line feed, and the index of the codes of two bytes has
no line feed.
-/

namespace LogWarden.Encoding.Gb18030

/-- Whether a row of the index has no line feed. -/
def IsPlainRow (row : String) : Prop := '\n' ∉ row.toList

/-- A text in front of others, with the characters that spell it. -/
theorem ofList_cons_eq_map {cs : List Char} {texts : List String} {rows : List (List Char)}
    (h : texts = rows.map String.ofList) :
    String.ofList cs :: texts = (cs :: rows).map String.ofList := by
  rw [h, List.map_cons]

theorem isPlainRow_of_spelled {texts : List String} {rows : List (List Char)}
    (h : texts = rows.map String.ofList)
    (hplain : (rows.all fun cs => cs.all fun c => Nat.blt 10 c.toNat) = true) :
    ∀ row ∈ texts, IsPlainRow row := by
  rw [h, List.forall_mem_map]
  intro cs hcs hmem
  rw [String.toList_ofList] at hmem
  exact absurd (List.all_eq_true.mp (List.all_eq_true.mp hplain cs hcs) _ hmem) (by decide)

set_option maxRecDepth 4000 in
theorem isPlainRow_of_mem : ∀ row ∈ rows.toList, IsPlainRow row := by
  simp +zeta only [rows]
  apply isPlainRow_of_spelled
  -- the characters are read off the texts, one text after another
  · repeat apply ofList_cons_eq_map
    exact List.map_nil.symm
  · decide +kernel

theorem twoByteChar?_ne (code : Nat) : twoByteChar? code ≠ some '\n' := by
  intro h
  obtain ⟨row, hrow, hchar⟩ := Option.bind_eq_some_iff.mp h
  have hmem : row ∈ rows.toList := by
    rw [Array.mem_toList_iff]
    exact Array.mem_of_getElem? hrow
  exact isPlainRow_of_mem row hmem (List.mem_of_getElem? hchar)

theorem rangeOf_le (code : Nat) : 0x80 ≤ (rangeOf code).2 := by
  have hstarts : ∀ s ∈ rangeStarts, 0x80 ≤ s.2 := by decide +kernel
  have hfold : ∀ (starts : List (Nat × Nat)) (best : Nat × Nat), (∀ s ∈ starts, 0x80 ≤ s.2) →
      0x80 ≤ best.2 →
        0x80 ≤ (starts.foldl (fun best s => if s.1 ≤ code then s else best) best).2 := by
    intro starts
    induction starts with
    | nil => exact fun best _ hbest => hbest
    | cons s starts ih =>
        intro best hall hbest
        obtain ⟨hs, hall⟩ := List.forall_mem_cons.mp hall
        refine ih _ hall ?_
        dsimp only
        split_ifs
        · exact hs
        · exact hbest
  exact hfold rangeStarts (0, 0x80) hstarts (by decide)

theorem fourByteChar?_ne (code : Nat) : fourByteChar? code ≠ some '\n' := by
  unfold fourByteChar?
  split_ifs
  · have hle := rangeOf_le code
    rw [ne_eq, Option.some.injEq]
    exact ofNat_ne_feed (by omega)
  · rw [ne_eq, Option.some.injEq]
    exact ofNat_ne_feed (by omega)
  · exact nofun

theorem readFour_ne (a b : Nat) (bytes : List UInt8) : (readFour a b bytes).1 ≠ '\n' := by
  have hlost : '\uFFFD' ≠ '\n' := by decide
  have hcode (code : Nat) : (fourByteChar? code).getD '\uFFFD' ≠ '\n' := by
    cases h : fourByteChar? code with
    | none => exact hlost
    | some c =>
        rintro rfl
        exact fourByteChar?_ne code h
  fun_cases readFour a b bytes
  all_goals first
    | exact hlost
    | exact hcode _

/-- A code of four bytes does not reach a line feed. -/
theorem readFour_before (a b : Nat) (body rest : List UInt8) :
    readFour a b (body ++ 10 :: rest) = readFour a b (body ++ [10]) ∧
      (readFour a b (body ++ [10])).2 ≤ body.length + 1 := by
  have hlead : isLead 10 = false := by decide
  have hdigit : isDigit 10 = false := by decide
  rcases body with _ | ⟨c, _ | ⟨d, body⟩⟩
  · simp [readFour, hlead]
  · simp only [List.cons_append, List.nil_append, readFour]
    split_ifs <;> simp_all
  · simp only [List.cons_append, readFour]
    split_ifs <;> simp

theorem stopsAtFeeds : StopsAtFeeds (single Gb18030.read) := by
  refine .of_single (fun _ => rfl) (fun b rest hb => ?_) fun b body rest => ?_
  · have hb' : b.toNat ≠ 10 := fun h => hb (UInt8.toNat_inj.mp h)
    have hlost : '\uFFFD' ≠ '\n' := by decide
    fun_cases Gb18030.read b rest
    case case1 => exact ofNat_ne_feed hb'
    case case2 => exact (by decide : '€' ≠ '\n')
    case case5 => exact readFour_ne _ _ _
    case case6 c hc =>
        rintro rfl
        exact twoByteChar?_ne _ hc
    all_goals exact hlost
  · have hdigit : isDigit 10 = false := by decide
    have htrail : isTrail 10 = false := by decide
    cases body with
    | nil =>
        simp only [List.nil_append, Gb18030.read, UInt8.reduceToNat, hdigit, htrail]
        split_ifs <;> simp_all
    | cons t body =>
        obtain ⟨hfour, hle⟩ := readFour_before b.toNat t.toNat body rest
        simp only [List.cons_append, Gb18030.read, hfour, List.length_cons]
        by_cases hd : isDigit t.toNat = true
        · simp only [hd, if_true, true_and]
          split_ifs <;> simp [hle]
        · simp only [hd, Bool.false_eq_true, if_false]
          split_ifs
          all_goals cases twoByteChar? (twoByteCode b.toNat t.toNat) <;> simp

end LogWarden.Encoding.Gb18030
