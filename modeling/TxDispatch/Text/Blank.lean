namespace TxDispatch.Text

def isBlankChar (c : Char) : Bool :=
  let n := c.toNat
  (9 ≤ n && n ≤ 13) || n == 32 || n == 0x85 || n == 0xA0 || n == 0x1680 ||
    (0x2000 ≤ n && n ≤ 0x200A) || n == 0x2028 || n == 0x2029 || n == 0x202F || n == 0x205F ||
    n == 0x3000

def trim (cs : List Char) : List Char :=
  ((cs.dropWhile isBlankChar).reverse.dropWhile isBlankChar).reverse

def isBlank (s : String) : Bool := s.toList.all isBlankChar

/-- No visible character of ASCII is white space. -/
theorem isBlankChar_of_visible {c : Char} (first : 32 < c.toNat) (last : c.toNat < 127) :
    isBlankChar c = false := by
  simp only [isBlankChar, Bool.or_eq_false_iff, Bool.and_eq_false_iff, beq_eq_false_iff_ne,
    decide_eq_false_iff_not]
  omega

theorem exists_trim (cs : List Char) :
    ∃ before after, cs = before ++ trim cs ++ after ∧
      ∀ c ∈ before ++ after, isBlankChar c = true := by
  refine ⟨cs.takeWhile isBlankChar,
    ((cs.dropWhile isBlankChar).reverse.takeWhile isBlankChar).reverse, ?_, ?_⟩
  · rw [trim, List.append_assoc, ← List.reverse_append, List.takeWhile_append_dropWhile,
      List.reverse_reverse, List.takeWhile_append_dropWhile]
  · intro c hc
    rcases List.mem_append.mp hc with h | h
    · exact List.all_eq_true.mp List.all_takeWhile c h
    · exact List.all_eq_true.mp List.all_takeWhile c (List.mem_reverse.mp h)

theorem dropWhile_inside {core : List Char} (inside : ∀ c ∈ core, isBlankChar c = false) :
    core.dropWhile isBlankChar = core := by
  cases core with
  | nil => rfl
  | cons c cs => simp [inside c (by simp)]

/-- What has no blanks is all that is left of it, whatever blanks stand around it. -/
theorem trim_padded {before core after : List Char}
    (around : ∀ c ∈ before ++ after, isBlankChar c = true)
    (inside : ∀ c ∈ core, isBlankChar c = false) : trim (before ++ core ++ after) = core := by
  have hbefore : ∀ c ∈ before, isBlankChar c = true := fun c h => around c (by simp [h])
  have hafter : ∀ c ∈ after.reverse, isBlankChar c = true :=
    fun c h => around c (by simp [List.mem_reverse.mp h])
  rw [trim, List.append_assoc, List.dropWhile_append_of_pos hbefore]
  cases core with
  | nil =>
    have hnone : (after ++ []).dropWhile isBlankChar = [] :=
      List.dropWhile_append_of_pos fun c h => hafter c (List.mem_reverse.mpr h)
    rw [List.append_nil] at hnone
    rw [List.nil_append, hnone]
    rfl
  | cons c cs =>
    have hopen : (c :: cs ++ after).dropWhile isBlankChar = c :: cs ++ after := by
      simp [inside c (by simp)]
    have hend : (c :: cs).reverse.dropWhile isBlankChar = (c :: cs).reverse :=
      dropWhile_inside fun x hx => inside x (List.mem_reverse.mp hx)
    rw [hopen, List.reverse_append, List.dropWhile_append_of_pos hafter, hend, List.reverse_reverse]

end TxDispatch.Text
