/-
  Blanks — the characters with the `White_Space` property, and the two things
  that are done with them: trimming both ends and splitting into tokens.

  Main statements: trimming leaves text that neither starts nor ends with a
  blank (`head?_trim`, `getLast?_trim`), and blanks around a text do not change
  what trimming gives (`trim_append_blanks`).
-/

namespace RecordBridge.Blank

/-- The characters with the `White_Space` property. -/
def isBlank (c : Char) : Bool :=
  let n := c.toNat
  (9 ≤ n && n ≤ 13) || n == 0x20 || n == 0x85 || n == 0xA0 || n == 0x1680 ||
    (0x2000 ≤ n && n ≤ 0x200A) || n == 0x2028 || n == 0x2029 || n == 0x202F ||
    n == 0x205F || n == 0x3000

/-- Leaves out the blanks at the end. -/
def trimEnd (text : List Char) : List Char := (text.reverse.dropWhile isBlank).reverse

/-- Leaves out the blanks at both ends. -/
def trim (text : List Char) : List Char := trimEnd (text.dropWhile isBlank)

/-- The maximal runs of characters that are no blanks; `run` is the run that is
being read, last character first. -/
def tokensFrom (run : List Char) : List Char → List (List Char)
  | [] => if run.isEmpty then [] else [run.reverse]
  | c :: rest =>
    if isBlank c then
      if run.isEmpty then tokensFrom [] rest else run.reverse :: tokensFrom [] rest
    else tokensFrom (c :: run) rest

/-- The maximal runs of characters that are no blanks, in order. -/
def tokens (text : List Char) : List (List Char) := tokensFrom [] text

/-- Whether there is nothing but blanks. -/
def allBlank (text : List Char) : Bool := text.all isBlank

/-! ### Laws of trimming -/

theorem isBlank_of_head?_dropWhile {p : Char → Bool} {text : List Char} {c : Char}
    (h : (text.dropWhile p).head? = some c) : p c = false := by
  induction text with
  | nil => simp at h
  | cons a rest ih =>
    by_cases ha : p a
    · exact ih (by simpa [List.dropWhile_cons, ha] using h)
    · simp only [List.dropWhile_cons, ha] at h
      simp only [Bool.false_eq_true, if_false, List.head?_cons, Option.some.injEq] at h
      simpa [← h] using ha

theorem trimEnd_isPrefix (text : List Char) : trimEnd text <+: text := by
  have h := List.dropWhile_suffix (l := text.reverse) isBlank
  simpa [trimEnd] using List.reverse_prefix.mpr h

theorem getLast?_trimEnd {text : List Char} {c : Char}
    (h : (trimEnd text).getLast? = some c) : isBlank c = false := by
  unfold trimEnd at h
  rw [List.getLast?_reverse] at h
  exact isBlank_of_head?_dropWhile h

theorem dropWhile_append_of_all {p : Char → Bool} {front : List Char} (h : front.all p)
    (text : List Char) : (front ++ text).dropWhile p = text.dropWhile p := by
  induction front with
  | nil => rfl
  | cons a rest ih =>
    simp only [List.all_cons, Bool.and_eq_true] at h
    rw [List.cons_append, List.dropWhile_cons, if_pos h.1, ih h.2]

theorem trimEnd_append_blanks {back : List Char} (h : allBlank back) (text : List Char) :
    trimEnd (text ++ back) = trimEnd text := by
  unfold trimEnd
  rw [List.reverse_append, dropWhile_append_of_all (by simpa [allBlank] using h)]

theorem trimEnd_dropWhile_append {back : List Char} (h : allBlank back) (text : List Char) :
    trimEnd ((text ++ back).dropWhile isBlank) = trimEnd (text.dropWhile isBlank) := by
  induction text with
  | nil =>
    have hb : back.dropWhile isBlank = [] := by
      simpa using dropWhile_append_of_all h []
    simp [hb]
  | cons a rest ih =>
    by_cases ha : isBlank a
    · simpa [List.dropWhile_cons, ha] using ih
    · simpa [List.dropWhile_cons, ha] using trimEnd_append_blanks h (a :: rest)

/-- **Trimmed text does not start with a blank.** -/
theorem head?_trim {text : List Char} {c : Char}
    (h : (trim text).head? = some c) : isBlank c = false := by
  obtain ⟨back, hback⟩ := trimEnd_isPrefix (text.dropWhile isBlank)
  refine @isBlank_of_head?_dropWhile isBlank text c ?_
  rw [← hback, List.head?_append]
  unfold trim at h
  simp [h]

/-- **Trimmed text does not end with a blank.** -/
theorem getLast?_trim {text : List Char} {c : Char}
    (h : (trim text).getLast? = some c) : isBlank c = false := getLast?_trimEnd h

/-- **Blanks around a text do not change what trimming gives.** -/
theorem trim_append_blanks {front back : List Char} (hf : allBlank front) (hb : allBlank back)
    (text : List Char) : trim (front ++ (text ++ back)) = trim text := by
  unfold trim
  rw [dropWhile_append_of_all hf, trimEnd_dropWhile_append hb]

end RecordBridge.Blank
