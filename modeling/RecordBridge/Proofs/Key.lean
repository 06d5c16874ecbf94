import Mathlib.Data.List.Infix
import RecordBridge.Key
import RecordBridge.Proofs.Text.Lowercase

/-!
# The standard form of a value

The first occurrence of a text is taken out of another one, or there is none and nothing is taken
out (`removeFirst_of_occurring`, `removeFirst_of_absent`).  An occurrence that has no blank in it
lies apart from the blanks around a text, so that taking it out and padding a text commute
(`removeFirst_append_blanks`, `removeFirst_blanks_append`).

Together with what padding does to lower case and to trimming this gives the two laws of the
standard form: values that differ in padding have one standard form
(`KeyDerivation.standardize_padded`), and a standard form has no space in it and no blank at its
ends (`KeyDerivation.space_notMem_standardize`, `KeyDerivation.head?_standardize`,
`KeyDerivation.getLast?_standardize`).
-/

namespace RecordBridge

open Blank (isBlank allBlank)

/-! ### Taking out the first occurrence -/

section

variable {piece text front back : List Char}

theorem removeFirst_of_leading {c : Char} {rest : List Char} (h : piece <+: c :: rest) :
    removeFirst piece (c :: rest) = (c :: rest).drop piece.length := by
  rw [removeFirst, if_pos (List.isPrefixOf_iff_prefix.mpr h)]

theorem removeFirst_of_not_leading {c : Char} {rest : List Char} (h : ¬ piece <+: c :: rest) :
    removeFirst piece (c :: rest) = c :: removeFirst piece rest := by
  rw [removeFirst, if_neg (fun hleads => h (List.isPrefixOf_iff_prefix.mp hleads))]

/-- Taking nothing out changes nothing. -/
theorem removeFirst_nil (text : List Char) : removeFirst [] text = text := by
  cases text with
  | nil => rfl
  | cons c rest => rw [removeFirst_of_leading List.nil_prefix, List.length_nil, List.drop_zero]

/-- What does not occur is not taken out. -/
theorem removeFirst_of_absent (h : ¬ piece <:+: text) : removeFirst piece text = text := by
  induction text with
  | nil => rfl
  | cons c rest ih =>
    rw [List.infix_cons_iff, not_or] at h
    rw [removeFirst_of_not_leading h.1, ih h.2]

/-- What occurs is taken out at one place. -/
theorem removeFirst_of_occurring (h : piece <:+: text) :
    ∃ front back, text = front ++ (piece ++ back) ∧ removeFirst piece text = front ++ back := by
  induction text with
  | nil =>
    rw [List.infix_nil] at h
    exact ⟨[], [], by rw [h]; rfl, rfl⟩
  | cons c rest ih =>
    by_cases hleads : piece <+: c :: rest
    · obtain ⟨back, hback⟩ := hleads
      refine ⟨[], back, hback.symm, ?_⟩
      rw [removeFirst_of_leading ⟨back, hback⟩, ← hback, List.drop_left]
      rfl
    · obtain ⟨front, back, hrest, hremoved⟩ := ih ((List.infix_cons_iff.mp h).resolve_left hleads)
      refine ⟨c :: front, back, ?_, ?_⟩
      · rw [hrest]
        rfl
      · rw [removeFirst_of_not_leading hleads, hremoved]
        rfl

section

variable (hpiece : ∀ c ∈ piece, isBlank c = false)
include hpiece

/-- What has no blank in it does not reach into the blanks behind a text. -/
theorem prefix_append_blanks_iff (hback : allBlank back = true) :
    piece <+: text ++ back ↔ piece <+: text := by
  constructor
  · intro h
    rcases Nat.le_total piece.length text.length with hle | hle
    · exact List.prefix_of_prefix_length_le h (List.prefix_append text back) hle
    · -- Whatever reaches beyond the text consists of blanks, so there is nothing of it.
      obtain ⟨beyond, rfl⟩ := List.prefix_of_prefix_length_le (List.prefix_append text back) h hle
      rw [List.prefix_append_right_inj] at h
      have hnone : beyond = [] := by
        rw [List.eq_nil_iff_forall_not_mem]
        intro c hc
        have hblank : isBlank c = true := List.all_eq_true.mp hback c (h.subset hc)
        rw [hpiece c (List.mem_append_right _ hc)] at hblank
        cases hblank
      rw [hnone, List.append_nil]
  · intro h
    exact h.trans (List.prefix_append text back)

/-- Blanks before a text stay when something without blanks is taken out. -/
theorem removeFirst_blanks_append (hfront : allBlank front = true) (text : List Char) :
    removeFirst piece (front ++ text) = front ++ removeFirst piece text := by
  cases piece with
  | nil => rw [removeFirst_nil, removeFirst_nil]
  | cons p rest =>
    induction front with
    | nil => rfl
    | cons c front ih =>
      rw [allBlank, List.all_cons, Bool.and_eq_true] at hfront
      have hleads : ¬ p :: rest <+: c :: (front ++ text) := by
        intro h
        obtain rfl : p = c := (List.cons_prefix_cons.mp h).1
        rw [hpiece p (List.mem_cons_self ..)] at hfront
        cases hfront.1
      rw [List.cons_append, removeFirst_of_not_leading hleads, ih hfront.2]
      rfl

/-- So do blanks behind it. -/
theorem removeFirst_append_blanks (hback : allBlank back = true) (text : List Char) :
    removeFirst piece (text ++ back) = removeFirst piece text ++ back := by
  induction text with
  | nil =>
    calc removeFirst piece back
      _ = removeFirst piece (back ++ []) := by rw [List.append_nil]
      _ = back ++ [] := removeFirst_blanks_append hpiece hback []
      _ = back := List.append_nil back
  | cons c rest ih =>
    have hiff : piece <+: c :: (rest ++ back) ↔ piece <+: c :: rest := by
      rw [← List.cons_append]
      exact prefix_append_blanks_iff hpiece hback
    by_cases hleads : piece <+: c :: rest
    · have hlength : piece.length ≤ (c :: rest).length := hleads.length_le
      rw [removeFirst_of_leading hleads, List.cons_append, removeFirst_of_leading (hiff.mpr hleads),
        ← List.cons_append, List.drop_append_of_le_length hlength]
    · rw [removeFirst_of_not_leading hleads, List.cons_append,
        removeFirst_of_not_leading (mt hiff.mp hleads), ih]
      rfl

end

end

/-! ### Padding -/

/-- The padded text is the other one between blanks. -/
def Blank.Pads (padded text : String) : Prop :=
  ∃ front back : String, allBlank front.toList = true ∧ allBlank back.toList = true ∧
    padded = front ++ text ++ back

namespace KeyDerivation

variable {kd : KeyDerivation}

/-- What is taken out has no blank in it, if anything is taken out. -/
def StripsNoBlank (kd : KeyDerivation) : Prop :=
  ∀ piece, kd.strip = some piece → ∀ c ∈ piece.toList, isBlank c = false

theorem stripped_padded (h : kd.StripsNoBlank) {front back : List Char}
    (hfront : allBlank front = true) (hback : allBlank back = true) (text : List Char) :
    kd.stripped (front ++ (text ++ back)) = front ++ (kd.stripped text ++ back) := by
  unfold stripped
  cases hstrip : kd.strip with
  | none => rfl
  | some piece =>
    have hpiece := h piece hstrip
    show removeFirst _ _ = front ++ (removeFirst _ _ ++ back)
    rw [removeFirst_blanks_append hpiece hfront, removeFirst_append_blanks hpiece hback]

/-- Values that differ in padding have one standard form. -/
theorem standardize_padded (h : kd.StripsNoBlank) {padded value : String}
    (hpads : Blank.Pads padded value) : kd.standardize padded = kd.standardize value := by
  obtain ⟨front, back, hfront, hback, rfl⟩ := hpads
  unfold standardize standardizeChars
  rw [String.toList_append, String.toList_append, List.append_assoc,
    Lowercase.lower_padded hfront hback, stripped_padded h hfront hback,
    Blank.trim_append_blanks hfront hback]

/-- A text with a blank in it can reach into the padding. -/
example :
    (KeyDerivation.new (some "a ") .md5).standardize "a " = "" ∧
      (KeyDerivation.new (some "a ") .md5).standardize "a" = "a" := by
  decide

/-- Values that differ in padding have one key. -/
theorem digest_padded (h : kd.StripsNoBlank) {padded value : String}
    (hpads : Blank.Pads padded value) : kd.digest padded = kd.digest value := by
  unfold digest
  rw [standardize_padded h hpads]

/-- A key is derived from a text that stands under the unique property. -/
theorem derive_of_string {model : Model} {data : Record} {unique value : String}
    (hunique : model.requireUniqueProperty = .ok unique)
    (hvalue : data.get? unique = some (.string value)) :
    kd.derive model data = .ok (kd.digest value) := by
  have htext : (data.get? unique).bind uniqueText = some value := by
    rw [hvalue]
    rfl
  unfold derive
  rw [hunique]
  simp only [bind, Except.bind, htext]
  rfl

/-! ### What a standard form looks like -/

theorem toList_standardize (kd : KeyDerivation) (value : String) :
    (kd.standardize value).toList =
      (Blank.trim (kd.stripped (Lowercase.lower value.toList))).map spaceToUnderscore := by
  rw [standardize, String.toList_ofList, standardizeChars]

/-- Every space has become an underscore. -/
theorem space_notMem_standardize (kd : KeyDerivation) (value : String) :
    ' ' ∉ (kd.standardize value).toList := by
  rw [toList_standardize]
  intro h
  obtain ⟨c, -, hc⟩ := List.mem_map.mp h
  unfold spaceToUnderscore at hc
  split_ifs at hc with hspace
  · cases hc
  · exact hspace hc

theorem isBlank_spaceToUnderscore {c : Char} (h : isBlank c = false) :
    isBlank (spaceToUnderscore c) = false := by
  unfold spaceToUnderscore
  split_ifs
  · rfl
  · exact h

/-- A standard form does not start with a blank. -/
theorem head?_standardize {value : String} {c : Char}
    (h : (kd.standardize value).toList.head? = some c) : isBlank c = false := by
  rw [toList_standardize, List.head?_map] at h
  obtain ⟨c, hhead, rfl⟩ := Option.map_eq_some_iff.mp h
  exact isBlank_spaceToUnderscore (Blank.head?_trim hhead)

/-- Nor does it end with one. -/
theorem getLast?_standardize {value : String} {c : Char}
    (h : (kd.standardize value).toList.getLast? = some c) : isBlank c = false := by
  rw [toList_standardize, List.getLast?_map] at h
  obtain ⟨c, hlast, rfl⟩ := Option.map_eq_some_iff.mp h
  exact isBlank_spaceToUnderscore (Blank.getLast?_trim hlast)

end KeyDerivation

end RecordBridge
