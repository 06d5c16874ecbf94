import Mathlib.Data.List.TakeWhile
import RecordBridge.Proofs.Key

/-!
# The case of the text that is taken out

A value is put into lower case before a text is taken out of it, and that text stays as it is
configured.  A capital of the ASCII letters never occurs in a lower-case text, so a text with one is
never taken out, even of a value in which it stands just so
(`KeyDerivation.standardize_of_capital`).

Whether the same text in lower case makes a difference depends on the value: where it occurs, the
letter that was a capital becomes rarer in the standard form, because neither trimming nor
underscores change how often a letter stands in a text (`KeyDerivation.count_standardize`).  Put
together, the case of the text that is taken out does not matter exactly if it has no capital or its
lower-case form does not occur (`KeyDerivation.standardize_letterCase`).
-/

namespace RecordBridge

open Blank (isBlank)

/-! ### How often a letter stands in a text -/

namespace Blank

theorem isBlank_of_isLower {c : Char} (h : c.isLower = true) : isBlank c = false := by
  have hrange := Lowercase.isLower_iff.mp h
  simp [isBlank]
  omega

section

variable {c : Char} (h : isBlank c = false)
include h

/-- What is no blank does not stand among the blanks in front. -/
theorem count_dropWhile (text : List Char) :
    (text.dropWhile isBlank).count c = text.count c := by
  have hfront : (text.takeWhile isBlank).count c = 0 := by
    rw [List.count_eq_zero]
    intro hc
    rw [List.mem_takeWhile_imp hc] at h
    cases h
  calc (text.dropWhile isBlank).count c
    _ = (text.takeWhile isBlank ++ text.dropWhile isBlank).count c := by
        rw [List.count_append, hfront, Nat.zero_add]
    _ = text.count c := by rw [List.takeWhile_append_dropWhile]

theorem count_trim (text : List Char) : (trim text).count c = text.count c := by
  rw [trim, trimEnd, List.count_reverse, count_dropWhile h, List.count_reverse, count_dropWhile h]

end

end Blank

namespace KeyDerivation

/-- An underscore for a space leaves the letters. -/
theorem count_map_spaceToUnderscore {c : Char} (h : c.isLower = true) (text : List Char) :
    (text.map spaceToUnderscore).count c = text.count c := by
  have hrange := Lowercase.isLower_iff.mp h
  have hspace : c ≠ ' ' := by
    rintro rfl
    revert hrange
    decide
  have hunderscore : c ≠ '_' := by
    rintro rfl
    revert hrange
    decide
  rw [List.count, List.countP_map]
  apply List.countP_congr
  intro d _
  simp only [Function.comp_apply, spaceToUnderscore, beq_iff_eq]
  split_ifs with hd
  · rw [hd]
    exact ⟨fun heq => absurd heq.symm hunderscore, fun heq => absurd heq.symm hspace⟩
  · exact Iff.rfl

/-- A letter stands in a standard form as often as in what is left of the lower-case value. -/
theorem count_standardize {c : Char} (h : c.isLower = true) (kd : KeyDerivation) (value : String) :
    (kd.standardize value).toList.count c =
      (kd.stripped (Lowercase.lower value.toList)).count c := by
  rw [toList_standardize, count_map_spaceToUnderscore h,
    Blank.count_trim (Blank.isBlank_of_isLower h)]

/-! ### Capitals -/

variable {strip : String}

theorem stripped_new (strip : String) (hash : KeyHash) (text : List Char) :
    (new (some strip) hash).stripped text = removeFirst strip.toList text := by
  by_cases hempty : strip = ""
  · subst hempty
    exact (removeFirst_nil text).symm
  · have hstrip : (new (some strip) hash).strip = some strip := by
      simp [new, Option.filter, hempty]
    rw [stripped, hstrip]

/-- The letters of ASCII are put into lower case one by one. -/
theorem toList_toLower (text : String) : text.toLower.toList = text.toList.map Char.toLower :=
  String.toList_map

/-- What is not its own lower case has a capital in it. -/
theorem exists_isUpper_of_toLower_ne (h : strip.toLower ≠ strip) :
    ∃ c ∈ strip.toList, c.isUpper = true := by
  by_contra hnone
  push Not at hnone
  have hsame : ∀ c ∈ strip.toList, c.toLower = c := by
    intro c hc
    rw [← Char.toNat_inj, Lowercase.toNat_toLower, if_neg (hnone c hc)]
  apply h
  apply String.toList_injective
  rw [toList_toLower, List.map_congr_left hsame, List.map_id']

/-- A text with a capital does not occur in a lower-case text. -/
theorem not_infix_lower (h : strip.toLower ≠ strip) (text : List Char) :
    ¬ strip.toList <:+: Lowercase.lower text := by
  intro hoccurs
  obtain ⟨c, hc, hupper⟩ := exists_isUpper_of_toLower_ne h
  rw [Lowercase.isUpper_of_mem_lower (hoccurs.subset hc)] at hupper
  cases hupper

/-- A text that does not occur in the lower-case value might as well not be configured. -/
theorem standardize_of_absent {value : String}
    (h : ¬ strip.toList <:+: Lowercase.lower value.toList) (hash : KeyHash) :
    (new (some strip) hash).standardize value = (new none hash).standardize value := by
  unfold standardize standardizeChars
  rw [stripped_new, removeFirst_of_absent h]
  rfl

/-- A text with a capital is never taken out. -/
theorem standardize_of_capital (h : strip.toLower ≠ strip) (hash : KeyHash) (value : String) :
    (new (some strip) hash).standardize value = (new none hash).standardize value :=
  standardize_of_absent (not_infix_lower h _) hash

/-- Where its lower-case form occurs, that form is taken out and the standard forms differ. -/
theorem standardize_ne_of_occurring (h : strip.toLower ≠ strip) {hash : KeyHash} {value : String}
    (hoccurs : strip.toLower.toList <:+: Lowercase.lower value.toList) :
    (new (some strip) hash).standardize value ≠
      (new (some strip.toLower) hash).standardize value := by
  obtain ⟨c, hc, hupper⟩ := exists_isUpper_of_toLower_ne h
  have hlower : c.toLower.isLower = true := by
    have hrange := Lowercase.isUpper_iff.mp hupper
    rw [Lowercase.isLower_iff, Lowercase.toNat_toLower, if_pos hupper]
    omega
  have hmem : c.toLower ∈ strip.toLower.toList := by
    rw [toList_toLower]
    exact List.mem_map_of_mem hc
  have hpos : 0 < strip.toLower.toList.count c.toLower := List.count_pos_iff.mpr hmem
  obtain ⟨front, back, htext, hremoved⟩ := removeFirst_of_occurring hoccurs
  intro heq
  have hcount := congrArg (fun standard => standard.toList.count c.toLower) heq
  simp only [count_standardize hlower, stripped_new] at hcount
  rw [removeFirst_of_absent (not_infix_lower h _), hremoved, htext] at hcount
  simp only [List.count_append] at hcount
  omega

/-- **When the case of the text that is taken out matters.**  A text with an ASCII capital is never
taken out, and it gives the standard form that its lower-case form gives exactly if that does not
occur in the lower-case value either. -/
theorem standardize_letterCase (strip : String) (hash : KeyHash) (value : String) :
    (strip.toLower ≠ strip →
      (new (some strip) hash).standardize value = (new none hash).standardize value) ∧
    ((new (some strip) hash).standardize value = (new (some strip.toLower) hash).standardize value ↔
      strip.toLower = strip ∨ ¬ strip.toLower.toList <:+: Lowercase.lower value.toList) := by
  constructor
  · intro h
    exact standardize_of_capital h hash value
  · constructor
    · intro heq
      by_contra hnot
      push Not at hnot
      exact standardize_ne_of_occurring hnot.1 hnot.2 heq
    · rintro (hcase | habsent)
      · rw [hcase]
      · by_cases hcase : strip.toLower = strip
        · rw [hcase]
        · rw [standardize_of_capital hcase, standardize_of_absent habsent]

theorem toLower_capitals : "NCGCA".toLower = "ncgca" := by
  apply String.toList_injective
  rw [toList_toLower]
  decide

/-- Capitals are not taken out, and here they would be in lower case. -/
theorem standardize_letterCase_capitals :
    "NCGCA".toLower ≠ "NCGCA" ∧
    (new (some "NCGCA") .md5).standardize "NCGCA Test Project 10" =
      (new none .md5).standardize "NCGCA Test Project 10" ∧
    (new (some "NCGCA") .md5).standardize "NCGCA Test Project 10" ≠
      (new (some "NCGCA".toLower) .md5).standardize "NCGCA Test Project 10" := by
  obtain ⟨hcapital, hiff⟩ := standardize_letterCase "NCGCA" .md5 "NCGCA Test Project 10"
  have hne : "NCGCA".toLower ≠ "NCGCA" := by
    rw [toLower_capitals]
    decide
  refine ⟨hne, hcapital hne, ?_⟩
  rw [Ne, hiff, not_or, not_not]
  refine ⟨hne, ?_⟩
  rw [toLower_capitals]
  exact ⟨[], " test project 10".toList, by decide⟩

/-- A text that is configured as it stands in the value is left in it, and its lower-case form is
not. -/
theorem standardize_keepsCapitals :
    ¬ ∀ (strip : String) (hash : KeyHash) (value : String), strip ≠ "" →
      (new (some strip) hash).standardize value =
        (new (some strip.toLower) hash).standardize value := by
  intro h
  have heq := h "NCGCA" .md5 "NCGCA Test Project 10" (by decide)
  have hkept : (new (some "NCGCA") .md5).standardize "NCGCA Test Project 10" =
      "ncgca_test_project_10" := by decide
  have hremoved : (new (some "ncgca") .md5).standardize "NCGCA Test Project 10" =
      "test_project_10" := by decide
  rw [toLower_capitals, hkept, hremoved] at heq
  exact absurd heq (by decide)

end KeyDerivation

end RecordBridge
