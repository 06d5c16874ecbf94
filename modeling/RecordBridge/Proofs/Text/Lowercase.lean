import Mathlib.Data.List.Basic
import RecordBridge.Text.Blank
import RecordBridge.Text.Lowercase

/-!
# Lower case and what stands around a text

What stands before a text matters to its lower case in one respect only, namely whether the nearest
character that is not passed over is cased (`Lowercase.lowerFrom_congr`).  Blanks are never passed
over, never cased and their own lower case (`Blank.isCaseless_of_isBlank`), so a text has one lower
case between any blanks, and the blanks stay as they are (`Lowercase.lower_padded`).

The ASCII letters change their case by their distance of 32 (`Lowercase.toNat_toLower`,
`Lowercase.toNat_toUpper`), and no capital of theirs is left in a lower-case text
(`Lowercase.isUpper_of_mem_lower`).
-/

namespace RecordBridge

open LetterCase (isCased isIgnorable lowerChar lowerShifts)

/-! ### Blanks have no case -/

namespace LetterCase

/-- Two stretches of code points have none in common. -/
def areApart (range other : Nat × Nat) : Bool := range.2 < other.1 || other.2 < range.1

theorem inRanges_eq_false {ranges others : List (Nat × Nat)} {point : Nat}
    (h : ranges.all (fun range => others.all (areApart range)) = true)
    (hpoint : inRanges others point = true) : inRanges ranges point = false := by
  obtain ⟨other, hother, hwithin⟩ := List.any_eq_true.mp hpoint
  rw [inRanges, List.any_eq_false]
  intro range hrange
  have hapart := List.all_eq_true.mp (List.all_eq_true.mp h range hrange) other hother
  simp only [areApart, Bool.or_eq_true, Bool.and_eq_true, decide_eq_true_eq] at hapart hwithin ⊢
  omega

/-- The code points that have a lower-case form of their own. -/
def shiftRanges : List (Nat × Nat) := lowerShifts.map fun s => (s.first, s.last)

theorem lowerChar_eq_self {c : Char} (h : inRanges shiftRanges c.toNat = false) :
    lowerChar c = c := by
  have hfind : lowerShifts.find? (·.covers c.toNat) = none := by
    rw [List.find?_eq_none]
    intro s hs
    rw [inRanges, List.any_eq_false] at h
    have hrange := h _ (List.mem_map_of_mem hs)
    simp only [Bool.and_eq_true, decide_eq_true_eq] at hrange
    simp only [Shift.covers, Bool.and_eq_true, decide_eq_true_eq]
    exact fun hcovers => hrange hcovers.1
  unfold lowerChar
  rw [hfind]

end LetterCase

namespace Blank

open LetterCase (inRanges areApart)

/-- The blanks by their code points. -/
def ranges : List (Nat × Nat) :=
  [(9, 13), (0x20, 0x20), (0x85, 0x85), (0xA0, 0xA0), (0x1680, 0x1680), (0x2000, 0x200A),
    (0x2028, 0x2029), (0x202F, 0x202F), (0x205F, 0x205F), (0x3000, 0x3000)]

theorem inRanges_of_isBlank {c : Char} (h : isBlank c = true) : inRanges ranges c.toNat = true := by
  simp only [isBlank, Bool.or_eq_true, Bool.and_eq_true, decide_eq_true_eq, beq_iff_eq] at h
  simp only [inRanges, ranges, List.any_cons, List.any_nil, Bool.or_eq_true, Bool.and_eq_true,
    decide_eq_true_eq]
  omega

theorem cased_apart :
    LetterCase.casedRanges.all (fun range => ranges.all (areApart range)) = true := by
  decide +kernel

theorem ignorable_apart :
    LetterCase.ignorableRanges.all (fun range => ranges.all (areApart range)) = true := by
  decide +kernel

theorem shift_apart :
    LetterCase.shiftRanges.all (fun range => ranges.all (areApart range)) = true := by
  decide +kernel

/-- A character without case: it is not cased, not passed over, and its own lower case. -/
structure IsCaseless (c : Char) : Prop where
  isCased : isCased c = false
  isIgnorable : isIgnorable c = false
  lowerChar : lowerChar c = c
  ne_sigma : c ≠ 'Σ'
  ne_dottedI : c ≠ 'İ'

theorem isCaseless_of_isBlank {c : Char} (h : isBlank c = true) : IsCaseless c := by
  have hranges := inRanges_of_isBlank h
  constructor
  case isCased => exact LetterCase.inRanges_eq_false cased_apart hranges
  case isIgnorable => exact LetterCase.inRanges_eq_false ignorable_apart hranges
  case lowerChar =>
    exact LetterCase.lowerChar_eq_self (LetterCase.inRanges_eq_false shift_apart hranges)
  case ne_sigma =>
    rintro rfl
    exact absurd h (by decide)
  case ne_dottedI =>
    rintro rfl
    exact absurd h (by decide)

end Blank

namespace Lowercase

open Blank (isBlank allBlank isCaseless_of_isBlank)

variable {before before' front text back : List Char}

/-! ### Case and what stands around -/

theorem startsCased_cons (c : Char) (text : List Char) :
    startsCased (c :: text) = if isIgnorable c then startsCased text else isCased c := by
  unfold startsCased
  rw [List.dropWhile_cons]
  by_cases h : isIgnorable c = true
  · rw [if_pos h, if_pos h]
  · rw [if_neg h, if_neg h]

/-- Blanks at the end of a text do not tell how it starts. -/
theorem startsCased_append_blanks (h : allBlank back = true) (text : List Char) :
    startsCased (text ++ back) = startsCased text := by
  induction text with
  | nil =>
    cases back with
    | nil => rfl
    | cons c rest =>
      have hc : Blank.IsCaseless c := by
        apply isCaseless_of_isBlank
        exact List.all_eq_true.mp h c (List.mem_cons_self ..)
      rw [List.nil_append, startsCased_cons, hc.isIgnorable, hc.isCased]
      rfl
  | cons c rest ih => rw [List.cons_append, startsCased_cons, startsCased_cons, ih]

/-- Two places are alike to what follows them if a cased letter stands before both or before
neither. -/
theorem lowerFrom_congr (h : startsCased before = startsCased before') (text : List Char) :
    lowerFrom before text = lowerFrom before' text := by
  induction text generalizing before before' with
  | nil => rfl
  | cons c rest ih =>
    have hrest : lowerFrom (c :: before) rest = lowerFrom (c :: before') rest := by
      apply ih
      rw [startsCased_cons, startsCased_cons, h]
    have hsigma : sigma before rest = sigma before' rest := by
      unfold sigma
      rw [h]
    rw [lowerFrom, lowerFrom, hrest, hsigma]

/-- Blanks are their own lower case. -/
theorem lowerFrom_blanks (h : allBlank back = true) (before : List Char) :
    lowerFrom before back = back := by
  induction back generalizing before with
  | nil => rfl
  | cons c rest ih =>
    rw [allBlank, List.all_cons, Bool.and_eq_true] at h
    have hc := isCaseless_of_isBlank h.1
    rw [lowerFrom, if_neg hc.ne_sigma, if_neg hc.ne_dottedI, hc.lowerChar, ih h.2]
    rfl

/-- Blanks behind a text stay, and leave its lower case as it is. -/
theorem lowerFrom_append_blanks (h : allBlank back = true) (before text : List Char) :
    lowerFrom before (text ++ back) = lowerFrom before text ++ back := by
  induction text generalizing before with
  | nil => exact lowerFrom_blanks h before
  | cons c rest ih =>
    have hsigma : sigma before (rest ++ back) = sigma before rest := by
      unfold sigma
      rw [startsCased_append_blanks h]
    rw [List.cons_append, lowerFrom, lowerFrom, hsigma, ih, List.append_assoc]

/-- Blanks before a text stay. -/
theorem lowerFrom_blanks_append (h : allBlank front = true) (before text : List Char) :
    lowerFrom before (front ++ text) = front ++ lowerFrom (front.reverse ++ before) text := by
  induction front generalizing before with
  | nil => rfl
  | cons c rest ih =>
    rw [allBlank, List.all_cons, Bool.and_eq_true] at h
    have hc := isCaseless_of_isBlank h.1
    rw [List.cons_append, lowerFrom, if_neg hc.ne_sigma, if_neg hc.ne_dottedI, hc.lowerChar, ih h.2,
      List.reverse_cons, List.append_assoc]
    rfl

/-- **The lower case of a text does not depend on the blanks around it.** -/
theorem lower_padded (hfront : allBlank front = true) (hback : allBlank back = true)
    (text : List Char) : lower (front ++ (text ++ back)) = front ++ (lower text ++ back) := by
  have hreverse : allBlank front.reverse = true := by
    rw [allBlank, List.all_reverse]
    exact hfront
  have hbefore : startsCased (front.reverse ++ []) = startsCased [] := by
    rw [List.append_nil, ← List.nil_append front.reverse]
    exact startsCased_append_blanks hreverse []
  unfold lower
  rw [lowerFrom_blanks_append hfront, lowerFrom_congr hbefore, lowerFrom_append_blanks hback]

/-! ### ASCII letters -/

theorem isUpper_iff {c : Char} : c.isUpper = true ↔ 0x41 ≤ c.toNat ∧ c.toNat ≤ 0x5A := by
  show decide (0x41 ≤ c.val ∧ c.val ≤ 0x5A) = true ↔ _
  rw [decide_eq_true_iff]
  exact Iff.rfl

theorem isLower_iff {c : Char} : c.isLower = true ↔ 0x61 ≤ c.toNat ∧ c.toNat ≤ 0x7A := by
  show (decide (0x61 ≤ c.val) && decide (c.val ≤ 0x7A)) = true ↔ _
  rw [Bool.and_eq_true, decide_eq_true_iff, decide_eq_true_iff]
  exact Iff.rfl

/-- Only a capital has another lower case. -/
theorem toNat_toLower (c : Char) :
    c.toLower.toNat = if c.isUpper then c.toNat + 0x20 else c.toNat := by
  show Char.toNat (dite (c.val ≥ 'A'.val ∧ c.val ≤ 'Z'.val) _ _) = _
  by_cases hupper : c.isUpper = true
  · obtain ⟨-, hlast⟩ := isUpper_iff.mp hupper
    rw [dif_pos (of_decide_eq_true hupper), if_pos hupper]
    show (c.val + 0x20).toNat = _
    rw [UInt32.toNat_add]
    show (c.toNat + 0x20) % 0x100000000 = _
    omega
  · rw [dif_neg fun h => hupper (decide_eq_true h), if_neg hupper]

/-- Only a lower-case letter has another capital. -/
theorem toNat_toUpper (c : Char) :
    c.toUpper.toNat = if c.isLower then c.toNat - 0x20 else c.toNat := by
  show Char.toNat (dite (c.val ≥ 'a'.val ∧ c.val ≤ 'z'.val) _ _) = _
  have hiff : c.isLower = true ↔ c.val ≥ 'a'.val ∧ c.val ≤ 'z'.val := isLower_iff
  by_cases hlower : c.isLower = true
  · obtain ⟨hfirst, hlast⟩ := isLower_iff.mp hlower
    rw [dif_pos (hiff.mp hlower), if_pos hlower]
    -- The distance is taken away by going round: 0xFFFFFFE0 is 0x20 less than all words.
    show (c.val + 0xFFFFFFE0).toNat = _
    rw [UInt32.toNat_add]
    show (c.toNat + 0xFFFFFFE0) % 0x100000000 = _
    omega
  · rw [dif_neg fun h => hlower (hiff.mpr h), if_neg hlower]

/-! ### ASCII capitals -/

/-- Every shift leads behind the ASCII capitals. -/
theorem shifts_behind_capitals :
    lowerShifts.all (fun s => decide ((0x5A : Int) < s.first + s.shift)) = true := by
  decide +kernel

theorem isUpper_ofNat_eq_false {n : Nat} (h : 0x5A < n) : (Char.ofNat n).isUpper = false := by
  by_cases hvalid : n.isValidChar
  · have hpoint : (Char.ofNat n).toNat = n := by
      rw [Char.ofNat, dif_pos hvalid]
      rfl
    rw [← Bool.not_eq_true, isUpper_iff]
    omega
  · rw [Char.ofNat, dif_neg hvalid]
    rfl

/-- The lower case of a single character is no ASCII capital. -/
theorem isUpper_lowerChar (c : Char) : (lowerChar c).isUpper = false := by
  unfold lowerChar
  split
  case h_1 s hfind =>
    have hcovers := List.find?_some hfind
    have hshift := List.all_eq_true.mp shifts_behind_capitals s (List.mem_of_find?_eq_some hfind)
    simp only [LetterCase.Shift.covers, Bool.and_eq_true, decide_eq_true_eq] at hcovers hshift
    apply isUpper_ofNat_eq_false
    omega
  case h_2 hfind =>
    -- A capital would have been covered by the first shift of all.
    rw [List.find?_eq_none] at hfind
    have hfirst := hfind ⟨0x41, 0x5A, 1, 32⟩ (List.mem_cons_self ..)
    simp only [LetterCase.Shift.covers, Bool.and_eq_true, decide_eq_true_eq, Nat.mod_one,
      beq_self_eq_true, and_true] at hfirst
    rw [← Bool.not_eq_true, isUpper_iff]
    exact hfirst

/-- **No ASCII capital is left in a lower-case text.** -/
theorem isUpper_of_mem_lower {c : Char} (h : c ∈ lower text) : c.isUpper = false := by
  unfold lower at h
  generalize [] = before at h
  induction text generalizing before with
  | nil => cases h
  | cons a rest ih =>
    rw [lowerFrom, List.mem_append] at h
    rcases h with h | h
    · split_ifs at h
      · rw [List.mem_singleton.mp h]
        unfold sigma
        split <;> decide
      · simp only [List.mem_cons, List.not_mem_nil, or_false] at h
        rcases h with rfl | rfl <;> decide
      · rw [List.mem_singleton.mp h]
        exact isUpper_lowerChar a
    · exact ih _ h

end Lowercase

end RecordBridge
