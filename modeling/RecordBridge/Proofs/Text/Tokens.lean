import Mathlib.Data.List.TakeWhile
import Mathlib.Tactic.Set
import RecordBridge.Text.Blank

/-!
# Tokens are the maximal runs between blanks

A text divides into runs of characters that are no blanks, with blanks between and around them
(`Blank.Runs`): each run has a character, and what follows it is the end of the text or a blank, so
that no run can be made longer.  Every text divides so (`Blank.exists_runs`), in one way only, and
the runs are the tokens that are read (`Blank.tokens_eq_iff`).

The reader holds back the run that it is in, last character first; a run without blanks goes there
as a whole (`Blank.tokensFrom_append`) and comes out at the first blank behind it
(`Blank.tokensFrom_of_ends`).
-/

namespace RecordBridge.Blank

variable {text gap run rest : List Char} {runs : List (List Char)}

/-- No character of the text is a blank. -/
def IsSolid (text : List Char) : Prop := ∀ c ∈ text, isBlank c = false

/-- The text is empty or starts with a blank. -/
def StartsBlank (text : List Char) : Prop := ∀ c ∈ text.head?, isBlank c = true

/-- The maximal runs of characters that are no blanks, in the order in which they stand in the
text. -/
inductive Runs : List Char → List (List Char) → Prop
  /-- A text of blanks has none. -/
  | none {text : List Char} : allBlank text = true → Runs text []
  /-- Behind some blanks stands a run, which goes on until the next blank or the end. -/
  | next {gap run rest : List Char} {runs : List (List Char)} : allBlank gap = true → run ≠ [] →
      IsSolid run → StartsBlank rest → Runs rest runs → Runs (gap ++ (run ++ rest)) (run :: runs)

/-! ### Reading -/

/-- Blanks in front of a text are passed over. -/
theorem tokens_blanks_append (h : allBlank gap = true) (text : List Char) :
    tokens (gap ++ text) = tokens text := by
  unfold tokens
  induction gap with
  | nil => rfl
  | cons c gap ih =>
    rw [allBlank, List.all_cons, Bool.and_eq_true] at h
    rw [List.cons_append, tokensFrom, if_pos h.1, if_pos List.isEmpty_nil]
    exact ih h.2

/-- A run without blanks is held back as a whole. -/
theorem tokensFrom_append (h : IsSolid run) (held text : List Char) :
    tokensFrom held (run ++ text) = tokensFrom (run.reverse ++ held) text := by
  induction run generalizing held with
  | nil => rfl
  | cons c run ih =>
    have hc : ¬ isBlank c = true := by simp [h c (List.mem_cons_self ..)]
    have hrun : IsSolid run := fun d hd => h d (List.mem_cons_of_mem _ hd)
    rw [List.cons_append, tokensFrom, if_neg hc, ih hrun]
    simp

/-- What is held back comes out where a blank or the end of the text follows. -/
theorem tokensFrom_of_ends {held : List Char} (hheld : held ≠ []) (h : StartsBlank text) :
    tokensFrom held text = held.reverse :: tokens text := by
  have hheld' : ¬ held.isEmpty = true := by simpa using hheld
  cases text with
  | nil =>
    rw [tokensFrom, if_neg hheld']
    rfl
  | cons c text =>
    have hc : isBlank c = true := h c rfl
    rw [tokensFrom, if_pos hc, if_neg hheld', tokens, tokensFrom, if_pos hc,
      if_pos List.isEmpty_nil]

/-- So the runs of a text are its tokens. -/
theorem Runs.tokens_eq (h : Runs text runs) : tokens text = runs := by
  induction h with
  | @none text htext =>
    have hnone := tokens_blanks_append htext []
    rwa [List.append_nil] at hnone
  | @next gap run rest runs hgap hrun hsolid hrest _ ih =>
    have hheld : run.reverse ++ [] ≠ [] := by simpa using hrun
    rw [tokens_blanks_append hgap, tokens, tokensFrom_append hsolid,
      tokensFrom_of_ends hheld hrest, ih]
    simp

/-! ### Dividing -/

/-- Every text divides into runs: behind its first blanks stands nothing, or a run that can be taken
off. -/
theorem exists_runs (text : List Char) : ∃ runs, Runs text runs := by
  induction hlength : text.length using Nat.strong_induction_on generalizing text with
  | _ length ih =>
  have hgap : allBlank (text.takeWhile isBlank) = true := List.all_takeWhile
  have hrest : text.takeWhile isBlank ++ text.dropWhile isBlank = text :=
    List.takeWhile_append_dropWhile
  cases hdrop : text.dropWhile isBlank with
  | nil =>
    rw [hdrop, List.append_nil] at hrest
    exact ⟨[], .none (hrest ▸ hgap)⟩
  | cons c rest =>
    have hc : isBlank c = false := isBlank_of_head?_dropWhile (by rw [hdrop]; rfl)
    set run := (c :: rest).takeWhile (!isBlank ·) with hrun
    set back := (c :: rest).dropWhile (!isBlank ·) with hback
    have hwhole : run ++ back = c :: rest := List.takeWhile_append_dropWhile
    have hsolid : IsSolid run := fun d hd => by simpa using List.mem_takeWhile_imp hd
    have hne : run ≠ [] := by simp [hrun, hc]
    have hblank : StartsBlank back := by
      intro d hd
      simpa using isBlank_of_head?_dropWhile hd
    -- The run has a character, so what is behind it is shorter than the text.
    have hshorter : back.length < length := by
      have hruns := congrArg List.length hwhole
      have htext := congrArg List.length hrest
      have hpos := List.length_pos_iff.mpr hne
      rw [hdrop] at htext
      simp only [List.length_append, List.length_cons] at hruns htext
      omega
    obtain ⟨runs, hruns⟩ := ih _ hshorter back rfl
    refine ⟨run :: runs, ?_⟩
    rw [← hrest, hdrop, ← hwhole]
    exact .next hgap hne hsolid hblank hruns

/-- **Tokens are the maximal runs** of characters that are no blanks. -/
theorem tokens_eq_iff : tokens text = runs ↔ Runs text runs := by
  constructor
  · rintro rfl
    obtain ⟨runs, hruns⟩ := exists_runs text
    rwa [hruns.tokens_eq]
  · exact Runs.tokens_eq

/-- A text has no token if and only if it is blank. -/
theorem tokens_eq_nil_iff : tokens text = [] ↔ allBlank text = true := by
  rw [tokens_eq_iff]
  constructor
  · intro h
    cases h with
    | none hblank => exact hblank
  · exact .none

end RecordBridge.Blank
