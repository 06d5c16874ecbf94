import Mathlib.Data.List.Forall2
import RecordBridge.Order
import RecordBridge.Proofs.Success
import RecordBridge.Proofs.Text.Lowercase
import RecordBridge.Proofs.Text.Tokens

/-!
# What an order compiles to

An expression sorts by its first token, and downwards if its second token is `desc` in any case
(`Model.SortsBy`); tokens are the maximal runs between blanks (`Blank.Runs`), so how much blank
space stands around them and of what kind makes no difference
(`Model.compileExpressions_of_sameStart`).

An order compiles if and only if every expression has a token, and then to one key for each of them,
in order; otherwise the first blank expression is reported and there are no keys
(`Model.compileOrder_exact`).
-/

namespace RecordBridge

/-! ### Directions -/

/-- The token is the word, each letter of it in lower case or as a capital. -/
def InAnyCase (word token : List Char) : Prop :=
  List.Forall₂ (fun c letter => c = letter ∨ c = letter.toUpper) token word

/-- A character has a given lower case if it is that letter or its capital. -/
theorem toLower_eq_iff {c letter : Char} (h : letter.toLower = letter) :
    c.toLower = letter ↔ c = letter ∨ c = letter.toUpper := by
  simp only [← Char.toNat_inj, Lowercase.toNat_toLower, Lowercase.toNat_toUpper,
    Lowercase.isUpper_iff, Lowercase.isLower_iff] at h ⊢
  split_ifs at h ⊢ <;> omega

theorem inAnyCase_iff {word token : List Char} (h : ∀ letter ∈ word, letter.toLower = letter) :
    InAnyCase word token ↔ token.map Char.toLower = word := by
  induction word generalizing token with
  | nil => simp [InAnyCase]
  | cons letter word ih =>
    obtain ⟨hletter, hword⟩ := List.forall_mem_cons.mp h
    cases token with
    | nil => simp [InAnyCase]
    | cons c token =>
      rw [List.map_cons, List.cons.injEq, ← ih hword, toLower_eq_iff hletter]
      exact List.forall₂_cons

/-- Only `desc` is downwards. -/
theorem Direction.ofToken_eq_desc_iff {token : Option (List Char)} :
    ofToken (token.map String.ofList) = .desc ↔
      ∃ word ∈ token, InAnyCase ['d', 'e', 's', 'c'] word := by
  cases token with
  | none => simp [ofToken]
  | some token =>
    have hlower : ['d', 'e', 's', 'c'].all (fun letter => letter.toLower = letter) = true := rfl
    have hletters : ∀ letter ∈ ['d', 'e', 's', 'c'], letter.toLower = letter :=
      fun letter hletter => of_decide_eq_true (List.all_eq_true.mp hlower letter hletter)
    rw [Option.map_some, ofToken, String.toList_ofList]
    simp [inAnyCase_iff hletters]

/-- There are two directions, so one is told from whether it is downwards. -/
theorem Direction.eq_of_desc_iff {d d' : Direction} (h : d = .desc ↔ d' = .desc) : d = d' := by
  cases d <;> cases d' <;> simp_all

namespace Model

variable {model : Model} {expression : String} {expressions expressions' : List String}
  {key : SortKey} {keys : List SortKey} {error : QueryError}

/-! ### One expression -/

/-- Some character of the expression is no blank. -/
def HasToken (expression : String) : Prop := ∃ c ∈ expression.toList, Blank.isBlank c = false

theorem hasToken_iff : HasToken expression ↔ Blank.allBlank expression.toList = false := by
  simp [HasToken, Blank.allBlank]

/-- The key sorts by the field of the first token, and downwards if and only if the second token is
`desc` in any case. -/
def SortsBy (model : Model) (expression : String) (key : SortKey) : Prop :=
  ∃ property more, Blank.Runs expression.toList (property :: more) ∧
    key.field = model.physicalName (String.ofList property) ++ ".raw" ∧
    (key.direction = .desc ↔ ∃ word ∈ more.head?, InAnyCase ['d', 'e', 's', 'c'] word)

/-- The report of a blank expression. -/
def blankExpression (expression : String) : QueryError :=
  .invalidOrder ("empty sort expression '" ++ expression ++ "'")

theorem compileExpression_of_runs {property : List Char} {more : List (List Char)}
    (h : Blank.Runs expression.toList (property :: more)) :
    model.compileExpression expression =
      .ok ⟨model.fieldOf (String.ofList property), .ofToken (more.head?.map String.ofList)⟩ := by
  unfold compileExpression
  rw [h.tokens_eq]

theorem compileExpression_of_blank (h : Blank.allBlank expression.toList = true) :
    model.compileExpression expression = .error (blankExpression expression) := by
  unfold compileExpression
  rw [Blank.tokens_eq_nil_iff.mpr h]
  rfl

theorem compileExpression_eq_ok_iff :
    model.compileExpression expression = .ok key ↔ model.SortsBy expression key := by
  obtain ⟨runs, hruns⟩ := Blank.exists_runs expression.toList
  cases runs with
  | nil =>
    have hblank := Blank.tokens_eq_nil_iff.mp hruns.tokens_eq
    rw [compileExpression_of_blank hblank]
    constructor
    · intro h
      cases h
    · rintro ⟨property, more, hmore, -⟩
      cases hruns.tokens_eq.symm.trans hmore.tokens_eq
  | cons property more =>
    rw [compileExpression_of_runs hruns, Except.ok.injEq]
    constructor
    · rintro rfl
      exact ⟨property, more, hruns, rfl, Direction.ofToken_eq_desc_iff⟩
    -- The runs of a text are unique, so the key was described by those that were read.
    · rintro ⟨property', more', hruns', hfield, hdirection⟩
      obtain ⟨rfl, rfl⟩ := List.cons.inj (hruns.tokens_eq.symm.trans hruns'.tokens_eq)
      rw [← Direction.ofToken_eq_desc_iff] at hdirection
      obtain ⟨field, direction⟩ := key
      rw [SortKey.mk.injEq]
      exact ⟨hfield.symm, (Direction.eq_of_desc_iff hdirection).symm⟩

theorem compileExpression_eq_error_iff :
    model.compileExpression expression = .error error ↔
      Blank.allBlank expression.toList = true ∧ error = blankExpression expression := by
  by_cases hblank : Blank.allBlank expression.toList = true
  · rw [compileExpression_of_blank hblank]
    simp [hblank, eq_comm]
  · obtain ⟨runs, hruns⟩ := Blank.exists_runs expression.toList
    cases runs with
    | nil => exact absurd (Blank.tokens_eq_nil_iff.mp hruns.tokens_eq) hblank
    | cons property more =>
      rw [compileExpression_of_runs hruns]
      simp [hblank]

theorem exists_compileExpression_iff :
    (∃ key, model.compileExpression expression = .ok key) ↔ HasToken expression := by
  rw [hasToken_iff, ← errorOf?_eq_none_iff, Option.eq_none_iff_forall_ne_some]
  simp [errorOf?_eq_some_iff, compileExpression_eq_error_iff]

/-- The expressions start with the same two tokens, or with the same one if there is no second. -/
def SameStart (expression expression' : String) : Prop :=
  ∃ runs runs', Blank.Runs expression.toList runs ∧ Blank.Runs expression'.toList runs' ∧
    runs.take 2 = runs'.take 2

/-- What comes after the second token makes no difference, and neither do blanks. -/
theorem compileExpression_of_sameStart {expression' : String}
    (h : SameStart expression expression') :
    model.compileExpression expression = .ok key ↔
      model.compileExpression expression' = .ok key := by
  obtain ⟨runs, runs', hruns, hruns', hsame⟩ := h
  cases runs with
  | nil =>
    have hnil : runs' = [] := by simpa using hsame.symm
    subst hnil
    rw [compileExpression_of_blank (Blank.tokens_eq_nil_iff.mp hruns.tokens_eq),
      compileExpression_of_blank (Blank.tokens_eq_nil_iff.mp hruns'.tokens_eq)]
    simp
  | cons property more =>
    cases runs' with
    | nil => simp at hsame
    | cons property' more' =>
      rw [List.take_succ_cons, List.take_succ_cons, List.cons.injEq] at hsame
      obtain ⟨rfl, hmore⟩ := hsame
      have hhead : more.head? = more'.head? := by
        simpa [List.head?_take] using congrArg List.head? hmore
      rw [compileExpression_of_runs hruns, compileExpression_of_runs hruns', hhead]

/-! ### Orders -/

theorem compileExpressions_eq_mapM (model : Model) (expressions : List String) :
    model.compileExpressions expressions = expressions.mapM model.compileExpression := by
  induction expressions with
  | nil => rfl
  | cons expression rest ih =>
    rw [compileExpressions, List.mapM_cons, ih]
    cases model.compileExpression expression with
    | error e => rfl
    | ok key => cases rest.mapM model.compileExpression <;> rfl

theorem compileExpressions_eq_ok_iff :
    model.compileExpressions expressions = .ok keys ↔
      List.Forall₂ model.SortsBy expressions keys := by
  rw [compileExpressions_eq_mapM, mapM_eq_ok_iff]
  simp only [compileExpression_eq_ok_iff]

theorem compileExpressions_eq_error_iff :
    model.compileExpressions expressions = .error error ↔
      ∃ front blank back, expressions = front ++ blank :: back ∧
        (∀ expression ∈ front, HasToken expression) ∧ ¬ HasToken blank ∧
        error = blankExpression blank := by
  rw [compileExpressions_eq_mapM, mapM_eq_error_iff]
  simp only [compileExpression_eq_error_iff, exists_compileExpression_iff, hasToken_iff,
    Bool.not_eq_false]

/-- Expressions compile if and only if none of them is blank. -/
theorem exists_compileExpressions_iff :
    (∃ keys, model.compileExpressions expressions = .ok keys) ↔
      ∀ expression ∈ expressions, HasToken expression := by
  simp only [compileExpressions_eq_mapM, exists_mapM_eq_ok_iff, exists_compileExpression_iff]

/-- Expressions that start with the same tokens, one by one, compile to the same keys. -/
theorem compileExpressions_of_sameStart (h : List.Forall₂ SameStart expressions expressions') :
    model.compileExpressions expressions = .ok keys ↔
      model.compileExpressions expressions' = .ok keys := by
  rw [compileExpressions_eq_mapM, compileExpressions_eq_mapM, mapM_eq_ok_iff, mapM_eq_ok_iff]
  induction h generalizing keys with
  | nil => exact Iff.rfl
  | cons hsame _ ih =>
    rw [List.forall₂_cons_left_iff, List.forall₂_cons_left_iff]
    simp only [compileExpression_of_sameStart hsame, ih]

/-- **Orders compile as a whole or not at all, and blanks make no difference.**  An order compiles
if and only if every expression has a character that is no blank, and then to one key for each of
them, in order; otherwise the first blank expression is reported.  Expressions that start with the
same two tokens compile to the same keys, and one expression compiles as a list of one. -/
theorem compileOrder_exact (model : Model) (order : OrderSpec) :
    ((∃ keys, model.compileOrder order = .ok keys) ↔
      ∀ expression ∈ order.expressions, HasToken expression) ∧
    (∀ keys, model.compileOrder order = .ok keys ↔
      List.Forall₂ model.SortsBy order.expressions keys) ∧
    (∀ error, model.compileOrder order = .error error ↔
      ∃ front blank back, order.expressions = front ++ blank :: back ∧
        (∀ expression ∈ front, HasToken expression) ∧ ¬ HasToken blank ∧
        error = .invalidOrder ("empty sort expression '" ++ blank ++ "'")) ∧
    (∀ order', List.Forall₂ SameStart order.expressions order'.expressions → ∀ keys,
      model.compileOrder order = .ok keys ↔ model.compileOrder order' = .ok keys) ∧
    ∀ expression,
      model.compileOrder (.single expression) = model.compileOrder (.many [expression]) := by
  refine ⟨exists_compileExpressions_iff, fun keys => compileExpressions_eq_ok_iff,
    fun error => compileExpressions_eq_error_iff, ?_, fun expression => rfl⟩
  intro order' hsame keys
  exact compileExpressions_of_sameStart hsame

/-- Blanks of three kinds and a third token make no difference, and neither does the case of
`desc`. -/
theorem compileOrder_exact_spaced :
    let spaced := "\u3000 name\tDesc\u00A0now"
    let plain := "name Desc"
    SameStart spaced plain ∧
    (named "Item").compileOrder (.many [spaced, "size"]) =
      .ok [⟨"name.raw", .desc⟩, ⟨"size.raw", .asc⟩] ∧
    (named "Item").compileOrder (.many [plain, "size"]) =
      .ok [⟨"name.raw", .desc⟩, ⟨"size.raw", .asc⟩] := by
  intro spaced plain
  have hspaced : SameStart spaced plain :=
    ⟨_, _, Blank.tokens_eq_iff.mp rfl, Blank.tokens_eq_iff.mp rfl, by decide⟩
  have hsize : SameStart "size" "size" :=
    ⟨_, _, Blank.tokens_eq_iff.mp rfl, Blank.tokens_eq_iff.mp rfl, rfl⟩
  have hplain : (named "Item").compileOrder (.many [plain, "size"]) =
      .ok [⟨"name.raw", .desc⟩, ⟨"size.raw", .asc⟩] := by decide
  obtain ⟨-, -, -, hblind, -⟩ := compileOrder_exact (named "Item") (.many [spaced, "size"])
  have hsame := hblind (.many [plain, "size"]) (.cons hspaced (.cons hsize .nil))
  exact ⟨hspaced, (hsame _).mpr hplain, hplain⟩

end Model

end RecordBridge
