import Mathlib.Data.List.Forall2
import RecordBridge.Proofs.Clause.Grammar
import RecordBridge.Proofs.SearchFilter.Meaning

/-!
# Compiling keeps every restriction

A raw filter and the filter that it compiles to are the same tree: combinator for combinator, child
for child and leaf for leaf (`Mirrors`).  Every test of the compiled filter comes from the leaf in
its place, and no part of it lets everything through (`mirrors_of_compileWhere`); only null and the
empty object compile to the filter that does (`compileWhere_eq_everything_iff`).

Both passes are followed at once: what has been read is the raw form of a clause
(`Clause.ofJson_eq_some_iff`), so the recursion is on the clause, with its raw form on one side and
its filter on the other.
-/

namespace RecordBridge

/-- How combinators are nested, whatever stands at the leaves. -/
inductive Outline
  | leaf
  | and (children : List Outline)
  | or (children : List Outline)

/-! ### The tree of a raw filter -/

namespace Json

mutual

/-- The combinators of a raw filter; what is no combinator of an array is a leaf. -/
def outline : Json → Outline
  | .object [(key, .array items)] =>
    if key = "and" then .and (outlines items)
    else if key = "or" then .or (outlines items)
    else .leaf
  | _ => .leaf

/-- The combinators of some raw filters. -/
def outlines : List Json → List Outline
  | [] => []
  | item :: rest => outline item :: outlines rest

end

mutual

/-- The leaves of a raw filter from left to right. -/
def leaves : Json → List Json
  | .object [(key, .array items)] =>
    if key = "and" ∨ key = "or" then leavesOfAll items else [.object [(key, .array items)]]
  | json => [json]

/-- The leaves of some raw filters from left to right. -/
def leavesOfAll : List Json → List Json
  | [] => []
  | item :: rest => leaves item ++ leavesOfAll rest

end

end Json

/-! ### The tree of a compiled filter -/

namespace SearchFilter

mutual

/-- The combinators of a filter; a negation has the combinators of what it negates. -/
def outline : SearchFilter → Outline
  | .matchAll _ | .terms .. | .wildcard .. => .leaf
  | .not inner => outline inner
  | .and children => .and (outlines children)
  | .or children => .or (outlines children)

/-- The combinators of some filters. -/
def outlines : List SearchFilter → List Outline
  | [] => []
  | child :: rest => outline child :: outlines rest

end

mutual

/-- The leaves of a filter from left to right; a negation has the leaves of what it negates. -/
def leaves : SearchFilter → List SearchFilter
  | .matchAll body => [.matchAll body]
  | .terms values field => [.terms values field]
  | .wildcard field pattern => [.wildcard field pattern]
  | .not inner => leaves inner
  | .and children | .or children => leavesOfAll children

/-- The leaves of some filters from left to right. -/
def leavesOfAll : List SearchFilter → List SearchFilter
  | [] => []
  | child :: rest => leaves child ++ leavesOfAll rest

end

mutual

/-- Whether a part of a filter, at any depth, lets everything through. -/
def hasMatchAll : SearchFilter → Bool
  | .matchAll _ => true
  | .terms .. | .wildcard .. => false
  | .not inner => hasMatchAll inner
  | .and children | .or children => anyHasMatchAll children

/-- Whether a part of some filters lets everything through. -/
def anyHasMatchAll : List SearchFilter → Bool
  | [] => false
  | child :: rest => hasMatchAll child || anyHasMatchAll rest

end

end SearchFilter

/-- A filter has the combinators of a raw filter, each with the same number of children, it has one
leaf for each leaf of the raw filter and in the same order, and nothing in it lets everything
through. -/
structure Mirrors (model : Model) (raw : Json) (filter : SearchFilter) : Prop where
  outline : filter.outline = raw.outline
  /-- Each leaf, possibly negated, is what the leaf in its place compiles to by itself. -/
  leaves : List.Forall₂ (fun part leaf =>
    model.compileWhere part = .ok leaf ∨ model.compileWhere part = .ok (.not leaf))
    raw.leaves filter.leaves
  noMatchAll : filter.hasMatchAll = false

/-! ### Leaves -/

section

variable {model : Model} {property key : String} {condition : Condition} {filter : SearchFilter}

theorem Json.outline_of_ne_combinator {value : Json} (hand : key ≠ "and") (hor : key ≠ "or") :
    (Json.object [(key, value)]).outline = .leaf := by
  cases value with
  | array items => rw [Json.outline, if_neg hand, if_neg hor]
  | _ => rfl

theorem Json.leaves_of_ne_combinator {value : Json} (hand : key ≠ "and") (hor : key ≠ "or") :
    (Json.object [(key, value)]).leaves = [.object [(key, value)]] := by
  cases value with
  | array items => rw [Json.leaves, if_neg (not_or.mpr ⟨hand, hor⟩)]
  | _ => rfl

/-- The raw form of a well-formed clause compiles to what the clause compiles to. -/
theorem Model.compileWhere_toJson {clause : Clause} (h : clause.wellFormed = true) :
    model.compileWhere clause.toJson = clause.compile model := by
  have hread : Clause.ofJson clause.toJson = .ok (some clause) :=
    Clause.ofJson_eq_some_iff.mpr ⟨h, rfl⟩
  unfold compileWhere
  rw [hread]
  rfl

/-- The filter of a comparison is one test or the negation of one. -/
theorem Condition.exists_leaves_toFilter (condition : Condition) (field : String) :
    ∃ leaf, (condition.toFilter field).leaves = [leaf] ∧
      (condition.toFilter field = leaf ∨ condition.toFilter field = .not leaf) := by
  cases condition with
  | neq value => exact ⟨_, rfl, .inr rfl⟩
  | _ => exact ⟨_, rfl, .inl rfl⟩

theorem Clause.mirrors_compileLeaf (hwellFormed : (leaf property condition).wellFormed = true)
    (h : compileLeaf model property condition = .ok filter) :
    Mirrors model (leaf property condition).toJson filter := by
  obtain ⟨⟨hand, hor⟩, -⟩ := wellFormed_leaf_iff.mp hwellFormed
  have hcompile : model.compileWhere (leaf property condition).toJson = .ok filter := by
    rw [Model.compileWhere_toJson hwellFormed]
    exact h
  unfold compileLeaf at h
  split at h
  case isFalse => cases h
  obtain rfl := Except.ok.inj h
  obtain ⟨test, hleaves, htest⟩ := condition.exists_leaves_toFilter (model.fieldOf property)
  constructor
  case outline =>
    rw [toJson, Json.outline_of_ne_combinator hand hor]
    cases condition <;> rfl
  case leaves =>
    rw [hleaves, toJson, Json.leaves_of_ne_combinator hand hor]
    refine .cons ?_ .nil
    rcases htest with htest | htest
    · exact .inl (htest ▸ hcompile)
    · exact .inr (htest ▸ hcompile)
  case noMatchAll => cases condition <;> rfl

end

/-! ### Trees -/

namespace Clause

variable {model : Model}

-- The leaves of several children stand one after the other, so the lists of leaves are appended
-- in step on both sides.
mutual

/-- A compiled clause mirrors the raw form of the clause. -/
theorem mirrors_compile : ∀ {clause : Clause} {filter : SearchFilter},
    clause.wellFormed = true → compile model clause = .ok filter →
      Mirrors model clause.toJson filter
  | leaf property condition, filter, hwellFormed, h => mirrors_compileLeaf hwellFormed h
  | and children, filter, hwellFormed, h => by
    obtain ⟨filters, hfilters, rfl⟩ := map_eq_ok_iff.mp h
    obtain ⟨houtlines, hleaves, hnone⟩ := mirrors_compileAll hwellFormed hfilters
    exact ⟨congrArg Outline.and houtlines, hleaves, hnone⟩
  | or children, filter, hwellFormed, h => by
    obtain ⟨filters, hfilters, rfl⟩ := map_eq_ok_iff.mp h
    obtain ⟨houtlines, hleaves, hnone⟩ := mirrors_compileAll hwellFormed hfilters
    exact ⟨congrArg Outline.or houtlines, hleaves, hnone⟩

/-- Compiled clauses mirror the raw forms of the clauses, in order and none left out. -/
theorem mirrors_compileAll : ∀ {clauses : List Clause} {filters : List SearchFilter},
    allWellFormed clauses = true → compileAll model clauses = .ok filters →
      SearchFilter.outlines filters = Json.outlines (toJsons clauses) ∧
      List.Forall₂ (fun part leaf =>
        model.compileWhere part = .ok leaf ∨ model.compileWhere part = .ok (.not leaf))
        (Json.leavesOfAll (toJsons clauses)) (SearchFilter.leavesOfAll filters) ∧
      SearchFilter.anyHasMatchAll filters = false
  | [], filters, hwellFormed, h => by
    rw [← Except.ok.inj h]
    exact ⟨rfl, .nil, rfl⟩
  | clause :: rest, filters, hwellFormed, h => by
    rw [allWellFormed, Bool.and_eq_true] at hwellFormed
    obtain ⟨filter, others, hclause, hothers, rfl⟩ := compileAll_cons_eq_ok_iff.mp h
    have hfirst := mirrors_compile hwellFormed.1 hclause
    obtain ⟨houtlines, hleaves, hnone⟩ := mirrors_compileAll hwellFormed.2 hothers
    refine ⟨?_, ?_, ?_⟩
    · rw [toJsons, Json.outlines, SearchFilter.outlines, hfirst.outline, houtlines]
    · exact List.rel_append hfirst.leaves hleaves
    · rw [SearchFilter.anyHasMatchAll, hfirst.noMatchAll, hnone]
      rfl

end

end Clause

/-! ### Raw filters -/

namespace Model

variable {model : Model} {raw : Json} {filter : SearchFilter}

/-- A raw filter that restricts something compiles to a filter that mirrors it. -/
theorem mirrors_of_compileWhere (hnull : raw ≠ .null) (hempty : raw ≠ .object [])
    (h : model.compileWhere raw = .ok filter) : Mirrors model raw filter := by
  obtain ⟨clause, hread, hcompile⟩ := bind_eq_ok_iff.mp h
  cases clause with
  | none => exact absurd (Clause.ofJson_eq_none_iff.mp hread) (not_or.mpr ⟨hnull, hempty⟩)
  | some clause =>
    obtain ⟨hwellFormed, rfl⟩ := Clause.ofJson_eq_some_iff.mp hread
    exact Clause.mirrors_compile hwellFormed hcompile

/-- Only null and the empty object let everything through, in whole or in part. -/
theorem hasMatchAll_iff_of_compileWhere (h : model.compileWhere raw = .ok filter) :
    filter.hasMatchAll = true ↔ raw = .null ∨ raw = .object [] := by
  constructor
  · intro hall
    by_contra hraw
    obtain ⟨hnull, hempty⟩ := not_or.mp hraw
    rw [(mirrors_of_compileWhere hnull hempty h).noMatchAll] at hall
    cases hall
  · rintro (rfl | rfl) <;>
    · rw [← Except.ok.inj h]
      rfl

/-- Null and the empty object, and nothing else, compile to the filter that lets everything
through. -/
theorem compileWhere_eq_everything_iff :
    model.compileWhere raw = .ok .everything ↔ raw = .null ∨ raw = .object [] := by
  constructor
  · intro h
    exact (hasMatchAll_iff_of_compileWhere h).mp rfl
  · rintro (rfl | rfl) <;> rfl

end Model

end RecordBridge
