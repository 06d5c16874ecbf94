import RecordBridge.Proofs.Success
import RecordBridge.SearchFilter.Compile

/-!
# Compiling keeps the meaning of clauses

Under every reading of the two atomic tests, the filter that a clause compiles to holds if and only
if the clause does with each property read at its field (`Model.holds_compileClause`).

The filters of the children of a clause hold one by one as the children do
(`Clause.map_holds_compileAll`), so a combinator may be any function of the truth values of its
children; for `and` and `or` these are `SearchFilter.allHold_eq_all`,
`SearchFilter.anyHolds_eq_any` and their counterparts for clauses.
-/

namespace RecordBridge

variable {model : Model} {tests : SearchFilter.Tests}

/-! ### Combinators -/

theorem SearchFilter.allHold_eq_all (filters : List SearchFilter) :
    allHold tests filters = (filters.map (holds tests)).all id := by
  induction filters with
  | nil => rfl
  | cons filter rest ih =>
    rw [allHold, ih]
    rfl

theorem SearchFilter.anyHolds_eq_any (filters : List SearchFilter) :
    anyHolds tests filters = (filters.map (holds tests)).any id := by
  induction filters with
  | nil => rfl
  | cons filter rest ih =>
    rw [anyHolds, ih]
    rfl

theorem Clause.allHold_eq_all (clauses : List Clause) :
    allHold model tests clauses = (clauses.map (holds model tests)).all id := by
  induction clauses with
  | nil => rfl
  | cons clause rest ih =>
    rw [allHold, ih]
    rfl

theorem Clause.anyHolds_eq_any (clauses : List Clause) :
    anyHolds model tests clauses = (clauses.map (holds model tests)).any id := by
  induction clauses with
  | nil => rfl
  | cons clause rest ih =>
    rw [anyHolds, ih]
    rfl

/-! ### Leaves -/

/-- The filter of a comparison means the comparison. -/
theorem Condition.holds_toFilter (condition : Condition) (field : String) :
    (condition.toFilter field).holds tests = condition.holds tests field := by
  cases condition with
  | eq value => exact Bool.or_false _
  | neq value => exact congrArg Bool.not (Bool.or_false _)
  | inq values => rfl
  | like pattern => rfl

theorem Clause.holds_compileLeaf {property : String} {condition : Condition}
    {filter : SearchFilter} (h : compileLeaf model property condition = .ok filter) :
    filter.holds tests = condition.holds tests (model.fieldOf property) := by
  unfold compileLeaf at h
  split at h
  · rw [← Except.ok.inj h, Condition.holds_toFilter]
  · cases h

/-! ### Trees -/

namespace Clause

/-- Several clauses compile one by one. -/
theorem compileAll_cons_eq_ok_iff {clause : Clause} {rest : List Clause}
    {filters : List SearchFilter} : compileAll model (clause :: rest) = .ok filters ↔
      ∃ filter others, compile model clause = .ok filter ∧ compileAll model rest = .ok others ∧
        filters = filter :: others := by
  rw [compileAll]
  cases compile model clause with
  | error e => simp
  | ok filter =>
    rw [map_eq_ok_iff]
    constructor
    · rintro ⟨others, hothers, rfl⟩
      exact ⟨filter, others, rfl, hothers, rfl⟩
    · rintro ⟨_, others, hfilter, hothers, rfl⟩
      exact ⟨others, hothers, by rw [Except.ok.inj hfilter]⟩

-- By recursion on the clause.  For the children of a combinator the lists of truth values are
-- compared, which leaves no room for a child that is lost or moved.
mutual

/-- A compiled clause means the clause. -/
theorem holds_compile : ∀ {clause : Clause} {filter : SearchFilter},
    compile model clause = .ok filter → filter.holds tests = clause.holds model tests
  | leaf property condition, filter, h => holds_compileLeaf h
  | and children, filter, h => by
    obtain ⟨filters, hfilters, rfl⟩ := map_eq_ok_iff.mp h
    rw [SearchFilter.holds, holds, SearchFilter.allHold_eq_all, allHold_eq_all,
      map_holds_compileAll hfilters]
  | or children, filter, h => by
    obtain ⟨filters, hfilters, rfl⟩ := map_eq_ok_iff.mp h
    rw [SearchFilter.holds, holds, SearchFilter.anyHolds_eq_any, anyHolds_eq_any,
      map_holds_compileAll hfilters]

/-- Compiled clauses have the truth values of the clauses, in order and none left out. -/
theorem map_holds_compileAll : ∀ {clauses : List Clause} {filters : List SearchFilter},
    compileAll model clauses = .ok filters →
      filters.map (SearchFilter.holds tests) = clauses.map (holds model tests)
  | [], filters, h => by
    rw [← Except.ok.inj h]
    rfl
  | clause :: rest, filters, h => by
    obtain ⟨filter, others, hclause, hothers, rfl⟩ := compileAll_cons_eq_ok_iff.mp h
    rw [List.map_cons, List.map_cons, holds_compile hclause, map_holds_compileAll hothers]

end

end Clause

/-- **Compiling keeps the meaning**: a filter holds if and only if the clause does that it was
compiled from, and it always holds if there was none. -/
theorem Model.holds_compileClause {clause : Option Clause} {filter : SearchFilter}
    (h : model.compileClause clause = .ok filter) (tests : SearchFilter.Tests) :
    filter.holds tests = clause.elim true fun clause => clause.holds model tests := by
  cases clause with
  | none =>
    rw [← Except.ok.inj h]
    rfl
  | some clause => exact Clause.holds_compile h

/-- A model whose only property has another name in the store. -/
def titledModel : Model :=
  (Model.named "Project").withProperty "title"
    { Property.plain with physicalName := some "project" }

/-- A clause that excludes a title, beside an empty alternative. -/
def noDraftClause : Clause :=
  .and [.leaf "title" (.neq (.string "draft")), .or [], .leaf "title" (.inq [])]

/-- The filter of a clause for an object whose title is the one that is excluded. -/
theorem holds_compileClause_noDraft :
    let tests : SearchFilter.Tests :=
      ⟨fun field value => field = "project.raw" ∧ value = .string "draft", fun _ _ => false⟩
    let filter : SearchFilter :=
      .and [.not (.terms [.string "draft"] "project.raw"), .or [], .terms [] "project.raw"]
    titledModel.compileClause (some noDraftClause) = .ok filter ∧
      filter.holds tests = noDraftClause.holds titledModel tests := by
  intro tests filter
  have h : titledModel.compileClause (some noDraftClause) = .ok filter := rfl
  exact ⟨h, Model.holds_compileClause h tests⟩

end RecordBridge
