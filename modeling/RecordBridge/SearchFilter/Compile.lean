import RecordBridge.Clause
import RecordBridge.Model
import RecordBridge.SearchFilter

/-
  From clauses to search filters.

  Every property of a clause must be declared by the model and becomes the field
  that is matched as a whole. The tree keeps its shape. `Clause.holds` gives a
  clause the meaning that compiling it preserves.
-/

namespace RecordBridge

/-- The filter of one comparison with a field. -/
def Condition.toFilter (field : String) : Condition → SearchFilter
  | .eq value => .terms [value] field
  | .neq value => .not (.terms [value] field)
  | .inq values => .terms values field
  | .like pattern => .wildcard field pattern

/-- Whether a comparison with a field holds. -/
def Condition.holds (tests : SearchFilter.Tests) (field : String) : Condition → Bool
  | .eq value => tests.eq field value
  | .neq value => !tests.eq field value
  | .inq values => values.any (tests.eq field)
  | .like pattern => tests.like field pattern

namespace Clause

mutual

/-- Whether a clause holds, when each property is read at its field. -/
def holds (model : Model) (tests : SearchFilter.Tests) : Clause → Bool
  | .leaf property condition => condition.holds tests (model.fieldOf property)
  | .and children => allHold model tests children
  | .or children => anyHolds model tests children

/-- Whether all of some clauses hold. -/
def allHold (model : Model) (tests : SearchFilter.Tests) : List Clause → Bool
  | [] => true
  | child :: rest => holds model tests child && allHold model tests rest

/-- Whether any of some clauses holds. -/
def anyHolds (model : Model) (tests : SearchFilter.Tests) : List Clause → Bool
  | [] => false
  | child :: rest => holds model tests child || anyHolds model tests rest

end

/-- Compiles one comparison. -/
def compileLeaf (model : Model) (property : String) (condition : Condition) :
    Except QueryError SearchFilter :=
  if model.declares property then .ok (condition.toFilter (model.fieldOf property))
  else .error (.unknownProperty model.name property)

mutual

/-- Compiles a clause, up to the first property that is not declared. -/
def compile (model : Model) : Clause → Except QueryError SearchFilter
  | .leaf property condition => compileLeaf model property condition
  | .and children => (compileAll model children).map .and
  | .or children => (compileAll model children).map .or

/-- Compiles some clauses, up to the first property that is not declared. -/
def compileAll (model : Model) : List Clause → Except QueryError (List SearchFilter)
  | [] => .ok []
  | child :: rest =>
    match compile model child with
    | .error e => .error e
    | .ok filter => (compileAll model rest).map (filter :: ·)

end

end Clause

namespace Model

/-- Compiles a clause, if there is one. -/
def compileClause (model : Model) : Option Clause → Except QueryError SearchFilter
  | none => .ok .everything
  | some clause => clause.compile model

/-- Reads and compiles a raw filter. -/
def compileWhere (model : Model) (raw : Json) : Except QueryError SearchFilter := do
  model.compileClause (← Clause.ofJson raw)

/-- Reads and compiles a raw filter, if there is one. -/
def compileWhere? (model : Model) : Option Json → Except QueryError SearchFilter
  | none => .ok .everything
  | some raw => model.compileWhere raw

end Model

end RecordBridge
