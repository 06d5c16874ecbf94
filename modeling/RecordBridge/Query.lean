import RecordBridge.Order
import RecordBridge.SearchFilter.Compile
import RecordBridge.Selection

/-
  Queries — a restriction, an order, a selection and a limit, each of them
  optional, and what they come to in the terms of the store.
-/

namespace RecordBridge

open Json (Shape)

/-- What a caller asks for. -/
structure Query where
  /-- The raw filter. -/
  restriction : Option Json
  order : Option OrderSpec
  selection : Option Selection
  limit : Option Nat
  deriving DecidableEq

namespace Query

/-- The query that asks for everything. -/
def all : Query := ⟨none, none, none, none⟩

/-- The fields of the JSON form. -/
def shape : Shape := .plain "Filter" ["where", "order", "fields", "limit"]

/-- Any value but null. -/
def anyValue (json : Json) : Decoded Json := .ok json

/-- The greatest limit has 32 bits. -/
def asLimit : Json → Decoded Nat := Json.asUnsigned 32

/-- Checks one member. -/
def checkMember (name : String) (json : Json) : Decoded Unit :=
  if name = "order" then discard (json.asOptional OrderSpec.decode)
  else if name = "fields" then discard (json.asOptional Selection.decode)
  else if name = "limit" then discard (json.asOptional asLimit)
  else .ok ()

/-- Reads a query. -/
def decode (json : Json) : Decoded Query := do
  let given ← shape.read checkMember json
  return {
    restriction := ← given.field "where" (Json.asOptional anyValue) none
    order := ← given.field "order" (Json.asOptional OrderSpec.decode) none
    selection := ← given.field "fields" (Json.asOptional Selection.decode) none
    limit := ← given.field "limit" (Json.asOptional asLimit) none }

/-- A member that is written only when there is a value. -/
def optionalMember (name : String) (value : Option Json) : List (String × Json) :=
  match value with
  | some json => [(name, json)]
  | none => []

/-- Writes a query. -/
def toJson (query : Query) : Json :=
  .object (optionalMember "where" query.restriction ++
    optionalMember "order" (query.order.map OrderSpec.toJson) ++
    optionalMember "fields" (query.selection.map Selection.toJson) ++
    optionalMember "limit" (query.limit.map fun n => .ofInt n))

end Query

/-- A query in the terms of the store. -/
structure CompiledQuery where
  filter : SearchFilter
  sort : List SortKey
  /-- Physical names; no name means that nothing is left out. -/
  selector : List String
  limit : Option Nat
  deriving DecidableEq

/-- Compiles an order, if there is one. -/
def Model.compileOrder? (model : Model) : Option OrderSpec → Except QueryError (List SortKey)
  | none => .ok []
  | some order => model.compileOrder order

/-- Compiles a query; a bad restriction is reported before a bad order. -/
def Model.compileQuery (model : Model) (query : Query) : Except QueryError CompiledQuery := do
  let filter ← model.compileWhere? query.restriction
  let sort ← model.compileOrder? query.order
  return ⟨filter, sort, model.compileSelection query.selection, query.limit⟩

end RecordBridge
