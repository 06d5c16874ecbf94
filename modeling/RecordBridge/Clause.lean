import RecordBridge.Error
import RecordBridge.Json

/-
  Clauses — which records are wanted, as a tree of conditions on properties.

  `Clause.ofJson` reads the raw form, an object with exactly one member at each
  level: `and` and `or` hold arrays of such objects, every other name is a
  property that is compared with a scalar or by one operator. `Clause.toJson`
  writes that form, and `Clause.wellFormed` says which trees it can express.
-/

namespace RecordBridge

/-- How a property is compared. -/
inductive Condition
  | eq (value : Json)
  | neq (value : Json)
  | inq (values : List Json)
  | like (pattern : String)
  deriving DecidableEq

/-- Which records are wanted. -/
inductive Clause
  | leaf (property : String) (condition : Condition)
  | and (children : List Clause)
  | or (children : List Clause)

instance : Inhabited Clause := ⟨.and []⟩

/-- The name of the operator of a condition. -/
def Condition.operator : Condition → String
  | .eq _ => "eq"
  | .neq _ => "neq"
  | .inq _ => "inq"
  | .like _ => "like"

namespace Clause

/-! ### The properties of a clause -/

mutual

/-- The properties that a clause compares, in the order of its leaves. -/
def properties : Clause → List String
  | .leaf property _ => [property]
  | .and children | .or children => propertiesOfAll children

/-- The properties that some clauses compare, in the order of their leaves. -/
def propertiesOfAll : List Clause → List String
  | [] => []
  | child :: rest => properties child ++ propertiesOfAll rest

end

/-! ### Reading the raw form -/

/-- Reads what a property is compared with. -/
def parseCondition (property : String) : Json → Except QueryError Condition
  | .object [(operator, operand)] =>
    if operator = "neq" then .ok (.neq operand)
    else if operator = "inq" then
      match operand with
      | .array values => .ok (.inq values)
      | other =>
        .error (.invalidFilter
          ("'inq' on '" ++ property ++ "' expects an array, got " ++ other.kind))
    else if operator = "like" then
      match operand with
      | .string pattern => .ok (.like pattern)
      | other =>
        .error (.invalidFilter
          ("'like' on '" ++ property ++ "' expects a string, got " ++ other.kind))
    else .error (.unsupportedOperator operator)
  | .object members =>
    .error (.invalidFilter
      ("'" ++ property ++ "' expects exactly one operator, got " ++ toString members.length))
  | .array _ =>
    .error (.invalidFilter ("'" ++ property ++ "' cannot be compared with an array; use inq"))
  | scalar => .ok (.eq scalar)

mutual

/-- Reads the members of one level. -/
def parseNode : List (String × Json) → Except QueryError Clause
  | [(key, value)] =>
    if key = "and" then (parseChildren key value).map .and
    else if key = "or" then (parseChildren key value).map .or
    else (parseCondition key value).map (.leaf key)
  | members =>
    .error (.invalidFilter ("expected exactly one key per level, got ["
      ++ String.intercalate ", " (keysOf members) ++ "]"))

/-- Reads what stands under `and` or `or`. -/
def parseChildren (operator : String) : Json → Except QueryError (List Clause)
  | .array items => parseOperands operator items
  | other =>
    .error (.invalidFilter ("'" ++ operator ++ "' expects an array, got " ++ other.kind))

/-- Reads the operands of `and` or `or` up to the first bad one. -/
def parseOperands (operator : String) : List Json → Except QueryError (List Clause)
  | [] => .ok []
  | item :: rest =>
    match parseOperand operator item with
    | .error e => .error e
    | .ok child => (parseOperands operator rest).map (child :: ·)

/-- Reads one operand of `and` or `or`. -/
def parseOperand (operator : String) : Json → Except QueryError Clause
  | .object (member :: members) => parseNode (member :: members)
  | other =>
    .error (.invalidFilter
      ("'" ++ operator ++ "' operand must be a non-empty object, got " ++ other.kind))

end

/-- Reads a raw filter; null and the empty object restrict nothing. -/
def ofJson : Json → Except QueryError (Option Clause)
  | .null => .ok none
  | .object [] => .ok none
  | .object members => (parseNode members).map some
  | other => .error (.invalidFilter ("expected an object, got " ++ other.kind))

/-! ### Writing the raw form -/

/-- Writes what a property is compared with. -/
def conditionJson : Condition → Json
  | .eq value => value
  | .neq value => .object [("neq", value)]
  | .inq values => .object [("inq", .array values)]
  | .like pattern => .object [("like", .string pattern)]

mutual

/-- Writes a clause in its raw form. -/
def toJson : Clause → Json
  | .leaf property condition => .object [(property, conditionJson condition)]
  | .and children => .object [("and", .array (toJsons children))]
  | .or children => .object [("or", .array (toJsons children))]

/-- Writes clauses in their raw form. -/
def toJsons : List Clause → List Json
  | [] => []
  | child :: rest => toJson child :: toJsons rest

end

/-- Whether an equality with this value can be told from an operator or a list. -/
def isComparable : Json → Bool
  | .array _ | .object _ => false
  | _ => true

mutual

/-- Whether the raw form can express a clause: no property is called `and` or `or`,
and nothing is compared for equality with an array or an object. -/
def wellFormed : Clause → Bool
  | .leaf property (.eq value) => property ≠ "and" ∧ property ≠ "or" ∧ isComparable value
  | .leaf property _ => property ≠ "and" ∧ property ≠ "or"
  | .and children | .or children => allWellFormed children

/-- Whether the raw form can express all of some clauses. -/
def allWellFormed : List Clause → Bool
  | [] => true
  | child :: rest => wellFormed child && allWellFormed rest

end

end Clause

end RecordBridge
