import RecordBridge.Json.Decode
import RecordBridge.Model
import RecordBridge.Text.Blank

/-
  Orders — by which properties results are sorted.

  An expression is a property and possibly a direction, with blanks around
  them; tokens after the second are ignored, and so is every direction other
  than `desc`.
-/

namespace RecordBridge

/-- A direction of sorting. -/
inductive Direction
  | asc
  | desc
  deriving DecidableEq, Repr

namespace Direction

/-- The word for a direction. -/
def word : Direction → String
  | .asc => "asc"
  | .desc => "desc"

/-- The direction of a token: descending for `desc` in any case, and ascending
otherwise. -/
def ofToken : Option String → Direction
  | some token => if token.toList.map Char.toLower = ['d', 'e', 's', 'c'] then .desc else .asc
  | none => .asc

end Direction

/-- By which properties results are sorted: one expression or several. -/
inductive OrderSpec
  | single (expression : String)
  | many (expressions : List String)
  deriving DecidableEq, Repr

namespace OrderSpec

/-- The expressions, most important first. -/
def expressions : OrderSpec → List String
  | .single expression => [expression]
  | .many expressions => expressions

/-- Reads a string or an array of strings. -/
def decode (json : Json) : Decoded OrderSpec :=
  match json with
  | .string expression => .ok (.single expression)
  | other =>
    match other.asStrings with
    | .ok expressions => .ok (.many expressions)
    | .error _ => .error (.noAlternative "OrderSpec")

/-- Writes an order. -/
def toJson : OrderSpec → Json
  | .single expression => .string expression
  | .many expressions => .array (expressions.map .string)

end OrderSpec

/-- A field of the store with a direction. -/
structure SortKey where
  field : String
  direction : Direction
  deriving DecidableEq, Repr

/-- Writes a sort key. -/
def SortKey.toJson (key : SortKey) : Json :=
  .object [(key.field, .object [("order", .string key.direction.word)])]

namespace Model

/-- Compiles one expression. -/
def compileExpression (model : Model) (expression : String) : Except QueryError SortKey :=
  match Blank.tokens expression.toList with
  | [] => .error (.invalidOrder ("empty sort expression '" ++ expression ++ "'"))
  | property :: rest =>
    .ok ⟨model.fieldOf (String.ofList property), .ofToken (rest.head?.map String.ofList)⟩

/-- Compiles expressions, up to the first blank one. -/
def compileExpressions (model : Model) : List String → Except QueryError (List SortKey)
  | [] => .ok []
  | expression :: rest =>
    match model.compileExpression expression with
    | .error e => .error e
    | .ok key => (model.compileExpressions rest).map (key :: ·)

/-- Compiles an order. -/
def compileOrder (model : Model) (order : OrderSpec) : Except QueryError (List SortKey) :=
  model.compileExpressions order.expressions

end Model

end RecordBridge
