import RecordBridge.Connector

/-
  Operations as data — the eight things that a connector can be asked to do, each
  with its input.

  What is true of every operation is stated about `Connector.perform`.
-/

namespace RecordBridge

/-- An operation with its input. -/
inductive Operation
  | create (name : String) (data : Record)
  | findById (name : String) (id : Json)
  | find (name : String) (query : Query)
  | count (name : String) (restriction : Option Json)
  | replaceById (name : String) (id : Json) (data : Record)
  | destroyById (name : String) (id : Json)
  | updateAll (name : String) (restriction : Option Json) (data : Record)
  | destroyAll (name : String) (restriction : Option Json)
  deriving DecidableEq

namespace Operation

/-- What an operation gives when it succeeds. -/
def Value : Operation → Type
  | create .. => String
  | findById .. => Option Record
  | find .. => List Record
  | count .. => Nat
  | replaceById .. => Unit
  | destroyById .. => Unit
  | updateAll .. => Nat
  | destroyAll .. => Nat

/-- Whether an operation is there to look at objects and not to change them. -/
def readsOnly : Operation → Bool
  | findById .. | find .. | count .. => true
  | create .. | replaceById .. | destroyById .. | updateAll .. | destroyAll .. => false

end Operation

/-- What a connector does for an operation. -/
def Connector.perform (connector : Connector) :
    (operation : Operation) → Exchange operation.Value
  | .create name data => connector.create name data
  | .findById name id => connector.findById name id
  | .find name query => connector.find name query
  | .count name restriction => connector.count name restriction
  | .replaceById name id data => connector.replaceById name id data
  | .destroyById name id => connector.destroyById name id
  | .updateAll name restriction data => connector.updateAll name restriction data
  | .destroyAll name restriction => connector.destroyAll name restriction

end RecordBridge
