/-
  Query errors — everything that can go wrong while filters and records are
  taken to the terms of the remote store, before anything is sent.
-/

namespace RecordBridge

/-- Why a filter, a model or a record cannot be used. -/
inductive QueryError
  | unsupportedOperator (operator : String)
  | invalidFilter (reason : String)
  | unknownProperty (model property : String)
  | invalidOrder (reason : String)
  | missingPrimaryKey (model : String)
  | missingUniqueProperty (model : String)
  | missingUniqueValue (model property : String)
  | invalidModel (reason : String)
  | unknownModel (name : String)
  | invalidRemoteObject (reason : String)
  deriving DecidableEq, Repr

/-- The wording of an error. -/
def QueryError.message : QueryError → String
  | unsupportedOperator operator => "'" ++ operator ++ "' operator is not supported"
  | invalidFilter reason => "invalid where filter: " ++ reason
  | unknownProperty model property =>
    "unknown property '" ++ property ++ "' on model '" ++ model ++ "'"
  | invalidOrder reason => "invalid order expression: " ++ reason
  | missingPrimaryKey model =>
    "model '" ++ model ++ "' has no property flagged as primary key"
  | missingUniqueProperty model => "model '" ++ model ++ "' has no property flagged as unique"
  | missingUniqueValue model property =>
    "unique property '" ++ property ++ "' of model '" ++ model ++ "' has no value"
  | invalidModel reason => "invalid model definition: " ++ reason
  | unknownModel name => "unknown model: " ++ name
  | invalidRemoteObject reason => "invalid remote object: " ++ reason

end RecordBridge
