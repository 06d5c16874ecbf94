import RecordBridge.Error
import RecordBridge.Http.Failure
import RecordBridge.Settings

/-
  Connector errors — everything that can go wrong with an operation.
-/

namespace RecordBridge

/-- Why an operation failed. -/
inductive ConnectorError
  /-- A filter, a model or a record cannot be used. -/
  | query (error : QueryError)
  /-- A single request failed. -/
  | transport (failure : HttpFailure)
  /-- The edit of all objects that a search found failed; which of them are edited is not
  known. -/
  | partialBatch (matched : Nat) (failure : HttpFailure)
  /-- There are more objects than the search returned; none is edited. -/
  | truncatedMatch (total fetched : Nat)
  | settings (fault : SettingsFault)
  /-- The answer of the service makes no sense. -/
  | invalidResponse (reason : String)
  deriving DecidableEq, Repr

/-- The wording of an error. -/
def ConnectorError.message : ConnectorError → String
  | query error => error.message
  | transport failure => "object store request failed: " ++ failure.message
  | partialBatch matched failure =>
    "bulk edit of " ++ toString matched ++ " matched objects failed: " ++ failure.message
  | truncatedMatch total fetched =>
    "search matched " ++ toString total ++ " objects but returned only " ++ toString fetched ++
      "; raise default_page_size to edit them all"
  | settings fault => "invalid connector configuration: " ++ fault.message
  | invalidResponse reason => "unexpected object store response: " ++ reason

end RecordBridge
