import RecordBridge.Settings
import RecordBridge.Store.Edit
import RecordBridge.Store.Search

/-
  Requests — everything that is sent to the store, with its path and its body.
-/

namespace RecordBridge

/-- A request to the store. -/
inductive StoreRequest
  /-- Edits one object. -/
  | edit (edit : LocatorEdit)
  /-- Edits many objects at once. -/
  | editAll (edits : List LocatorEdit)
  /-- Loads one object. -/
  | load (locator : Locator)
  /-- Searches for one page of objects. -/
  | search (search : SearchRequest) (pageSize : Nat)
  deriving DecidableEq

namespace StoreRequest

/-- The path of a request. -/
def path (paths : ServicePaths) : StoreRequest → String
  | edit _ => paths.objectLocator
  | editAll _ => paths.objectLocators
  | load _ => paths.loadByLocator
  | search _ pageSize => paths.search ++ "?pageSize=" ++ toString pageSize

/-- The body of a request. -/
def body : StoreRequest → Json
  | edit e => e.toJson
  | editAll edits => .array (edits.map LocatorEdit.toJson)
  | load locator => locator.toJson
  | search s _ => s.toJson

/-- Whether a request changes objects. -/
def isEdit : StoreRequest → Bool
  | edit _ | editAll _ => true
  | load _ | search .. => false

/-- The edits that a request carries. -/
def edits : StoreRequest → List LocatorEdit
  | edit e => [e]
  | editAll edits => edits
  | load _ | search .. => []

end StoreRequest

end RecordBridge
