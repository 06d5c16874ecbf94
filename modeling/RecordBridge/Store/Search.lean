import RecordBridge.Order
import RecordBridge.RemoteObject
import RecordBridge.SearchFilter.Codec

/-
  Searches — what is asked of the store to find objects, and what it answers.

  A hit is an object, either by itself or wrapped in a member `object`. The
  wrapped form is tried first; a hit that does not fit it is read as an object by
  itself.
-/

namespace RecordBridge

open Json (Shape)

/-- Which objects are wanted, and how. -/
structure SearchRequest where
  objectTypes : List String
  filter : SearchFilter
  /-- Physical names; no name means that nothing is left out. -/
  selector : List String
  sort : List SortKey
  deriving DecidableEq

/-- A member that is written only when there is an item. -/
def SearchRequest.listMember (name : String) (items : List Json) : List (String × Json) :=
  if items.isEmpty then [] else [(name, .array items)]

/-- Writes a search. -/
def SearchRequest.toJson (search : SearchRequest) : Json :=
  .object ([("objectTypes", .array (search.objectTypes.map .string)),
      ("filter", search.filter.toJson)] ++
    listMember "propertySelector" (search.selector.map .string) ++
    listMember "sort" (search.sort.map SortKey.toJson))

/-- What a search answers: one page of objects, and how many there are in all. -/
structure SearchAnswer where
  hits : List RemoteObject
  totalHits : Nat
  deriving DecidableEq

namespace SearchAnswer

/-- Reads a hit. -/
def decodeHit (json : Json) : Decoded RemoteObject :=
  match (json.member? "object").map RemoteObject.decode, RemoteObject.decode json with
  | some (.ok object), _ => .ok object
  | _, .ok object => .ok object
  | _, .error _ => .error (.noAlternative "SearchHit")

/-- Reads hits. -/
def decodeHits (json : Json) : Decoded (List RemoteObject) := do
  (← json.asItems).mapM decodeHit

/-- Numbers of hits have 64 bits. -/
def asCount : Json → Decoded Nat := Json.asUnsigned 64

/-- The fields of the JSON form. -/
def shape : Shape := .plain "SearchResponse" ["hits", "totalHits"]

/-- Checks one member. -/
def checkMember (name : String) (json : Json) : Decoded Unit :=
  if name = "hits" then discard (decodeHits json)
  else if name = "totalHits" then discard (asCount json)
  else .ok ()

/-- Reads an answer. -/
def decode (json : Json) : Decoded SearchAnswer := do
  let given ← shape.read checkMember json
  return {
    hits := ← given.field "hits" decodeHits []
    totalHits := ← given.field "totalHits" asCount 0 }

end SearchAnswer

end RecordBridge
