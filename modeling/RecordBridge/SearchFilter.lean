import RecordBridge.Json

/-
  Search filters — filter expressions of the remote store.

  They speak of fields of the store instead of properties of a model. A filter
  holds of an object according to `SearchFilter.holds`, for any reading of the
  two atomic tests.
-/

namespace RecordBridge

/-- A filter expression of the remote store. -/
inductive SearchFilter
  /-- Every object; the body carries no meaning. -/
  | matchAll (body : Record)
  /-- The field has one of the values. -/
  | terms (values : List Json) (field : String)
  | not (inner : SearchFilter)
  | and (children : List SearchFilter)
  | or (children : List SearchFilter)
  /-- The field fits the pattern. -/
  | wildcard (field pattern : String)

instance : Inhabited SearchFilter := ⟨.and []⟩

namespace SearchFilter

/-- The filter that every object satisfies. -/
def everything : SearchFilter := .matchAll .empty

/-- Whether a filter is the one that restricts nothing. -/
def isMatchAll : SearchFilter → Bool
  | .matchAll _ => true
  | _ => false

/-! ### Equality -/

mutual

/-- Whether two filters are the same. -/
def decEq : (a b : SearchFilter) → Decidable (a = b)
  | .matchAll a, .matchAll b => decidable_of_iff (a = b) (by simp)
  | .terms a f, .terms b g => decidable_of_iff (a = b ∧ f = g) (by simp)
  | .wildcard f a, .wildcard g b => decidable_of_iff (f = g ∧ a = b) (by simp)
  | .not a, .not b =>
    match decEq a b with
    | isTrue h => isTrue (by rw [h])
    | isFalse h => isFalse (by simp [h])
  | .and a, .and b =>
    match decEqList a b with
    | isTrue h => isTrue (by rw [h])
    | isFalse h => isFalse (by simp [h])
  | .or a, .or b =>
    match decEqList a b with
    | isTrue h => isTrue (by rw [h])
    | isFalse h => isFalse (by simp [h])
  | .matchAll _, .terms .. | .matchAll _, .not _ | .matchAll _, .and _ | .matchAll _, .or _
  | .matchAll _, .wildcard .. => isFalse nofun
  | .terms .., .matchAll _ | .terms .., .not _ | .terms .., .and _ | .terms .., .or _
  | .terms .., .wildcard .. => isFalse nofun
  | .not _, .matchAll _ | .not _, .terms .. | .not _, .and _ | .not _, .or _
  | .not _, .wildcard .. => isFalse nofun
  | .and _, .matchAll _ | .and _, .terms .. | .and _, .not _ | .and _, .or _
  | .and _, .wildcard .. => isFalse nofun
  | .or _, .matchAll _ | .or _, .terms .. | .or _, .not _ | .or _, .and _
  | .or _, .wildcard .. => isFalse nofun
  | .wildcard .., .matchAll _ | .wildcard .., .terms .. | .wildcard .., .not _
  | .wildcard .., .and _ | .wildcard .., .or _ => isFalse nofun

/-- Whether two lists of filters are the same. -/
def decEqList : (a b : List SearchFilter) → Decidable (a = b)
  | [], [] => isTrue rfl
  | a :: as, b :: bs =>
    match decEq a b, decEqList as bs with
    | isTrue h, isTrue hs => isTrue (by rw [h, hs])
    | isFalse h, _ => isFalse (by simp [h])
    | _, isFalse h => isFalse (by simp [h])
  | [], _ :: _ | _ :: _, [] => isFalse nofun

end

instance : DecidableEq SearchFilter := decEq

/-! ### Meaning -/

/-- A reading of the two atomic tests, for one object. -/
structure Tests where
  /-- The field has the value. -/
  eq : String → Json → Bool
  /-- The field fits the pattern. -/
  like : String → String → Bool

mutual

/-- Whether a filter holds. -/
def holds (tests : Tests) : SearchFilter → Bool
  | .matchAll _ => true
  | .terms values field => values.any (tests.eq field)
  | .not inner => !holds tests inner
  | .and children => allHold tests children
  | .or children => anyHolds tests children
  | .wildcard field pattern => tests.like field pattern

/-- Whether all of some filters hold. -/
def allHold (tests : Tests) : List SearchFilter → Bool
  | [] => true
  | child :: rest => holds tests child && allHold tests rest

/-- Whether any of some filters holds. -/
def anyHolds (tests : Tests) : List SearchFilter → Bool
  | [] => false
  | child :: rest => holds tests child || anyHolds tests rest

end

/-! ### The fields of a filter -/

mutual

/-- The fields that a filter tests, in the order of its leaves. -/
def fields : SearchFilter → List String
  | .matchAll _ => []
  | .terms _ field => [field]
  | .wildcard field _ => [field]
  | .not inner => fields inner
  | .and children | .or children => fieldsOfAll children

/-- The fields that some filters test, in the order of their leaves. -/
def fieldsOfAll : List SearchFilter → List String
  | [] => []
  | child :: rest => fields child ++ fieldsOfAll rest

end

end SearchFilter

end RecordBridge
