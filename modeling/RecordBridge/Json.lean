import RecordBridge.Assoc

/-
  `Json` — the values that filters, records and request bodies are made of.

  Members of an object stand in the order in which they were written, because
  that order is visible in what is sent. A number is either an integer, kept
  exactly, or a binary floating-point number. Equality is decidable
  (`Json.decEq`), so closed statements about values can be checked by
  evaluation.
-/

namespace RecordBridge

/-- A number: an exact integer or a double. -/
inductive Number
  | integer (value : Int)
  | real (value : Float)
  deriving DecidableEq

/-- A JSON value. -/
inductive Json
  | null
  | bool (value : Bool)
  | number (value : Number)
  | string (value : String)
  | array (items : List Json)
  | object (members : List (String × Json))

instance : Inhabited Json := ⟨.null⟩

/-- A flat record: property names with their values, in order. -/
abbrev Record := Assoc Json

namespace Json

/-- An integer as a value. -/
def ofInt (value : Int) : Json := .number (.integer value)

/-- A record as an object. -/
def ofRecord (record : Record) : Json := .object record.entries

/-- The value of the first member called `key`, of an object. -/
def member? (key : String) : Json → Option Json
  | .object members => lookupEntry key members
  | _ => none

/-- The word for the kind of a value. -/
def kind : Json → String
  | .null => "null"
  | .bool _ => "bool"
  | .number _ => "number"
  | .string _ => "string"
  | .array _ => "array"
  | .object _ => "object"

/-- Whether a value is a string, a number or a Boolean. -/
def isScalar : Json → Bool
  | .bool _ | .number _ | .string _ => true
  | .null | .array _ | .object _ => false

/-! ### Equality -/

mutual

/-- Whether two values are the same, decided member by member. -/
def decEq : (a b : Json) → Decidable (a = b)
  | .null, .null => isTrue rfl
  | .bool a, .bool b => decidable_of_iff (a = b) (by simp)
  | .number a, .number b => decidable_of_iff (a = b) (by simp)
  | .string a, .string b => decidable_of_iff (a = b) (by simp)
  | .array a, .array b =>
    match decEqItems a b with
    | isTrue h => isTrue (by rw [h])
    | isFalse h => isFalse (by simp [h])
  | .object a, .object b =>
    match decEqMembers a b with
    | isTrue h => isTrue (by rw [h])
    | isFalse h => isFalse (by simp [h])
  | .null, .bool _ | .null, .number _ | .null, .string _ | .null, .array _
  | .null, .object _ => isFalse nofun
  | .bool _, .null | .bool _, .number _ | .bool _, .string _ | .bool _, .array _
  | .bool _, .object _ => isFalse nofun
  | .number _, .null | .number _, .bool _ | .number _, .string _ | .number _, .array _
  | .number _, .object _ => isFalse nofun
  | .string _, .null | .string _, .bool _ | .string _, .number _ | .string _, .array _
  | .string _, .object _ => isFalse nofun
  | .array _, .null | .array _, .bool _ | .array _, .number _ | .array _, .string _
  | .array _, .object _ => isFalse nofun
  | .object _, .null | .object _, .bool _ | .object _, .number _ | .object _, .string _
  | .object _, .array _ => isFalse nofun

/-- Whether two lists of values are the same. -/
def decEqItems : (a b : List Json) → Decidable (a = b)
  | [], [] => isTrue rfl
  | a :: as, b :: bs =>
    match decEq a b, decEqItems as bs with
    | isTrue h, isTrue hs => isTrue (by rw [h, hs])
    | isFalse h, _ => isFalse (by simp [h])
    | _, isFalse h => isFalse (by simp [h])
  | [], _ :: _ | _ :: _, [] => isFalse nofun

/-- Whether two lists of members are the same. -/
def decEqMembers : (a b : List (String × Json)) → Decidable (a = b)
  | [], [] => isTrue rfl
  | (k, a) :: as, (l, b) :: bs =>
    match instDecidableEqString k l, decEq a b, decEqMembers as bs with
    | isTrue hk, isTrue h, isTrue hs => isTrue (by rw [hk, h, hs])
    | isFalse h, _, _ => isFalse (by simp [h])
    | _, isFalse h, _ => isFalse (by simp [h])
    | _, _, isFalse h => isFalse (by simp [h])
  | [], _ :: _ | _ :: _, [] => isFalse nofun

end

instance : DecidableEq Json := decEq

end Json

end RecordBridge
