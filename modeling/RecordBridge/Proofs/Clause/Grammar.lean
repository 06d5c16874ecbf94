import RecordBridge.Clause
import RecordBridge.Proofs.Success

/-!
# The grammar of raw filters

Reading a raw filter gives a clause if and only if the clause is well-formed and the filter is its
raw form, it gives no clause for null and the empty object alone, and every other value is rejected
(`Clause.ofJson_spec`).

Each reader is the inverse of the writer for what it reads: a condition
(`Clause.parseCondition_eq_ok_iff`), a level (`Clause.parseNode_eq_ok_iff`), the operands of a
combinator (`Clause.parseOperands_eq_ok_iff`).
-/

namespace RecordBridge

/-- Whether the raw form can express a condition. -/
def Condition.expressible : Condition → Bool
  | eq value => Clause.isComparable value
  | _ => true

/-- Whether an error rejects a raw filter as such. -/
def QueryError.rejectsFilter : QueryError → Bool
  | invalidFilter _ | unsupportedOperator _ => true
  | _ => false

namespace Clause

/-! ### Conditions -/

theorem parseCondition_conditionJson (property : String) {condition : Condition}
    (h : condition.expressible = true) :
    parseCondition property (conditionJson condition) = .ok condition := by
  cases condition with
  | eq value =>
    cases value with
    | array items => cases h
    | object members => cases h
    | _ => rfl
  | neq value => rfl
  | inq values => rfl
  | like pattern => rfl

theorem eq_conditionJson_of_parseCondition {property : String} {json : Json}
    {condition : Condition} (h : parseCondition property json = .ok condition) :
    condition.expressible = true ∧ json = conditionJson condition := by
  unfold parseCondition at h
  split at h
  case h_1 operator operand =>
    split at h
    case isTrue hneq =>
      rw [← Except.ok.inj h, hneq]
      exact ⟨rfl, rfl⟩
    split at h
    case isTrue hinq =>
      split at h
      · rw [← Except.ok.inj h, hinq]
        exact ⟨rfl, rfl⟩
      · cases h
    split at h
    case isTrue hlike =>
      split at h
      · rw [← Except.ok.inj h, hlike]
        exact ⟨rfl, rfl⟩
      · cases h
    · cases h
  case h_2 => cases h
  case h_3 => cases h
  case h_4 hone hmany harray =>
    -- Neither an object nor an array is left, so an equality is what can be told apart.
    rw [← Except.ok.inj h]
    refine ⟨?_, rfl⟩
    cases json with
    | array items => exact absurd rfl (harray items)
    | object members => exact absurd rfl (hmany members)
    | _ => rfl

/-- Conditions are read as they are written. -/
theorem parseCondition_eq_ok_iff {property : String} {json : Json} {condition : Condition} :
    parseCondition property json = .ok condition ↔
      condition.expressible = true ∧ json = conditionJson condition := by
  constructor
  · exact eq_conditionJson_of_parseCondition
  · rintro ⟨h, rfl⟩
    exact parseCondition_conditionJson property h

/-! ### Well-formed clauses -/

theorem wellFormed_leaf_iff {property : String} {condition : Condition} :
    (leaf property condition).wellFormed = true ↔
      (property ≠ "and" ∧ property ≠ "or") ∧ condition.expressible = true := by
  cases condition <;> simp [wellFormed, Condition.expressible, and_assoc]

theorem toJson_eq_object (clause : Clause) :
    ∃ key value, clause.toJson = .object [(key, value)] := by
  cases clause <;> exact ⟨_, _, rfl⟩

theorem object_singleton_inj {key key' : String} {value value' : Json} :
    Json.object [(key, value)] = .object [(key', value')] ↔ key = key' ∧ value = value' := by
  simp only [Json.object.injEq, List.cons.injEq, Prod.mk.injEq, and_true]

/-! ### Levels and operands -/

section

variable {key property operator : String} {value item : Json} {condition : Condition}
  {clauses : List Clause} {rest : List Json}

theorem parseNode_eq_leaf_iff : parseNode [(key, value)] = .ok (leaf property condition) ↔
    (key ≠ "and" ∧ key ≠ "or") ∧ property = key ∧ parseCondition key value = .ok condition := by
  rw [parseNode]
  split
  case isTrue hand => simp [map_eq_ok_iff, hand]
  split
  case isTrue hor => simp [map_eq_ok_iff, hor]
  case isFalse hand hor =>
    rw [map_eq_ok_iff]
    constructor
    · rintro ⟨read, hread, hleaf⟩
      obtain ⟨rfl, rfl⟩ := leaf.inj hleaf
      exact ⟨⟨hand, hor⟩, rfl, hread⟩
    · rintro ⟨-, rfl, hread⟩
      exact ⟨condition, hread, rfl⟩

theorem parseNode_eq_and_iff : parseNode [(key, value)] = .ok (and clauses) ↔
    key = "and" ∧ parseChildren key value = .ok clauses := by
  rw [parseNode]
  split
  case isTrue hand => simp [map_eq_ok_iff, hand]
  split
  case isTrue hor => simp [map_eq_ok_iff, hor]
  case isFalse hand hor => simp [map_eq_ok_iff, hand]

theorem parseNode_eq_or_iff : parseNode [(key, value)] = .ok (or clauses) ↔
    key = "or" ∧ parseChildren key value = .ok clauses := by
  rw [parseNode]
  split
  case isTrue hand => simp [map_eq_ok_iff, hand]
  split
  case isTrue hor => simp [map_eq_ok_iff, hor]
  case isFalse hand hor => simp [map_eq_ok_iff, hor]

theorem parseOperands_cons_eq_ok_iff : parseOperands operator (item :: rest) = .ok clauses ↔
    ∃ child others, parseOperand operator item = .ok child ∧
      parseOperands operator rest = .ok others ∧ clauses = child :: others := by
  rw [parseOperands]
  cases parseOperand operator item with
  | error e => simp
  | ok child =>
    rw [map_eq_ok_iff]
    constructor
    · rintro ⟨others, hothers, rfl⟩
      exact ⟨child, others, rfl, hothers, rfl⟩
    · rintro ⟨_, others, hchild, hothers, rfl⟩
      exact ⟨others, hothers, by rw [Except.ok.inj hchild]⟩

end

-- The readers call one another on parts of a value, and so do the four equivalences.  The writer is
-- taken apart by the shape of the clause, because only the shape tells a property from a
-- combinator.
mutual

/-- A level is read as it is written. -/
theorem parseNode_eq_ok_iff : ∀ {members : List (String × Json)} {clause : Clause},
    parseNode members = .ok clause ↔
      clause.wellFormed = true ∧ Json.object members = clause.toJson
  | [], clause => by
    obtain ⟨key, value, h⟩ := clause.toJson_eq_object
    rw [h]
    simp [parseNode]
  | first :: second :: rest, clause => by
    obtain ⟨key, value, h⟩ := clause.toJson_eq_object
    rw [h]
    simp [parseNode]
  | [(key, value)], leaf property condition => by
    rw [parseNode_eq_leaf_iff, parseCondition_eq_ok_iff, wellFormed_leaf_iff, toJson,
      object_singleton_inj]
    constructor
    · rintro ⟨hkey, rfl, hcondition, rfl⟩
      exact ⟨⟨hkey, hcondition⟩, rfl, rfl⟩
    · rintro ⟨⟨hproperty, hcondition⟩, rfl, rfl⟩
      exact ⟨hproperty, rfl, hcondition, rfl⟩
  | [(key, value)], and clauses => by
    rw [parseNode_eq_and_iff, parseChildren_eq_ok_iff, wellFormed, toJson, object_singleton_inj]
    exact and_left_comm
  | [(key, value)], or clauses => by
    rw [parseNode_eq_or_iff, parseChildren_eq_ok_iff, wellFormed, toJson, object_singleton_inj]
    exact and_left_comm

/-- The operands of a combinator are an array. -/
theorem parseChildren_eq_ok_iff {operator : String} :
    ∀ {json : Json} {clauses : List Clause}, parseChildren operator json = .ok clauses ↔
      allWellFormed clauses = true ∧ json = .array (toJsons clauses)
  | .array items, clauses => by
    rw [parseChildren, parseOperands_eq_ok_iff, Json.array.injEq]
  | .null, clauses | .bool _, clauses | .number _, clauses | .string _, clauses
  | .object _, clauses => by simp [parseChildren]

/-- Operands are read as they are written, in order and none left out. -/
theorem parseOperands_eq_ok_iff {operator : String} :
    ∀ {items : List Json} {clauses : List Clause}, parseOperands operator items = .ok clauses ↔
      allWellFormed clauses = true ∧ items = toJsons clauses
  | [], clauses => by
    cases clauses with
    | nil => simp [parseOperands, allWellFormed, toJsons]
    | cons clause rest => simp [parseOperands, toJsons]
  | item :: rest, clauses => by
    have hitem : ∀ child, parseOperand operator item = .ok child ↔ _ :=
      fun child => parseOperand_eq_ok_iff
    have hrest : ∀ others, parseOperands operator rest = .ok others ↔ _ :=
      fun others => parseOperands_eq_ok_iff
    simp only [parseOperands_cons_eq_ok_iff, hitem, hrest]
    cases clauses with
    | nil => simp [toJsons]
    | cons clause others =>
      simp only [allWellFormed, toJsons, Bool.and_eq_true, List.cons.injEq]
      constructor
      · rintro ⟨_, _, ⟨hchild, rfl⟩, ⟨hothers, rfl⟩, rfl, rfl⟩
        exact ⟨⟨hchild, hothers⟩, rfl, rfl⟩
      · rintro ⟨⟨hchild, hothers⟩, rfl, rfl⟩
        exact ⟨clause, others, ⟨hchild, rfl⟩, ⟨hothers, rfl⟩, rfl, rfl⟩

/-- An operand is a level by itself. -/
theorem parseOperand_eq_ok_iff {operator : String} :
    ∀ {json : Json} {clause : Clause}, parseOperand operator json = .ok clause ↔
      clause.wellFormed = true ∧ json = clause.toJson
  | .object (member :: members), clause => by
    rw [parseOperand, parseNode_eq_ok_iff]
  | .object [], clause | .null, clause | .bool _, clause | .number _, clause | .string _, clause
  | .array _, clause => by
    obtain ⟨key, value, h⟩ := clause.toJson_eq_object
    simp [parseOperand, h]

end

/-! ### Rejection -/

/-- A bad condition is rejected. -/
theorem rejectsFilter_of_parseCondition {property : String} {json : Json} {error : QueryError}
    (h : parseCondition property json = .error error) : error.rejectsFilter = true := by
  unfold parseCondition at h
  repeat' split at h
  all_goals cases h <;> rfl

mutual

/-- A bad level is rejected, wherever the fault in it is. -/
theorem rejectsFilter_of_parseNode : ∀ {members : List (String × Json)} {error : QueryError},
    parseNode members = .error error → error.rejectsFilter = true
  | [], error, h => by
    rw [← Except.error.inj h]
    rfl
  | first :: second :: rest, error, h => by
    rw [← Except.error.inj h]
    rfl
  | [(key, value)], error, h => by
    rw [parseNode] at h
    split at h
    case isTrue => exact rejectsFilter_of_parseChildren (map_eq_error_iff.mp h)
    split at h
    case isTrue => exact rejectsFilter_of_parseChildren (map_eq_error_iff.mp h)
    case isFalse => exact rejectsFilter_of_parseCondition (map_eq_error_iff.mp h)

theorem rejectsFilter_of_parseChildren {operator : String} :
    ∀ {json : Json} {error : QueryError}, parseChildren operator json = .error error →
      error.rejectsFilter = true
  | .array items, error, h => rejectsFilter_of_parseOperands h
  | .null, error, h | .bool _, error, h | .number _, error, h | .string _, error, h
  | .object _, error, h => by
    rw [← Except.error.inj h]
    rfl

theorem rejectsFilter_of_parseOperands {operator : String} :
    ∀ {items : List Json} {error : QueryError}, parseOperands operator items = .error error →
      error.rejectsFilter = true
  | [], error, h => by cases h
  | item :: rest, error, h => by
    rw [parseOperands] at h
    cases hitem : parseOperand operator item with
    | error e =>
      rw [hitem] at h
      rw [← Except.error.inj h]
      exact rejectsFilter_of_parseOperand hitem
    | ok child =>
      rw [hitem] at h
      exact rejectsFilter_of_parseOperands (map_eq_error_iff.mp h)

theorem rejectsFilter_of_parseOperand {operator : String} :
    ∀ {json : Json} {error : QueryError}, parseOperand operator json = .error error →
      error.rejectsFilter = true
  | .object (member :: members), error, h => rejectsFilter_of_parseNode h
  | .object [], error, h | .null, error, h | .bool _, error, h | .number _, error, h
  | .string _, error, h | .array _, error, h => by
    rw [← Except.error.inj h]
    rfl

end

theorem rejectsFilter_of_ofJson {raw : Json} {error : QueryError}
    (h : ofJson raw = .error error) : error.rejectsFilter = true := by
  unfold ofJson at h
  split at h
  · cases h
  · cases h
  · exact rejectsFilter_of_parseNode (map_eq_error_iff.mp h)
  · rw [← Except.error.inj h]
    rfl

/-! ### Raw filters -/

theorem ofJson_eq_some_iff {raw : Json} {clause : Clause} :
    ofJson raw = .ok (some clause) ↔ clause.wellFormed = true ∧ raw = clause.toJson := by
  obtain ⟨key, value, hjson⟩ := clause.toJson_eq_object
  cases raw with
  | object members =>
    cases members with
    | nil => simp [ofJson, hjson]
    | cons member rest =>
      show (parseNode (member :: rest)).map some = _ ↔ _
      rw [← parseNode_eq_ok_iff, map_eq_ok_iff]
      constructor
      · rintro ⟨_, hread, hsome⟩
        rw [hread, Option.some.inj hsome]
      · intro hread
        exact ⟨clause, hread, rfl⟩
  | _ => simp [ofJson, hjson]

theorem ofJson_eq_none_iff {raw : Json} :
    ofJson raw = .ok none ↔ raw = .null ∨ raw = .object [] := by
  cases raw with
  | object members =>
    cases members with
    | nil => simp [ofJson]
    | cons member rest =>
      show (parseNode (member :: rest)).map some = _ ↔ _
      simp [map_eq_ok_iff]
  | _ => simp [ofJson]

/-- **Raw filters are read exactly**: what is read is the clause that is written so, nothing is
read from null and the empty object alone, and every other value is rejected. -/
theorem ofJson_spec (raw : Json) :
    (∀ clause : Clause, ofJson raw = .ok (some clause) ↔
      clause.wellFormed = true ∧ raw = clause.toJson) ∧
    (ofJson raw = .ok none ↔ raw = .null ∨ raw = .object []) ∧
    (raw ≠ .null → raw ≠ .object [] →
      (∀ clause : Clause, clause.wellFormed = true → raw ≠ clause.toJson) →
      ∃ error, ofJson raw = .error error ∧ error.rejectsFilter = true) := by
  refine ⟨fun clause => ofJson_eq_some_iff, ofJson_eq_none_iff, ?_⟩
  intro hnull hempty hclause
  cases h : ofJson raw with
  | error error => exact ⟨error, rfl, rejectsFilter_of_ofJson h⟩
  | ok read =>
    cases read with
    | none => exact absurd (ofJson_eq_none_iff.mp h) (not_or.mpr ⟨hnull, hempty⟩)
    | some clause =>
      obtain ⟨hwellFormed, hraw⟩ := ofJson_eq_some_iff.mp h
      exact absurd hraw (hclause clause hwellFormed)

end Clause

end RecordBridge
