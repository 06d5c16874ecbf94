import RecordBridge.Proofs.SearchFilter.Outline

/-!
# The first fault of a restriction

A raw filter is read before it is compiled, so the reading and the compiling find their faults one
after the other (`Model.compileWhere_firstFault`).  Reading stops at the first node with a fault, in
the order of `Json.nodes`, whatever the properties are (`Clause.errorOf?_ofJson`).  Only if there is
no such node are the properties looked at, and compiling stops at the first that is not declared
(`Clause.errorOf?_compile`).

The nodes, the properties of the clause and the fields of its filter are three lists in one order
(`Clause.properties_eq_filterMap`, `Clause.fields_of_compile`).
-/

namespace RecordBridge

/-! ### The nodes of a raw filter -/

/-- A value at its place in a raw filter. -/
structure Json.Node where
  /-- The combinator that the value is an operand of, unless it is the whole filter. -/
  under : Option String
  value : Json

namespace Json

mutual

/-- The nodes of a raw filter, each before its operands, and these from left to right. -/
def nodes (under : Option String) : Json → List Node
  | .object [(key, .array items)] =>
    ⟨under, .object [(key, .array items)]⟩ ::
      if key = "and" ∨ key = "or" then nodesOfAll key items else []
  | json => [⟨under, json⟩]

/-- The nodes of the operands of a combinator. -/
def nodesOfAll (operator : String) : List Json → List Node
  | [] => []
  | item :: rest => nodes (some operator) item ++ nodesOfAll operator rest

end

theorem nodes_combinator {key : String} (h : key = "and" ∨ key = "or") (under : Option String)
    (items : List Json) :
    (object [(key, .array items)]).nodes under =
      ⟨under, object [(key, .array items)]⟩ :: nodesOfAll key items := by
  rw [nodes, if_pos h]

/-- What holds no operands is one node. -/
theorem nodes_eq_singleton {json : Json} (under : Option String)
    (h : ∀ key items, json = .object [(key, .array items)] → ¬(key = "and" ∨ key = "or")) :
    json.nodes under = [⟨under, json⟩] := by
  unfold nodes
  split
  case h_1 key items => rw [if_neg (h key items rfl)]
  case h_2 => rfl

theorem nodes_comparison {key : String} (h : ¬(key = "and" ∨ key = "or")) (under : Option String)
    (value : Json) : (object [(key, value)]).nodes under = [⟨under, object [(key, value)]⟩] := by
  refine nodes_eq_singleton under ?_
  intro key' items hjson
  rw [← (Clause.object_singleton_inj.mp hjson).1]
  exact h

/-! ### Faults -/

/-- What is wrong with what a property is compared with. -/
def comparisonFault? (property : String) : Json → Option QueryError
  | .object [(operator, operand)] =>
    if operator = "neq" then none
    else if operator = "inq" then
      match operand with
      | .array _ => none
      | other => some (.invalidFilter
        ("'inq' on '" ++ property ++ "' expects an array, got " ++ other.kind))
    else if operator = "like" then
      match operand with
      | .string _ => none
      | other => some (.invalidFilter
        ("'like' on '" ++ property ++ "' expects a string, got " ++ other.kind))
    else some (.unsupportedOperator operator)
  | .object members =>
    some (.invalidFilter
      ("'" ++ property ++ "' expects exactly one operator, got " ++ toString members.length))
  | .array _ =>
    some (.invalidFilter ("'" ++ property ++ "' cannot be compared with an array; use inq"))
  | _ => none

/-- What is wrong with what a combinator holds, whatever is wrong with the operands. -/
def operandsFault? (operator : String) : Json → Option QueryError
  | .array _ => none
  | other => some (.invalidFilter ("'" ++ operator ++ "' expects an array, got " ++ other.kind))

namespace Node

/-- What is wrong with a node by itself. -/
def fault? : Node → Option QueryError
  | ⟨_, .object [(key, value)]⟩ =>
    if key = "and" ∨ key = "or" then operandsFault? key value else comparisonFault? key value
  | ⟨_, .object (first :: second :: rest)⟩ =>
    some (.invalidFilter ("expected exactly one key per level, got ["
      ++ String.intercalate ", " (keysOf (first :: second :: rest)) ++ "]"))
  | ⟨some operator, other⟩ =>
    some (.invalidFilter
      ("'" ++ operator ++ "' operand must be a non-empty object, got " ++ other.kind))
  | ⟨none, .null⟩ | ⟨none, .object []⟩ => none
  | ⟨none, other⟩ => some (.invalidFilter ("expected an object, got " ++ other.kind))

/-- The property that a node compares. -/
def property? : Node → Option String
  | ⟨_, .object [(key, _)]⟩ => if key = "and" ∨ key = "or" then none else some key
  | _ => none

/-- The node compares a property by one operator that is not known. -/
def Misuses (node : Node) (operator : String) : Prop :=
  ∃ property operand, node.value = .object [(property, .object [(operator, operand)])] ∧
    property ≠ "and" ∧ property ≠ "or" ∧ operator ≠ "neq" ∧ operator ≠ "inq" ∧ operator ≠ "like"

end Node

/-- A comparison by one operator is refused for the operator if it is not known. -/
theorem comparisonFault?_eq_unsupportedOperator_iff {property operator : String} {json : Json} :
    json.comparisonFault? property = some (.unsupportedOperator operator) ↔
      (∃ operand, json = .object [(operator, operand)]) ∧
        operator ≠ "neq" ∧ operator ≠ "inq" ∧ operator ≠ "like" := by
  constructor
  · intro h
    unfold comparisonFault? at h
    split at h
    case h_1 used operand =>
      split_ifs at h with hneq hinq hlike
      · split at h <;> cases h
      · split at h <;> cases h
      · obtain rfl := QueryError.unsupportedOperator.inj (Option.some.inj h)
        exact ⟨⟨operand, rfl⟩, hneq, hinq, hlike⟩
    all_goals cases h
  · rintro ⟨⟨operand, rfl⟩, hneq, hinq, hlike⟩
    simp [comparisonFault?, hneq, hinq, hlike]

/-- An operator is the fault of a node if and only if the node misuses it. -/
theorem Node.fault?_eq_unsupportedOperator_iff {node : Node} {operator : String} :
    node.fault? = some (.unsupportedOperator operator) ↔ node.Misuses operator := by
  constructor
  · intro h
    unfold fault? at h
    split at h
    case h_1 key value =>
      split_ifs at h with hkey
      · unfold operandsFault? at h
        split at h <;> cases h
      · obtain ⟨⟨operand, rfl⟩, hunknown⟩ := comparisonFault?_eq_unsupportedOperator_iff.mp h
        obtain ⟨hand, hor⟩ := not_or.mp hkey
        exact ⟨key, operand, rfl, hand, hor, hunknown⟩
    all_goals cases h
  · obtain ⟨under, value⟩ := node
    rintro ⟨property, operand, rfl, hand, hor, hunknown⟩
    rw [fault?, if_neg (not_or.mpr ⟨hand, hor⟩)]
    exact comparisonFault?_eq_unsupportedOperator_iff.mpr ⟨⟨operand, rfl⟩, hunknown⟩

end Json

/-! ### Reading -/

namespace Clause

open Json (Node)

/-- A comparison is refused for what is wrong with it. -/
theorem errorOf?_parseCondition (property : String) (json : Json) :
    errorOf? (parseCondition property json) = json.comparisonFault? property := by
  cases json with
  | object members =>
    match members with
    | [] | _ :: _ :: _ => rfl
    | [(operator, operand)] =>
      unfold parseCondition Json.comparisonFault?
      dsimp only
      split_ifs
      · rfl
      · cases operand <;> rfl
      · cases operand <;> rfl
      · rfl
  | _ => rfl

-- By recursion along the readers.  The error of a reader is equated as a whole, also if there is
-- none, so that the operands of a combinator are a concatenation on both sides: its first fault is
-- that of the first operand, or else that of the others.
mutual

/-- Reading a level stops at the first fault in it. -/
theorem errorOf?_parseNode (under : Option String) : ∀ {members : List (String × Json)},
    members ≠ [] → errorOf? (parseNode members) =
      ((Json.object members).nodes under).findSome? Node.fault?
  | first :: second :: rest, _ => by
    rw [Json.nodes_eq_singleton under (by simp)]
    rfl
  | [(key, value)], _ => by
    by_cases hkey : key = "and" ∨ key = "or"
    · -- Only an array holds nodes of its own; of anything else the combinator itself is at fault.
      have hchildren :
          errorOf? (parseNode [(key, value)]) = errorOf? (parseChildren key value) := by
        rcases hkey with rfl | rfl <;> exact errorOf?_map _
      rw [hchildren]
      cases value with
      | array items =>
        rw [parseChildren, errorOf?_parseOperands, Json.nodes_combinator hkey, List.findSome?_cons,
          Node.fault?, if_pos hkey, Json.operandsFault?]
      | _ =>
        rw [Json.nodes_eq_singleton under (by simp), List.findSome?_cons, Node.fault?, if_pos hkey]
        rfl
    · obtain ⟨hand, hor⟩ := not_or.mp hkey
      rw [Json.nodes_comparison hkey, parseNode, if_neg hand, if_neg hor,
        errorOf?_map, errorOf?_parseCondition, List.findSome?_cons, Node.fault?, if_neg hkey]
      cases value.comparisonFault? key <;> rfl

/-- Reading operands stops at the first fault in one of them. -/
theorem errorOf?_parseOperands (operator : String) : ∀ items : List Json,
    errorOf? (parseOperands operator items) =
      (Json.nodesOfAll operator items).findSome? Node.fault?
  | [] => rfl
  | item :: rest => by
    rw [Json.nodesOfAll, List.findSome?_append, ← errorOf?_parseOperand, ← errorOf?_parseOperands,
      parseOperands]
    cases parseOperand operator item with
    | error e => rfl
    | ok child => exact errorOf?_map _

/-- Reading an operand stops at the first fault in it. -/
theorem errorOf?_parseOperand (operator : String) : ∀ item : Json,
    errorOf? (parseOperand operator item) = (item.nodes (some operator)).findSome? Node.fault?
  | .object (_ :: _) => errorOf?_parseNode (some operator) (List.cons_ne_nil _ _)
  | .object [] | .null | .bool _ | .number _ | .string _ | .array _ => rfl

end

/-- **Reading stops at the first node with a fault**, and gives the fault. -/
theorem errorOf?_ofJson (raw : Json) :
    errorOf? (ofJson raw) = (raw.nodes none).findSome? Node.fault? := by
  cases raw with
  | object members =>
    cases members with
    | nil => rfl
    | cons member rest =>
      rw [← errorOf?_parseNode none (List.cons_ne_nil member rest)]
      exact errorOf?_map some
  | _ => rfl

/-! ### The properties of a raw filter -/

mutual

/-- The properties of a clause are those that the nodes of its raw form compare. -/
theorem properties_eq_filterMap (under : Option String) : ∀ {clause : Clause},
    clause.wellFormed = true →
      clause.properties = (clause.toJson.nodes under).filterMap Node.property?
  | leaf property condition, h => by
    have hkey : ¬(property = "and" ∨ property = "or") :=
      not_or.mpr (wellFormed_leaf_iff.mp h).1
    rw [toJson, Json.nodes_comparison hkey, List.filterMap_cons, Node.property?, if_neg hkey]
    rfl
  | and children, h => by
    rw [toJson, Json.nodes_combinator (.inl rfl), properties]
    exact propertiesOfAll_eq_filterMap "and" h
  | or children, h => by
    rw [toJson, Json.nodes_combinator (.inr rfl), properties]
    exact propertiesOfAll_eq_filterMap "or" h

theorem propertiesOfAll_eq_filterMap (operator : String) : ∀ {clauses : List Clause},
    allWellFormed clauses = true →
      propertiesOfAll clauses =
        (Json.nodesOfAll operator (toJsons clauses)).filterMap Node.property?
  | [], _ => rfl
  | clause :: rest, h => by
    rw [allWellFormed, Bool.and_eq_true] at h
    rw [propertiesOfAll, toJsons, Json.nodesOfAll, List.filterMap_append,
      properties_eq_filterMap (some operator) h.1, propertiesOfAll_eq_filterMap operator h.2]

end

/-! ### Compiling -/

variable {model : Model}

-- The same equation for the second pass, with the properties in the place of the nodes.
mutual

/-- Compiling stops at the first property that is not declared. -/
theorem errorOf?_compile : ∀ clause : Clause, errorOf? (compile model clause) =
    (clause.properties.find? fun property => !model.declares property).map
      (QueryError.unknownProperty model.name)
  | leaf property condition => by
    rw [compile, compileLeaf, properties]
    cases hdeclared : model.declares property <;> simp [errorOf?, hdeclared]
  | and children | or children => (errorOf?_map _).trans (errorOf?_compileAll children)

theorem errorOf?_compileAll : ∀ clauses : List Clause, errorOf? (compileAll model clauses) =
    ((propertiesOfAll clauses).find? fun property => !model.declares property).map
      (QueryError.unknownProperty model.name)
  | [] => rfl
  | clause :: rest => by
    rw [propertiesOfAll, List.find?_append, Option.map_or, ← errorOf?_compile clause,
      ← errorOf?_compileAll rest, compileAll]
    cases compile model clause with
    | error e => rfl
    | ok filter => exact errorOf?_map _

end

mutual

/-- The fields of the filter are those of the properties, in their order. -/
theorem fields_of_compile : ∀ {clause : Clause} {filter : SearchFilter},
    compile model clause = .ok filter → filter.fields = clause.properties.map model.fieldOf
  | leaf property condition, filter, h => by
    rw [compile, compileLeaf] at h
    split at h
    case isFalse => cases h
    obtain rfl := Except.ok.inj h
    cases condition <;> rfl
  | and children, filter, h => by
    obtain ⟨filters, hfilters, rfl⟩ := map_eq_ok_iff.mp h
    exact fieldsOfAll_of_compileAll hfilters
  | or children, filter, h => by
    obtain ⟨filters, hfilters, rfl⟩ := map_eq_ok_iff.mp h
    exact fieldsOfAll_of_compileAll hfilters

theorem fieldsOfAll_of_compileAll : ∀ {clauses : List Clause} {filters : List SearchFilter},
    compileAll model clauses = .ok filters →
      SearchFilter.fieldsOfAll filters = (propertiesOfAll clauses).map model.fieldOf
  | [], filters, h => by
    rw [← Except.ok.inj h]
    rfl
  | clause :: rest, filters, h => by
    obtain ⟨filter, others, hclause, hothers, rfl⟩ := compileAll_cons_eq_ok_iff.mp h
    rw [SearchFilter.fieldsOfAll, propertiesOfAll, List.map_append, fields_of_compile hclause,
      fieldsOfAll_of_compileAll hothers]

end

end Clause

/-! ### Both passes -/

namespace Model

open Json (Node)

variable {model : Model} {clause : Option Clause} {raw : Json}

/-- The properties of what is read from a raw filter are those that its nodes compare. -/
theorem properties_of_ofJson (h : Clause.ofJson raw = .ok clause) :
    clause.elim [] Clause.properties = (raw.nodes none).filterMap Node.property? := by
  cases clause with
  | none => rcases Clause.ofJson_eq_none_iff.mp h with rfl | rfl <;> rfl
  | some clause =>
    obtain ⟨hwellFormed, rfl⟩ := Clause.ofJson_eq_some_iff.mp h
    exact Clause.properties_eq_filterMap none hwellFormed

theorem errorOf?_compileClause : errorOf? (model.compileClause clause) =
    ((clause.elim [] Clause.properties).find? fun property => !model.declares property).map
      (QueryError.unknownProperty model.name) := by
  cases clause with
  | none => rfl
  | some clause => exact clause.errorOf?_compile

/-- Compiling finds fault with a property at most. -/
theorem exists_property_of_compileClause {error : QueryError}
    (h : model.compileClause clause = .error error) :
    ∃ property, error = .unknownProperty model.name property := by
  rw [← errorOf?_eq_some_iff, errorOf?_compileClause, Option.map_eq_some_iff] at h
  obtain ⟨property, -, rfl⟩ := h
  exact ⟨property, rfl⟩

theorem fields_of_compileClause {filter : SearchFilter}
    (h : model.compileClause clause = .ok filter) :
    filter.fields = (clause.elim [] Clause.properties).map model.fieldOf := by
  cases clause with
  | none =>
    rw [← Except.ok.inj h]
    rfl
  | some clause => exact Clause.fields_of_compile h

/-- **A restriction is refused for its first fault**, which is that of its first node with a fault,
in the order of the nodes, and an operator only if the node misuses it.  If no node has a fault, it
is refused for the first property that is not declared; if there is none, it compiles to a filter
with the fields of the properties, in their order. -/
theorem compileWhere_firstFault (model : Model) (raw : Json) :
    (∀ before node after error, raw.nodes none = before ++ node :: after →
      (∀ earlier ∈ before, earlier.fault? = none) → node.fault? = some error →
      model.compileWhere raw = .error error ∧
        (∀ operator, error = .unsupportedOperator operator ↔ node.Misuses operator) ∧
        ((¬ ∃ operator, node.Misuses operator) → ∃ reason, error = .invalidFilter reason)) ∧
    ((∀ node ∈ raw.nodes none, node.fault? = none) →
      ∃ clause, Clause.ofJson raw = .ok clause ∧
        let properties := clause.elim [] Clause.properties
        properties = (raw.nodes none).filterMap Node.property? ∧
        (∀ property, (properties.find? fun property => !model.declares property) = some property →
          model.compileWhere raw = .error (.unknownProperty model.name property)) ∧
        ((∃ filter, model.compileWhere raw = .ok filter) ↔
          ∀ property ∈ properties, model.declares property = true) ∧
        ∀ filter, model.compileWhere raw = .ok filter →
          filter.fields =
            properties.map fun property => model.physicalName property ++ ".raw") := by
  constructor
  · intro before node after error hnodes hbefore hfault
    have hread : Clause.ofJson raw = .error error := by
      rw [← errorOf?_eq_some_iff, Clause.errorOf?_ofJson, List.findSome?_eq_some_iff]
      exact ⟨before, node, after, hnodes, hfault, hbefore⟩
    have hoperator : ∀ operator, error = .unsupportedOperator operator ↔ node.Misuses operator := by
      intro operator
      rw [← Node.fault?_eq_unsupportedOperator_iff, hfault, Option.some.injEq]
    refine ⟨?_, hoperator, ?_⟩
    · show (Clause.ofJson raw >>= _) = _
      rw [hread]
      rfl
    · -- A fault in the raw form is the fault of an operator or of the filter.
      intro hnone
      have hrejects := Clause.rejectsFilter_of_ofJson hread
      cases error with
      | invalidFilter reason => exact ⟨reason, rfl⟩
      | unsupportedOperator operator => exact absurd ⟨operator, (hoperator operator).mp rfl⟩ hnone
      | _ => cases hrejects
  · intro hfaultless
    have hread : errorOf? (Clause.ofJson raw) = none := by
      rw [Clause.errorOf?_ofJson, List.findSome?_eq_none_iff]
      exact hfaultless
    obtain ⟨clause, hclause⟩ := errorOf?_eq_none_iff.mp hread
    have hcompile : model.compileWhere raw = model.compileClause clause := by
      show (Clause.ofJson raw >>= _) = _
      rw [hclause]
      rfl
    rw [hcompile]
    refine ⟨clause, hclause, properties_of_ofJson hclause, ?_, ?_, ?_⟩
    · intro property hproperty
      rw [← errorOf?_eq_some_iff, errorOf?_compileClause, hproperty]
      rfl
    · rw [← errorOf?_eq_none_iff, errorOf?_compileClause, Option.map_eq_none_iff,
        List.find?_eq_none]
      simp
    · intro filter hfilter
      exact fields_of_compileClause hfilter

/-- An operator that is not known is met before a property that is not declared, although it stands
behind it. -/
example :
    (Model.named "Order").compileWhere (.object [("and", .array [.object [("ref", .string "A-1")],
      .object [("code", .object [("gt", .string "A-1")])]])]) =
      .error (.unsupportedOperator "gt") := rfl

end Model

end RecordBridge
