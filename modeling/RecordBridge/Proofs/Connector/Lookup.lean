import RecordBridge.Proofs.Clause.Grammar
import RecordBridge.Proofs.Connector.BulkEdit
import RecordBridge.Proofs.Connector.Routes
import RecordBridge.Proofs.Exchange.Run

/-!
# Looking up an identity

A restriction is looked up if it compares the identity of the model with a scalar and does nothing
else (`identityLookup_eq_some_iff`); for every other restriction the look-up agrees with compiling
it, errors included (`identityLookup_eq_error`).

Finding then posts one load, and deleting posts the same load and, if it is answered with an object,
the deletion of that address (`requests_find_of_locator`, `requests_destroyAll_of_locator`).  The
address names the primary key of the model, whereas a search for the same restriction names the
identity, so the two agree if and only if both have one physical name
(`identityEquality_addresses_iff`).
-/

namespace RecordBridge

/-- Whether a reply to a load holds an object. -/
def Reply.holdsObject (reply : Reply) : Bool :=
  match reply with
  | .ok (some json) =>
    match RemoteObject.ofJson json with
    | .ok (some _) => true
    | _ => false
  | _ => false

namespace Connector

variable {connector : Connector} {name identity : String} {model : Model}
  {restriction : Option Json} {raw id : Json} {locator : Locator}

/-! ### Which restrictions are looked up -/

/-- The restriction is an equality of the identity with a scalar, and nothing else. -/
structure ComparesIdentity (model : Model) (restriction : Option Json) (identity : String)
    (id : Json) : Prop where
  isIdentity : model.identity = some identity
  ne_and : identity ≠ "and"
  ne_or : identity ≠ "or"
  isScalar : id.isScalar = true
  equality : restriction = some (.object [(identity, id)])

/-- Such a restriction is read as one comparison. -/
theorem ofJson_equality (hand : identity ≠ "and") (hor : identity ≠ "or")
    (hscalar : id.isScalar = true) :
    Clause.ofJson (.object [(identity, id)]) = .ok (some (.leaf identity (.eq id))) := by
  have hcomparable : Clause.isComparable id = true := by
    cases id <;> first | rfl | cases hscalar
  have hwellFormed : (Clause.leaf identity (.eq id)).wellFormed = true :=
    Clause.wellFormed_leaf_iff.mpr ⟨⟨hand, hor⟩, hcomparable⟩
  exact Clause.ofJson_eq_some_iff.mpr ⟨hwellFormed, rfl⟩

/-- What is looked up is the value of an equality of the identity, and nothing else is. -/
theorem identityLookup_eq_some_iff : identityLookup model restriction = .ok (some id) ↔
    ∃ identity, ComparesIdentity model restriction identity id := by
  constructor
  · intro h
    unfold identityLookup at h
    split at h
    case h_2 => cases Except.ok.inj h
    case h_1 identity raw hidentity =>
      obtain ⟨clause, hread, h⟩ := bind_eq_ok_iff.mp h
      split at h
      case h_2 => cases Except.ok.inj h
      case h_1 property value =>
        have hvalue := Except.ok.inj h
        split at hvalue
        case isFalse => cases hvalue
        case isTrue hcompares =>
          obtain ⟨rfl, hnull⟩ := hcompares
          obtain rfl := Option.some.inj hvalue
          obtain ⟨hwellFormed, rfl⟩ := Clause.ofJson_eq_some_iff.mp hread
          obtain ⟨⟨hand, hor⟩, hcomparable⟩ := Clause.wellFormed_leaf_iff.mp hwellFormed
          have hscalar : value.isScalar = true := by
            cases value with
            | null => exact absurd rfl hnull
            | array items => cases hcomparable
            | object members => cases hcomparable
            | _ => rfl
          exact ⟨property, hidentity, hand, hor, hscalar, rfl⟩
  · rintro ⟨identity, hidentity, hand, hor, hscalar, rfl⟩
    have hnull : id ≠ .null := by
      rintro rfl
      cases hscalar
    unfold identityLookup
    rw [hidentity]
    show (Clause.ofJson _ >>= _) = _
    rw [ofJson_equality hand hor hscalar]
    show Except.ok (if identity = identity ∧ id ≠ .null then some id else none) = _
    rw [if_pos ⟨rfl, hnull⟩]

/-- Looking up fails only if the restriction cannot be read. -/
theorem ofJson_eq_error_of_identityLookup {error : QueryError}
    (h : identityLookup model restriction = .error error) :
    ∃ raw, restriction = some raw ∧ Clause.ofJson raw = .error error := by
  unfold identityLookup at h
  split at h
  case h_2 => cases h
  case h_1 identity raw hidentity =>
    refine ⟨raw, rfl, ?_⟩
    rcases bind_eq_error_iff.mp h with hread | ⟨clause, -, hlookup⟩
    · exact hread
    · -- Once the restriction has been read, looking it up does not fail.
      split at hlookup <;> cases hlookup

/-- A restriction that cannot be read fails in the same way whether it is looked up or compiled. -/
theorem identityLookup_eq_error {error : QueryError}
    (h : identityLookup model restriction = .error error) :
    model.compileWhere? restriction = .error error := by
  obtain ⟨raw, rfl, hread⟩ := ofJson_eq_error_of_identityLookup h
  show (Clause.ofJson raw >>= _) = _
  rw [hread]
  rfl

/-! ### What is posted for a look-up -/

section

variable {σ : Type}

theorem requests_find_of_locator {query : Query}
    (hmodel : connector.registry.require name = .ok model)
    (hlookup : identityLookup model query.restriction = .ok (some id))
    (hlocator : connector.locator model id = .ok locator)
    (answer : σ → StoreRequest → Reply × σ) (service : σ) :
    ((connector.find name query).run answer service).requests = [.load locator] := by
  rw [find_eq_load hmodel hlookup, load_eq hlocator, bind_assoc]
  rcases hanswer : answer service (.load locator) with ⟨reply, service'⟩
  cases reply with
  | error failure =>
    rw [Exchange.run_send_bind_error hanswer]
    rfl
  | ok value =>
    rw [Exchange.run_send_bind_ok hanswer]
    cases model.loaded (model.compileSelection query.selection) value <;> rfl

/-- A record is loaded if and only if the reply holds an object. -/
theorem holdsObject_iff_loaded (model : Model) (whitelist : List String) (value : Option Json) :
    Reply.holdsObject (.ok value) = true ↔
      ∃ record, model.loaded whitelist value = .ok (some record) := by
  cases value with
  | none => simp [Reply.holdsObject, Model.loaded]
  | some json =>
    unfold Reply.holdsObject Model.loaded
    cases hread : RemoteObject.ofJson json with
    | error e => simp [hread, Except.map]
    | ok object => cases object <;> simp [hread, Except.map]

/-- What is loaded is deleted if it is there. -/
theorem requests_destroyAll_of_locator
    (hmodel : connector.registry.require name = .ok model)
    (hlookup : identityLookup model restriction = .ok (some id))
    (hlocator : connector.locator model id = .ok locator)
    (answer : σ → StoreRequest → Reply × σ) (service : σ) :
    ((connector.destroyAll name restriction).run answer service).requests =
      .load locator :: if (answer service (.load locator)).1.holdsObject then
        [.edit ⟨locator, .deleted⟩] else [] := by
  rw [destroyAll_eq_load hmodel hlookup, load_eq hlocator, deleteOne_eq hlocator, bind_assoc]
  rcases hanswer : answer service (.load locator) with ⟨reply, service'⟩
  cases reply with
  | error failure =>
    rw [Exchange.run_send_bind_error hanswer]
    rfl
  | ok value =>
    rw [Exchange.run_send_bind_ok hanswer]
    have hholds := holdsObject_iff_loaded model [] value
    cases hloaded : model.loaded [] value with
    | error e =>
      rw [if_neg (by simp [hholds, hloaded])]
      rfl
    | ok record =>
      cases record with
      | none =>
        rw [if_neg (by simp [hholds, hloaded])]
        rfl
      | some record =>
        rw [if_pos (hholds.mpr ⟨record, hloaded⟩)]
        -- The object is there, so its deletion is posted, whatever comes of it.
        show _ :: (Exchange.run answer (discard _ >>= _) service').requests = _
        rw [Exchange.discard_bind]
        rcases hdelete : answer service' (.edit ⟨locator, .deleted⟩) with ⟨reply, service''⟩
        cases reply with
        | error failure =>
          rw [Exchange.run_send_bind_error hdelete]
          rfl
        | ok value =>
          rw [Exchange.run_send_bind_ok hdelete]
          rfl

end

/-! ### What a look-up addresses -/

/-- An equality of the identity compiles to a test of its field. -/
theorem compileWhere_equality (hidentity : model.identity = some identity)
    (hand : identity ≠ "and") (hor : identity ≠ "or") (hscalar : id.isScalar = true) :
    model.compileWhere (.object [(identity, id)]) = .ok (.terms [id] (model.fieldOf identity)) := by
  show (Clause.ofJson _ >>= _) = _
  rw [ofJson_equality hand hor hscalar]
  show Clause.compileLeaf model identity (.eq id) = _
  unfold Clause.compileLeaf
  rw [if_pos (Model.declares_of_firstProperty hidentity)]
  rfl

/-- A property that is called like a combinator cannot be compared with a scalar. -/
theorem ne_combinator_of_ofJson {clause : Option Clause} (hscalar : id.isScalar = true)
    (hread : Clause.ofJson (.object [(identity, id)]) = .ok clause) :
    identity ≠ "and" ∧ identity ≠ "or" := by
  cases clause with
  | none => rcases Clause.ofJson_eq_none_iff.mp hread with hraw | hraw <;> cases hraw
  | some clause =>
    obtain ⟨hwellFormed, hraw⟩ := Clause.ofJson_eq_some_iff.mp hread
    cases clause with
    | leaf property condition =>
      obtain ⟨rfl, -⟩ := Clause.object_singleton_inj.mp hraw
      exact (Clause.wellFormed_leaf_iff.mp hwellFormed).1
    -- Under a combinator stands an array, which is no scalar.
    | and children =>
      obtain ⟨-, rfl⟩ := Clause.object_singleton_inj.mp hraw
      cases hscalar
    | or children =>
      obtain ⟨-, rfl⟩ := Clause.object_singleton_inj.mp hraw
      cases hscalar

theorem ne_combinator_of_compileWhere {filter : SearchFilter} (hscalar : id.isScalar = true)
    (h : model.compileWhere (.object [(identity, id)]) = .ok filter) :
    identity ≠ "and" ∧ identity ≠ "or" := by
  obtain ⟨clause, hread, -⟩ := bind_eq_ok_iff.mp h
  exact ne_combinator_of_ofJson hscalar hread

/-- A raw filter is served by looking up the object that has one entry for its primary key: finding
loads it, whatever else is asked for, and deleting loads it and deletes it if it is there. -/
structure LooksUp (connector : Connector) (name : String) (raw : Json) (entry : String × Json) :
    Prop where
  find : ∀ {σ : Type} (answer : σ → StoreRequest → Reply × σ) (service : σ) (query : Query),
    query.restriction = some raw → ∃ locator : Locator, locator.primaryKey.entries = [entry] ∧
      ((connector.find name query).run answer service).requests = [.load locator]
  destroyAll : ∀ {σ : Type} (answer : σ → StoreRequest → Reply × σ) (service : σ),
    ∃ locator : Locator, locator.primaryKey.entries = [entry] ∧
      ((connector.destroyAll name (some raw)).run answer service).requests =
        .load locator :: if (answer service (.load locator)).1.holdsObject then
          [.edit ⟨locator, .deleted⟩] else []

section

variable {keyName : String}

theorem locator_eq_single (connector : Connector) (hkey : model.primaryKeyName = .ok keyName)
    (id : Json) :
    connector.locator model id = .ok (.single (connector.typeId model) keyName id) := by
  unfold Connector.locator
  rw [hkey]
  rfl

/-- An equality of the identity is looked up under the name of the primary key. -/
theorem looksUp_primaryKeyName (hmodel : connector.registry.require name = .ok model)
    (hidentity : model.identity = some identity) (hkey : model.primaryKeyName = .ok keyName)
    (hscalar : id.isScalar = true) (hand : identity ≠ "and") (hor : identity ≠ "or") :
    LooksUp connector name (.object [(identity, id)]) (keyName, id) := by
  have hlookup : identityLookup model (some (.object [(identity, id)])) = .ok (some id) :=
    identityLookup_eq_some_iff.mpr ⟨identity, hidentity, hand, hor, hscalar, rfl⟩
  have hlocator := connector.locator_eq_single hkey id
  constructor
  case find =>
    intro σ answer service query hquery
    refine ⟨_, rfl, requests_find_of_locator hmodel ?_ hlocator answer service⟩
    rw [hquery]
    exact hlookup
  case destroyAll =>
    intro σ answer service
    exact ⟨_, rfl, requests_destroyAll_of_locator hmodel hlookup hlocator answer service⟩

/-- What is looked up under two names has been looked up under one. -/
theorem LooksUp.eq_of_looksUp {raw : Json} {entry entry' : String × Json}
    (h : LooksUp connector name raw entry) (h' : LooksUp connector name raw entry') :
    entry = entry' := by
  have hquery : ({ Query.all with restriction := some raw } : Query).restriction = some raw := rfl
  obtain ⟨locator, hentry, hposted⟩ := h.find Exchange.prepared [] _ hquery
  obtain ⟨locator', hentry', hposted'⟩ := h'.find Exchange.prepared [] _ hquery
  have hload : StoreRequest.load locator = .load locator' :=
    List.head_eq_of_cons_eq (hposted.symm.trans hposted')
  obtain rfl := StoreRequest.load.inj hload
  exact List.head_eq_of_cons_eq (hentry.symm.trans hentry')

/-- **What an equality of the identity addresses** is the object with that value for its primary
key.  It is the object that a search for the same restriction asks for if and only if the identity
and the primary key have one physical name, unless the identity is called like a combinator and
cannot be compared at all. -/
theorem identityEquality_addresses_iff (hmodel : connector.registry.require name = .ok model)
    (hidentity : model.identity = some identity) (hkey : model.primaryKeyName = .ok keyName)
    (hscalar : id.isScalar = true) :
    (identity ≠ "and" → identity ≠ "or" →
      LooksUp connector name (.object [(identity, id)]) (keyName, id)) ∧
    (LooksUp connector name (.object [(identity, id)]) (model.physicalName identity, id) ∧
      model.compileWhere (.object [(identity, id)]) =
        .ok (.terms [id] (Model.exactField (model.physicalName identity))) ↔
      identity ≠ "and" ∧ identity ≠ "or" ∧ model.physicalName identity = keyName) := by
  have hlooksUp (hand : identity ≠ "and") (hor : identity ≠ "or") :
      LooksUp connector name (.object [(identity, id)]) (keyName, id) :=
    looksUp_primaryKeyName hmodel hidentity hkey hscalar hand hor
  refine ⟨hlooksUp, ?_⟩
  constructor
  · rintro ⟨hphysical, hcompile⟩
    obtain ⟨hand, hor⟩ := ne_combinator_of_compileWhere hscalar hcompile
    exact ⟨hand, hor, (Prod.mk.inj (hphysical.eq_of_looksUp (hlooksUp hand hor))).1⟩
  · rintro ⟨hand, hor, rfl⟩
    exact ⟨hlooksUp hand hor, compileWhere_equality hidentity hand hor hscalar⟩

end

/-- A model whose identity is not its primary key. -/
def orderModel : Model :=
  ((Model.named "Order").withProperty "ref" { Property.plain with isIdentity := true }).withProperty
    "code" { Property.plain with primaryKey := true }

/-- A connector that knows the model. -/
def orderConnector : Connector :=
  { itemConnector with registry := Registry.empty.register orderModel }

/-- An order is looked up by its code, although it is its reference that is compared. -/
theorem identityEquality_addresses_order :
    orderConnector.registry.require "Order" = .ok orderModel ∧
    LooksUp orderConnector "Order" (.object [("ref", .string "A-1")]) ("code", .string "A-1") ∧
    ¬ LooksUp orderConnector "Order" (.object [("ref", .string "A-1")]) ("ref", .string "A-1") := by
  have hmodel : orderConnector.registry.require "Order" = .ok orderModel := rfl
  have hidentity : orderModel.identity = some "ref" := rfl
  have hkey : orderModel.primaryKeyName = .ok "code" := rfl
  have hscalar : (Json.string "A-1").isScalar = true := rfl
  obtain ⟨hlooksUp, hiff⟩ := identityEquality_addresses_iff hmodel hidentity hkey hscalar
  refine ⟨hmodel, hlooksUp (by decide) (by decide), ?_⟩
  intro h
  obtain ⟨-, -, hname⟩ := hiff.mp ⟨h, rfl⟩
  exact absurd hname (by decide)

/-- Deleting the orders with a reference deletes the order that has it for its code. -/
theorem destroyAll_deletes_other_order :
    let raw := Json.object [("ref", .string "A-1")]
    let locator : Locator := .single "thing" "code" (.string "A-1")
    let outcome := (orderConnector.destroyAll "Order" (some raw)).run Exchange.prepared
      [.ok (some (.object [("primaryKey", .object [("code", .string "A-1")])])), .ok none]
    orderModel.compileWhere raw = .ok (.terms [.string "A-1"] "ref.raw") ∧
    outcome.result = .ok 1 ∧
    outcome.requests = [.load locator, .edit ⟨locator, .deleted⟩] ∧
    locator.primaryKey.entries ≠ [(orderModel.physicalName "ref", .string "A-1")] := by
  refine ⟨rfl, rfl, rfl, ?_⟩
  decide

end Connector

end RecordBridge
