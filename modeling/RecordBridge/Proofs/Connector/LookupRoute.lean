import RecordBridge.Proofs.Connector.Restriction

/-!
# When an object is loaded directly

A restriction is looked up if it is an equality of the identity with a text, a number or a boolean,
and for every other one the look-up only reports whether it can be read
(`Connector.identityLookup_eq_map`).  Finding and deleting then start with a load of the object
under that key in exactly these cases (`Connector.loadsExactly_find`,
`Connector.loadsExactly_destroyAll`), and with a search for everything else that compiles
(`Connector.searchesFirst_find`, `Connector.searchesFirst_destroyAll`).  The main result is
`Connector.directRoute_exact`.
-/

namespace RecordBridge

namespace Exchange

variable {α : Type} {x : Exchange α}

/-- What refuses to go on does not load anything first. -/
theorem Refuses.head?_requests_ne {error : ConnectorError} (h : x.Refuses error) {σ : Type}
    (answer : σ → StoreRequest → Reply × σ) (service : σ) (locator : Locator) :
    (x.run answer service).requests.head? ≠ some (.load locator) := by
  have hdialogue := (h σ answer service).1
  rw [Outcome.requests, hdialogue]
  simp

/-- Nor does what searches first. -/
theorem SearchesFirst.head?_requests_ne {typeId : String} {filter : SearchFilter}
    (h : x.SearchesFirst typeId filter) {σ : Type} (answer : σ → StoreRequest → Reply × σ)
    (service : σ) (locator : Locator) :
    (x.run answer service).requests.head? ≠ some (.load locator) := by
  obtain ⟨search, pageSize, reply, rest, hdialogue, -, -⟩ := h σ answer service
  rw [Outcome.requests, hdialogue]
  simp

end Exchange

namespace Connector

variable {connector : Connector} {name identity keyName : String} {model : Model}
  {restriction : Option Json}

/-! ### The look-up -/

/-- Without an identity nothing is looked up. -/
theorem identityLookup_of_identity_none (h : model.identity = none) (restriction : Option Json) :
    identityLookup model restriction = .ok none := by
  unfold identityLookup
  rw [h]

/-- Nothing is looked up where nothing is restricted. -/
theorem identityLookup_none (model : Model) : identityLookup model none = .ok none := by
  unfold identityLookup
  cases model.identity <;> rfl

/-- What is not looked up is only read. -/
theorem identityLookup_eq_map {raw : Json} (hidentity : model.identity = some identity)
    (h : ∀ value, identityLookup model (some raw) ≠ .ok (some value)) :
    identityLookup model (some raw) = (Clause.ofJson raw).map fun _ => none := by
  cases hread : Clause.ofJson raw with
  | error error =>
    unfold identityLookup
    rw [hidentity]
    show (Clause.ofJson raw >>= _) = _
    rw [hread]
    rfl
  | ok clause =>
    cases hlookup : identityLookup model (some raw) with
    | error error =>
      obtain ⟨raw, hraw, herror⟩ := ofJson_eq_error_of_identityLookup hlookup
      obtain rfl := Option.some.inj hraw
      cases hread.symm.trans herror
    | ok lookup =>
      cases lookup with
      | none => rfl
      | some value => exact absurd hlookup (h value)

/-! ### The routes -/

/-- In every run the first request is the load of an address if and only if the restriction is an
equality of the identity with the value that the address has for its key. -/
def LoadsExactly (connector : Connector) (model : Model) (keyName : String)
    (restriction : Option Json) {α : Type} (x : Exchange α) : Prop :=
  ∀ (σ : Type) (answer : σ → StoreRequest → Reply × σ) (service : σ) (locator : Locator),
    (x.run answer service).requests.head? = some (.load locator) ↔
      ∃ identity id, ComparesIdentity model restriction identity id ∧
        locator = .single (connector.typeId model) keyName id

/-- It is enough to know both routes. -/
theorem loadsExactly_of_routes {α : Type} {x : Exchange α}
    (hload : ∀ identity id, ComparesIdentity model restriction identity id →
      ∀ (σ : Type) (answer : σ → StoreRequest → Reply × σ) (service : σ),
        (x.run answer service).requests.head? =
          some (.load (.single (connector.typeId model) keyName id)))
    (hother : (¬ ∃ identity id, ComparesIdentity model restriction identity id) →
      ∀ (σ : Type) (answer : σ → StoreRequest → Reply × σ) (service : σ) (locator : Locator),
        (x.run answer service).requests.head? ≠ some (.load locator)) :
    LoadsExactly connector model keyName restriction x := by
  intro σ answer service locator
  constructor
  · intro hhead
    by_cases hcompares : ∃ identity id, ComparesIdentity model restriction identity id
    · obtain ⟨identity, id, hcompares⟩ := hcompares
      have hsame := (hload identity id hcompares σ answer service).symm.trans hhead
      exact ⟨identity, id, hcompares, (StoreRequest.load.inj (Option.some.inj hsame)).symm⟩
    · exact absurd hhead (hother hcompares σ answer service locator)
  · rintro ⟨identity, id, hcompares, rfl⟩
    exact hload identity id hcompares σ answer service

section

variable (hmodel : connector.registry.require name = .ok model)
  (hkey : model.primaryKeyName = .ok keyName)
include hmodel hkey

/-- Finding loads exactly what is looked up, whatever else is asked for. -/
theorem loadsExactly_find (query : Query) :
    LoadsExactly connector model keyName query.restriction (connector.find name query) := by
  apply loadsExactly_of_routes
  · intro identity id hcompares σ answer service
    have hlookup := identityLookup_eq_some_iff.mpr ⟨identity, hcompares⟩
    rw [requests_find_of_locator hmodel hlookup (connector.locator_eq_single hkey id)]
    rfl
  · intro hlookup σ answer service locator
    cases hquery : model.compileQuery query with
    | error error =>
      exact (ends_find hmodel hlookup hquery).refuses.head?_requests_ne answer service locator
    | ok compiled =>
      exact (searchesFirst_find hmodel hlookup hquery).head?_requests_ne answer service locator

/-- So does deleting. -/
theorem loadsExactly_destroyAll (restriction : Option Json) :
    LoadsExactly connector model keyName restriction (connector.destroyAll name restriction) := by
  apply loadsExactly_of_routes
  · intro identity id hcompares σ answer service
    have hlookup := identityLookup_eq_some_iff.mpr ⟨identity, hcompares⟩
    rw [requests_destroyAll_of_locator hmodel hlookup (connector.locator_eq_single hkey id)]
    rfl
  · intro hlookup σ answer service locator
    cases hfilter : model.compileWhere? restriction with
    | error error =>
      have hends := ends_destroyAll hmodel hlookup hfilter
      exact hends.refuses.head?_requests_ne answer service locator
    | ok filter =>
      have hsearches := searchesFirst_destroyAll hmodel hlookup hfilter
      exact hsearches.head?_requests_ne answer service locator

end

/-- **An object is loaded directly for equalities of the identity and for nothing else.**  The
identity is the first property that is flagged so.  What is looked up is the scalar of an object
with one entry that stands under its name, unless that is the name of a combinator; everything else
is only read.  Finding and deleting start with the load in exactly these cases; every other
restriction is searched for if it compiles, and refused before anything is posted if it does not. -/
theorem directRoute_exact (model : Model) :
    (∀ identity property,
      model.properties.entries.find? (fun entry => entry.2.isIdentity) = some (identity, property) →
      (∀ raw value, identityLookup model (some raw) = .ok (some value) ↔
        raw = .object [(identity, value)] ∧ identity ≠ "and" ∧ identity ≠ "or" ∧
          value.isScalar = true) ∧
      ∀ raw, (∀ value, identityLookup model (some raw) ≠ .ok (some value)) →
        identityLookup model (some raw) = (Clause.ofJson raw).map fun _ => none) ∧
    (model.properties.entries.find? (fun entry => entry.2.isIdentity) = none →
      ∀ restriction, identityLookup model restriction = .ok none) ∧
    identityLookup model none = .ok none ∧
    ∀ (connector : Connector) (name keyName : String),
      connector.registry.require name = .ok model → model.primaryKeyName = .ok keyName →
      (∀ query, LoadsExactly connector model keyName query.restriction
        (connector.find name query)) ∧
      (∀ restriction, LoadsExactly connector model keyName restriction
        (connector.destroyAll name restriction)) ∧
      ∀ restriction, (¬ ∃ identity id, ComparesIdentity model restriction identity id) →
        (∀ filter, model.compileWhere? restriction = .ok filter →
          (∀ query sort, query.restriction = restriction →
            model.compileOrder? query.order = .ok sort →
            (connector.find name query).SearchesFirst (connector.typeId model) filter) ∧
          (connector.destroyAll name restriction).SearchesFirst (connector.typeId model) filter) ∧
        ∀ error, model.compileWhere? restriction = .error error →
          (∀ query, query.restriction = restriction →
            (connector.find name query).Refuses (.query error)) ∧
          (connector.destroyAll name restriction).Refuses (.query error) := by
  have hidentity_eq : model.identity =
      (model.properties.entries.find? fun entry => entry.2.isIdentity).map Prod.fst := rfl
  refine ⟨?_, ?_, identityLookup_none model, ?_⟩
  · intro identity property hfirst
    have hidentity : model.identity = some identity := by
      rw [hidentity_eq, hfirst]
      rfl
    refine ⟨?_, fun raw hnone => identityLookup_eq_map hidentity hnone⟩
    intro raw value
    rw [identityLookup_eq_some_iff]
    constructor
    · rintro ⟨identity', hidentity', hand, hor, hscalar, hequality⟩
      obtain rfl := Option.some.inj (hidentity.symm.trans hidentity')
      exact ⟨Option.some.inj hequality, hand, hor, hscalar⟩
    · rintro ⟨rfl, hand, hor, hscalar⟩
      exact ⟨identity, hidentity, hand, hor, hscalar, rfl⟩
  · intro hnone restriction
    apply identityLookup_of_identity_none
    rw [hidentity_eq, hnone]
    rfl
  · intro connector name keyName hmodel hkey
    refine ⟨loadsExactly_find hmodel hkey, loadsExactly_destroyAll hmodel hkey, ?_⟩
    intro restriction hlookup
    constructor
    · intro filter hfilter
      refine ⟨?_, searchesFirst_destroyAll hmodel hlookup hfilter⟩
      rintro query sort rfl hsort
      have hquery : model.compileQuery query =
          .ok ⟨filter, sort, model.compileSelection query.selection, query.limit⟩ := by
        show (model.compileWhere? query.restriction >>= _) = _
        rw [hfilter]
        show (model.compileOrder? query.order >>= _) = _
        rw [hsort]
        rfl
      exact searchesFirst_find hmodel hlookup hquery
    · intro error herror
      refine ⟨?_, (ends_destroyAll hmodel hlookup herror).refuses⟩
      rintro query rfl
      have hquery : model.compileQuery query = .error error := by
        show (model.compileWhere? query.restriction >>= _) = _
        rw [herror]
        rfl
      exact (ends_find hmodel hlookup hquery).refuses

/-- An order is loaded directly for its reference alone, and searched for when that stands in a
list. -/
theorem directRoute_exact_order :
    identityLookup orderModel (some (.object [("ref", .string "A-1")])) =
      .ok (some (.string "A-1")) ∧
    identityLookup orderModel (some (.object [("ref", .object [("neq", .string "A-1")])])) =
      .ok none ∧
    (((orderConnector.find "Order"
        { Query.all with restriction := some (.object [("ref", .string "A-1")]) }).run
      Exchange.prepared []).requests.head? =
        some (.load (.single "thing" "code" (.string "A-1")))) ∧
    (orderConnector.destroyAll "Order"
      (some (.object [("and", .array [.object [("ref", .string "A-1")]])]))).SearchesFirst "thing"
        (.and [.terms [.string "A-1"] "ref.raw"]) := by
  obtain ⟨hlookup, -, -, hroutes⟩ := directRoute_exact orderModel
  obtain ⟨hequality, hread⟩ := hlookup "ref" { Property.plain with isIdentity := true } rfl
  obtain ⟨hfind, -, hsearch⟩ := hroutes orderConnector "Order" "code" rfl rfl
  refine ⟨?_, ?_, ?_, ?_⟩
  · exact (hequality _ _).mpr ⟨rfl, by decide, by decide, rfl⟩
  · apply hread
    intro value hvalue
    obtain ⟨hraw, -, -, hscalar⟩ := (hequality _ _).mp hvalue
    obtain ⟨-, rfl⟩ := Clause.object_singleton_inj.mp hraw
    cases hscalar
  · refine (hfind _ _ _ _ _).mpr ⟨"ref", .string "A-1", ?_, rfl⟩
    exact ⟨rfl, by decide, by decide, rfl, rfl⟩
  · refine ((hsearch _ ?_).1 _ rfl).2
    rintro ⟨identity, id, -, hand, -, -, hraw⟩
    obtain ⟨rfl, -⟩ := Clause.object_singleton_inj.mp (Option.some.inj hraw)
    exact hand rfl

end Connector

end RecordBridge
