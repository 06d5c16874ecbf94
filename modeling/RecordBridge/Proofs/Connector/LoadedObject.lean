import RecordBridge.Proofs.Connector.ReadBack
import RecordBridge.Proofs.Connector.Restriction
import RecordBridge.Proofs.RemoteObject

/-!
# Finding and deleting what is loaded

An answer to a load says that there is no object, or it counts as one, or it is refused.  A record
is found by its key, and what an identity addresses is deleted, if and only if the answer counts as
an object (`Connector.loadedObject_exact`).  Each of the two has one route that loads, and on it the
first reply decides (`hasLoaded_iff`).

An array counts as an object even if it is empty, although there is nothing in it
(`Connector.destroyAll_deletes_emptyArray`).
-/

namespace RecordBridge

open Exchange
open RemoteObject (Counts)

/-- A reply holds an object if it is a value that counts as one. -/
theorem Reply.holdsObject_iff {reply : Reply} :
    reply.holdsObject = true ↔ ∃ json, reply = .ok (some json) ∧ Counts json := by
  simp only [← RemoteObject.exists_ofJson_eq_some_iff]
  cases reply with
  | error failure => simp [Reply.holdsObject]
  | ok value =>
    cases value with
    | none => simp [Reply.holdsObject]
    | some json =>
      unfold Reply.holdsObject
      cases hread : RemoteObject.ofJson json with
      | error e => simp [hread]
      | ok object => cases object <;> simp [hread]

/-- The load of an address has been answered with a value that counts as an object. -/
def HasLoaded (dialogue : List (StoreRequest × Reply)) (locator : Locator) : Prop :=
  ∃ json, (.load locator, .ok (some json)) ∈ dialogue ∧ Counts json

variable {σ α : Type} {answer : σ → StoreRequest → Reply × σ} {service : σ}
  {locator asked : Locator} {x : Exchange α}

/-- Where the first request loads an address and nothing else is loaded, the reply to it tells. -/
theorem hasLoaded_iff {later : List (StoreRequest × Reply)} {reply : Reply}
    (hlater : ∀ request ∈ later.map Prod.fst, request.isEdit = true) :
    HasLoaded ((.load locator, reply) :: later) asked ↔
      asked = locator ∧ reply.holdsObject = true := by
  rw [Reply.holdsObject_iff]
  constructor
  · rintro ⟨json, hmem, hcounts⟩
    rcases List.mem_cons.mp hmem with hfirst | hmem
    · obtain ⟨hlocator, rfl⟩ := Prod.mk.inj hfirst
      exact ⟨StoreRequest.load.inj hlocator, json, rfl, hcounts⟩
    · have hedit := hlater _ (List.mem_map_of_mem hmem)
      cases hedit
  · rintro ⟨rfl, json, rfl, hcounts⟩
    exact ⟨json, List.mem_cons_self, hcounts⟩

/-- An exchange that posts no loads has loaded nothing. -/
theorem not_hasLoaded {dialogue : List (StoreRequest × Reply)}
    (h : ∀ request ∈ dialogue.map Prod.fst, request ≠ .load locator) :
    ¬ HasLoaded dialogue locator := by
  rintro ⟨json, hmem, -⟩
  exact h _ (List.mem_map_of_mem hmem) rfl

namespace Connector

variable {connector : Connector} {name : String} {model : Model} {restriction : Option Json}
  {id : Json} {error : QueryError}

/-- A refusal loads nothing. -/
theorem not_hasLoaded_ofQuery_error :
    ¬ HasLoaded ((Exchange.ofQuery (.error error) : Exchange α).run answer service).dialogue
      locator := not_hasLoaded (by simp [Exchange.ofQuery, Exchange.run, Except.mapError])

/-! ### Finding by key -/

/-- Finding by key is a refusal, or the load of one address. -/
theorem findById_route (connector : Connector) (name : String) (id : Json) :
    (∃ error, connector.findById name id = .ofQuery (.error error)) ∨
      ∃ (model : Model) (locator : Locator), connector.findById name id =
        (.send (.load locator) >>= fun value => .ofQuery (model.loaded [] value)) := by
  cases hmodel : connector.registry.require name with
  | error error =>
    refine .inl ⟨error, ?_⟩
    unfold findById Connector.model
    rw [hmodel]
    rfl
  | ok model =>
    rw [findById_eq hmodel]
    cases hlocator : connector.locator model id with
    | error error => exact .inl ⟨error, load_eq_error hlocator []⟩
    | ok locator => exact .inr ⟨model, locator, load_eq hlocator []⟩

/-- A record is found by its key if and only if an object has been loaded. -/
theorem exists_findById_iff :
    (∃ record, ((connector.findById name id).run answer service).result = .ok (some record)) ↔
      ∃ locator, HasLoaded ((connector.findById name id).run answer service).dialogue locator := by
  rcases findById_route connector name id with ⟨error, hroute⟩ | ⟨model, locator, hroute⟩
  · rw [hroute]
    constructor
    · rintro ⟨record, hrecord⟩
      cases hrecord
    · rintro ⟨locator, hloaded⟩
      exact absurd hloaded not_hasLoaded_ofQuery_error
  · rw [hroute]
    rcases hanswer : answer service (.load locator) with ⟨reply, service'⟩
    cases reply with
    | error failure =>
      rw [run_send_bind_error hanswer]
      constructor
      · rintro ⟨record, hrecord⟩
        cases hrecord
      · rintro ⟨asked, hloaded⟩
        cases ((hasLoaded_iff (by simp)).mp hloaded).2
    | ok value =>
      have hdialogue : ((Exchange.send (.load locator) >>= fun value =>
          Exchange.ofQuery (model.loaded [] value)).run answer service).dialogue =
          [(.load locator, .ok value)] := by
        rw [run_send_bind_ok hanswer]
        rfl
      rw [hdialogue, exists_congr fun asked => hasLoaded_iff (by simp), run_send_bind_ok hanswer,
        holdsObject_iff_loaded model []]
      simp [Exchange.ofQuery, Exchange.run, Outcome.afterTurn, mapError_eq_ok_iff]

/-! ### Deleting -/

/-- The exchange posts no load and no edit of a single object. -/
def EditsNothingLoaded (x : Exchange α) : Prop :=
  Within (fun request => (∀ e, request ≠ .edit e) ∧ ∀ asked, request ≠ .load asked)
    (fun _ => True) x

/-- Deleting loads one address and deletes what is there, or it does neither. -/
theorem destroyAll_route (connector : Connector) (name : String) (restriction : Option Json) :
    EditsNothingLoaded (connector.destroyAll name restriction) ∨
      ∃ locator, ∀ {σ : Type} (answer : σ → StoreRequest → Reply × σ) (service : σ),
        ((connector.destroyAll name restriction).run answer service).requests =
          .load locator :: if (answer service (.load locator)).1.holdsObject then
            [.edit ⟨locator, .deleted⟩] else [] := by
  cases hmodel : connector.registry.require name with
  | error error =>
    refine .inl ?_
    unfold destroyAll Connector.model
    rw [hmodel]
    exact .error trivial
  | ok model =>
    cases hlookup : identityLookup model restriction with
    | error error =>
      rw [destroyAll_eq_error hmodel hlookup]
      exact .inl (.error trivial)
    | ok lookup =>
      cases lookup with
      | none =>
        -- A search edits all its hits in one request, and loads none of them.
        rw [destroyAll_eq_search hmodel hlookup]
        exact .inl (within_matchedLocators_bind (by simp) (by simp))
      | some id =>
        cases hlocator : connector.locator model id with
        | error error =>
          rw [destroyAll_eq_load hmodel hlookup, load_eq_error hlocator]
          exact .inl (.error trivial)
        | ok locator =>
          exact .inr ⟨locator, requests_destroyAll_of_locator hmodel hlookup hlocator⟩

/-- A single object is edited if and only if it has been loaded, and then it is deleted. -/
theorem edit_mem_requests_destroyAll_iff {e : LocatorEdit} :
    .edit e ∈ ((connector.destroyAll name restriction).run answer service).requests ↔
      e.edit = .deleted ∧
        HasLoaded ((connector.destroyAll name restriction).run answer service).dialogue
          e.locator := by
  rcases destroyAll_route connector name restriction with hnothing | ⟨locator, hrequests⟩
  · have hposts := (hnothing.run answer service).1
    refine iff_of_false (fun hmem => (hposts _ hmem).1 _ rfl) ?_
    rintro ⟨-, hloaded⟩
    exact not_hasLoaded (fun request hmem => (hposts request hmem).2 _) hloaded
  · obtain ⟨later, hdialogue, hlater⟩ := dialogue_of_requests_cons (hrequests answer service)
    -- Behind the load there is nothing but the deletion, so the reply to the load decides.
    have hedits : ∀ request ∈ later.map Prod.fst, request.isEdit = true := by
      rw [hlater]
      split <;> simp [StoreRequest.isEdit]
    rw [hrequests, hdialogue, hasLoaded_iff hedits]
    obtain ⟨asked, edit⟩ := e
    split
    case isTrue hholds => simp [hholds, and_comm]
    case isFalse hholds => simp [hholds]

/-! ### The main result -/

/-- **What is found and deleted is what is loaded**: an answer to a load says that there is no
object, or it counts as one, or it is refused; a record is found by its key if and only if the
answer counts as an object, and so is what an identity addresses deleted. -/
theorem loadedObject_exact (json : Json) (connector : Connector) (name : String)
    (answer : σ → StoreRequest → Reply × σ) (service : σ) :
    ((RemoteObject.ofJson json = .ok none ↔ json = .null ∨ json = .object []) ∧
      ((∃ object, RemoteObject.ofJson json = .ok (some object)) ↔ Counts json) ∧
      ((∃ reason, RemoteObject.ofJson json = .error (.invalidRemoteObject reason)) ↔
        ¬(json = .null ∨ json = .object []) ∧ ¬ Counts json)) ∧
    (∀ id, let found := (connector.findById name id).run answer service
      (∃ record, found.result = .ok (some record)) ↔
        ∃ locator, HasLoaded found.dialogue locator) ∧
    ∀ restriction, let deleted := (connector.destroyAll name restriction).run answer service
      ∀ e, .edit e ∈ deleted.requests ↔
        e.edit = .deleted ∧ HasLoaded deleted.dialogue e.locator := by
  refine ⟨⟨RemoteObject.ofJson_eq_none_iff, RemoteObject.exists_ofJson_eq_some_iff,
    RemoteObject.exists_ofJson_eq_error_iff⟩, ?_, ?_⟩
  · intro id found
    exact exists_findById_iff
  · intro restriction deleted e
    exact edit_mem_requests_destroyAll_iff

/-- The empty array is read as a blank object, so a note that is not there is found, and deleted. -/
theorem destroyAll_deletes_emptyArray :
    let locator : Locator := .single "thing" "note_id" (.string "n1")
    let found := (noteConnector.findById "Note" (.string "n1")).run Exchange.prepared
      [.ok (some (.array []))]
    let deleted := (noteConnector.destroyAll "Note" (some (.object [("id", .string "n1")]))).run
      Exchange.prepared [.ok (some (.array [])), .ok none]
    RemoteObject.ofJson (.array []) = .ok (some (.ofProperties .empty)) ∧
    found.result = .ok (some .empty) ∧
    deleted.result = .ok 1 ∧ deleted.requests = [.load locator, .edit ⟨locator, .deleted⟩] :=
  ⟨rfl, rfl, rfl, rfl⟩

end Connector

end RecordBridge
