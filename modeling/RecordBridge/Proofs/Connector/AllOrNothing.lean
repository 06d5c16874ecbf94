import RecordBridge.Connector.Operation
import RecordBridge.Proofs.Connector.Lookup
import RecordBridge.Proofs.Connector.Routes
import RecordBridge.Proofs.Exchange.EditsLast
import RecordBridge.Proofs.Exchange.Run

/-!
# Edits are all or nothing

An operation posts at most one body that carries edits, as its last request and only when every
request before it has been answered.  If that body is answered the operation succeeds; if not, the
operation fails with that failure.  With any other error nothing has been edited
(`perform_allOrNothing`).

Each operation is an exchange whose edits come last (`editsLast_perform`), so its dialogue is
settled; `Settled.allOrNothing` reads the bodies of a settled dialogue.
-/

namespace RecordBridge

/-! ### Edits on the wire -/

namespace Json

/-- Whether a body carries an edit: there is one under the name of its kind in its payload. -/
def carriesEdit (body : Json) : Bool :=
  match (body.member? "request").bind (member? "payload") with
  | some payload =>
    ["objectAdded", "objectModified", "objectDeleted"].any fun kind => (payload.member? kind).isSome
  | none => false

/-- Whether a body carries an edit or is an array in which a body does. -/
def carriesEdits : Json → Bool
  | array bodies => bodies.any carriesEdit
  | body => body.carriesEdit

/-- The error of an operation whose edits have failed, told from their body. -/
def editError (body : Json) (failure : HttpFailure) : ConnectorError :=
  match body with
  | array edits => .partialBatch edits.length failure
  | _ => .transport failure

end Json

theorem LocatorEdit.carriesEdit_toJson (e : LocatorEdit) : e.toJson.carriesEdit = true := by
  obtain ⟨locator, edit⟩ := e
  cases edit <;> rfl

theorem SearchRequest.lookupEntry_listMember {key name : String} (h : name ≠ key)
    (items : List Json) : lookupEntry key (SearchRequest.listMember name items) = none := by
  unfold SearchRequest.listMember
  split
  · rfl
  · simp [lookupEntry, h]

/-- A search carries no edit. -/
theorem SearchRequest.member?_request_toJson (search : SearchRequest) :
    search.toJson.member? "request" = none := by
  -- The members with lists are there or not, so the look-up goes through them one by one.
  rw [SearchRequest.toJson, Json.member?, lookupEntry_append, lookupEntry_append,
    SearchRequest.lookupEntry_listMember (by decide),
    SearchRequest.lookupEntry_listMember (by decide)]
  rfl

namespace StoreRequest

/-- The bodies that carry edits are those of the requests that have some. -/
theorem carriesEdits_body (request : StoreRequest) :
    request.body.carriesEdits = !request.edits.isEmpty := by
  cases request with
  | edit e => exact e.carriesEdit_toJson
  | editAll edits =>
    cases edits with
    | nil => rfl
    | cons e rest => simp [body, Json.carriesEdits, StoreRequest.edits, e.carriesEdit_toJson]
  | load locator => rfl
  | search search pageSize =>
    show search.toJson.carriesEdit = false
    rw [Json.carriesEdit, search.member?_request_toJson]
    rfl

theorem isEdit_of_carriesEdits {request : StoreRequest} (h : request.body.carriesEdits = true) :
    request.isEdit = true := by
  rw [carriesEdits_body] at h
  cases request with
  | edit _ => rfl
  | editAll _ => rfl
  | load _ => cases h
  | search _ _ => cases h

theorem carriesEdits_eq_false_of_ask {request : StoreRequest} (h : request.isEdit = false) :
    request.body.carriesEdits = false := by
  rw [← Bool.not_eq_true]
  intro hbody
  rw [isEdit_of_carriesEdits hbody] at h
  cases h

theorem errorOf_eq_editError {request : StoreRequest} (h : request.isEdit = true)
    (failure : HttpFailure) : request.errorOf failure = request.body.editError failure := by
  cases request with
  | edit e => rfl
  | editAll edits => simp [errorOf, body, Json.editError]
  | load _ => cases h
  | search _ _ => cases h

end StoreRequest

/-! ### Reading a settled dialogue -/

namespace Exchange

variable {α σ : Type} {posts : StoreRequest → Prop}

/-- What a dialogue and its result look like when edits are all or nothing. -/
structure AllOrNothing (dialogue : List (StoreRequest × Reply))
    (result : Except ConnectorError α) : Prop where
  /-- At most one request carries edits. -/
  atMostOne : (dialogue.filter fun turn => turn.1.body.carriesEdits).length ≤ 1
  /-- It is the last request, and every request before it has been answered. -/
  last : ∀ before request reply after, dialogue = before ++ (request, reply) :: after →
    request.body.carriesEdits = true → after = [] ∧ ∀ turn ∈ before, turn.2.isOk = true
  /-- The operation succeeds if and only if it is answered, whatever the answer says. -/
  succeeds : ∀ request reply, (request, reply) ∈ dialogue → request.body.carriesEdits = true →
    (result.isOk = true ↔ reply.isOk = true)
  /-- Its failure becomes the error, unchanged. -/
  reports : ∀ request failure, (request, .error failure) ∈ dialogue →
    request.body.carriesEdits = true → result = .error (request.body.editError failure)
  /-- Any other error means that no request carries edits. -/
  untouched : ∀ error, result = .error error →
    (∀ request failure, (request, .error failure) ∈ dialogue →
      request.body.carriesEdits = true → error ≠ request.body.editError failure) →
    ∀ turn ∈ dialogue, turn.1.body.carriesEdits = false
  /-- So does the failure of a request that carries none. -/
  refused : ∀ request failure, (request, .error failure) ∈ dialogue →
    request.body.carriesEdits = false → ∀ turn ∈ dialogue, turn.1.body.carriesEdits = false

/-- A dialogue of one request, if the reply settles the result in case of edits. -/
theorem allOrNothing_singleton {request : StoreRequest} {reply : Reply}
    {result : Except ConnectorError α}
    (hok : request.body.carriesEdits = true → (result.isOk = true ↔ reply.isOk = true))
    (herror : ∀ failure, reply = .error failure → request.body.carriesEdits = true →
      result = .error (request.body.editError failure)) :
    AllOrNothing [(request, reply)] result where
  atMostOne := List.length_filter_le _ _
  last before request' reply' after h _ := by
    obtain ⟨rfl, h⟩ | ⟨rfl, h⟩ := List.append_eq_singleton_iff.mp h.symm
    · obtain ⟨-, rfl⟩ := List.cons.inj h
      exact ⟨rfl, by simp⟩
    · cases h
  succeeds request' reply' h hbody := by
    obtain ⟨rfl, rfl⟩ := Prod.mk.inj (List.mem_singleton.mp h)
    exact hok hbody
  reports request' failure h hbody := by
    obtain ⟨rfl, hreply⟩ := Prod.mk.inj (List.mem_singleton.mp h)
    exact herror failure hreply.symm hbody
  untouched error hresult hother := by
    rw [List.forall_mem_singleton, ← Bool.not_eq_true]
    intro hbody
    cases reply with
    | ok value =>
      have := (hok hbody).mpr rfl
      rw [hresult] at this
      cases this
    | error failure =>
      have := herror failure rfl hbody
      rw [hresult] at this
      exact hother request failure (List.mem_singleton_self _) hbody (Except.error.inj this)
  refused request' failure h hbody := by
    obtain ⟨rfl, -⟩ := Prod.mk.inj (List.mem_singleton.mp h)
    rw [List.forall_mem_singleton]
    exact hbody

/-- An answered question before a dialogue changes nothing. -/
theorem AllOrNothing.cons {request : StoreRequest} {dialogue : List (StoreRequest × Reply)}
    {result : Except ConnectorError α} (h : AllOrNothing dialogue result) (value : Option Json)
    (hbody : request.body.carriesEdits = false) :
    AllOrNothing ((request, .ok value) :: dialogue) result where
  atMostOne := by
    rw [List.filter_cons_of_neg (by simp [hbody])]
    exact h.atMostOne
  last before request' reply' after hsplit hbody' := by
    cases before with
    | nil =>
      obtain ⟨hturn, -⟩ := List.cons.inj hsplit
      obtain ⟨rfl, -⟩ := Prod.mk.inj hturn
      exact absurd hbody' (by simp [hbody])
    | cons turn before =>
      rw [List.cons_append] at hsplit
      obtain ⟨rfl, hrest⟩ := List.cons.inj hsplit
      obtain ⟨hafter, hbefore⟩ := h.last before request' reply' after hrest hbody'
      exact ⟨hafter, List.forall_mem_cons.mpr ⟨rfl, hbefore⟩⟩
  succeeds request' reply' hmem hbody' := by
    rcases List.mem_cons.mp hmem with hturn | hmem
    · obtain ⟨rfl, -⟩ := Prod.mk.inj hturn
      exact absurd hbody' (by simp [hbody])
    · exact h.succeeds request' reply' hmem hbody'
  reports request' failure hmem hbody' := by
    rcases List.mem_cons.mp hmem with hturn | hmem
    · cases (Prod.mk.inj hturn).2
    · exact h.reports request' failure hmem hbody'
  untouched error hresult hother := by
    rw [List.forall_mem_cons]
    refine ⟨hbody, h.untouched error hresult fun request' failure hmem => ?_⟩
    exact hother request' failure (List.mem_cons_of_mem _ hmem)
  refused request' failure hmem hbody' := by
    rw [List.forall_mem_cons]
    rcases List.mem_cons.mp hmem with hturn | hmem
    · cases (Prod.mk.inj hturn).2
    · exact ⟨hbody, h.refused request' failure hmem hbody'⟩

theorem Settled.allOrNothing {dialogue : List (StoreRequest × Reply)}
    {result : Except ConnectorError α} (h : Settled posts dialogue result) :
    AllOrNothing dialogue result := by
  induction h with
  | silent result => constructor <;> simp
  | answered value _ hask _ ih =>
    exact ih.cons value (StoreRequest.carriesEdits_eq_false_of_ask hask)
  | failed failure _ =>
    refine allOrNothing_singleton (fun _ => by simp [Except.isOk, Except.toBool]) ?_
    rintro failure' hreply hbody
    obtain rfl := Except.error.inj hreply
    rw [StoreRequest.errorOf_eq_editError (StoreRequest.isEdit_of_carriesEdits hbody)]
  | edited value a _ _ =>
    exact allOrNothing_singleton (fun _ => by simp [Except.isOk, Except.toBool])
      fun failure hreply => by cases hreply

end Exchange

/-! ### The operations -/

namespace Connector

open Exchange

variable {posts : StoreRequest → Prop}

theorem editsLast_model_bind (connector : Connector) (name : String) {α : Type}
    {f : Model → Exchange α} (hf : ∀ model, EditsLast posts (f model)) :
    EditsLast posts (connector.model name >>= f) :=
  EditsLast.ofQuery_bind fun model _ => hf model

theorem asksOnly_load (connector : Connector) (model : Model) (id : Json)
    (whitelist : List String) : AsksOnly (connector.load model id whitelist) := by
  unfold load
  refine EditsLast.ofQuery_bind fun locator _ => ?_
  refine (asksOnly_send rfl).bind (fun _ h => h) fun reply => ?_
  cases reply with
  | none => exact .done _
  | some json => exact EditsLast.ofQuery_bind fun object _ => .done _

theorem asksOnly_search (request : SearchRequest) (pageSize : Nat) :
    AsksOnly (search request pageSize) := by
  unfold search
  exact (asksOnly_send rfl).bind (fun _ h => h) fun reply => .done _

theorem asksOnly_matchedLocators (connector : Connector) (model : Model)
    (restriction : Option Json) : AsksOnly (connector.matchedLocators model restriction) := by
  unfold matchedLocators
  refine EditsLast.ofQuery_bind fun filter _ => ?_
  exact (asksOnly_search _ _).bind (fun _ h => h) fun found => .done _

theorem editsLast_deleteOne (connector : Connector) (model : Model) (id : Json)
    (hposts : ∀ e, posts (.edit e)) : EditsLast posts (connector.deleteOne model id) := by
  unfold deleteOne
  exact EditsLast.ofQuery_bind fun locator _ => editsLast_send_edit (hposts _)

/-- All edits go out in one request, if there are any. -/
theorem editsLast_editAll (locators : List Locator) (edit : Edit)
    (hposts : ∀ edits, posts (.editAll edits)) : EditsLast posts (editAll locators edit) := by
  unfold editAll
  split
  · exact .note _ (.done _)
  · refine .note _ (.edit (hposts _) rfl (fun failure => ?_) fun value => ⟨_, .done⟩)
    rw [StoreRequest.errorOf, List.length_map]
    exact .done

/-- In every operation edits come last, and there are none in those that only read. -/
theorem editsLast_perform (connector : Connector) (operation : Operation) :
    EditsLast (fun request => operation.readsOnly = true → request.isEdit = false)
      (connector.perform operation) := by
  cases operation with
  | create name data =>
    refine connector.editsLast_model_bind name fun model => ?_
    refine EditsLast.ofQuery_bind fun keyName _ => ?_
    refine EditsLast.ofQuery_bind fun key _ => ?_
    refine (editsLast_send_edit fun h => absurd h Bool.false_ne_true).bind_of_ends fun _ => ?_
    exact ⟨key, .note _ .done⟩
  | findById name id =>
    refine connector.editsLast_model_bind name fun model => ?_
    exact (connector.asksOnly_load model id []).mono fun _ h _ => h
  | find name query =>
    refine connector.editsLast_model_bind name fun model => ?_
    refine EditsLast.ofQuery_bind fun lookup _ => ?_
    cases lookup with
    | some id =>
      exact (connector.asksOnly_load model id _).bind (fun _ h _ => h) fun record => .done _
    | none =>
      refine EditsLast.ofQuery_bind fun compiled _ => .note _ ?_
      exact (asksOnly_search _ _).bind (fun _ h _ => h) fun found => .done _
  | count name restriction =>
    refine connector.editsLast_model_bind name fun model => ?_
    refine EditsLast.ofQuery_bind fun filter _ => ?_
    exact (asksOnly_search _ _).bind (fun _ h _ => h) fun found => .done _
  | replaceById name id data =>
    refine connector.editsLast_model_bind name fun model => ?_
    refine EditsLast.ofQuery_bind fun locator _ => ?_
    exact editsLast_send_edit fun h => absurd h Bool.false_ne_true
  | destroyById name id =>
    refine connector.editsLast_model_bind name fun model => ?_
    exact connector.editsLast_deleteOne model id fun _ h => absurd h Bool.false_ne_true
  | updateAll name restriction data =>
    refine connector.editsLast_model_bind name fun model => ?_
    refine (connector.asksOnly_matchedLocators model restriction).bind (fun _ h _ => h)
      fun locators => ?_
    exact editsLast_editAll locators _ fun _ h => absurd h Bool.false_ne_true
  | destroyAll name restriction =>
    refine connector.editsLast_model_bind name fun model => ?_
    refine EditsLast.ofQuery_bind fun lookup _ => ?_
    cases lookup with
    | some id =>
      refine (connector.asksOnly_load model id []).bind (fun _ h _ => h) fun record => ?_
      cases record with
      | none => exact .note _ (.done _)
      | some _ =>
        refine (connector.editsLast_deleteOne model id fun _ h =>
          absurd h Bool.false_ne_true).bind_of_ends fun _ => ?_
        exact ⟨(1 : Nat), .done⟩
    | none =>
      refine (connector.asksOnly_matchedLocators model restriction).bind (fun _ h _ => h)
        fun locators => ?_
      exact editsLast_editAll locators _ fun _ h => absurd h Bool.false_ne_true

/-- What is deleted for an equality of the identity is the object that has just been loaded. -/
theorem requests_destroyAll_of_identityLookup {connector : Connector} {name : String}
    {model : Model} {restriction : Option Json} {id : Json}
    (hmodel : connector.registry.require name = .ok model)
    (hlookup : identityLookup model restriction = .ok (some id)) {σ : Type}
    (answer : σ → StoreRequest → Reply × σ) (service : σ) :
    let requests := ((connector.destroyAll name restriction).run answer service).requests
    requests = [] ∨ ∃ locator, requests = [.load locator] ∨
      requests = [.load locator, .edit ⟨locator, .deleted⟩] := by
  intro requests
  cases hlocator : connector.locator model id with
  | error e =>
    left
    unfold requests
    rw [destroyAll_eq_load hmodel hlookup]
    unfold load
    rw [hlocator]
    rfl
  | ok locator =>
    refine .inr ⟨locator, ?_⟩
    have hrequests : requests = _ :=
      requests_destroyAll_of_locator hmodel hlookup hlocator answer service
    split at hrequests
    · exact .inr hrequests
    · exact .inl hrequests

/-- **Edits are all or nothing**, for every operation and every service.  An operation that only
reads never edits; and where an equality of the identity leads to a deletion, the object deleted
is the one that has just been loaded. -/
theorem perform_allOrNothing (connector : Connector) (operation : Operation) {σ : Type}
    (answer : σ → StoreRequest → Reply × σ) (service : σ) :
    let outcome := (connector.perform operation).run answer service
    AllOrNothing outcome.dialogue outcome.result ∧
    (operation.readsOnly = true →
      ∀ request ∈ outcome.requests, request.body.carriesEdits = false) ∧
    (∀ name restriction model id, operation = .destroyAll name restriction →
      connector.registry.require name = .ok model →
      identityLookup model restriction = .ok (some id) →
      ∀ request ∈ outcome.requests, request.body.carriesEdits = true →
        ∃ locator, outcome.requests = [.load locator, request] ∧
          request = .edit ⟨locator, .deleted⟩) := by
  intro outcome
  have hsettled := (connector.editsLast_perform operation).settled_run answer service
  refine ⟨hsettled.allOrNothing, fun hreads request hrequest => ?_, ?_⟩
  · obtain ⟨turn, hturn, rfl⟩ := List.mem_map.mp hrequest
    exact StoreRequest.carriesEdits_eq_false_of_ask (hsettled.posts_of_mem turn hturn hreads)
  · rintro name restriction model id rfl hmodel hlookup request hrequest hbody
    rcases requests_destroyAll_of_identityLookup hmodel hlookup answer service with
      h | ⟨locator, h | h⟩
    · rw [show outcome.requests = [] from h] at hrequest
      cases hrequest
    · rw [show outcome.requests = [.load locator] from h, List.mem_singleton] at hrequest
      subst hrequest
      cases hbody
    · refine ⟨locator, ?_⟩
      rw [show outcome.requests = [.load locator, .edit ⟨locator, .deleted⟩] from h] at hrequest ⊢
      rcases List.mem_cons.mp hrequest with rfl | hrequest
      · cases hbody
      · obtain rfl := List.mem_singleton.mp hrequest
        exact ⟨rfl, rfl⟩

end Connector

end RecordBridge
