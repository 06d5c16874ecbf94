import RecordBridge.Proofs.Connector.Routes
import RecordBridge.Proofs.Exchange.Run
import RecordBridge.Proofs.Store.HitShape
import RecordBridge.Proofs.Success

/-!
# Bulk edits touch exactly the matching objects

Updating all matching objects, and deleting them when a search is needed, is one exchange with two
requests at most: a search, and one request with an edit for every hit.  What comes of it is told
by the answer to the search alone (`EditsHits`): nothing is edited if there are more objects than
hits or a hit has no key.

Against a service that answers every search with a page of what matches and with the number of all
that matches (`AnswersPages`), success means that every matching object has been edited once
(`editsMatches_exact`).
-/

namespace RecordBridge

/-! ### The addresses of hits -/

namespace Connector

/-- The same edit for every hit, at the address of the hit. -/
def hitEdits (typeId : String) (edit : Edit) (hits : List RemoteObject) : List LocatorEdit :=
  hits.map fun hit => ⟨⟨typeId, hit.primaryKey⟩, edit⟩

/-- Every hit has an address, or there is one without a key. -/
theorem mapM_hitLocator (typeId : String) (hits : List RemoteObject) :
    hits.mapM (hitLocator typeId) =
      if hits.any fun hit => hit.primaryKey.isEmpty then
        .error (.invalidResponse "search hit without primaryKey")
      else .ok (hits.map fun hit => ⟨typeId, hit.primaryKey⟩) := by
  induction hits with
  | nil => rfl
  | cons hit rest ih =>
    rw [List.mapM_cons, ih, hitLocator, List.any_cons]
    cases hit.primaryKey.isEmpty <;>
      cases rest.any fun hit => hit.primaryKey.isEmpty <;> rfl

/-- The addresses are those of all hits, unless objects are missing or a hit has no key. -/
theorem locatorsOf_eq (typeId : String) (found : SearchAnswer) :
    locatorsOf typeId found =
      if found.hits.length < found.totalHits then
        .error (.truncatedMatch found.totalHits found.hits.length)
      else if found.hits.any fun hit => hit.primaryKey.isEmpty then
        .error (.invalidResponse "search hit without primaryKey")
      else .ok (found.hits.map fun hit => ⟨typeId, hit.primaryKey⟩) := by
  rw [← mapM_hitLocator]
  rfl

/-! ### The two requests -/

section

variable {connector : Connector} {name : String} {model : Model} {restriction : Option Json}
  {filter : SearchFilter} {edit : Edit} {json : Json} {found : SearchAnswer} {σ : Type}
  {answer : σ → StoreRequest → Reply × σ} {service service' : σ}

/-- An answered search leads to the addresses of its hits. -/
theorem run_matchedLocators_bind (hfilter : model.compileWhere? restriction = .ok filter)
    (hanswer : answer service
        (.search (connector.searchRequest model filter) connector.settings.defaultPageSize) =
      (.ok (some json), service'))
    (hdecode : SearchAnswer.decode json = .ok found) (f : List Locator → Exchange Nat) :
    (connector.matchedLocators model restriction >>= f).run answer service =
      ((Exchange.done (locatorsOf (connector.typeId model) found) >>= f).run answer
        service').afterTurn .requestSent
        (.search (connector.searchRequest model filter) connector.settings.defaultPageSize,
          .ok (some json)) := by
  have hexchange : (connector.matchedLocators model restriction >>= f) =
      (Exchange.send
        (.search (connector.searchRequest model filter) connector.settings.defaultPageSize) >>=
        fun value => Exchange.done (readAnswer value) >>= fun found =>
          Exchange.done (locatorsOf (connector.typeId model) found) >>= f) := by
    unfold matchedLocators search
    rw [hfilter]
    show (((Exchange.send _ >>= _) >>= _) >>= _) = _
    rw [bind_assoc, bind_assoc]
  rw [hexchange, Exchange.run_send_bind_ok hanswer, readAnswer, hdecode]
  rfl

/-- Edits of some objects go out in one request. -/
theorem run_editAll_hits {typeId : String} {hits : List RemoteObject} (h : hits ≠ [])
    (answer : σ → StoreRequest → Reply × σ) (service : σ) :
    let request := StoreRequest.editAll (hitEdits typeId edit hits)
    (editAll (hits.map fun hit => ⟨typeId, hit.primaryKey⟩) edit).run answer service =
      ⟨((answer service request).1.mapError (.partialBatch hits.length)).map fun _ => hits.length,
        (answer service request).2, [(request, (answer service request).1)], [.editAllSent]⟩ := by
  intro request
  have hrequest : StoreRequest.editAll
      ((hits.map fun hit => (⟨typeId, hit.primaryKey⟩ : Locator)).map fun locator =>
        ⟨locator, edit⟩) = request := by
    rw [List.map_map]
    rfl
  unfold editAll
  rw [if_neg (by simpa using h), hrequest, List.length_map, Exchange.run_log_bind,
    Exchange.run_discard_postOr_bind_pure]

end

/-! ### What comes of a bulk edit -/

/-- The exchanges that search for the objects which a restriction lets through and edit all of
them: every update, and every deletion that is no look-up of the identity. -/
inductive EditsMatches (connector : Connector) (name : String) (model : Model)
    (restriction : Option Json) : Edit → Exchange Nat → Prop
  | update (data : Record) :
      EditsMatches connector name model restriction (.modified (connector.outgoing model data))
        (connector.updateAll name restriction data)
  | destroy (hlookup : identityLookup model restriction = .ok none) :
      EditsMatches connector name model restriction .deleted
        (connector.destroyAll name restriction)

/-- What comes of an exchange that edits the hits of an answer to a search; `asked` is the search
with the reply to it. -/
structure EditsHits {σ : Type} (typeId : String) (edit : Edit) (found : SearchAnswer)
    (asked : StoreRequest × Reply) (outcome : Exchange.Outcome σ Nat) : Prop where
  /-- There are more objects than hits: nothing is edited. -/
  truncated : found.hits.length < found.totalHits →
    outcome.result = .error (.truncatedMatch found.totalHits found.hits.length) ∧
      outcome.dialogue = [asked]
  /-- A hit has no key: nothing is edited. -/
  keyless : found.totalHits ≤ found.hits.length →
    (∃ hit ∈ found.hits, hit.primaryKey.isEmpty = true) →
    (∃ reason, outcome.result = .error (.invalidResponse reason)) ∧ outcome.dialogue = [asked]
  /-- There is no hit: nothing is edited, and that is a success. -/
  unmatched : found.totalHits ≤ found.hits.length → found.hits = [] →
    outcome.result = .ok 0 ∧ outcome.dialogue = [asked]
  /-- Every hit is edited in one request, whose reply decides. -/
  edited : found.totalHits ≤ found.hits.length → found.hits ≠ [] →
    (∀ hit ∈ found.hits, hit.primaryKey.isEmpty = false) →
    ∃ request reply, outcome.dialogue = [asked, (request, reply)] ∧
      request = .editAll (hitEdits typeId edit found.hits) ∧
      request.body = .array (found.hits.map fun hit =>
        LocatorEdit.toJson ⟨⟨typeId, hit.primaryKey⟩, edit⟩) ∧
      (∀ value, reply = .ok value → outcome.result = .ok found.hits.length) ∧
      ∀ failure, reply = .error failure →
        outcome.result = .error (.partialBatch found.hits.length failure)

section

variable {connector : Connector} {name : String} {model : Model} {restriction : Option Json}
  {filter : SearchFilter} {edit : Edit} {json : Json} {found : SearchAnswer} {σ : Type}
  {answer : σ → StoreRequest → Reply × σ} {service service' : σ} {x : Exchange Nat}

theorem EditsMatches.eq_bind (h : EditsMatches connector name model restriction edit x)
    (hmodel : connector.registry.require name = .ok model) :
    x = (connector.matchedLocators model restriction >>= fun locators =>
      editAll locators edit) := by
  cases h with
  | update data => exact updateAll_eq hmodel data
  | destroy hlookup => exact destroyAll_eq_search hmodel hlookup

/-- An answer to the search decides what is edited. -/
theorem EditsMatches.editsHits (h : EditsMatches connector name model restriction edit x)
    (hmodel : connector.registry.require name = .ok model)
    (hfilter : model.compileWhere? restriction = .ok filter)
    (hanswer : answer service
        (.search (connector.searchRequest model filter) connector.settings.defaultPageSize) =
      (.ok (some json), service'))
    (hdecode : SearchAnswer.decode json = .ok found) :
    EditsHits (connector.typeId model) edit found
      (.search (connector.searchRequest model filter) connector.settings.defaultPageSize,
        .ok (some json)) (x.run answer service) := by
  rw [h.eq_bind hmodel, run_matchedLocators_bind hfilter hanswer hdecode, locatorsOf_eq]
  constructor
  case truncated =>
    intro htotal
    rw [if_pos htotal]
    exact ⟨rfl, rfl⟩
  case keyless =>
    intro htotal hkey
    have hany : (found.hits.any fun hit => hit.primaryKey.isEmpty) = true :=
      List.any_eq_true.mpr hkey
    rw [if_neg (Nat.not_lt.mpr htotal), if_pos hany]
    exact ⟨⟨_, rfl⟩, rfl⟩
  case unmatched =>
    intro htotal hhits
    rw [if_neg (Nat.not_lt.mpr htotal), hhits]
    exact ⟨rfl, rfl⟩
  case edited =>
    intro htotal hhits hkey
    have hany : ¬ (found.hits.any fun hit => hit.primaryKey.isEmpty) = true := by
      simpa using hkey
    rw [if_neg (Nat.not_lt.mpr htotal), if_neg hany, Exchange.run_done_ok_bind,
      run_editAll_hits hhits]
    refine ⟨_, _, rfl, rfl, ?_, ?_, ?_⟩
    · exact congrArg Json.array List.map_map
    -- The result is the mapped reply; only whether it is an answer or a failure matters.
    · intro value hreply
      show (Except.mapError _ _).map _ = _
      rw [hreply]
      rfl
    · intro failure hreply
      show (Except.mapError _ _).map _ = _
      rw [hreply]
      rfl

end

/-! ### Services that answer in pages -/

/-- What comes of an exchange that edits all objects that match, or none. -/
structure EditsAll {σ : Type} (typeId : String) (edit : Edit) (matched : List RemoteObject)
    (outcome : Exchange.Outcome σ Nat) : Prop where
  /-- No proper part of the objects is edited. -/
  allOrNone : outcome.requests.flatMap StoreRequest.edits = [] ∨
    outcome.requests.flatMap StoreRequest.edits = hitEdits typeId edit matched
  /-- Success means that every object is edited once, and the result is their number. -/
  success : ∀ n, outcome.result = .ok n → n = matched.length ∧
    outcome.requests.flatMap StoreRequest.edits = hitEdits typeId edit matched ∧
    ∀ turn ∈ outcome.dialogue, turn.2.isOk = true

/-- A service answers every search with as many of the matching objects as a page holds, and with
the number of all of them. -/
def AnswersPages {σ : Type} (matching : σ → SearchRequest → List RemoteObject)
    (answer : σ → StoreRequest → Reply × σ) : Prop :=
  ∀ service search pageSize, ∃ json,
    (answer service (.search search pageSize)).1 = .ok (some json) ∧
    SearchAnswer.decode json =
      .ok ⟨(matching service search).take pageSize, (matching service search).length⟩

section

variable {typeId : String} {edit : Edit} {matched : List RemoteObject} {pageSize : Nat}
  {σ : Type} {outcome : Exchange.Outcome σ Nat} {search : SearchRequest} {json : Json}
  {reply : Reply} {error : ConnectorError}

theorem EditsAll.of_error (hresult : outcome.result = .error error)
    (hdialogue : outcome.dialogue = [(.search search pageSize, reply)]) :
    EditsAll typeId edit matched outcome := by
  refine ⟨.inl (by rw [Exchange.Outcome.requests, hdialogue]; rfl), ?_⟩
  intro n hn
  rw [hresult] at hn
  cases hn

/-- If the answer is a page of what matches, all of it is edited or nothing. -/
theorem EditsHits.editsAll
    (h : EditsHits typeId edit ⟨matched.take pageSize, matched.length⟩
      (.search search pageSize, .ok (some json)) outcome) :
    EditsAll typeId edit matched outcome := by
  by_cases htruncated : (matched.take pageSize).length < matched.length
  · obtain ⟨hresult, hdialogue⟩ := h.truncated htruncated
    exact .of_error hresult hdialogue
  · have hpage : matched.take pageSize = matched := by
      rw [List.length_take] at htruncated
      exact List.take_of_length_le (by omega)
    rw [hpage] at h
    by_cases hempty : matched = []
    · obtain ⟨hresult, hdialogue⟩ := h.unmatched (Nat.le_refl _) hempty
      have hedits : outcome.requests.flatMap StoreRequest.edits = [] := by
        rw [Exchange.Outcome.requests, hdialogue]
        rfl
      refine ⟨.inl hedits, ?_⟩
      intro n hn
      rw [hresult] at hn
      rw [hedits, hdialogue, hempty, ← Except.ok.inj hn]
      exact ⟨rfl, rfl, by simp [Except.isOk, Except.toBool]⟩
    by_cases hkey : ∃ hit ∈ matched, hit.primaryKey.isEmpty = true
    · obtain ⟨⟨reason, hresult⟩, hdialogue⟩ := h.keyless (Nat.le_refl _) hkey
      exact .of_error hresult hdialogue
    · obtain ⟨request, reply, hdialogue, hrequest, -, hok, herror⟩ :=
        h.edited (Nat.le_refl _) hempty (by simpa using hkey)
      have hedits : outcome.requests.flatMap StoreRequest.edits =
          hitEdits typeId edit matched := by
        rw [Exchange.Outcome.requests, hdialogue, hrequest]
        exact List.append_nil _
      refine ⟨.inr hedits, ?_⟩
      intro n hn
      cases reply with
      | error failure => cases hn.symm.trans (herror failure rfl)
      | ok value =>
        refine ⟨(Except.ok.inj (hn.symm.trans (hok value rfl))), hedits, ?_⟩
        rw [hdialogue]
        simp [Except.isOk, Except.toBool]

end

/-- **Bulk edits are exact**: an answered search decides which objects are edited, and against a
service that answers in pages success means that all matching objects are. -/
theorem editsMatches_exact {connector : Connector} {name : String} {model : Model}
    {restriction : Option Json} {filter : SearchFilter} {edit : Edit} {x : Exchange Nat}
    (h : EditsMatches connector name model restriction edit x)
    (hmodel : connector.registry.require name = .ok model)
    (hfilter : model.compileWhere? restriction = .ok filter)
    {σ : Type} (answer : σ → StoreRequest → Reply × σ) (service : σ) :
    let search := connector.searchRequest model filter
    let asked := StoreRequest.search search connector.settings.defaultPageSize
    let typeId := model.objectType.getD connector.settings.objectType
    let outcome := x.run answer service
    (∀ json found, (answer service asked).1 = .ok (some json) →
      SearchAnswer.decode json = .ok found →
      EditsHits typeId edit found (asked, .ok (some json)) outcome ∧
        ∀ members, json = .object members → lookupEntry "totalHits" members = none →
          found.totalHits = 0) ∧
    ∀ matching : σ → SearchRequest → List RemoteObject, AnswersPages matching answer →
      EditsAll typeId edit (matching service search) outcome := by
  intro search asked typeId outcome
  have hexact : ∀ json found, (answer service asked).1 = .ok (some json) →
      SearchAnswer.decode json = .ok found →
      EditsHits typeId edit found (asked, .ok (some json)) outcome := by
    intro json found hjson hdecode
    exact h.editsHits hmodel hfilter (Prod.ext hjson rfl) hdecode
  constructor
  · intro json found hjson hdecode
    refine ⟨hexact json found hjson hdecode, ?_⟩
    rintro members rfl habsent
    exact SearchAnswer.totalHits_of_absent rfl hdecode habsent
  · intro matching hpages
    obtain ⟨json, hjson, hdecode⟩ :=
      hpages service search connector.settings.defaultPageSize
    exact (hexact json _ hjson hdecode).editsAll

/-! ### A service with some tasks -/

/-- How the properties of an object answer the tests of a filter; a pattern stands for itself. -/
def testsOf (object : RemoteObject) : SearchFilter.Tests where
  eq field value :=
    object.properties.entries.any fun e => Model.exactField e.1 = field ∧ e.2 = value
  like field pattern :=
    object.properties.entries.any fun e => Model.exactField e.1 = field ∧ e.2 = .string pattern

/-- Of some objects, those that the filter of a search lets through. -/
def matchingOf (objects : List RemoteObject) (search : SearchRequest) : List RemoteObject :=
  objects.filter fun object => search.filter.holds (testsOf object)

/-- Answers searches with a page of the objects that match, and everything else with nothing. -/
def servePages (objects : List RemoteObject) (service : Unit) : StoreRequest → Reply × Unit
  | .search search pageSize =>
    let matching := matchingOf objects search
    (.ok (some (.object [("hits", .array ((matching.take pageSize).map RemoteObject.toJson)),
      ("totalHits", .ofInt matching.length)])), service)
  | .edit _ | .editAll _ | .load _ => (.ok none, service)

/-- Whatever objects there are, if they can be written, they can be served in pages. -/
theorem answersPages_servePages {objects : List RemoteObject}
    (hnull : ∀ object ∈ objects, object.HasNoNull) (hlength : objects.length < Nat.pow 2 64) :
    AnswersPages (fun _ => matchingOf objects) (servePages objects) := by
  intro service search pageSize
  refine ⟨_, rfl, ?_⟩
  have hmem : ∀ object ∈ (matchingOf objects search).take pageSize, object ∈ objects := by
    intro object hobject
    exact List.mem_of_mem_filter (List.mem_of_mem_take hobject)
  have hcount : (matchingOf objects search).length < Nat.pow 2 64 :=
    Nat.lt_of_le_of_lt (List.length_filter_le _ _) hlength
  have hsent : List.Forall₂ SentAs ((matchingOf objects search).take pageSize)
      (((matchingOf objects search).take pageSize).map RemoteObject.toJson) := by
    rw [List.forall₂_map_right_iff, List.forall₂_same]
    exact fun object _ => .bare
  apply SearchAnswer.decode_of_sends _ (sends_of_hits_and_total hsent hcount)
  intro object hobject
  exact ⟨object.toJson, RemoteObject.decode_toJson (hnull object (hmem object hobject))⟩

/-- A connector that knows one model, which has no properties. -/
def itemConnector : Connector where
  settings := {
    serviceUrl := ⟨"https", some ⟨"", "", "store.example", none⟩, "/", none, none⟩
    apiToken := "token"
    objectType := "thing"
    policy := none
    timeout := Settings.defaultTimeout
    defaultPageSize := Settings.standardPageSize
    allowInsecureHttp := false
    debug := false
    paths := .default
    key := .default }
  registry := Registry.empty.register (.named "Item")

/-- A model with two properties of other names in the store and one that is never written. -/
def taskModel : Model :=
  Model.named "Task"
    |>.withProperty "id" { Property.plain with
      physicalName := some "task_id", primaryKey := true, isIdentity := true }
    |>.withProperty "state" { Property.plain with physicalName := some "status" }
    |>.withProperty "owner" { Property.plain with physicalName := some "assignee" }
    |>.withProperty "draft" { Property.plain with ignored := true }

/-- A connector that knows the model. -/
def taskConnector : Connector :=
  { itemConnector with registry := Registry.empty.register taskModel }

/-- A task with a key and a state. -/
def taskObject (key state : String) : RemoteObject :=
  { RemoteObject.ofProperties (.ofList [("status", .string state)]) with
    primaryKey := .ofList [("task_id", .string key)] }

theorem hasNoNull_taskObject (key state : String) : (taskObject key state).HasNoNull := by
  constructor <;> simp [taskObject, RemoteObject.ofProperties]

/-- Two open tasks and one that is done. -/
def taskObjects : List RemoteObject :=
  [taskObject "t1" "open", taskObject "t2" "done", taskObject "t3" "open"]

/-- Closing the open tasks edits both of them, and deleting them deletes both. -/
theorem editsMatches_exact_tasks :
    let restriction := some (Json.object [("state", .string "open")])
    let data : Record :=
      .ofList [("state", .string "done"), ("draft", .bool true), ("owner", .string "desk")]
    let written : Record := .ofList [("status", .string "done"), ("assignee", .string "desk")]
    let matched := [taskObject "t1" "open", taskObject "t3" "open"]
    let updated := (taskConnector.updateAll "Task" restriction data).run (servePages taskObjects) ()
    let deleted := (taskConnector.destroyAll "Task" restriction).run (servePages taskObjects) ()
    updated.result = .ok 2 ∧
      updated.requests.flatMap StoreRequest.edits = hitEdits "thing" (.modified written) matched ∧
      deleted.result = .ok 2 ∧
      deleted.requests.flatMap StoreRequest.edits = hitEdits "thing" .deleted matched := by
  intro restriction data written matched updated deleted
  have hnull : ∀ object ∈ taskObjects, object.HasNoNull := by
    intro object hobject
    simp only [taskObjects, List.mem_cons, List.not_mem_nil, or_false] at hobject
    rcases hobject with rfl | rfl | rfl <;> exact hasNoNull_taskObject _ _
  have hpages := answersPages_servePages hnull (by decide)
  have hfilter : taskModel.compileWhere? restriction =
      .ok (.terms [.string "open"] "status.raw") := rfl
  have hupdate : EditsMatches taskConnector "Task" taskModel restriction (.modified written)
      (taskConnector.updateAll "Task" restriction data) := .update data
  have hdestroy : EditsMatches taskConnector "Task" taskModel restriction .deleted
      (taskConnector.destroyAll "Task" restriction) := .destroy rfl
  have hupdated := (editsMatches_exact hupdate rfl hfilter (servePages taskObjects) ()).2 _ hpages
  have hdeleted := (editsMatches_exact hdestroy rfl hfilter (servePages taskObjects) ()).2 _ hpages
  have hupdatedResult : updated.result = .ok 2 := rfl
  have hdeletedResult : deleted.result = .ok 2 := rfl
  refine ⟨hupdatedResult, ?_, hdeletedResult, ?_⟩
  · exact (hupdated.success 2 hupdatedResult).2.1
  · exact (hdeleted.success 2 hdeletedResult).2.1

end Connector

end RecordBridge
