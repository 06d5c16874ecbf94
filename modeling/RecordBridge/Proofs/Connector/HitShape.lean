import RecordBridge.Connector.Operation
import RecordBridge.Proofs.Connector.Found
import RecordBridge.Proofs.Exchange.Alike
import RecordBridge.Proofs.Store.HitShape

/-!
# Both shapes of a hit mean the same

Operations look at the answer to a search only through the objects that it is read as, so they do
not tell two answers apart that send the same objects, each of them by itself or wrapped
(`SameObjects`, `Connector.respects_perform`): they post the same requests and come to the same
result (`Connector.hitShape_irrelevant`).
-/

namespace RecordBridge

/-! ### Replies -/

/-- Two replies to a request are the same, or they are answers to a search that send the same
objects, each of them in whichever shape. -/
inductive SameObjects : StoreRequest → Reply → Reply → Prop
  | same (request : StoreRequest) (reply : Reply) : SameObjects request reply reply
  | answered (request : SearchRequest) (pageSize : Nat) {objects : List RemoteObject} {total : Nat}
      {answer answer' : Json}
      (hread : ∀ object ∈ objects, ∃ json, RemoteObject.decode json = .ok object)
      (hanswer : Sends objects total answer) (hanswer' : Sends objects total answer') :
      SameObjects (.search request pageSize) (.ok (some answer)) (.ok (some answer'))

/-- No request but a search is answered with objects in one of two shapes. -/
theorem SameObjects.eq {request : StoreRequest} {reply reply' : Reply}
    (h : SameObjects request reply reply')
    (hsearch : ∀ search pageSize, request ≠ .search search pageSize) : reply = reply' := by
  cases h with
  | same => rfl
  | answered request pageSize => exact absurd rfl (hsearch request pageSize)

/-! ### Operations -/

namespace Connector

open Exchange

/-- A search reads both answers as the same objects. -/
theorem respects_search (request : SearchRequest) (pageSize : Nat) :
    Respects SameObjects (search request pageSize) := by
  apply respects_send_bind_done
  intro reply reply' halike
  cases halike with
  | same => rfl
  | answered _ _ hread hanswer hanswer' =>
    show readAnswer (some _) = readAnswer (some _)
    dsimp only [readAnswer]
    rw [SearchAnswer.decode_of_sends hread hanswer, SearchAnswer.decode_of_sends hread hanswer']

theorem respects_load (connector : Connector) (model : Model) (id : Json)
    (whitelist : List String) : Respects SameObjects (connector.load model id whitelist) := by
  unfold load
  refine .bind (.done _) fun locator => ?_
  refine .bind (respects_send fun _ _ h => h.eq (by simp)) fun value => ?_
  cases value with
  | none => exact .done _
  | some json => exact .bind (.done _) fun object => .done _

/-- Posting one edit. -/
theorem respects_send_edit (edit : LocatorEdit) :
    Respects SameObjects (discard (send (.edit edit))) :=
  .bind (respects_send fun _ _ h => h.eq (by simp)) fun _ => .done _

theorem respects_deleteOne (connector : Connector) (model : Model) (id : Json) :
    Respects SameObjects (connector.deleteOne model id) :=
  .bind (.done _) fun _ => respects_send_edit _

theorem respects_matchedLocators (connector : Connector) (model : Model)
    (restriction : Option Json) :
    Respects SameObjects (connector.matchedLocators model restriction) :=
  .bind (.done _) fun _ => .bind (respects_search _ _) fun _ => .done _

theorem respects_editAll (locators : List Locator) (edit : Edit) :
    Respects SameObjects (editAll locators edit) := by
  unfold editAll
  split
  · exact .bind (.note _ (.done _)) fun _ => .done _
  · refine .bind (.note _ (.done _)) fun _ => .bind (.bind ?_ fun _ => .done _) fun _ => .done _
    exact respects_postOr _ fun _ _ h => h.eq (by simp)

/-- No operation tells the shapes of hits apart. -/
theorem respects_perform (connector : Connector) (operation : Operation) :
    Respects SameObjects (connector.perform operation) := by
  cases operation with
  | create name data =>
    refine .bind (.done _) fun model => .bind (.done _) fun keyName => .bind (.done _) fun key => ?_
    exact .bind (respects_send_edit _) fun _ => .note _ (.done _)
  | findById name id => exact .bind (.done _) fun model => connector.respects_load model id []
  | find name query =>
    refine .bind (.done _) fun model => .bind (.done _) fun lookup => ?_
    cases lookup with
    | some id => exact .bind (connector.respects_load model id _) fun record => .done _
    | none =>
      refine .bind (.done _) fun compiled => .bind (.note _ (.done _)) fun _ => ?_
      exact .bind (respects_search _ _) fun found => .done _
  | count name restriction =>
    refine .bind (.done _) fun model => .bind (.done _) fun filter => ?_
    exact .bind (respects_search _ _) fun found => .done _
  | replaceById name id data =>
    exact .bind (.done _) fun model => .bind (.done _) fun locator => respects_send_edit _
  | destroyById name id => exact .bind (.done _) fun model => connector.respects_deleteOne model id
  | updateAll name restriction data =>
    refine .bind (.done _) fun model => ?_
    exact .bind (connector.respects_matchedLocators model restriction) fun locators =>
      respects_editAll locators _
  | destroyAll name restriction =>
    refine .bind (.done _) fun model => .bind (.done _) fun lookup => ?_
    cases lookup with
    | some id =>
      refine .bind (connector.respects_load model id []) fun record => ?_
      cases record with
      | none => exact .note _ (.done _)
      | some _ => exact .bind (connector.respects_deleteOne model id) fun _ => .done _
    | none =>
      exact .bind (connector.respects_matchedLocators model restriction) fun locators =>
        respects_editAll locators _

/-- **Both shapes of a hit mean the same.**  Objects can be sent with any choice of shapes, an
answer is read as the objects that it sends, whichever of them are wrapped, and operations that are
answered with the same objects in one way and in another post the same requests and give the same
result. -/
theorem hitShape_irrelevant :
    (∀ (objects : List RemoteObject) (hits : List Json) (total : Nat),
      List.Forall₂ SentAs objects hits → total < Nat.pow 2 64 →
      Sends objects total (.object [("hits", .array hits), ("totalHits", .ofInt total)])) ∧
    (∀ (objects : List RemoteObject) (total : Nat) (answer : Json),
      (∀ object ∈ objects, ∃ json, RemoteObject.decode json = .ok object) →
      Sends objects total answer → SearchAnswer.decode answer = .ok ⟨objects, total⟩) ∧
    ∀ (connector : Connector) (operation : Operation) (σ τ : Type)
      (answer : σ → StoreRequest → Reply × σ) (answer' : τ → StoreRequest → Reply × τ)
      (together : σ → τ → Prop) (service : σ) (service' : τ),
      RepliesAlike SameObjects answer answer' together → together service service' →
      let outcome := (connector.perform operation).run answer service
      let outcome' := (connector.perform operation).run answer' service'
      outcome.requests = outcome'.requests ∧ outcome.result = outcome'.result := by
  refine ⟨?_, ?_, ?_⟩
  · intro objects hits total hsent htotal
    exact sends_of_hits_and_total hsent htotal
  · intro objects total answer hread hanswer
    exact SearchAnswer.decode_of_sends hread hanswer
  · intro connector operation σ τ answer answer' together service service' hservices htogether
    obtain ⟨hresult, hrequests, -⟩ := (connector.respects_perform operation).run hservices htogether
    exact ⟨hrequests, hresult⟩

/-! ### Two notes in either shape -/

/-- A note with a text, and one with a title. -/
def foundNotes : List RemoteObject :=
  [{ RemoteObject.ofProperties (.ofList [("body", .string "hello")]) with
      primaryKey := .ofList [("note_id", .string "n1")] },
    { RemoteObject.ofProperties .empty with
      primaryKey := .ofList [("note_id", .string "n2")], title := some (.string "second") }]

/-- The first note is wrapped and the second one is not. -/
def mixedHits : List Json :=
  [.object [("object", .object [("primaryKey", .object [("note_id", .string "n1")]),
      ("properties", .object [("body", .string "hello")])])],
    .object [("primaryKey", .object [("note_id", .string "n2")]), ("properties", .object []),
      ("title", .string "second")]]

/-- A service that answers a search with one page of hits and nothing else. -/
def serveHits (hits : List Json) (service : Unit) : StoreRequest → Reply × Unit
  | .search .. => (.ok (some (.object [("hits", .array hits)])), service)
  | .edit _ | .editAll _ | .load _ => (.ok none, service)

/-- The notes are deleted in the same way, whether or not the first one is wrapped. -/
theorem hitShape_irrelevant_notes :
    let page (hits : List Json) := Json.object [("hits", .array hits)]
    let outcome (hits : List Json) := (noteConnector.destroyAll "Note" none).run (serveHits hits) ()
    let bareHits := foundNotes.map RemoteObject.toJson
    SearchAnswer.decode (page mixedHits) = .ok ⟨foundNotes, 0⟩ ∧
      (outcome mixedHits).requests = (outcome bareHits).requests ∧
      (outcome mixedHits).result = (outcome bareHits).result ∧
      (outcome bareHits).result = .ok 2 := by
  intro page outcome bareHits
  have hread : ∀ object ∈ foundNotes, ∃ json, RemoteObject.decode json = .ok object := by
    intro object hobject
    refine ⟨object.toJson, RemoteObject.decode_toJson ?_⟩
    rcases List.mem_pair.mp hobject with rfl | rfl <;> constructor <;>
      simp [RemoteObject.ofProperties]
  have hmixed : Sends foundNotes 0 (page mixedHits) :=
    sends_of_hits (.cons .wrapped (.cons .bare .nil))
  have hbare : Sends foundNotes 0 (page bareHits) := sends_of_hits (.cons .bare (.cons .bare .nil))
  have halike : RepliesAlike SameObjects (serveHits mixedHits) (serveHits bareHits)
      (fun _ _ => True) := by
    refine ⟨?_, fun _ _ _ _ => trivial⟩
    intro service service' request _
    cases request with
    | search search pageSize => exact .answered search pageSize hread hmixed hbare
    | _ => exact .same _ _
  obtain ⟨-, hdecode, hrun⟩ := hitShape_irrelevant
  obtain ⟨hrequests, hresult⟩ := hrun noteConnector (.destroyAll "Note" none) Unit Unit _ _ _ () ()
    halike trivial
  exact ⟨hdecode foundNotes 0 _ hread hmixed, hrequests, hresult, rfl⟩

end Connector

end RecordBridge
