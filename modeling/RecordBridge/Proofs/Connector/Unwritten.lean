import RecordBridge.Proofs.Connector.HitShape
import RecordBridge.Proofs.Mapping.WrittenPart

/-!
# What is not written makes no difference

Replacing and updating look at a record only through its written part, and creating looks at the
value of the unique property as well, for the key.  Two records with one written part are therefore
told apart by no service: whatever it answers, both lead to the same requests, the same result and
the same events (`Connector.unwritten_irrelevant`).

The unique property may itself be one that is never written, so creating has to ask for its value;
where it is written, the written part tells that value too (`Connector.create_eq_of_isWritten`).
Nothing less than the written part would do: where no two properties are written under one name, the
request to replace an object tells it (`Connector.requests_replaceById_eq_iff`).
-/

namespace RecordBridge

/-- A key is derived from the value of the unique property alone. -/
theorem KeyDerivation.derive_eq_of_get?_eq {model : Model} {data data' : Record}
    (kd : KeyDerivation)
    (h : ∀ unique, model.uniqueProperty = some unique → data.get? unique = data'.get? unique) :
    kd.derive model data = kd.derive model data' := by
  cases hunique : model.requireUniqueProperty with
  | error error =>
    unfold derive
    rw [hunique]
    rfl
  | ok unique =>
    have hvalue : data.get? unique = data'.get? unique := by
      apply h
      unfold Model.requireUniqueProperty at hunique
      split at hunique
      · rename_i logical hlogical
        rw [hlogical, Except.ok.inj hunique]
      · cases hunique
    unfold derive
    rw [hunique]
    simp only [bind, Except.bind, hvalue]

namespace Connector

open Exchange

variable {connector : Connector} {name keyName : String} {model : Model} {data data' : Record}

/-! ### Operations on records with one written part -/

theorem outgoing_eq_of_writtenPart_eq (connector : Connector)
    (h : model.writtenPart data = model.writtenPart data') :
    connector.outgoing model data = connector.outgoing model data' := by
  unfold outgoing
  rw [Model.toRemote_eq_of_writtenPart_eq h]

section

variable (hmodel : connector.registry.require name = .ok model)
  (h : model.writtenPart data = model.writtenPart data')
include hmodel h

theorem replaceById_eq_of_writtenPart_eq (id : Json) :
    connector.replaceById name id data = connector.replaceById name id data' := by
  have houtgoing := connector.outgoing_eq_of_writtenPart_eq h
  unfold replaceById
  rw [model_bind hmodel, model_bind hmodel, houtgoing]

theorem updateAll_eq_of_writtenPart_eq (restriction : Option Json) :
    connector.updateAll name restriction data = connector.updateAll name restriction data' := by
  have houtgoing := connector.outgoing_eq_of_writtenPart_eq h
  rw [updateAll_eq hmodel, updateAll_eq hmodel, houtgoing]

/-- Creating also depends on the value that the key is derived from. -/
theorem create_eq_of_writtenPart_eq
    (hunique : ∀ unique, model.uniqueProperty = some unique →
      data.get? unique = data'.get? unique) :
    connector.create name data = connector.create name data' := by
  have houtgoing := connector.outgoing_eq_of_writtenPart_eq h
  have hderive := connector.settings.key.derivation.derive_eq_of_get?_eq hunique
  unfold create
  rw [model_bind hmodel, model_bind hmodel, houtgoing, hderive]

/-- If the unique property may be written, then the written part tells its value. -/
theorem create_eq_of_isWritten
    (hwritten : ∀ unique, model.uniqueProperty = some unique → model.isWritten unique = true) :
    connector.create name data = connector.create name data' := by
  apply create_eq_of_writtenPart_eq hmodel h
  intro unique hunique
  exact Model.get?_eq_of_writtenPart_eq h (hwritten unique hunique)

end

/-- A code that is never written still makes the key. -/
example :
    let model := (Model.named "Voucher").withProperty "code"
      { Property.plain with primaryKey := true, unique := true, ignored := true }
    let connector : Connector := { itemConnector with registry := Registry.empty.register model }
    let created (code : String) :=
      (connector.create "Voucher" (.ofList [("code", .string code)])).run prepared []
    model.writtenPart (.ofList [("code", .string "a")]) =
        model.writtenPart (.ofList [("code", .string "b")]) ∧
      (created "a").requests ≠ (created "b").requests := by
  decide +kernel

/-- **What is not written makes no difference**: replacing and updating with records that have one
written part come to one outcome with every service, whatever it answers, and so does creating them
if they have the same value under the unique property. -/
theorem unwritten_irrelevant (hmodel : connector.registry.require name = .ok model)
    (h : model.writtenPart data = model.writtenPart data') {σ : Type}
    (answer : σ → StoreRequest → Reply × σ) (service : σ) :
    (∀ id, (connector.replaceById name id data).run answer service =
      (connector.replaceById name id data').run answer service) ∧
    (∀ restriction, (connector.updateAll name restriction data).run answer service =
      (connector.updateAll name restriction data').run answer service) ∧
    ((∀ unique, model.uniqueProperty = some unique → data.get? unique = data'.get? unique) →
      (connector.create name data).run answer service =
        (connector.create name data').run answer service) := by
  refine ⟨?_, ?_, ?_⟩
  · intro id
    rw [replaceById_eq_of_writtenPart_eq hmodel h]
  · intro restriction
    rw [updateAll_eq_of_writtenPart_eq hmodel h]
  · intro hunique
    rw [create_eq_of_writtenPart_eq hmodel h hunique]

/-! ### Two records of one note -/

/-- A note with a title, which has a place of its own in the store, and with a draft mark; an older
text stands under the name that the text has in the store. -/
def annotatedNote : Record :=
  .ofList [("title", .string "first"), ("body", .string "old"), ("draft", .bool true),
    ("text", .string "hello"), ("id", .string "n1")]

/-- The same note with a version in place of the title and without the mark. -/
def versionedNote : Record :=
  .ofList [("body", .string "old"), ("text", .string "hello"), ("baseVersion", .ofInt 7),
    ("id", .string "n1")]

/-- The records of the note are written alike, the text over the older one, under one key. -/
theorem unwritten_irrelevant_note :
    let replaced (data : Record) :=
      (noteConnector.replaceById "Note" (.string "n1") data).run prepared [.ok none]
    let updated (data : Record) :=
      (noteConnector.updateAll "Note" none data).run (serveHits mixedHits) ()
    let created (data : Record) := (noteConnector.create "Note" data).run prepared [.ok none]
    annotatedNote ≠ versionedNote ∧
      noteModel.writtenPart annotatedNote = noteModel.writtenPart versionedNote ∧
      replaced annotatedNote = replaced versionedNote ∧
      (replaced annotatedNote).requests = [.edit ⟨.single "thing" "note_id" (.string "n1"),
        .modified (.ofList [("body", .string "hello"), ("note_id", .string "n1")])⟩] ∧
      updated annotatedNote = updated versionedNote ∧ (updated annotatedNote).result = .ok 2 ∧
      created annotatedNote = created versionedNote := by
  intro replaced updated created
  have hpart : noteModel.writtenPart annotatedNote = noteModel.writtenPart versionedNote := by
    decide
  have hmodel : noteConnector.registry.require "Note" = .ok noteModel := rfl
  obtain ⟨hreplaced, -, hcreated⟩ := unwritten_irrelevant hmodel hpart prepared [.ok none]
  obtain ⟨-, hupdated, -⟩ := unwritten_irrelevant hmodel hpart (serveHits mixedHits) ()
  refine ⟨by decide, hpart, hreplaced _, rfl, hupdated _, rfl, hcreated ?_⟩
  intro unique hunique
  obtain rfl : "id" = unique := Option.some.inj hunique
  rfl

/-! ### What the request to replace tells -/

/-- Replacing posts one edit, whatever comes of it. -/
theorem requests_replaceById {id : Json} {locator : Locator}
    (hmodel : connector.registry.require name = .ok model)
    (hlocator : connector.locator model id = .ok locator) (data : Record) {σ : Type}
    (answer : σ → StoreRequest → Reply × σ) (service : σ) :
    ((connector.replaceById name id data).run answer service).requests =
      [.edit ⟨locator, .modified (connector.outgoing model data)⟩] := by
  rw [replaceById_eq hmodel hlocator]
  exact requests_send_bind _ service fun _ _ => rfl

/-- **The request to replace an object tells the written part** of the record, where no two
properties are written under one name and no policy stands above them. -/
theorem requests_replaceById_eq_iff (hmodel : connector.registry.require name = .ok model)
    (hkey : model.primaryKeyName = .ok keyName) (hpolicy : connector.settings.policy = none)
    (hdata : model.Separates data) (hdata' : model.Separates data') (id : Json) {σ : Type}
    (answer : σ → StoreRequest → Reply × σ) (service : σ) :
    ((connector.replaceById name id data).run answer service).requests =
        ((connector.replaceById name id data').run answer service).requests ↔
      model.writtenPart data = model.writtenPart data' := by
  have hlocator := connector.locator_eq_single hkey id
  have houtgoing (data : Record) : connector.outgoing model data = model.toRemote data := by
    unfold outgoing
    rw [hpolicy]
  rw [requests_replaceById hmodel hlocator, requests_replaceById hmodel hlocator, houtgoing,
    houtgoing, ← Model.toRemote_eq_iff hdata hdata']
  constructor
  · intro hsame
    have hedit := StoreRequest.edit.inj (List.head_eq_of_cons_eq hsame)
    exact Edit.modified.inj (LocatorEdit.mk.inj hedit).2
  · intro hsame
    rw [hsame]

end Connector

end RecordBridge
