import RecordBridge.Proofs.Connector.Found
import RecordBridge.Proofs.Mapping.RoundTrip

/-!
# Hits that cannot be read

A search finds one record for each hit that the store answers with, or it fails because of the
answer (`Connector.find_readsHits`).  A hit with an object in it that cannot be read is not refused
for that (`WrapsMalformed`): it is taken for an object itself, and since an object needs none of its
fields, there is nothing to refuse as long as the hit has none of them (`LacksFields`).  The record
that comes of it has no value of any object (`Record.IsBlank`, `Connector.find_blankRecord`).
-/

namespace RecordBridge

open Json (Given)
open SearchAnswer (ReadsAs)

/-- The hit has an object in it, and that cannot be read. -/
def WrapsMalformed (hit : Json) : Prop :=
  ∃ inner e, hit.member? "object" = some inner ∧ RemoteObject.decode inner = .error e

/-- The hit itself has no field of an object. -/
def LacksFields (hit : Json) : Prop :=
  ∀ name ∈ RemoteObject.shape.fields, hit.member? name = none

/-- Every value in the record is the empty object. -/
def Record.IsBlank (record : Record) : Prop :=
  ∀ logical value, record.get? logical = some value → value = .ofRecord .empty

/-- The record is made from what the hit is read as: from the hit itself, if the object in it cannot
be read. -/
structure MadeFrom (model : Model) (whitelist : List String) (hit : Json) (record : Record) :
    Prop where
  read : ∃ object, ReadsAs hit object ∧ record = model.toInstance object whitelist
  enclosing : WrapsMalformed hit →
    ∃ object, RemoteObject.decode hit = .ok object ∧ record = model.toInstance object whitelist
  blank : WrapsMalformed hit → LacksFields hit → record.IsBlank

variable {hit : Json} {object : RemoteObject}

/-! ### Reading a malformed hit -/

/-- A hit whose object cannot be read is read as an object itself. -/
theorem WrapsMalformed.readsAs_iff (h : WrapsMalformed hit) :
    ReadsAs hit object ↔ RemoteObject.decode hit = .ok object := by
  obtain ⟨inner, e, hinner, herror⟩ := h
  constructor
  · rintro (⟨inner', hinner', hok⟩ | ⟨-, hbare⟩)
    · obtain rfl := Option.some.inj (hinner.symm.trans hinner')
      rw [herror] at hok
      cases hok
    · exact hbare
  · intro hbare
    refine .inr ⟨?_, hbare⟩
    intro inner' hinner'
    obtain rfl := Option.some.inj (hinner.symm.trans hinner')
    exact ⟨e, herror⟩

/-- Without the fields of an object it is read as the object that has nothing. -/
theorem WrapsMalformed.decode_of_lacksFields (h : WrapsMalformed hit) (hlacks : LacksFields hit) :
    RemoteObject.decode hit = .ok (.ofProperties .empty) := by
  obtain ⟨inner, e, hinner, -⟩ := h
  cases hit
  case object members => exact RemoteObject.decode_of_no_field hlacks
  -- Only an object has members.
  all_goals cases hinner

/-- The object that has nothing holds nothing but empty objects. -/
theorem Model.remoteValue_ofProperties_empty {model : Model} {logical : String} {value : Json}
    (h : model.remoteValue (.ofProperties .empty) logical = some value) :
    value = .ofRecord .empty := by
  by_cases hidentity : model.identity = some logical
  · rw [remoteValue, if_pos hidentity] at h
    cases h
  cases hstandard : isStandardName (model.physicalName logical) with
  | true =>
    rw [remoteValue, if_neg hidentity, if_pos hstandard,
      RemoteObject.standardValue_ofProperties] at h
    split_ifs at h
    · exact (Option.some.inj h).symm
    · exact (Option.some.inj h).symm
  | false =>
    rw [remoteValue, if_neg hidentity, hstandard] at h
    cases h

/-- It makes a blank record. -/
theorem Model.isBlank_toInstance (model : Model) (whitelist : List String) :
    (model.toInstance (.ofProperties .empty) whitelist).IsBlank := by
  intro logical value hvalue
  rw [toInstance, Assoc.get?_filterMap] at hvalue
  obtain ⟨property, -, hvalue⟩ := Option.bind_eq_some_iff.mp hvalue
  split_ifs at hvalue
  exact remoteValue_ofProperties_empty hvalue

/-- Whatever a hit is read as, its record is made from it. -/
theorem SearchAnswer.ReadsAs.madeFrom (model : Model) (whitelist : List String)
    (h : ReadsAs hit object) :
    MadeFrom model whitelist hit (model.toInstance object whitelist) := by
  constructor
  case read => exact ⟨object, h, rfl⟩
  case enclosing =>
    intro hmalformed
    exact ⟨object, hmalformed.readsAs_iff.mp h, rfl⟩
  case blank =>
    intro hmalformed hlacks
    have hdecode := hmalformed.readsAs_iff.mp h
    rw [hmalformed.decode_of_lacksFields hlacks] at hdecode
    obtain rfl := Except.ok.inj hdecode
    exact model.isBlank_toInstance whitelist

namespace Connector

variable {connector : Connector} {name : String} {model : Model} {query : Query}
  {compiled : CompiledQuery} {json : Json} {given : Given} {items : List Json} {σ : Type}
  {answer : σ → StoreRequest → Reply × σ} {service : σ}

/-! ### Searching -/

/-- A search that is answered fails only because of the answer. -/
theorem result_find_of_answer (hmodel : connector.registry.require name = .ok model)
    (hlookup : identityLookup model query.restriction = .ok none)
    (hcompiled : model.compileQuery query = .ok compiled)
    (hanswer : (answer service (connector.findRequest model compiled)).1 = .ok (some json)) :
    ((connector.find name query).run answer service).result =
      ((SearchAnswer.decode json).mapError fun e => .invalidResponse e.message).map fun found =>
        found.hits.map fun hit => model.toInstance hit compiled.selector := by
  rw [result_find_bySearch hmodel hlookup hcompiled, hanswer]
  rfl

/-- **A search finds one record for each hit**, in their order, made from what the hit is read as
(`MadeFrom`).  It succeeds if each hit is read as something and all else that is given in the answer
is in order; otherwise the answer is blamed. -/
theorem find_readsHits (hmodel : connector.registry.require name = .ok model)
    (hlookup : identityLookup model query.restriction = .ok none)
    (hcompiled : model.compileQuery query = .ok compiled)
    (hanswer : (answer service (connector.findRequest model compiled)).1 = .ok (some json))
    (hgiven : SearchAnswer.shape.given? json = some given)
    (hdistinct : (keysOf given.members).Nodup)
    (hhits : lookupEntry "hits" given.members = some (.array items)) :
    let result := ((connector.find name query).run answer service).result
    ((∃ records, result = .ok records) ↔
      (∀ m ∈ given.members, m.1 ≠ "hits" → SearchAnswer.checkMember m.1 m.2 = .ok ()) ∧
      ∀ hit ∈ items, ∃ object, ReadsAs hit object) ∧
    (∀ error, result = .error error → ∃ reason, error = .invalidResponse reason) ∧
    ∀ records, result = .ok records →
      List.Forall₂ (MadeFrom model compiled.selector) items records := by
  intro result
  have hresult : result = _ := result_find_of_answer hmodel hlookup hcompiled hanswer
  rw [← SearchAnswer.exists_decode_eq_ok_iff hgiven hdistinct hhits, hresult]
  -- Past the reply the result only depends on whether the answer is read.
  cases hdecode : SearchAnswer.decode json with
  | error e =>
    refine ⟨?_, ?_, ?_⟩
    · constructor
      · rintro ⟨records, h⟩
        cases h
      · rintro ⟨found, h⟩
        cases h
    · intro error herror
      exact ⟨e.message, (Except.error.inj herror).symm⟩
    · intro records h
      cases h
  | ok found =>
    refine ⟨⟨fun _ => ⟨found, rfl⟩, fun _ => ⟨_, rfl⟩⟩, ?_, ?_⟩
    · intro error h
      cases h
    · intro records hrecords
      obtain rfl := Except.ok.inj hrecords
      have hread := SearchAnswer.decodeHits_eq_ok_iff.mp
        (SearchAnswer.hits_of_present hgiven hdecode hhits)
      rw [List.forall₂_map_right_iff]
      exact hread.imp fun hit object h => h.madeFrom model compiled.selector

/-! ### A note whose properties are a number -/

/-- A hit with a note in it that cannot be read. -/
def malformedNote : Json :=
  .object [("object", .object [("primaryKey", .object [("note_id", .string "n1")]),
    ("properties", .ofInt 5)])]

/-- Answers whatever is asked with one page of hits. -/
def answerHits (hits : List Json) (service : Unit) (_ : StoreRequest) : Reply × Unit :=
  replyHits hits service

/-- A search that is answered with it and with other notes finds a record for each hit. -/
theorem find_readsHits_notes :
    let hits := malformedNote :: noteHits
    ∃ records,
      ((noteConnector.find "Note" Query.all).run (answerHits hits) ()).result = .ok records ∧
        List.Forall₂ (MadeFrom noteModel []) hits records := by
  intro hits
  have hmodel : noteConnector.registry.require "Note" = .ok noteModel := rfl
  have hcompiled : noteModel.compileQuery Query.all = .ok ⟨.matchAll .empty, [], [], none⟩ := rfl
  have hanswer : ∀ request, (answerHits hits () request).1 =
      .ok (some (.object [("hits", .array hits)])) := fun _ => rfl
  have hdistinct : (keysOf [("hits", Json.array hits)]).Nodup := List.nodup_singleton _
  obtain ⟨hsuccess, -, hrecords⟩ :=
    find_readsHits hmodel rfl hcompiled (hanswer _) rfl hdistinct rfl
  have hothers : ∀ m ∈ [("hits", Json.array hits)], m.1 ≠ "hits" →
      SearchAnswer.checkMember m.1 m.2 = .ok () := by
    intro m hm hname
    exact absurd (congrArg Prod.fst (List.mem_singleton.mp hm)) hname
  have hread : ∀ hit ∈ hits, ∃ object, ReadsAs hit object :=
    SearchAnswer.checkMember_hits_eq_ok_iff.mp rfl
  obtain ⟨records, hresult⟩ := hsuccess.mpr ⟨hothers, hread⟩
  exact ⟨records, hresult, hrecords records hresult⟩

/-- A search that is answered with the malformed one alone finds a blank record. -/
theorem find_blankRecord :
    WrapsMalformed malformedNote ∧
      ((noteConnector.find "Note" Query.all).run (answerHits [malformedNote]) ()).result =
        .ok [.empty] :=
  ⟨⟨_, _, rfl, rfl⟩, rfl⟩

end Connector

end RecordBridge
