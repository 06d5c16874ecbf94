import RecordBridge.Proofs.Connector.ReadBack
import RecordBridge.Proofs.Key

/-!
# Padding does not make another object

A value and the same value between blanks have one standard form, so creating addresses one object
for both of them, whichever digest makes the keys (`Connector.create_ignoresPadding`).  The text
that is taken out must have no blank in it: an occurrence of it could otherwise reach into the
padding.
-/

namespace RecordBridge.Connector

open Blank (Pads isBlank)

/-- **Padding makes no difference to a key.**  Values that differ in padding have one standard form,
and records that have them under their unique property are added at one address.  No standard form
has a space in it or a blank at its ends. -/
theorem create_ignoresPadding :
    (∀ (kd : KeyDerivation) (padded value : String), kd.StripsNoBlank → Pads padded value →
      kd.standardize padded = kd.standardize value) ∧
    (∀ (connector : Connector) (name : String) (model : Model) (keyName unique : String),
      connector.registry.require name = .ok model → model.primaryKeyName = .ok keyName →
      model.requireUniqueProperty = .ok unique → connector.settings.key.derivation.StripsNoBlank →
      ∀ (data paddedData : Record) (value padded : String), Pads padded value →
        data.get? unique = some (.string value) → paddedData.get? unique = some (.string padded) →
        let key := connector.settings.key.derivation.digest value
        let locator := Locator.single (connector.typeId model) keyName (.string key)
        ∀ (σ : Type) (answer : σ → StoreRequest → Reply × σ) (service : σ),
          ((connector.create name data).run answer service).requests =
              [.edit ⟨locator, .added (connector.outgoing model data)⟩] ∧
            ((connector.create name paddedData).run answer service).requests =
              [.edit ⟨locator, .added (connector.outgoing model paddedData)⟩]) ∧
    ∀ (kd : KeyDerivation) (value : String),
      ' ' ∉ (kd.standardize value).toList ∧
      (∀ c, (kd.standardize value).toList.head? = some c → isBlank c = false) ∧
      ∀ c, (kd.standardize value).toList.getLast? = some c → isBlank c = false := by
  refine ⟨?_, ?_, ?_⟩
  · intro kd padded value hstrips hpads
    exact KeyDerivation.standardize_padded hstrips hpads
  · intro connector name model keyName unique hmodel hkey hunique hstrips data paddedData value
      padded hpads hvalue hpadded key locator σ answer service
    have hderive : connector.settings.key.derivation.derive model data = .ok key :=
      KeyDerivation.derive_of_string hunique hvalue
    have hderivePadded : connector.settings.key.derivation.derive model paddedData = .ok key := by
      rw [KeyDerivation.derive_of_string hunique hpadded, KeyDerivation.digest_padded hstrips hpads]
    constructor
    · exact requests_create hmodel hkey hderive answer service
    · exact requests_create hmodel hkey hderivePadded answer service
  · intro kd value
    refine ⟨kd.space_notMem_standardize value, ?_, ?_⟩
    · intro c hhead
      exact KeyDerivation.head?_standardize hhead
    · intro c hlast
      exact KeyDerivation.getLast?_standardize hlast

/-- The note under a padded identity, with the text that is taken out of it in front. -/
def paddedNote : Record :=
  .ofList [("text", .string "hello"), ("draft", .bool true), ("id", .string "\t NCGCA n1 \n")]

/-- The same identity without the padding. -/
def unpaddedNote : Record :=
  .ofList [("text", .string "hello"), ("draft", .bool true), ("id", .string "NCGCA n1")]

/-- The padded note is added where the other one is. -/
theorem create_ignoresPadding_note :
    noteConnector.settings.key.derivation.StripsNoBlank ∧ Pads "\t NCGCA n1 \n" "NCGCA n1" ∧
    noteConnector.settings.key.derivation.standardize "\t NCGCA n1 \n" = "n1" ∧
    ∃ locator,
      ((noteConnector.create "Note" unpaddedNote).run Exchange.prepared []).requests =
          [.edit ⟨locator, .added (noteConnector.outgoing noteModel unpaddedNote)⟩] ∧
        ((noteConnector.create "Note" paddedNote).run Exchange.prepared []).requests =
          [.edit ⟨locator, .added (noteConnector.outgoing noteModel paddedNote)⟩] := by
  have hstrips : noteConnector.settings.key.derivation.StripsNoBlank := by
    intro piece hpiece c hc
    obtain rfl : "ncgca" = piece := Option.some.inj hpiece
    have hblanks : "ncgca".toList.all (fun c => !isBlank c) = true := by decide
    simpa using List.all_eq_true.mp hblanks c hc
  have hpads : Pads "\t NCGCA n1 \n" "NCGCA n1" := ⟨"\t ", " \n", by decide, by decide, by decide⟩
  obtain ⟨hstandardize, hcreate, -⟩ := create_ignoresPadding
  refine ⟨hstrips, hpads, ?_, _, hcreate noteConnector "Note" noteModel "note_id" "id" rfl rfl rfl
    hstrips unpaddedNote paddedNote "NCGCA n1" "\t NCGCA n1 \n" hpads rfl rfl _
    Exchange.prepared []⟩
  rw [hstandardize _ _ _ hstrips hpads]
  decide

end RecordBridge.Connector
