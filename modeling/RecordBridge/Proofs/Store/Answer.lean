import RecordBridge.Proofs.Json.Decoding
import RecordBridge.Store.Search

/-!
# Reading the answer to a search

An answer is read if all its members are in order, and then field by field
(`SearchAnswer.decode_eq_ok_iff`).  A hit is read as the object that is wrapped in it; if there is
no such object, or if it cannot be read, the hit itself is read as an object
(`SearchAnswer.ReadsAs`, `SearchAnswer.decodeHit_eq_ok_iff`).  An object needs none of its fields,
so anything without them is read as the object that has nothing (`RemoteObject.decode_of_no_field`).
-/

namespace RecordBridge

open Json (Shape)

variable {members : List (String × Json)}

/-- A value without the fields of an object is read as the object that has nothing. -/
theorem RemoteObject.decode_of_no_field
    (h : ∀ name ∈ shape.fields, lookupEntry name members = none) :
    decode (.object members) = .ok (ofProperties .empty) := by
  have hchecks : ∀ m ∈ members, checkMember m.1 m.2 = .ok () := by
    intro m hm
    have hfield : m.1 ∉ shape.fields := by
      intro hfield
      exact (lookupEntry_eq_none_iff m.1 members).mp (h m.1 hfield) (List.mem_map_of_mem hm)
    simp only [shape, Shape.plain, List.mem_cons, not_or] at hfield
    obtain ⟨hkey, hproperties, htype, hrid, -⟩ := hfield
    rw [checkMember, if_neg (not_or.mpr ⟨hkey, hproperties⟩), if_neg (not_or.mpr ⟨htype, hrid⟩)]
  have habsent {α : Type} {name : String} (hname : name ∈ shape.fields)
      (decode : Json → Decoded α) (default : α) :
      (⟨members, true⟩ : Json.Given).field name decode default = .ok default := by
    rw [Json.Given.field, h name hname]
  refine bind_eq_ok_iff.mpr ⟨_, Shape.read_object hchecks, ?_⟩
  -- Each of the eight fields takes its default.
  iterate 8 refine bind_eq_ok_iff.mpr ⟨_, habsent (by decide) _ _, ?_⟩
  rfl

namespace SearchAnswer

variable {found : SearchAnswer} {answer hit hits : Json} {items : List Json} {given : Json.Given}
  {object : RemoteObject}

/-! ### Hits -/

/-- What a hit is read as: the object that is wrapped in it, and the hit itself if there is no such
object or it cannot be read. -/
def ReadsAs (hit : Json) (object : RemoteObject) : Prop :=
  (∃ inner, hit.member? "object" = some inner ∧ RemoteObject.decode inner = .ok object) ∨
  ((∀ inner, hit.member? "object" = some inner → ∃ e, RemoteObject.decode inner = .error e) ∧
    RemoteObject.decode hit = .ok object)

theorem decodeHit_eq_ok_iff : decodeHit hit = .ok object ↔ ReadsAs hit object := by
  unfold decodeHit ReadsAs
  cases hit.member? "object" with
  | none => cases RemoteObject.decode hit <;> simp
  | some inner =>
    cases hinner : RemoteObject.decode inner with
    | ok wrapped => simp [hinner]
    | error e => cases RemoteObject.decode hit <;> simp [hinner]

/-- Hits are read one by one, in their order. -/
theorem decodeHits_eq_ok_iff {objects : List RemoteObject} :
    decodeHits (.array items) = .ok objects ↔ List.Forall₂ ReadsAs items objects := by
  show items.mapM decodeHit = .ok objects ↔ _
  rw [mapM_eq_ok_iff]
  simp only [decodeHit_eq_ok_iff]

/-- Hits are in order if each of them is read as something. -/
theorem checkMember_hits_eq_ok_iff : checkMember "hits" (.array items) = .ok () ↔
    ∀ hit ∈ items, ∃ object, ReadsAs hit object := by
  simp only [← decodeHit_eq_ok_iff]
  rw [← exists_mapM_eq_ok_iff]
  exact discard_eq_ok_iff

/-! ### Answers -/

/-- An answer is read if all that is given for it is in order, and then field by field. -/
theorem decode_eq_ok_iff : decode answer = .ok found ↔
    ∃ given, shape.given? answer = some given ∧
      (∀ m ∈ given.members, checkMember m.1 m.2 = .ok ()) ∧
      given.field "hits" decodeHits [] = .ok found.hits ∧
      given.field "totalHits" asCount 0 = .ok found.totalHits := by
  constructor
  · intro h
    obtain ⟨given, hread, h⟩ := bind_eq_ok_iff.mp h
    obtain ⟨hgiven, hchecks⟩ := Shape.read_eq_ok_iff.mp hread
    obtain ⟨hits, hhits, h⟩ := bind_eq_ok_iff.mp h
    obtain ⟨total, htotal, h⟩ := bind_eq_ok_iff.mp h
    obtain rfl := Except.ok.inj h
    exact ⟨given, hgiven, hchecks, hhits, htotal⟩
  · rintro ⟨given, hgiven, hchecks, hhits, htotal⟩
    refine bind_eq_ok_iff.mpr ⟨given, Shape.read_eq_ok_iff.mpr ⟨hgiven, hchecks⟩, ?_⟩
    exact bind_eq_ok_iff.mpr ⟨_, hhits, bind_eq_ok_iff.mpr ⟨_, htotal, rfl⟩⟩

section

variable (hgiven : shape.given? answer = some given)
include hgiven

/-- The hits of an answer are read from what is given as `hits`. -/
theorem hits_of_present (h : decode answer = .ok found)
    (hhits : lookupEntry "hits" given.members = some hits) : decodeHits hits = .ok found.hits := by
  obtain ⟨given', hgiven', -, hfield, -⟩ := decode_eq_ok_iff.mp h
  obtain rfl := Option.some.inj (hgiven.symm.trans hgiven')
  rw [Json.Given.field, hhits] at hfield
  exact hfield

/-- An answer that does not say how many objects there are counts none. -/
theorem totalHits_of_absent (h : decode answer = .ok found)
    (habsent : lookupEntry "totalHits" given.members = none) : found.totalHits = 0 := by
  obtain ⟨given', hgiven', -, -, hfield⟩ := decode_eq_ok_iff.mp h
  obtain rfl := Option.some.inj (hgiven.symm.trans hgiven')
  rw [Json.Given.field, habsent] at hfield
  exact (Except.ok.inj hfield).symm

/-- An answer with hits is read if each of them is read as something and all else that is given is
in order. -/
theorem exists_decode_eq_ok_iff (hdistinct : (keysOf given.members).Nodup)
    (hhits : lookupEntry "hits" given.members = some (.array items)) :
    (∃ found, decode answer = .ok found) ↔
      (∀ m ∈ given.members, m.1 ≠ "hits" → checkMember m.1 m.2 = .ok ()) ∧
      ∀ hit ∈ items, ∃ object, ReadsAs hit object := by
  constructor
  · rintro ⟨found, h⟩
    obtain ⟨given', hgiven', hchecks, -, -⟩ := decode_eq_ok_iff.mp h
    obtain rfl := Option.some.inj (hgiven.symm.trans hgiven')
    exact ⟨fun m hm _ => hchecks m hm,
      checkMember_hits_eq_ok_iff.mp (hchecks _ (mem_of_lookupEntry hhits))⟩
  · rintro ⟨hothers, hread⟩
    have hcheck := checkMember_hits_eq_ok_iff.mpr hread
    have hchecks : ∀ m ∈ given.members, checkMember m.1 m.2 = .ok () := by
      rintro ⟨name, json⟩ hm
      by_cases hname : name = "hits"
      · -- Nothing else is given under that name.
        subst hname
        rw [← lookupEntry_eq_some_iff_of_nodup "hits" json hdistinct, hhits] at hm
        obtain rfl := Option.some.inj hm
        exact hcheck
      · exact hothers _ hm hname
    obtain ⟨objects, hobjects⟩ := discard_eq_ok_iff.mp hcheck
    have htotal : ∃ total, given.field "totalHits" asCount 0 = .ok total := by
      cases hlookup : lookupEntry "totalHits" given.members with
      | none => exact ⟨0, by rw [Json.Given.field, hlookup]⟩
      | some json =>
        obtain ⟨total, htotal⟩ := discard_eq_ok_iff.mp (hchecks _ (mem_of_lookupEntry hlookup))
        exact ⟨total, by rw [Json.Given.field, hlookup]; exact htotal⟩
    obtain ⟨total, htotal⟩ := htotal
    refine ⟨⟨objects, total⟩, decode_eq_ok_iff.mpr ⟨given, hgiven, hchecks, ?_, htotal⟩⟩
    rw [Json.Given.field, hhits]
    exact hobjects

end

end SearchAnswer

end RecordBridge
