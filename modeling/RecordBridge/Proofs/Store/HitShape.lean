import RecordBridge.Proofs.RemoteObject.WrittenForm
import RecordBridge.Proofs.Store.Answer

/-!
# The two shapes of a hit

The store may send each object that it has found by itself or wrapped in a member (`SentAs`).  A
written object has no such member, so it is never taken for a wrapper, and it is read as that object
in either shape (`SentAs.readsAs`).  An answer is therefore read as the objects that it sends,
whichever shapes were chosen (`SearchAnswer.decode_of_sends`).
-/

namespace RecordBridge

open Json (Given)
open SearchAnswer (ReadsAs asCount)

variable {object : RemoteObject} {objects : List RemoteObject} {total : Nat} {hit answer : Json}
  {hits : List Json}

/-! ### Hits -/

/-- The hit is the object, by itself or wrapped. -/
inductive SentAs (object : RemoteObject) : Json → Prop
  | bare : SentAs object object.toJson
  | wrapped : SentAs object (.object [("object", object.toJson)])

/-- A hit is read as the object that is sent with it. -/
theorem SentAs.readsAs (h : SentAs object hit) (hnull : object.HasNoNull) : ReadsAs hit object := by
  cases h with
  | bare =>
    refine .inr ⟨?_, RemoteObject.decode_toJson hnull⟩
    intro inner hinner
    rw [object.member?_object_toJson] at hinner
    cases hinner
  | wrapped => exact .inl ⟨object.toJson, rfl, RemoteObject.decode_toJson hnull⟩

/-! ### Answers -/

/-- The answer sends the objects as its hits, each of them in either shape, and says how many there
are in all. -/
inductive Sends (objects : List RemoteObject) (total : Nat) (answer : Json) : Prop
  | page (given : Given) (hits : List Json) (hgiven : SearchAnswer.shape.given? answer = some given)
      (hdistinct : (keysOf given.members).Nodup)
      (hhits : lookupEntry "hits" given.members = some (.array hits))
      (hsent : List.Forall₂ SentAs objects hits)
      (htotal : given.field "totalHits" asCount 0 = .ok total)

/-- Hits alone are an answer that counts none. -/
theorem sends_of_hits (h : List.Forall₂ SentAs objects hits) :
    Sends objects 0 (.object [("hits", .array hits)]) :=
  .page ⟨[("hits", .array hits)], true⟩ hits rfl (by simp [keysOf]) rfl h rfl

/-- Hits and a number with 64 bits are an answer. -/
theorem sends_of_hits_and_total (h : List.Forall₂ SentAs objects hits)
    (htotal : total < Nat.pow 2 64) :
    Sends objects total (.object [("hits", .array hits), ("totalHits", .ofInt total)]) := by
  refine .page ⟨[("hits", .array hits), ("totalHits", .ofInt total)], true⟩ hits rfl
    (by simp [keysOf]) rfl h ?_
  show asCount (.ofInt total) = .ok total
  exact Json.asUnsigned_ofInt htotal

/-- Hits are read one by one as the objects that are sent, if these have been read before. -/
theorem forall₂_readsAs (hread : ∀ object ∈ objects, ∃ json, RemoteObject.decode json = .ok object)
    (h : List.Forall₂ SentAs objects hits) : List.Forall₂ ReadsAs hits objects := by
  have hnull : ∀ object ∈ objects, object.HasNoNull := by
    intro object hobject
    obtain ⟨json, hjson⟩ := hread object hobject
    exact RemoteObject.hasNoNull_of_decode hjson
  have hboth : List.Forall₂ (fun object hit => object.HasNoNull ∧ SentAs object hit) objects hits :=
    (List.forall₂_and_left objects hits).mpr ⟨hnull, h⟩
  have hreads : List.Forall₂ (flip ReadsAs) objects hits :=
    hboth.imp fun object hit hsent => hsent.2.readsAs hsent.1
  exact hreads.flip

namespace SearchAnswer

/-- An answer is read as the objects that it sends. -/
theorem decode_of_sends (hread : ∀ object ∈ objects, ∃ json, RemoteObject.decode json = .ok object)
    (h : Sends objects total answer) : decode answer = .ok ⟨objects, total⟩ := by
  obtain ⟨given, hits, hgiven, hdistinct, hhits, hsent, htotal⟩ := h
  have hobjects : decodeHits (.array hits) = .ok objects :=
    decodeHits_eq_ok_iff.mpr (forall₂_readsAs hread hsent)
  have hchecks : ∀ m ∈ given.members, checkMember m.1 m.2 = .ok () := by
    rintro ⟨name, json⟩ hm
    have hlookup : lookupEntry name given.members = some json :=
      (lookupEntry_eq_some_iff_of_nodup name json hdistinct).mpr hm
    unfold checkMember
    split_ifs with hname hname
    · subst hname
      obtain rfl := Option.some.inj (hhits.symm.trans hlookup)
      exact discard_eq_ok_iff.mpr ⟨objects, hobjects⟩
    · subst hname
      rw [Given.field, hlookup] at htotal
      exact discard_eq_ok_iff.mpr ⟨total, htotal⟩
    · rfl
  refine decode_eq_ok_iff.mpr ⟨given, hgiven, hchecks, ?_, htotal⟩
  rw [Given.field, hhits]
  exact hobjects

end SearchAnswer

end RecordBridge
