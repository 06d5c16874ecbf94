import RecordBridge.Proofs.Json.Decoding
import RecordBridge.SearchFilter.Codec

/-!
# The wire form of search filters

A filter is read back from its wire form exactly, inside another filter and by itself
(`SearchFilter.decodeAt_toJson`), so the wire form tells filters apart and whatever is read once is
read again from what is written of it (`SearchFilter.toJson_roundTrip`).

The proof follows the filter.  The kind under `type` selects the reader of the body
(`SearchFilter.decodeAt_tagged`); a body is a value that is read as it stands, or filters again.
-/

namespace RecordBridge.SearchFilter

/-! ### The kind and the body -/

/-- Kinds are told by their names. -/
theorem Kind.ofName_name (kind : Kind) : ofName kind.name = .ok kind := by
  cases kind <;> rfl

/-- No body stands where the kind does. -/
theorem Kind.name_ne_type (kind : Kind) : "type" ≠ kind.name := by
  cases kind <;> decide

/-- The body of a filter is read as its kind says. -/
theorem decodeAt_tagged (inside : Bool) (kind : Kind) (body : Json) :
    decodeAt inside (tagged kind.name body) = decodeBody kind body := by
  have htag : lookupEntry "type" [("type", Json.string kind.name), (kind.name, body)] =
      some (.string kind.name) := if_pos rfl
  have hkind : Kind.decode inside (.string kind.name) = .ok kind := kind.ofName_name
  rw [tagged, decodeAt, htag]
  dsimp only
  rw [hkind]
  dsimp only
  rw [decodeMember, if_neg kind.name_ne_type, decodeMember, if_pos rfl]

/-! ### Bodies without filters -/

theorem decodeTerms_body (values : List Json) (field : String) :
    decodeTerms (.object [("terms", .array values), ("field", .string field)]) =
      .ok (.terms values field) := rfl

theorem decodeWildcard_body (field pattern : String) :
    decodeWildcard (.object [("field", .string field), ("value", .string pattern)]) =
      .ok (.wildcard field pattern) := rfl

/-! ### Filters -/

-- Filters and lists of filters contain one another, and so do the two inductions.
mutual

/-- A filter is read back from its wire form, wherever it stands. -/
theorem decodeAt_toJson : ∀ (inside : Bool) (filter : SearchFilter),
    decodeAt inside filter.toJson = .ok filter
  | inside, matchAll body => by
    show decodeAt inside (tagged Kind.matchAll.name _) = _
    rw [decodeAt_tagged, decodeBody, Json.asRecord_ofRecord]
    rfl
  | inside, terms values field => by
    show decodeAt inside (tagged Kind.terms.name _) = _
    rw [decodeAt_tagged, decodeBody, decodeTerms_body]
  | inside, not inner => by
    show decodeAt inside (tagged Kind.not.name _) = _
    rw [decodeAt_tagged, decodeBody, decodeAt_toJson true inner]
    rfl
  | inside, and children => by
    show decodeAt inside (tagged Kind.and.name _) = _
    rw [decodeAt_tagged, decodeBody, decodeList_toJsons children]
    rfl
  | inside, or children => by
    show decodeAt inside (tagged Kind.or.name _) = _
    rw [decodeAt_tagged, decodeBody, decodeList_toJsons children]
    rfl
  | inside, wildcard field pattern => by
    show decodeAt inside (tagged Kind.wildcard.name _) = _
    rw [decodeAt_tagged, decodeBody, decodeWildcard_body]

/-- Filters are read back from their wire forms, in order. -/
theorem decodeList_toJsons : ∀ filters : List SearchFilter,
    decodeList (toJsons filters) = .ok filters
  | [] => by
    rw [toJsons, decodeList]
  | filter :: rest => by
    rw [toJsons, decodeList, decodeAt_toJson true filter]
    dsimp only
    rw [decodeList_toJsons rest]
    rfl

end

theorem decode_toJson (filter : SearchFilter) : decode filter.toJson = .ok filter :=
  decodeAt_toJson false filter

/-- The wire form of a filter is an object. -/
theorem toJson_eq_tagged (filter : SearchFilter) :
    ∃ kind body, filter.toJson = tagged kind body := by
  cases filter <;> exact ⟨_, _, rfl⟩

/-- **Filters survive their wire form**: it is never null and is read back as the filter that was
written, it tells filters apart, and writing and reading once more changes nothing of what has been
read. -/
theorem toJson_roundTrip :
    (∀ filter : SearchFilter, filter.toJson ≠ .null ∧ decode filter.toJson = .ok filter) ∧
    Function.Injective toJson ∧
    ∀ (json : Json) (filter : SearchFilter), decode json = .ok filter →
      decode filter.toJson = decode json := by
  refine ⟨fun filter => ⟨?_, filter.decode_toJson⟩, ?_, ?_⟩
  · obtain ⟨kind, body, h⟩ := filter.toJson_eq_tagged
    rw [h]
    exact Json.noConfusion
  · intro filter filter' h
    have hread : Except.ok (ε := DecodeError) filter = .ok filter' := by
      rw [← filter.decode_toJson, h, filter'.decode_toJson]
    exact Except.ok.inj hread
  · intro json filter h
    rw [h, filter.decode_toJson]

end RecordBridge.SearchFilter
