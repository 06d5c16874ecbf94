import RecordBridge.Proofs.Json.Decoding
import RecordBridge.Query

/-!
# The written form of queries

A query that was read has no restriction that is null, because null is read as no restriction, and
its limit has 32 bits (`Query.IsReadable`).  Every such query is read back from its written form
exactly (`Query.decode_toJson`), so these are the queries that can be read at all
(`Query.isReadable_iff`).

Orders and selections are written in one of two shapes each, and the shape tells which of the two it
was: a text or an array for an order (`OrderSpec.decode_toJson`), an array or an object for a
selection (`Selection.decode_toJson`).  So a list of one expression is not taken for a single one,
and an empty list not for an empty mask.
-/

namespace RecordBridge

open Json (Given Shape memberOf lookupEntry_memberOf forall_mem_memberOf)

/-! ### Orders and selections -/

namespace OrderSpec

theorem toJson_ne_null (order : OrderSpec) : order.toJson ≠ .null := by
  cases order <;> exact Json.noConfusion

/-- An order is read as it was written. -/
theorem decode_toJson (order : OrderSpec) : decode order.toJson = .ok order := by
  cases order with
  | single expression => rfl
  | many expressions =>
    unfold decode toJson
    dsimp only
    rw [Json.asStrings_map_string]

end OrderSpec

namespace Selection

theorem toJson_ne_null (selection : Selection) : selection.toJson ≠ .null := by
  cases selection <;> exact Json.noConfusion

/-- A selection is read as it was written; a mask keeps its order. -/
theorem decode_toJson (selection : Selection) : decode selection.toJson = .ok selection := by
  cases selection with
  | list names =>
    unfold decode toJson
    dsimp only
    rw [Json.asStrings_map_string]
  | mask flags =>
    -- An object is no array of names, so it is tried as a mask.
    obtain ⟨e, hnames⟩ : ∃ e, (Json.object (flags.mapValues .bool).entries).asStrings = .error e :=
      ⟨_, rfl⟩
    have hflags := @Json.asAssoc_mapValues Bool .bool Json.asBool (fun _ => rfl) flags
    unfold decode toJson
    dsimp only
    rw [hnames, hflags]

end Selection

/-! ### Queries -/

namespace Query

variable {json : Json} {query : Query}

/-- The query can have been read: its restriction is not null, and its limit has 32 bits. -/
structure IsReadable (query : Query) : Prop where
  restriction : query.restriction ≠ some .null
  limit : ∀ n ∈ query.limit, n < Nat.pow 2 32

/-- What has been read can have been read. -/
theorem isReadable_of_decode (h : decode json = .ok query) : query.IsReadable := by
  obtain ⟨given, -, h⟩ := bind_eq_ok_iff.mp h
  obtain ⟨restriction, hrestriction, h⟩ := bind_eq_ok_iff.mp h
  obtain ⟨order, -, h⟩ := bind_eq_ok_iff.mp h
  obtain ⟨selection, -, h⟩ := bind_eq_ok_iff.mp h
  obtain ⟨limit, hlimit, h⟩ := bind_eq_ok_iff.mp h
  obtain rfl := Except.ok.inj h
  refine ⟨Given.ne_null_of_field hrestriction, ?_⟩
  intro n hn
  obtain ⟨json, hjson⟩ := Given.exists_of_mem_field hlimit hn
  exact Json.lt_of_asUnsigned hjson

theorem optionalMember_eq_memberOf (name : String) (value : Option Json) :
    optionalMember name value = memberOf name value := by
  cases value <;> rfl

/-- The members of a written query. -/
def writtenMembers (query : Query) : List (String × Json) :=
  memberOf "where" query.restriction ++ memberOf "order" (query.order.map OrderSpec.toJson) ++
    memberOf "fields" (query.selection.map Selection.toJson) ++
    memberOf "limit" (query.limit.map fun (n : Nat) => .ofInt n)

theorem toJson_eq (query : Query) : query.toJson = .object query.writtenMembers := by
  simp only [toJson, optionalMember_eq_memberOf, writtenMembers]
  cases query.limit <;> rfl

/-- A limit is written as a number and read as it was written. -/
theorem limit_written {n : Nat} (h : n < Nat.pow 2 32) :
    Json.ofInt n ≠ .null ∧ asLimit (.ofInt n) = .ok n :=
  ⟨Json.noConfusion, Json.asUnsigned_ofInt h⟩

/-- Every member of a written query passes its check. -/
theorem checkMember_writtenMembers (h : query.IsReadable) :
    ∀ m ∈ query.writtenMembers, checkMember m.1 m.2 = .ok () := by
  simp only [writtenMembers, List.forall_mem_append, forall_mem_memberOf]
  refine ⟨⟨⟨fun _ _ => rfl, ?_⟩, ?_⟩, ?_⟩
  · intro json hjson
    obtain ⟨order, -, rfl⟩ := Option.map_eq_some_iff.mp hjson
    exact discard_eq_ok_iff.mpr
      ⟨_, Json.asOptional_written order.toJson_ne_null order.decode_toJson⟩
  · intro json hjson
    obtain ⟨selection, -, rfl⟩ := Option.map_eq_some_iff.mp hjson
    exact discard_eq_ok_iff.mpr
      ⟨_, Json.asOptional_written selection.toJson_ne_null selection.decode_toJson⟩
  · intro json hjson
    obtain ⟨n, hn, rfl⟩ := Option.map_eq_some_iff.mp hjson
    obtain ⟨hnull, hread⟩ := limit_written (h.limit n hn)
    exact discard_eq_ok_iff.mpr
      ⟨_, @Json.asOptional_written Nat asLimit (fun n => .ofInt n) n hnull hread⟩

/-- **Queries survive being written**: whatever can have been read is read back as it was. -/
theorem decode_toJson (h : query.IsReadable) : decode query.toJson = .ok query := by
  have hrestriction : lookupEntry "where" query.writtenMembers = query.restriction := by
    simp [writtenMembers, lookupEntry_append, lookupEntry_memberOf]
  have horder : lookupEntry "order" query.writtenMembers = query.order.map OrderSpec.toJson := by
    simp [writtenMembers, lookupEntry_append, lookupEntry_memberOf]
  have hselection :
      lookupEntry "fields" query.writtenMembers = query.selection.map Selection.toJson := by
    simp [writtenMembers, lookupEntry_append, lookupEntry_memberOf]
  have hlimit : lookupEntry "limit" query.writtenMembers =
      query.limit.map fun (n : Nat) => .ofInt n := by
    simp [writtenMembers, lookupEntry_append, lookupEntry_memberOf]
  rw [toJson_eq]
  refine bind_eq_ok_iff.mpr ⟨_, Shape.read_object (checkMember_writtenMembers h), ?_⟩
  refine bind_eq_ok_iff.mpr ⟨_, Given.field_optional h.restriction hrestriction, ?_⟩
  refine bind_eq_ok_iff.mpr ⟨_, Given.field_written ?_ horder, ?_⟩
  · exact fun order _ => ⟨order.toJson_ne_null, order.decode_toJson⟩
  refine bind_eq_ok_iff.mpr ⟨_, Given.field_written ?_ hselection, ?_⟩
  · exact fun selection _ => ⟨selection.toJson_ne_null, selection.decode_toJson⟩
  refine bind_eq_ok_iff.mpr ⟨_, Given.field_written ?_ hlimit, rfl⟩
  exact fun n hn => limit_written (h.limit n hn)

/-- The queries that can be read are those without a restriction that is null and with a limit of
32 bits, if there is one. -/
theorem isReadable_iff : query.IsReadable ↔ ∃ json, decode json = .ok query :=
  ⟨fun h => ⟨_, decode_toJson h⟩, fun ⟨_, h⟩ => isReadable_of_decode h⟩

/-- **What was read of any form is read again from the written one**: the same query, with the order
of its mask and the shape of its order and of its selection, so that every model compiles it to the
same result.  No other query that can be read is written like it. -/
theorem decode_roundTrip (h : decode json = .ok query) :
    (∃ again, decode query.toJson = .ok again ∧ again = query ∧
      ∀ model : Model, model.compileQuery again = model.compileQuery query) ∧
    ∀ (otherJson : Json) (other : Query), decode otherJson = .ok other →
      other.toJson = query.toJson → other = query := by
  have hread := decode_toJson (isReadable_of_decode h)
  refine ⟨⟨query, hread, rfl, fun _ => rfl⟩, ?_⟩
  intro otherJson other hother hsame
  have hagain := decode_toJson (isReadable_of_decode hother)
  rw [hsame, hread] at hagain
  exact (Except.ok.inj hagain).symm

/-- The fields in a row, with a list of one expression and a mask that says no last. -/
theorem decode_roundTrip_row :
    let json : Json := .array [.null, .array [.string "b DESC"],
      .object [("b", .bool true), ("a", .bool false)], .ofInt 5]
    let query : Query :=
      ⟨none, some (.many ["b DESC"]), some (.mask ⟨[("b", true), ("a", false)], by decide⟩), some 5⟩
    decode json = .ok query ∧ decode query.toJson = .ok query ∧
      query.toJson ≠ { query with order := some (.single "b DESC") }.toJson := by
  intro json query
  have hread : decode json = .ok query := rfl
  obtain ⟨⟨again, hagain, hsame, -⟩, htells⟩ := decode_roundTrip hread
  refine ⟨hread, hsame ▸ hagain, ?_⟩
  intro hwritten
  have hsingle : decode { query with order := some (.single "b DESC") }.toJson =
      .ok { query with order := some (.single "b DESC") } := decode_toJson ⟨by decide, by decide⟩
  have hquery := congrArg Query.order (htells _ _ hsingle hwritten.symm)
  cases hquery

end Query

end RecordBridge
