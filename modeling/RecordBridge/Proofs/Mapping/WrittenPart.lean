import RecordBridge.Proofs.Mapping

/-!
# The part of a record that is written

Ignored properties and properties with a standard name in the store are never written; what is left
of a record without them is its written part (`Model.writtenPart`).

A record is written as its written part under physical names (`Model.toRemote_eq_ofList`), whether
or not properties share one of these.  So records with one written part are written alike
(`Model.toRemote_eq_of_writtenPart_eq`), and they have the same value under every property that may
be written (`Model.get?_eq_of_writtenPart_eq`).  Where no two properties are written under one name,
the converse holds too: what is written tells the written part (`Model.toRemote_eq_iff`).
-/

namespace RecordBridge

/-- Lists are told apart by their images if their items are. -/
theorem eq_of_map_eq_map {α β : Type} {f : α → β} {xs ys : List α}
    (h : ∀ x ∈ xs, ∀ y ∈ ys, f x = f y → x = y) (hmap : xs.map f = ys.map f) : xs = ys := by
  induction xs generalizing ys with
  | nil => exact (List.map_eq_nil_iff.mp hmap.symm).symm
  | cons x xs ih =>
    cases ys with
    | nil => cases hmap
    | cons y ys =>
      obtain ⟨hhead, htail⟩ := List.cons.inj hmap
      have hx : x = y := h x (List.mem_cons_self ..) y (List.mem_cons_self ..) hhead
      have hxs : xs = ys := by
        apply ih _ htail
        intro x' hx' y' hy'
        exact h x' (List.mem_cons_of_mem _ hx') y' (List.mem_cons_of_mem _ hy')
      rw [hx, hxs]

namespace Model

variable {model : Model} {data data' : Record} {logical key key' : String}

/-- Whether a property may be written: it is not ignored, and its name in the store is no standard
one. -/
def isWritten (model : Model) (logical : String) : Bool :=
  !model.ignores logical && !isStandardName (model.physicalName logical)

/-- A record without the properties that are never written. -/
def writtenPart (model : Model) (data : Record) : Record :=
  data.filter fun logical _ => model.isWritten logical

/-- A property under its name in the store. -/
def underPhysicalName (model : Model) (entry : String × Json) : String × Json :=
  (model.physicalName entry.1, entry.2)

/-! ### Writing the written part -/

/-- Of some properties, those that may be written are written under their names in the store. -/
theorem filterMap_remoteEntry (model : Model) (entries : List (String × Json)) :
    (entries.filter fun e => !model.ignores e.1).filterMap model.remoteEntry =
      (entries.filter fun e => model.isWritten e.1).map model.underPhysicalName := by
  induction entries with
  | nil => rfl
  | cons e rest ih =>
    cases hignores : model.ignores e.1 with
    | true => simpa [hignores, isWritten] using ih
    | false =>
      -- A standard name is dropped by `remoteEntry` on the left and by the filter on the right.
      cases hstandard : isStandardName (model.physicalName e.1) with
      | true => simpa [hignores, isWritten, remoteEntry, hstandard] using ih
      | false =>
        simpa [hignores, isWritten, remoteEntry, hstandard, underPhysicalName] using ih

/-- **A record is written as its written part**, under the names in the store. -/
theorem toRemote_eq_ofList (model : Model) (data : Record) :
    model.toRemote data =
      .ofList ((model.writtenPart data).entries.map model.underPhysicalName) := by
  rw [toRemote, activeProperties, Assoc.filter, filterMap_remoteEntry]
  rfl

/-- Records with one written part are written alike. -/
theorem toRemote_eq_of_writtenPart_eq (h : model.writtenPart data = model.writtenPart data') :
    model.toRemote data = model.toRemote data' := by
  rw [toRemote_eq_ofList, toRemote_eq_ofList, h]

/-- The value of a property that may be written belongs to the written part. -/
theorem get?_eq_of_writtenPart_eq (h : model.writtenPart data = model.writtenPart data')
    (hwritten : model.isWritten logical = true) : data.get? logical = data'.get? logical := by
  have hvalue (data : Record) : (model.writtenPart data).get? logical = data.get? logical := by
    rw [writtenPart, Assoc.get?_filter_keys, if_pos hwritten]
  rw [← hvalue data, ← hvalue data', h]

/-! ### Telling the written part -/

theorem mem_keys_of_mem_writtenPart (h : key ∈ (model.writtenPart data).keys) : key ∈ data.keys :=
  (List.filter_sublist.map Prod.fst).subset h

/-- If each of two records is written apart from the declared properties, then names in the store
tell the properties of the one from those of the other. -/
theorem Separates.key_eq_of_physicalName_eq (h : model.Separates data) (h' : model.Separates data')
    (hkey : key ∈ data.keys) (hkey' : key' ∈ data'.keys)
    (hname : model.physicalName key = model.physicalName key') : key = key' := by
  cases hdeclared : model.declares key with
  | true => exact (h'.eq_of_physicalName_eq hdeclared hkey' hname.symm).symm
  | false =>
    cases hdeclared' : model.declares key' with
    | true => exact h.eq_of_physicalName_eq hdeclared' hkey hname
    | false =>
      rwa [physicalName_of_not_declares hdeclared, physicalName_of_not_declares hdeclared'] at hname

/-- Where no two properties are written under one name, nothing that may be written is lost. -/
theorem entries_toRemote (h : model.Separates data) :
    (model.toRemote data).entries =
      (model.writtenPart data).entries.map model.underPhysicalName := by
  have hkeys : keysOf ((model.writtenPart data).entries.map model.underPhysicalName) =
      (model.writtenPart data).keys.map model.physicalName := by
    rw [keysOf, Assoc.keys, keysOf, List.map_map, List.map_map]
    rfl
  have hnodup : ((model.writtenPart data).keys.map model.physicalName).Nodup := by
    apply List.Nodup.map_on _ (model.writtenPart data).nodup
    intro key hkey key' hkey'
    exact h.key_eq_of_physicalName_eq h (mem_keys_of_mem_writtenPart hkey)
      (mem_keys_of_mem_writtenPart hkey')
  rw [toRemote_eq_ofList, Assoc.entries_ofList (hkeys ▸ hnodup)]

/-- **What is written tells the written part**, where no two properties are written under one
name. -/
theorem toRemote_eq_iff (h : model.Separates data) (h' : model.Separates data') :
    model.toRemote data = model.toRemote data' ↔
      model.writtenPart data = model.writtenPart data' := by
  constructor
  · intro heq
    have hentries := congrArg Assoc.entries heq
    rw [entries_toRemote h, entries_toRemote h'] at hentries
    ext1
    apply eq_of_map_eq_map _ hentries
    rintro ⟨key, value⟩ hmem ⟨key', value'⟩ hmem' hsame
    obtain ⟨hname, hvalue⟩ := Prod.mk.inj hsame
    have hkey : key ∈ data.keys := mem_keys_of_mem_writtenPart (List.mem_map_of_mem hmem)
    have hkey' : key' ∈ data'.keys := mem_keys_of_mem_writtenPart (List.mem_map_of_mem hmem')
    exact Prod.ext (h.key_eq_of_physicalName_eq h' hkey hkey' hname) hvalue
  · exact toRemote_eq_of_writtenPart_eq

end Model

end RecordBridge
