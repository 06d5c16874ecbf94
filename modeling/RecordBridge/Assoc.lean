/-
  `Assoc` — association lists from names to values that keep the order in which
  names were first inserted and hold each name once.

  Records, model properties and field masks are all of this shape: what a
  caller sees is both the value under a name and the order of the names. The
  order law is `keys_insert` (a known name keeps its place, a new name goes to
  the end) and the look-up law is `get?_insert`.
-/

namespace RecordBridge

universe u v

/-! ### Entries: the lists underneath -/

/-- The names of a list of entries, in order. -/
def keysOf {α : Type u} (entries : List (String × α)) : List String :=
  entries.map Prod.fst

/-- The value of the first entry called `key`. -/
def lookupEntry {α : Type u} (key : String) : List (String × α) → Option α
  | [] => none
  | (k, v) :: rest => if k = key then some v else lookupEntry key rest

/-- Puts `value` under `key`: in the place of the entry of that name if there is
one, at the end otherwise. -/
def insertEntry {α : Type u} (key : String) (value : α) :
    List (String × α) → List (String × α)
  | [] => [(key, value)]
  | (k, v) :: rest =>
    if k = key then (key, value) :: rest else (k, v) :: insertEntry key value rest

theorem keysOf_insertEntry {α : Type u} (key : String) (value : α)
    (entries : List (String × α)) :
    keysOf (insertEntry key value entries) =
      if key ∈ keysOf entries then keysOf entries else keysOf entries ++ [key] := by
  induction entries with
  | nil => simp [keysOf, insertEntry]
  | cons e rest ih =>
    obtain ⟨k, v⟩ := e
    simp only [keysOf] at ih
    by_cases h : k = key
    · simp [insertEntry, keysOf, h]
    · have h' : ¬ key = k := fun e => h e.symm
      simp only [insertEntry, keysOf, h, h', List.map_cons, List.mem_cons, if_false, false_or, ih]
      split <;> rename_i hk <;> simp [hk]

theorem nodup_keysOf_insertEntry {α : Type u} (key : String) (value : α)
    {entries : List (String × α)} (h : (keysOf entries).Nodup) :
    (keysOf (insertEntry key value entries)).Nodup := by
  rw [keysOf_insertEntry]
  split
  · exact h
  · rename_i hk
    rw [List.nodup_append]
    refine ⟨h, by simp, ?_⟩
    intro a ha b hb
    simp only [List.mem_singleton] at hb
    subst hb
    intro hab
    exact hk (hab ▸ ha)

theorem lookupEntry_insertEntry {α : Type u} (key name : String) (value : α)
    (entries : List (String × α)) :
    lookupEntry name (insertEntry key value entries) =
      if key = name then some value else lookupEntry name entries := by
  induction entries with
  | nil => simp [insertEntry, lookupEntry]
  | cons e rest ih =>
    obtain ⟨k, v⟩ := e
    by_cases h : k = key
    · subst h
      by_cases hn : k = name <;> simp [insertEntry, lookupEntry, hn]
    · by_cases hn : k = name
      · subst hn
        have : ¬ key = k := fun e => h e.symm
        simp [insertEntry, lookupEntry, h, this]
      · simp [insertEntry, lookupEntry, h, hn, ih]

theorem lookupEntry_eq_none_iff {α : Type u} (key : String) (entries : List (String × α)) :
    lookupEntry key entries = none ↔ key ∉ keysOf entries := by
  induction entries with
  | nil => simp [lookupEntry, keysOf]
  | cons e rest ih =>
    obtain ⟨k, v⟩ := e
    simp only [keysOf] at ih
    by_cases h : k = key
    · simp [lookupEntry, keysOf, h]
    · have h' : ¬ key = k := fun e => h e.symm
      simpa [lookupEntry, keysOf, h, h'] using ih

theorem lookupEntry_append {α : Type u} (key : String) (front back : List (String × α)) :
    lookupEntry key (front ++ back) = (lookupEntry key front).or (lookupEntry key back) := by
  induction front with
  | nil => rfl
  | cons e rest ih =>
    obtain ⟨k, v⟩ := e
    by_cases h : k = key <;> simp [lookupEntry, h, ih]

theorem lookupEntry_eq_some_iff_of_nodup {α : Type u} (key : String) (value : α)
    {entries : List (String × α)} (h : (keysOf entries).Nodup) :
    lookupEntry key entries = some value ↔ (key, value) ∈ entries := by
  induction entries with
  | nil => simp [lookupEntry]
  | cons e rest ih =>
    obtain ⟨k, v⟩ := e
    simp only [keysOf, List.map_cons, List.nodup_cons, List.mem_map] at h
    by_cases hk : k = key
    · subst hk
      constructor
      · intro hv
        simp only [lookupEntry, if_true, Option.some.injEq] at hv
        simp [hv]
      · intro hm
        rcases List.mem_cons.1 hm with hm | hm
        · simp [lookupEntry, (Prod.mk.inj hm).2]
        · exact absurd ⟨(k, value), hm, rfl⟩ h.1
    · have hk' : ¬ key = k := fun e => hk e.symm
      simp [lookupEntry, hk, hk', ih h.2]

/-- Putting a value under a name leaves the other entries as they are. -/
theorem filter_insertEntry {α : Type u} (key : String) (value : α) (entries : List (String × α)) :
    (insertEntry key value entries).filter (fun e => e.1 ≠ key) =
      entries.filter fun e => e.1 ≠ key := by
  induction entries with
  | nil => simp [insertEntry]
  | cons e rest ih =>
    obtain ⟨k, v⟩ := e
    by_cases h : k = key
    · simp [insertEntry, h]
    · rw [insertEntry, if_neg h, List.filter_cons, List.filter_cons, ih]

/-- A new name goes to the end. -/
theorem insertEntry_of_notMem {α : Type u} {key : String} (value : α)
    {entries : List (String × α)} (h : key ∉ keysOf entries) :
    insertEntry key value entries = entries ++ [(key, value)] := by
  induction entries with
  | nil => rfl
  | cons e rest ih =>
    obtain ⟨k, v⟩ := e
    have hne : k ≠ key := fun e => h (e ▸ List.mem_cons_self ..)
    have hrest : key ∉ keysOf rest := fun hmem => h (List.mem_cons_of_mem _ hmem)
    rw [insertEntry, if_neg hne, ih hrest, List.cons_append]

theorem mem_of_lookupEntry {α : Type u} {key : String} {value : α}
    {entries : List (String × α)} (h : lookupEntry key entries = some value) :
    (key, value) ∈ entries := by
  induction entries with
  | nil => cases h
  | cons e rest ih =>
    obtain ⟨k, v⟩ := e
    by_cases hk : k = key
    · subst hk
      simp only [lookupEntry, if_true, Option.some.injEq] at h
      simp [h]
    · simp only [lookupEntry, hk, if_false] at h
      exact List.mem_cons_of_mem _ (ih h)

theorem keysOf_reverse {α : Type u} (entries : List (String × α)) :
    keysOf entries.reverse = (keysOf entries).reverse :=
  List.map_reverse

/-- Where every name occurs once, the order of the entries does not matter to a look-up. -/
theorem lookupEntry_reverse_of_nodup {α : Type u} (key : String) {entries : List (String × α)}
    (h : (keysOf entries).Nodup) : lookupEntry key entries.reverse = lookupEntry key entries := by
  have hreverse : (keysOf entries.reverse).Nodup := by
    rw [keysOf_reverse]
    exact List.pairwise_reverse.mpr (h.imp Ne.symm)
  ext value
  rw [lookupEntry_eq_some_iff_of_nodup key value hreverse,
    lookupEntry_eq_some_iff_of_nodup key value h, List.mem_reverse]

/-- A search for an entry that only one name can satisfy is a look-up of that name. -/
theorem map_find?_of_unique {α : Type u} {p : String → Bool} {key : String}
    {entries : List (String × α)} (h : ∀ name ∈ keysOf entries, p name = true → name = key) :
    (entries.find? fun e => p e.1).map Prod.snd =
      if p key then lookupEntry key entries else none := by
  induction entries with
  | nil => simp [lookupEntry]
  | cons e rest ih =>
    obtain ⟨name, value⟩ := e
    have hrest := ih fun other hother => h other (List.mem_cons_of_mem _ hother)
    by_cases hname : name = key
    · subst hname
      cases hp : p name with
      | true => simp [lookupEntry, hp]
      | false =>
        rw [hp] at hrest
        simpa [hp] using hrest
    · have hp : p name = false := by
        rw [Bool.eq_false_iff]
        intro hp
        exact hname (h name (List.mem_cons_self ..) hp)
      simp [lookupEntry, hp, hname, hrest]

/-! ### The ordered map -/

/-- An insertion-ordered map from names to values: no name occurs twice. -/
structure Assoc (α : Type u) where
  /-- The entries in insertion order. -/
  entries : List (String × α)
  /-- Each name occurs once. -/
  nodup : (keysOf entries).Nodup
  deriving DecidableEq

namespace Assoc

variable {α : Type u} {β : Type v}

/-- Two maps with the same entries in the same order are equal. -/
@[ext]
theorem ext {a b : Assoc α} (h : a.entries = b.entries) : a = b := by
  cases a; cases b; cases h; rfl

/-- The map without entries. -/
def empty : Assoc α := ⟨[], List.nodup_nil⟩

instance : Inhabited (Assoc α) := ⟨empty⟩

instance : EmptyCollection (Assoc α) := ⟨empty⟩

/-- The names in order. -/
def keys (m : Assoc α) : List String := keysOf m.entries

/-- The number of entries. -/
def size (m : Assoc α) : Nat := m.entries.length

/-- Whether the map has no entry. -/
def isEmpty (m : Assoc α) : Bool := m.entries.isEmpty

/-- The value under `key`. -/
def get? (m : Assoc α) (key : String) : Option α := lookupEntry key m.entries

/-- Whether `key` has a value. -/
def contains (m : Assoc α) (key : String) : Bool := (m.get? key).isSome

/-- Puts `value` under `key`; a known name keeps its place. -/
def insert (m : Assoc α) (key : String) (value : α) : Assoc α :=
  ⟨insertEntry key value m.entries, nodup_keysOf_insertEntry key value m.nodup⟩

/-- Inserts entries one after another: a name keeps its first place and its last
value. -/
def ofList (entries : List (String × α)) : Assoc α :=
  entries.foldl (fun m e => m.insert e.1 e.2) empty

/-- The entries themselves as a map, when no name occurs twice. -/
def ofEntries? (entries : List (String × α)) : Option (Assoc α) :=
  if h : (keysOf entries).Nodup then some ⟨entries, h⟩ else none

/-- The entries that satisfy `p`, in order. -/
def filter (m : Assoc α) (p : String → α → Bool) : Assoc α :=
  ⟨m.entries.filter fun e => p e.1 e.2,
    m.nodup.sublist ((List.filter_sublist).map Prod.fst)⟩

/-- The first entry that satisfies `p`. -/
def find? (m : Assoc α) (p : String → α → Bool) : Option (String × α) :=
  m.entries.find? fun e => p e.1 e.2

/-- Every value replaced, names and order kept. -/
def mapValues (f : α → β) (m : Assoc α) : Assoc β :=
  ⟨m.entries.map fun e => (e.1, f e.2), by
    have : keysOf (m.entries.map fun e => (e.1, f e.2)) = keysOf m.entries := by
      simp [keysOf, Function.comp_def]
    rw [this]; exact m.nodup⟩

theorem keysOf_filterMap_sublist (f : String → α → Option β) (entries : List (String × α)) :
    (keysOf (entries.filterMap fun e => (f e.1 e.2).map fun v => (e.1, v))).Sublist
      (keysOf entries) := by
  induction entries with
  | nil => simp [keysOf]
  | cons e rest ih =>
    simp only [keysOf] at ih ⊢
    cases h : f e.1 e.2 with
    | none => simpa [h] using ih.trans (List.sublist_cons_self _ _)
    | some v => simpa [h] using ih

/-- The values that `f` gives, under the same names and in the same order; entries
for which it gives none are left out. -/
def filterMap (m : Assoc α) (f : String → α → Option β) : Assoc β :=
  ⟨m.entries.filterMap fun e => (f e.1 e.2).map fun v => (e.1, v),
    m.nodup.sublist (keysOf_filterMap_sublist f m.entries)⟩

/-! ### Laws -/

@[simp] theorem get?_empty (key : String) : (empty : Assoc α).get? key = none := rfl

/-- **Look-up after insertion.** -/
theorem get?_insert (m : Assoc α) (key name : String) (value : α) :
    (m.insert key value).get? name = if key = name then some value else m.get? name :=
  lookupEntry_insertEntry key name value m.entries

/-- **Order after insertion.** A known name keeps its place, a new name goes to
the end. -/
theorem keys_insert (m : Assoc α) (key : String) (value : α) :
    (m.insert key value).keys = if key ∈ m.keys then m.keys else m.keys ++ [key] :=
  keysOf_insertEntry key value m.entries

/-- **Everything else after insertion.** The other entries stay, in their order. -/
theorem filter_insert (m : Assoc α) (key : String) (value : α) :
    ((m.insert key value).filter fun name _ => name ≠ key) = m.filter fun name _ => name ≠ key :=
  ext (filter_insertEntry key value m.entries)

theorem get?_eq_none_iff (m : Assoc α) (key : String) : m.get? key = none ↔ key ∉ m.keys :=
  lookupEntry_eq_none_iff key m.entries

/-- A map without names is empty. -/
theorem eq_empty_of_keys {m : Assoc α} (h : ∀ key, key ∉ m.keys) : m = .empty := by
  ext1
  exact List.map_eq_nil_iff.mp (List.eq_nil_iff_forall_not_mem.mpr h)

/-- **Look-up is membership.** -/
theorem get?_eq_some_iff (m : Assoc α) (key : String) (value : α) :
    m.get? key = some value ↔ (key, value) ∈ m.entries :=
  lookupEntry_eq_some_iff_of_nodup key value m.nodup

/-- The entry of a name stands between entries of other names. -/
theorem exists_split {m : Assoc α} {key : String} {value : α} (h : m.get? key = some value) :
    ∃ front back, m.entries = front ++ (key, value) :: back ∧
      key ∉ keysOf front ∧ key ∉ keysOf back := by
  obtain ⟨front, back, hentries⟩ := List.append_of_mem ((m.get?_eq_some_iff key value).mp h)
  have hnodup : (keysOf front ++ key :: keysOf back).Nodup := by
    have hkeys : keysOf m.entries = keysOf front ++ key :: keysOf back := by
      rw [hentries, keysOf, List.map_append, List.map_cons]
      rfl
    rw [← hkeys]
    exact m.nodup
  obtain ⟨-, hback, hdisjoint⟩ := List.nodup_append.mp hnodup
  refine ⟨front, back, hentries, ?_, (List.nodup_cons.mp hback).1⟩
  intro hfront
  exact hdisjoint key hfront key (List.mem_cons_self ..) rfl

theorem get?_foldl_insert (entries : List (String × α)) (m : Assoc α) (key : String) :
    (entries.foldl (fun m e => m.insert e.1 e.2) m).get? key =
      (lookupEntry key entries.reverse).or (m.get? key) := by
  induction entries generalizing m with
  | nil => rfl
  | cons e rest ih =>
    obtain ⟨k, v⟩ := e
    rw [List.foldl_cons, ih, get?_insert, List.reverse_cons, lookupEntry_append, Option.or_assoc]
    by_cases h : k = key <;> simp [lookupEntry, h]

/-- **Look-up among inserted entries.** The last entry of a name counts. -/
theorem get?_ofList (entries : List (String × α)) (key : String) :
    (ofList entries).get? key = lookupEntry key entries.reverse := by
  rw [ofList, get?_foldl_insert, get?_empty, Option.or_none]

/-- New names that are inserted one after another stand at the end in their order. -/
theorem entries_foldl_insert (entries : List (String × α)) (m : Assoc α)
    (h : (m.keys ++ keysOf entries).Nodup) :
    (entries.foldl (fun m e => m.insert e.1 e.2) m).entries = m.entries ++ entries := by
  induction entries generalizing m with
  | nil => exact (List.append_nil _).symm
  | cons e rest ih =>
    obtain ⟨k, v⟩ := e
    have hkeys : m.keys ++ keysOf ((k, v) :: rest) = m.keys ++ [k] ++ keysOf rest := by
      rw [List.append_assoc]
      rfl
    rw [hkeys] at h
    have hk : k ∉ m.keys := by
      obtain ⟨-, -, hdisjoint⟩ := List.nodup_append.mp (List.nodup_append.mp h).1
      exact fun hmem => hdisjoint k hmem k (List.mem_singleton_self k) rfl
    have hinsert : (m.insert k v).entries = m.entries ++ [(k, v)] := insertEntry_of_notMem v hk
    have hnodup : ((m.insert k v).keys ++ keysOf rest).Nodup := by
      rwa [keys_insert, if_neg hk]
    rw [List.foldl_cons, ih _ hnodup, hinsert, List.append_assoc]
    rfl

/-- Entries with distinct names are inserted as they stand. -/
theorem entries_ofList {entries : List (String × α)} (h : (keysOf entries).Nodup) :
    (ofList entries).entries = entries :=
  entries_foldl_insert entries empty h

/-- A filter keeps the values that satisfy it. -/
theorem get?_filter_eq_some_iff {m : Assoc α} {p : String → α → Bool} {key : String} {value : α} :
    (m.filter p).get? key = some value ↔ m.get? key = some value ∧ p key value = true := by
  rw [get?_eq_some_iff, get?_eq_some_iff]
  exact List.mem_filter

/-- A filter of names keeps what stands under a name or leaves it out. -/
theorem get?_filter_keys (m : Assoc α) (p : String → Bool) (key : String) :
    (m.filter fun key _ => p key).get? key = if p key then m.get? key else none := by
  ext value
  rw [get?_filter_eq_some_iff]
  cases p key <;> simp

/-- What `f` gives for the value under a name is found under that name. -/
theorem get?_filterMap (m : Assoc α) (f : String → α → Option β) (key : String) :
    (m.filterMap f).get? key = (m.get? key).bind (f key) := by
  ext value
  rw [get?_eq_some_iff, Option.bind_eq_some_iff]
  simp only [filterMap, List.mem_filterMap, Option.map_eq_some_iff, get?_eq_some_iff]
  constructor
  · rintro ⟨⟨k, v⟩, hmem, w, hw, h⟩
    obtain ⟨rfl, rfl⟩ := Prod.mk.inj h
    exact ⟨v, hmem, hw⟩
  · rintro ⟨v, hmem, hw⟩
    exact ⟨(key, v), hmem, value, hw, rfl⟩

/-- Names that stay keep their order. -/
theorem keys_filterMap_sublist (m : Assoc α) (f : String → α → Option β) :
    (m.filterMap f).keys.Sublist m.keys :=
  keysOf_filterMap_sublist f m.entries

/-- Of the names that stay, those that satisfy `p`. -/
theorem filter_filterMap (m : Assoc α) (f : String → α → Option β) (p : String → Bool) :
    ((m.filterMap f).filter fun key _ => p key) =
      m.filterMap fun key a => if p key then f key a else none := by
  ext1
  simp only [filter, filterMap, List.filter_filterMap]
  congr 1
  funext e
  cases hp : p e.1 <;> cases hf : f e.1 e.2 <;> simp [hp]

/-- A filter only looks at the names that there are. -/
theorem filter_congr {m : Assoc α} {p q : String → Bool} (h : ∀ key ∈ m.keys, p key = q key) :
    (m.filter fun key _ => p key) = m.filter fun key _ => q key := by
  ext1
  exact List.filter_congr fun e he => h e.1 (List.mem_map_of_mem he)

theorem ofEntries?_entries (m : Assoc α) : ofEntries? m.entries = some m := by
  simp [ofEntries?, m.nodup]

theorem entries_of_ofEntries? {entries : List (String × α)} {m : Assoc α}
    (h : ofEntries? entries = some m) : m.entries = entries := by
  unfold ofEntries? at h
  split at h
  · rw [← Option.some.inj h]
  · exact absurd h (by simp)

end Assoc

end RecordBridge
