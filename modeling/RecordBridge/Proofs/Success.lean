import Mathlib.Data.List.Forall2

/-!
# Successful results

When a step and the step after it succeed (`bind_eq_ok_iff`) and which of them fails
(`bind_eq_error_iff`), and what a mapped result comes from (`map_eq_ok_iff`, `map_eq_error_iff`,
`mapError_eq_ok_iff`).
A step that is taken for every item of a list succeeds if it does for each of them
(`mapM_eq_ok_iff`, `forM_eq_ok_iff`), and otherwise fails at the first item for which it does
(`mapM_eq_error_iff`).  The error of a result, if it has one, is `errorOf?`.
-/

namespace RecordBridge

variable {ε α β : Type} {x : Except ε α} {b : β} {e : ε}

theorem bind_eq_ok_iff {f : α → Except ε β} :
    (x >>= f) = .ok b ↔ ∃ a, x = .ok a ∧ f a = .ok b := by
  constructor
  · intro h
    cases x with
    | error _ => cases h
    | ok a => exact ⟨a, rfl, h⟩
  · rintro ⟨a, rfl, h⟩
    exact h

theorem bind_eq_error_iff {f : α → Except ε β} :
    (x >>= f) = .error e ↔ x = .error e ∨ ∃ a, x = .ok a ∧ f a = .error e := by
  cases x with
  | error e' =>
    constructor
    · intro h
      exact .inl (congrArg Except.error (Except.error.inj h))
    · rintro (h | ⟨a, ha, -⟩)
      · exact congrArg Except.error (Except.error.inj h)
      · cases ha
  | ok a =>
    constructor
    · intro h
      exact .inr ⟨a, rfl, h⟩
    · rintro (h | ⟨_, ha, h⟩)
      · cases h
      · rw [Except.ok.inj ha]
        exact h

theorem map_eq_ok_iff {f : α → β} : x.map f = .ok b ↔ ∃ a, x = .ok a ∧ f a = b := by
  constructor
  · intro h
    cases x with
    | error _ => cases h
    | ok a => exact ⟨a, rfl, Except.ok.inj h⟩
  · rintro ⟨a, rfl, h⟩
    exact congrArg Except.ok h

theorem map_eq_error_iff {f : α → β} : x.map f = .error e ↔ x = .error e := by
  cases x with
  | error _ => exact Iff.rfl.trans (by simp [Except.map])
  | ok a => simp [Except.map]

theorem mapError_eq_ok_iff {ε' : Type} {f : ε → ε'} {a : α} : x.mapError f = .ok a ↔ x = .ok a := by
  cases x <;> simp [Except.mapError]

/-- A result whose value does not matter is there if there is a value. -/
theorem discard_eq_ok_iff : discard x = .ok () ↔ ∃ a, x = .ok a := by
  cases x with
  | error e =>
    constructor
    · intro h
      cases h
    · rintro ⟨a, ha⟩
      cases ha
  | ok a => exact ⟨fun _ => ⟨a, rfl⟩, fun _ => rfl⟩

/-! ### The error of a result -/

/-- The error of a result that failed. -/
def errorOf? : Except ε α → Option ε
  | .error e => some e
  | .ok _ => none

theorem errorOf?_eq_some_iff : errorOf? x = some e ↔ x = .error e := by
  cases x <;> simp [errorOf?]

theorem errorOf?_eq_none_iff : errorOf? x = none ↔ ∃ a, x = .ok a := by
  cases x <;> simp [errorOf?]

@[simp] theorem errorOf?_map (f : α → β) : errorOf? (x.map f) = errorOf? x := by
  cases x <;> rfl

/-! ### Lists -/

theorem mapM_eq_ok_iff {f : α → Except ε β} {items : List α} {results : List β} :
    items.mapM f = .ok results ↔ List.Forall₂ (fun a b => f a = .ok b) items results := by
  induction items generalizing results with
  | nil =>
    rw [List.mapM_nil, List.forall₂_nil_left_iff]
    constructor
    · intro h
      exact (Except.ok.inj h).symm
    · rintro rfl
      rfl
  | cons item items ih =>
    rw [List.mapM_cons, List.forall₂_cons_left_iff]
    constructor
    · intro h
      obtain ⟨b, hb, h⟩ := bind_eq_ok_iff.mp h
      obtain ⟨rest, hrest, h⟩ := bind_eq_ok_iff.mp h
      exact ⟨b, rest, hb, ih.mp hrest, (Except.ok.inj h).symm⟩
    · rintro ⟨b, rest, hb, hrest, rfl⟩
      exact bind_eq_ok_iff.mpr ⟨b, hb, bind_eq_ok_iff.mpr ⟨rest, ih.mpr hrest, rfl⟩⟩

theorem exists_mapM_eq_ok_iff {f : α → Except ε β} {items : List α} :
    (∃ results, items.mapM f = .ok results) ↔ ∀ item ∈ items, ∃ b, f item = .ok b := by
  induction items with
  | nil => exact ⟨fun _ => by simp, fun _ => ⟨[], rfl⟩⟩
  | cons item items ih =>
    rw [List.forall_mem_cons, ← ih]
    constructor
    · rintro ⟨results, h⟩
      rw [mapM_eq_ok_iff, List.forall₂_cons_left_iff] at h
      obtain ⟨b, rest, hb, hrest, -⟩ := h
      exact ⟨⟨b, hb⟩, rest, mapM_eq_ok_iff.mpr hrest⟩
    · rintro ⟨⟨b, hb⟩, rest, hrest⟩
      exact ⟨b :: rest, mapM_eq_ok_iff.mpr (.cons hb (mapM_eq_ok_iff.mp hrest))⟩

/-- A step that is taken for every item of a list fails at the first item for which it does. -/
theorem mapM_eq_error_iff {f : α → Except ε β} {items : List α} :
    items.mapM f = .error e ↔ ∃ front item back, items = front ++ item :: back ∧
      (∀ a ∈ front, ∃ b, f a = .ok b) ∧ f item = .error e := by
  induction items with
  | nil =>
    constructor
    · intro h
      cases h
    · rintro ⟨front, item, back, h, -⟩
      simp at h
  | cons first items ih =>
    rw [List.mapM_cons, bind_eq_error_iff]
    constructor
    · rintro (hfirst | ⟨b, hb, h⟩)
      · exact ⟨[], first, items, rfl, by simp, hfirst⟩
      · rcases bind_eq_error_iff.mp h with hrest | ⟨_, -, hdone⟩
        · obtain ⟨front, item, back, rfl, hfront, hitem⟩ := ih.mp hrest
          exact ⟨first :: front, item, back, rfl, List.forall_mem_cons.mpr ⟨⟨b, hb⟩, hfront⟩, hitem⟩
        · cases hdone
    · rintro ⟨front, item, back, hitems, hfront, hitem⟩
      cases front with
      | nil =>
        obtain ⟨rfl, -⟩ := List.cons.inj hitems
        exact .inl hitem
      | cons a front =>
        obtain ⟨rfl, rfl⟩ := List.cons.inj hitems
        obtain ⟨⟨b, hb⟩, hfront⟩ := List.forall_mem_cons.mp hfront
        refine .inr ⟨b, hb, bind_eq_error_iff.mpr (.inl ?_)⟩
        exact ih.mpr ⟨front, item, back, rfl, hfront, hitem⟩

theorem forM_eq_ok_iff {f : α → Except ε PUnit} {items : List α} :
    items.forM f = .ok () ↔ ∀ item ∈ items, f item = .ok () := by
  induction items with
  | nil => exact ⟨fun _ => by simp, fun _ => rfl⟩
  | cons item items ih =>
    rw [List.forall_mem_cons, ← ih]
    show (f item >>= fun _ => items.forM f) = .ok () ↔ _
    rw [bind_eq_ok_iff]
    constructor
    · rintro ⟨⟨⟩, hitem, hrest⟩
      exact ⟨hitem, hrest⟩
    · rintro ⟨hitem, hrest⟩
      exact ⟨(), hitem, hrest⟩

end RecordBridge
