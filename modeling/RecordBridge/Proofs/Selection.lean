import RecordBridge.Proofs.Mapping
import RecordBridge.Selection

/-!
# What a mask leaves out

A mask that only says no (`Selection.Excludes`) selects every declared property that it does not
name.  As long as there is one, exactly the named properties are left out of a record.  If it names
them all, the selection is empty; but the empty selection restricts nothing, so the whole record is
read (`Model.toInstance_exclusion`).
-/

namespace RecordBridge

/-! ### Masks that only say no -/

/-- The mask says no to something and yes to nothing. -/
structure Selection.Excludes (flags : Assoc Bool) : Prop where
  nonempty : flags.isEmpty = false
  saysNo : ∀ e ∈ flags.entries, e.2 = false

namespace Model

variable {model : Model} {flags : Assoc Bool} {logical : String}

/-- Every declared property is named in the mask. -/
def NamedIn (model : Model) (flags : Assoc Bool) : Prop :=
  ∀ logical ∈ model.properties.keys, flags.contains logical = true

/-- The declared properties that are not named are selected. -/
theorem selected_of_excludes (h : Selection.Excludes flags) :
    (Selection.mask flags).selected model =
      model.properties.keys.filter fun logical => !flags.contains logical := by
  have hincluded : Selection.included flags = [] := by
    have hfilter : flags.entries.filter (fun e => e.2) = [] :=
      List.filter_eq_nil_iff.mpr fun e he => by simp [h.saysNo e he]
    show (flags.entries.filter fun e => e.2).map Prod.fst = []
    rw [hfilter, List.map_nil]
  -- A mask that says yes, and the empty mask, select something else; this is neither.
  have hrest : ¬ (Selection.included flags ≠ [] ∨ flags.isEmpty = true) := by
    rw [hincluded, h.nonempty]
    simp
  exact if_neg hrest

/-- Nothing is selected if and only if every declared property is named. -/
theorem compileSelection_eq_nil_iff (h : Selection.Excludes flags) :
    model.compileSelection (some (.mask flags)) = [] ↔ model.NamedIn flags := by
  unfold compileSelection
  dsimp only
  rw [selected_of_excludes h, List.map_eq_nil_iff, List.filter_eq_nil_iff]
  simp [NamedIn]

/-- The selection contains the physical name of a declared property if and only if the property is
not named. -/
theorem mem_compileSelection_iff (hdistinct : model.physicalNames.Nodup)
    (h : Selection.Excludes flags) (hdeclared : logical ∈ model.properties.keys) :
    model.physicalName logical ∈ model.compileSelection (some (.mask flags)) ↔
      flags.contains logical = false := by
  unfold compileSelection
  dsimp only
  rw [selected_of_excludes h, List.mem_map]
  constructor
  · rintro ⟨other, hother, hname⟩
    obtain ⟨hkey, hnamed⟩ := List.mem_filter.mp hother
    obtain rfl : other = logical := List.inj_on_of_nodup_map hdistinct hkey hdeclared hname
    simpa using hnamed
  · intro hnamed
    exact ⟨logical, List.mem_filter.mpr ⟨hdeclared, by rw [hnamed]; rfl⟩, rfl⟩

theorem admits_exclusion (hdistinct : model.physicalNames.Nodup) (h : Selection.Excludes flags)
    (hleaves : ¬ model.NamedIn flags) (hdeclared : logical ∈ model.properties.keys) :
    model.admits (model.compileSelection (some (.mask flags))) logical =
      !flags.contains logical := by
  have hmem := mem_compileSelection_iff hdistinct h hdeclared
  have hne := (compileSelection_eq_nil_iff h).not.mpr hleaves
  rw [admits, List.isEmpty_eq_false_iff.mpr hne, Bool.false_or, Bool.eq_iff_iff,
    List.contains_iff_mem, hmem, Bool.not_eq_true']

/-! ### Records under a mask -/

/-- A mask that leaves a declared property leaves out what it names. -/
theorem toInstance_of_not_namedIn (hdistinct : model.physicalNames.Nodup)
    (h : Selection.Excludes flags) (hleaves : ¬ model.NamedIn flags) (object : RemoteObject) :
    model.toInstance object (model.compileSelection (some (.mask flags))) =
      (model.toInstance object []).filter fun logical _ => !flags.contains logical := by
  rw [toInstance_eq_filter]
  refine Assoc.filter_congr fun logical hlogical => ?_
  have hdeclared := (model.keys_toInstance_sublist object []).mem hlogical
  exact admits_exclusion hdistinct h hleaves hdeclared

/-- A mask that names every declared property leaves out nothing. -/
theorem toInstance_of_namedIn (h : Selection.Excludes flags) (hall : model.NamedIn flags)
    (object : RemoteObject) :
    model.toInstance object (model.compileSelection (some (.mask flags))) =
      model.toInstance object [] := by
  rw [(compileSelection_eq_nil_iff h).mpr hall]

/-- **A mask that only says no leaves out what it names**, and nothing else, as long as it leaves a
declared property.  A mask that names every declared property leaves out nothing, so it does what it
says only of an object that has none of them. -/
theorem toInstance_exclusion (hdistinct : model.physicalNames.Nodup)
    (h : Selection.Excludes flags) (object : RemoteObject) :
    let whole := model.toInstance object []
    let record := model.toInstance object (model.compileSelection (some (.mask flags)))
    (¬ model.NamedIn flags → record = whole.filter fun logical _ => !flags.contains logical) ∧
    (model.NamedIn flags → record = whole) ∧
    ((∀ logical, flags.contains logical = true → record.get? logical = none) ↔
      ¬ model.NamedIn flags ∨ whole = .empty) := by
  intro whole record
  have hleaves (hnot : ¬ model.NamedIn flags) :
      record = whole.filter fun logical _ => !flags.contains logical :=
    toInstance_of_not_namedIn hdistinct h hnot object
  have hall (hnamed : model.NamedIn flags) : record = whole := toInstance_of_namedIn h hnamed object
  refine ⟨hleaves, hall, ?_⟩
  by_cases hnamed : model.NamedIn flags
  · rw [hall hnamed, or_iff_right (not_not_intro hnamed)]
    constructor
    · intro habsent
      refine Assoc.eq_empty_of_keys fun logical hlogical => ?_
      have hdeclared := (model.keys_toInstance_sublist object []).mem hlogical
      have hnone := habsent logical (hnamed logical hdeclared)
      exact (whole.get?_eq_none_iff logical).mp hnone hlogical
    · intro hempty logical _
      rw [hempty]
      rfl
  · refine iff_of_true ?_ (.inl hnamed)
    intro logical hlogical
    rw [hleaves hnamed, Assoc.get?_filter_keys, hlogical]
    rfl

/-! ### An object with a secret -/

/-- A model with a property that not everyone should see. -/
def vaultModel : Model :=
  ((Model.named "Vault").withProperty "code" { Property.plain with
      primaryKey := true, isIdentity := true
    }).withProperty "secret" { Property.plain with physicalName := some "secret_text" }

/-- An object with a secret. -/
def vaultObject : RemoteObject :=
  { RemoteObject.ofProperties (.ofList [("secret_text", .string "s3cret")]) with
    primaryKey := .ofList [("code", .string "A-1")] }

/-- A mask leaves out the secret alone. -/
theorem toInstance_exclusion_secret :
    let flags : Assoc Bool := .ofList [("secret", false)]
    vaultModel.physicalNames.Nodup ∧ Selection.Excludes flags ∧
      vaultModel.toInstance vaultObject (vaultModel.compileSelection (some (.mask flags))) =
        .ofList [("code", .string "A-1")] := by
  intro flags
  have hdistinct : vaultModel.physicalNames.Nodup := by decide
  have hexcludes : Selection.Excludes flags := ⟨by decide, by decide⟩
  have hleaves : ¬ vaultModel.NamedIn flags := by
    intro hall
    cases hall "code" (by decide)
  exact ⟨hdistinct, hexcludes, (toInstance_exclusion hdistinct hexcludes vaultObject).1 hleaves⟩

/-- A mask that leaves out the code too shows the secret. -/
theorem toInstance_exclusion_everything :
    let flags : Assoc Bool := .ofList [("code", false), ("secret", false)]
    vaultModel.physicalNames.Nodup ∧ Selection.Excludes flags ∧
      flags.contains "secret" = true ∧
      (vaultModel.toInstance vaultObject (vaultModel.compileSelection (some (.mask flags)))).get?
        "secret" = some (.string "s3cret") := by
  intro flags
  exact ⟨by decide, ⟨by decide, by decide⟩, rfl, rfl⟩

end Model

end RecordBridge
