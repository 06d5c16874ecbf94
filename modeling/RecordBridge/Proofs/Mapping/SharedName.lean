import RecordBridge.Proofs.Mapping

/-!
# Properties that share a name in the store

A record may have properties that the model does not declare; they are written under their own
names.  So even if the declared properties have distinct physical names, one of them may share its
name with a property that is not declared, and of the two the last one counts.

What is written for a declared property is therefore its own value unless such a property comes
after it in the record (`Model.Overwritten`), and nothing is written under the name of an ignored
property unless the record has such a property (`Model.toRemote_declaredNames`).
-/

namespace RecordBridge

/-- One name is followed by another if the other stands behind the first place of the one. -/
theorem pair_sublist_iff {first second : String} {front back : List String} (h : first ∉ front) :
    [first, second].Sublist (front ++ first :: back) ↔ second ∈ back := by
  induction front with
  | nil => rw [List.nil_append, List.cons_sublist_cons, List.singleton_sublist]
  | cons name front ih =>
    obtain ⟨hne, hrest⟩ := List.ne_and_not_mem_of_not_mem_cons h
    rw [← ih hrest]
    exact ⟨List.Sublist.of_cons_of_ne hne, List.Sublist.cons name⟩

namespace Model

variable {model : Model} {data : Record} {logical logical' physical : String} {value : Json}

/-- In the record a property is followed by one that is not declared and has the name that the first
one has in the store. -/
def Overwritten (model : Model) (data : Record) (logical : String) : Prop :=
  model.declares (model.physicalName logical) = false ∧
    [logical, model.physicalName logical].Sublist data.keys

instance : Decidable (model.Overwritten data logical) := inferInstanceAs (Decidable (_ ∧ _))

/-! ### Properties that are not declared -/

theorem ignores_of_not_declares (h : model.declares logical = false) :
    model.ignores logical = false := by
  unfold declares Assoc.contains at h
  unfold ignores
  rw [Option.isSome_eq_false_iff, Option.isNone_iff_eq_none] at h
  rw [h]

theorem declares_of_ignores (h : model.ignores logical = true) : model.declares logical = true := by
  by_contra hdeclared
  rw [ignores_of_not_declares (Bool.eq_false_iff.mpr hdeclared)] at h
  cases h

/-- A property that is not declared is written under its own name. -/
theorem writesUnder_self_of_not_declares (h : model.declares logical = false) :
    model.writesUnder logical logical = true :=
  writesUnder_iff.mpr ⟨ignores_of_not_declares h, physicalName_of_not_declares h⟩

/-- Another property that is written under the name of a declared one is called so, and it is not
declared. -/
theorem eq_physicalName_of_writesUnder (hdistinct : model.physicalNames.Nodup)
    (hdeclared : model.declares logical = true) (hne : logical' ≠ logical)
    (hwritten : model.writesUnder (model.physicalName logical) logical' = true) :
    logical' = model.physicalName logical ∧ model.declares logical' = false := by
  obtain ⟨-, hname⟩ := writesUnder_iff.mp hwritten
  cases hdeclared' : model.declares logical' with
  | true =>
    have hinj := List.inj_on_of_nodup_map hdistinct
    exact absurd (hinj (declares_iff.mp hdeclared') (declares_iff.mp hdeclared) hname) hne
  | false =>
    rw [physicalName_of_not_declares hdeclared'] at hname
    exact ⟨hname, rfl⟩

/-! ### The last value under the name of a declared property -/

/-- Among entries that are not written for a declared property itself, its name in the store is
looked for as the name of a property that is not declared. -/
theorem find?_writesUnder_eq (hdistinct : model.physicalNames.Nodup)
    (hdeclared : model.declares logical = true) {entries : List (String × Json)}
    (hself : logical ∈ keysOf entries → model.ignores logical = true) :
    (entries.find? fun e => model.writesUnder (model.physicalName logical) e.1).map Prod.snd =
      if model.declares (model.physicalName logical) then none
      else lookupEntry (model.physicalName logical) entries := by
  have hother : ∀ name ∈ keysOf entries,
      model.writesUnder (model.physicalName logical) name = true →
        name = model.physicalName logical ∧ model.declares name = false := by
    intro name hname hwritten
    refine eq_physicalName_of_writesUnder hdistinct hdeclared ?_ hwritten
    rintro rfl
    rw [(writesUnder_iff.mp hwritten).1] at hself
    cases hself hname
  cases hphysical : model.declares (model.physicalName logical) with
  | true =>
    rw [if_pos rfl, Option.map_eq_none_iff, List.find?_eq_none]
    intro e he hwritten
    obtain ⟨hname, hundeclared⟩ := hother e.1 (List.mem_map_of_mem he) hwritten
    rw [hname, hphysical] at hundeclared
    cases hundeclared
  | false =>
    rw [map_find?_of_unique fun name hname hwritten => (hother name hname hwritten).1,
      writesUnder_self_of_not_declares hphysical]
    rfl

section

variable {front back : List (String × Json)}
  (hentries : data.entries = front ++ (logical, value) :: back)
include hentries

/-- A property is overwritten if a property that is not declared and has its name stands behind
it. -/
theorem overwritten_iff_of_entries (hfront : logical ∉ keysOf front) :
    model.Overwritten data logical ↔
      model.declares (model.physicalName logical) = false ∧
        model.physicalName logical ∈ keysOf back := by
  have hkeys : data.keys = keysOf front ++ logical :: keysOf back := by
    rw [Assoc.keys, hentries, keysOf, List.map_append, List.map_cons]
    rfl
  rw [Overwritten, hkeys, pair_sublist_iff hfront]

/-- From the end of the record, what stands behind a property comes first, and then the property. -/
theorem lastWritten_of_entries (hwritten : model.writesUnder physical logical = true) :
    model.lastWritten data physical =
      ((back.reverse.find? fun e => model.writesUnder physical e.1).map Prod.snd).or
        (some value) := by
  rw [lastWritten, hentries, List.reverse_append, List.reverse_cons, List.append_assoc,
    List.find?_append]
  cases back.reverse.find? fun e => model.writesUnder physical e.1 with
  | some e => rfl
  | none => simp [hwritten]

end

/-- The last value under the name of a property that may be written is its own, unless it is
overwritten. -/
theorem lastWritten_of_active (hdistinct : model.physicalNames.Nodup)
    (hdeclared : model.declares logical = true) (hactive : model.ignores logical = false)
    (hvalue : data.get? logical = some value) :
    model.lastWritten data (model.physicalName logical) =
      if model.Overwritten data logical then data.get? (model.physicalName logical)
      else some value := by
  obtain ⟨front, back, hentries, hfront, hback⟩ := Assoc.exists_split hvalue
  have hoverwritten : model.Overwritten data logical ↔ _ :=
    overwritten_iff_of_entries hentries hfront
  have hwritten : model.writesUnder (model.physicalName logical) logical = true :=
    writesUnder_iff.mpr ⟨hactive, rfl⟩
  -- Behind the property, only one that is not declared can be written under its name.
  have hreverse : logical ∉ keysOf back.reverse := by
    rwa [keysOf_reverse, List.mem_reverse]
  rw [lastWritten_of_entries hentries hwritten,
    find?_writesUnder_eq hdistinct hdeclared fun h => absurd h hreverse]
  cases hphysical : model.declares (model.physicalName logical) with
  | true =>
    have hnot : ¬ model.Overwritten data logical := by
      rw [hoverwritten, hphysical]
      simp
    rw [if_neg hnot]
    rfl
  | false =>
    rw [if_neg Bool.false_ne_true]
    cases hlookup : lookupEntry (model.physicalName logical) back.reverse with
    | none =>
      have habsent := (lookupEntry_eq_none_iff _ _).mp hlookup
      rw [keysOf_reverse, List.mem_reverse] at habsent
      rw [if_neg fun h => habsent (hoverwritten.mp h).2]
      rfl
    | some other =>
      have hmem := List.mem_reverse.mp (mem_of_lookupEntry hlookup)
      have hother : data.get? (model.physicalName logical) = some other := by
        rw [Assoc.get?_eq_some_iff, hentries]
        exact List.mem_append_right _ (List.mem_cons_of_mem _ hmem)
      rw [if_pos (hoverwritten.mpr ⟨hphysical, List.mem_map_of_mem hmem⟩), hother]
      rfl

/-- The last value under the name of an ignored property is that of a property which is not
declared. -/
theorem lastWritten_of_ignored (hdistinct : model.physicalNames.Nodup)
    (hignored : model.ignores logical = true) :
    model.lastWritten data (model.physicalName logical) =
      if model.declares (model.physicalName logical) then none
      else data.get? (model.physicalName logical) := by
  rw [lastWritten, find?_writesUnder_eq hdistinct (declares_of_ignores hignored) fun _ => hignored,
    lookupEntry_reverse_of_nodup _ data.nodup]
  rfl

/-- **What is written under the names of declared properties**: for a property that may be written
its value, unless a property that is not declared overwrites it; for an ignored one nothing, unless
the record has a property that is not declared and has that name. -/
theorem toRemote_declaredNames (hdistinct : model.physicalNames.Nodup) (data : Record) :
    (∀ logical value, data.get? logical = some value → model.declares logical = true →
      model.ignores logical = false → isStandardName (model.physicalName logical) = false →
      (model.toRemote data).get? (model.physicalName logical) =
        if model.Overwritten data logical then data.get? (model.physicalName logical)
        else some value) ∧
    (∀ logical, model.ignores logical = true →
      (model.toRemote data).get? (model.physicalName logical) =
        if model.declares (model.physicalName logical) ∨
          isStandardName (model.physicalName logical) then none
        else data.get? (model.physicalName logical)) := by
  constructor
  · intro logical value hvalue hdeclared hactive hstandard
    rw [get?_toRemote_eq, hstandard, if_neg Bool.false_ne_true]
    exact lastWritten_of_active hdistinct hdeclared hactive hvalue
  · intro logical hignored
    rw [get?_toRemote_eq, lastWritten_of_ignored hdistinct hignored]
    cases isStandardName (model.physicalName logical) <;>
      cases model.declares (model.physicalName logical) <;> simp

/-! ### A project -/

/-- A model with a property of another name in the store and one that is never written. -/
def projectModel : Model :=
  ((Model.named "Project").withProperty "title" { Property.plain with
      physicalName := some "project"
    }).withProperty "testProp" { Property.plain with
      physicalName := some "test_prop", ignored := true }

/-- A title is written if the property that shares its name comes first, and a property that is
never written is not. -/
theorem toRemote_declaredNames_project :
    let data : Record := .ofList
      [("project", .string "draft"), ("title", .string "Test"), ("testProp", .bool true)]
    projectModel.physicalNames.Nodup ∧
      (projectModel.toRemote data).get? "project" = some (.string "Test") ∧
      (projectModel.toRemote data).get? "test_prop" = none := by
  intro data
  have hdistinct : projectModel.physicalNames.Nodup := by decide
  obtain ⟨hactive, hignored⟩ := toRemote_declaredNames hdistinct data
  refine ⟨hdistinct, ?_, ?_⟩
  · exact hactive "title" (.string "Test") (by decide) (by decide) (by decide) (by decide)
  · exact hignored "testProp" (by decide)

/-- Properties that are not declared take the place of a title, and of a property that is never
written. -/
theorem toRemote_overwrites_project :
    let titled : Record := .ofList [("title", .string "Test"), ("project", .string "X")]
    let hidden : Record := .ofList [("test_prop", .string "s3cret")]
    projectModel.physicalNames.Nodup ∧
      (titled.get? "title" = some (.string "Test") ∧ projectModel.declares "title" = true ∧
        projectModel.ignores "title" = false ∧
        isStandardName (projectModel.physicalName "title") = false ∧
        (projectModel.toRemote titled).get? (projectModel.physicalName "title") =
          some (.string "X")) ∧
      projectModel.ignores "testProp" = true ∧
      projectModel.physicalName "testProp" ∈ (projectModel.toRemote hidden).keys := by
  decide

end Model

end RecordBridge
