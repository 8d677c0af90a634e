import ComponentLog.Proofs.Archetype.Columns
import ComponentLog.Proofs.Archetype.Reachable

/-!
# Warnings

Nothing that was given is lost in silence. A build of all fields and a build of columns warn
once, of the failure that the strict build returns; a partial update and a setter warn of each
field that fails (`FieldDescriptor.failure?`). In every flavour a given field is left out exactly
when a warning covers it (`Builder.warnings_exact`).
-/

namespace ComponentLog

/-! ## One field -/

namespace FieldDescriptor

/-- The warning that an input of the field gives, if it does not convert. -/
def failure? (f : FieldDescriptor) (input : Option Value) : Option Warning :=
  match f.outcome? input with
  | some (.error cause) => some (.fieldAbsent f.descriptor (.inField f.name cause))
  | _ => none

variable {f : FieldDescriptor} {input : Option Value}

theorem failure?_eq_some_iff {w : Warning} : f.failure? input = some w ↔
    ∃ cause, f.Fails input cause ∧ w = .fieldAbsent f.descriptor (.inField f.name cause) := by
  unfold failure? Fails
  cases f.outcome? input with
  | none => simp
  | some r =>
    cases r with
    | ok b => simp
    | error cause => simp [eq_comm]

theorem convertPartial_warnings (f : FieldDescriptor) (clearUnset : Bool) (input : Option Value) :
    (f.convertPartial clearUnset input).2 = (f.failure? input).toList := by
  unfold convertPartial failure?
  rcases f.input_cases input with ⟨hunset, houtcome⟩ | ⟨v, rfl, hnull, houtcome⟩
  · rw [if_pos hunset, houtcome]
    rfl
  · rw [houtcome, if_neg (by simp [isUnset, hnull])]
    unfold convertLenient convert
    rw [Option.getD_some, if_neg (by simp [hnull])]
    cases ComponentBatch.ofInput f.descriptor f.componentType v <;> rfl

/-- A given field is absent from a partial update exactly when it fails. -/
theorem convertPartial_eq_none_iff {v : Value} (hnull : v.isNull = false) {clearUnset : Bool} :
    (f.convertPartial clearUnset (some v)).1 = none ↔ ∃ cause, f.Fails (some v) cause := by
  rw [convertPartial_eq]
  unfold Fails
  rw [outcome?_of_not_isNull hnull]
  cases ComponentBatch.ofInput f.descriptor f.componentType v <;> simp

end FieldDescriptor

namespace Archetype

variable {a : Archetype}

theorem index_eq_of_descriptor_eq {i j : a.FieldIndex}
    (h : (a.fields.get i).descriptor = (a.fields.get j).descriptor) : i = j := by
  have hi : i.val < (a.fields.map FieldDescriptor.descriptor).length := by simp
  exact Fin.ext ((List.getElem?_inj hi (nodup_descriptors a)).mp (by simpa using h))

/-- The warning says that the field was left absent, by itself or with all fields. -/
def Covers (i : a.FieldIndex) : Warning → Prop
  | .degraded archetype _ => archetype = a.name
  | .fieldAbsent descriptor _ => descriptor = (a.fields.get i).descriptor

namespace Builder

/-- The ways to make something of the inputs. -/
inductive Flavour where
  | strict
  | lenient
  | each (clearUnset : Bool)
  | columns

/-- What a flavour warns of. The strict build returns its failure, and has nothing to warn of. -/
def warnings (b : Builder a) : Flavour → List Warning
  | .strict => []
  | .lenient => (Own.build b).2
  | .each clearUnset => (Own.buildFields b clearUnset).2
  | .columns => b.columns.2

/-- A flavour gives a result, and the field is not in it. -/
def LeavesOut (b : Builder a) (i : a.FieldIndex) : Flavour → Prop
  | .strict => ∃ x, Own.tryBuild b = .ok x ∧ Own.get? x (a.fields.get i).name = none
  | .lenient => Own.get? (Own.build b).1 (a.fields.get i).name = none
  | .each clearUnset => Own.get? (Own.buildFields b clearUnset).1 (a.fields.get i).name = none
  | .columns => ∃ cols, b.columns.1 = .ok cols ∧
    ∀ c ∈ cols, c.descriptor ≠ (a.fields.get i).descriptor

variable {b : Builder a}

theorem pairs_eq (b : Builder a) : b.pairs =
    (List.finRange a.fields.length).map fun i => (a.fields.get i, b.inputs.get i) := by
  refine List.ext_getElem (by simp [length_pairs]) fun i hi _ => ?_
  rw [getElem_pairs]
  simp

/-- A partial update warns of each field that fails, in the order of the fields. -/
theorem buildFields_warnings (b : Builder a) (clearUnset : Bool) :
    (b.buildFields clearUnset).2 = (List.finRange a.fields.length).filterMap fun i =>
      (a.fields.get i).failure? (b.inputs.get i) := by
  have hresults : (b.buildFields clearUnset).2 =
      (b.pairs.map fun p => p.1.convertPartial clearUnset p.2).flatMap (·.2) := by
    unfold buildFields convertEach
    rw [checkFieldCount_inputs]
    show List.flatMap _ (a.fields.zipWith _ b.inputs.toList) = _
    rw [pairs, List.zip, List.map_zipWith]
  rw [hresults, pairs_eq, List.map_map, List.flatMap_map, List.filterMap_eq_flatMap_toList]
  congr 1
  funext i
  exact FieldDescriptor.convertPartial_warnings _ _ _

/-- Where the strict build fails, the lenient ones warn of its failure. -/
theorem warnings_of_error {e : ConversionError} (h : b.tryBuild = .error e) :
    b.build.2 = [.degraded a.name e] ∧ b.columns.2 = [.degraded a.name e] := by
  rw [build_of_error h, columns_eq_of_error h]
  exact ⟨rfl, rfl⟩

theorem warnings_of_ok {x : Instance a} (h : b.tryBuild = .ok x) :
    b.build.2 = [] ∧ b.columns.2 = [] := by
  obtain ⟨batches, hbatches, -⟩ := map_eq_ok_iff.1 h
  rw [build_of_ok h]
  unfold columns
  rw [hbatches]
  exact ⟨rfl, rfl⟩

/-- A given field has a column. -/
theorem exists_column_of_given {x : Instance a} (h : b.tryBuild = .ok x) {i : a.FieldIndex}
    {v : Value} (hinput : b.inputs.get i = some v) (hnull : v.isNull = false)
    {cols : ComponentColumnList} (hcols : b.columns.1 = .ok cols) :
    ∃ c ∈ cols, c.descriptor = (a.fields.get i).descriptor := by
  obtain ⟨batches, hbatches, -⟩ := map_eq_ok_iff.1 h
  rw [columns_of_convertAll hbatches, mapM_eq_ok_iff] at hcols
  have hgiven : (a.fields.get i, v) ∈ b.given := mem_given.2 ⟨i, rfl, hinput, hnull⟩
  obtain ⟨c, hc, ⟨batch, _⟩, ⟨hbatch, rfl⟩, hcol⟩ :=
    exists_of_mem_forall₂ (forall₂_comp (forall₂_given hbatches) hcols).flip hgiven
  obtain ⟨_, -, hholds⟩ := ComponentBatch.ofInput_eq_ok hbatch
  obtain ⟨plan, -, hcol⟩ := bind_eq_ok_iff.1 hcol
  obtain ⟨-, -, rfl⟩ := ComponentBatch.eq_ok_of_partitionedWith hcol
  exact ⟨c, hc, hholds.descriptor_eq⟩

/-! ## Fields left out -/

/-- A warning of a partial update covers the fields that fail. -/
theorem exists_covers_buildFields_iff {clearUnset : Bool} {i : a.FieldIndex} :
    (∃ w ∈ (b.buildFields clearUnset).2, Covers i w) ↔
      ∃ cause, (a.fields.get i).Fails (b.inputs.get i) cause := by
  rw [buildFields_warnings]
  constructor
  · rintro ⟨w, hw, hcovers⟩
    obtain ⟨j, -, hfailure⟩ := List.mem_filterMap.1 hw
    obtain ⟨cause, hfails, rfl⟩ := FieldDescriptor.failure?_eq_some_iff.1 hfailure
    obtain rfl : j = i := index_eq_of_descriptor_eq hcovers
    exact ⟨cause, hfails⟩
  · rintro ⟨cause, hfails⟩
    have hfailure := FieldDescriptor.failure?_eq_some_iff.2 ⟨cause, hfails, rfl⟩
    exact ⟨_, List.mem_filterMap.2 ⟨i, List.mem_finRange i, hfailure⟩, rfl⟩

section

variable {i : a.FieldIndex} {v : Value}

/-- A strict build that succeeds has every given field. -/
theorem get_ne_none_of_tryBuild {x : Instance a} (h : b.tryBuild = .ok x)
    (hinput : b.inputs.get i = some v) (hnull : v.isNull = false) : x.batches.get i ≠ none := by
  obtain ⟨hfails, rfl⟩ := tryBuild_eq_ok_iff.1 h
  rw [get_buildFields, hinput]
  intro hnone
  obtain ⟨cause, hcause⟩ := (FieldDescriptor.convertPartial_eq_none_iff hnull).1 hnone
  exact hfails i cause (hinput ▸ hcause)

theorem leavesOut_strict_iff (hinput : b.inputs.get i = some v) (hnull : v.isNull = false) :
    b.LeavesOut i .strict ↔ ∃ w ∈ b.warnings .strict, Covers i w := by
  constructor
  · rintro ⟨y, hy, hnone⟩
    obtain ⟨x, hx, rfl⟩ := map_eq_ok_iff.1 hy
    rw [Own.get?_ofInstance] at hnone
    exact absurd hnone (get_ne_none_of_tryBuild hx hinput hnull)
  · rintro ⟨w, hw, -⟩
    cases hw

theorem leavesOut_lenient_iff (hinput : b.inputs.get i = some v) (hnull : v.isNull = false) :
    b.LeavesOut i .lenient ↔ ∃ w ∈ b.warnings .lenient, Covers i w := by
  show Own.get? (Own.ofInstance b.build.1) _ = none ↔ ∃ w ∈ b.build.2, _
  rw [Own.get?_ofInstance]
  cases hbuild : b.tryBuild with
  | error e =>
    rw [build_of_error hbuild]
    simp [Instance.absent, vectorGet_eq_getElem, Covers]
  | ok x =>
    rw [build_of_ok hbuild]
    simpa using get_ne_none_of_tryBuild hbuild hinput hnull

theorem leavesOut_each_iff (clearUnset : Bool) (hinput : b.inputs.get i = some v)
    (hnull : v.isNull = false) :
    b.LeavesOut i (.each clearUnset) ↔ ∃ w ∈ b.warnings (.each clearUnset), Covers i w := by
  show Own.get? (Own.ofInstance (b.buildFields clearUnset).1) _ = none ↔
    ∃ w ∈ (b.buildFields clearUnset).2, _
  rw [Own.get?_ofInstance, get_buildFields, exists_covers_buildFields_iff, hinput]
  exact FieldDescriptor.convertPartial_eq_none_iff hnull

theorem leavesOut_columns_iff (hinput : b.inputs.get i = some v) (hnull : v.isNull = false) :
    b.LeavesOut i .columns ↔ ∃ w ∈ b.warnings .columns, Covers i w := by
  show (∃ cols, b.columns.1 = .ok cols ∧ _) ↔ ∃ w ∈ b.columns.2, _
  cases hbuild : b.tryBuild with
  | error e =>
    rw [columns_eq_of_error hbuild]
    simp [Covers]
  | ok x =>
    rw [(warnings_of_ok hbuild).2]
    constructor
    · rintro ⟨cols, hcols, hout⟩
      obtain ⟨c, hc, hdescriptor⟩ := exists_column_of_given hbuild hinput hnull hcols
      exact absurd hdescriptor (hout c hc)
    · rintro ⟨w, hw, -⟩
      cases hw

theorem leavesOut_iff (hinput : b.inputs.get i = some v) (hnull : v.isNull = false)
    (flavour : Flavour) : b.LeavesOut i flavour ↔ ∃ w ∈ b.warnings flavour, Covers i w := by
  cases flavour with
  | strict => exact leavesOut_strict_iff hinput hnull
  | lenient => exact leavesOut_lenient_iff hinput hnull
  | each clearUnset => exact leavesOut_each_iff clearUnset hinput hnull
  | columns => exact leavesOut_columns_iff hinput hnull

end

theorem tryBuild_fails_iff : (∃ e, b.tryBuild = .error e) ↔
    ∃ (i : a.FieldIndex) (cause : ConversionError),
      (a.fields.get i).Fails (b.inputs.get i) cause := by
  constructor
  · rintro ⟨e, he⟩
    obtain ⟨i, cause, hfails, -⟩ := tryBuild_eq_error_iff.1 he
    exact ⟨i, cause, hfails⟩
  · rintro ⟨i, cause, hfails⟩
    cases hbuild : b.tryBuild with
    | error e => exact ⟨e, rfl⟩
    | ok x => exact absurd hfails ((tryBuild_eq_ok_iff.1 hbuild).1 i cause)

end Builder

/-! ## Setters -/

namespace Own

theorem warnings_set (m : Member a a.Own) (x : a.Own) (v : Value) :
    (m.set x v).2 = (m.field.failure? (some v)).toList := by
  show (m.field.convertLenient v).2 = _
  rw [FieldDescriptor.convertLenient_eq, FieldDescriptor.convertPartial_warnings]

theorem get?_set_eq_none_iff {m : Member a a.Own} (hm : m ∈ a.record.members) (x : a.Own)
    {v : Value} (hnull : v.isNull = false) :
    get? (m.set x v).1 m.name = none ↔ ∃ w ∈ (m.set x v).2, Covers m.place w := by
  rw [get?_set_self hm, FieldDescriptor.convertLenient_eq,
    FieldDescriptor.convertPartial_eq_none_iff hnull, warnings_set]
  simp only [Option.mem_toList, FieldDescriptor.failure?_eq_some_iff]
  constructor
  · rintro ⟨cause, hfails⟩
    exact ⟨_, ⟨cause, hfails, rfl⟩, rfl⟩
  · rintro ⟨_, ⟨cause, hfails, -⟩, -⟩
    exact ⟨cause, hfails⟩

end Own

/-! ## All flavours -/

namespace Builder

/-- What is warned of, and that nothing is lost without it. A build of all fields and one of
columns warn once, with the failure of the strict build; a partial update warns once of each field
that fails, in the order of the fields, and a setter of its own; the strict build warns of nothing.
A given field is left out exactly when a warning covers it. -/
theorem warnings_exact (b : Builder a) :
    ((∃ e, Own.tryBuild b = .error e) ↔ ∃ (i : a.FieldIndex) (cause : ConversionError),
      (a.fields.get i).Fails (b.inputs.get i) cause) ∧
    (∀ e, Own.tryBuild b = .error e →
      b.warnings .lenient = [.degraded a.name e] ∧ b.warnings .columns = [.degraded a.name e]) ∧
    (∀ x, Own.tryBuild b = .ok x → b.warnings .lenient = [] ∧ b.warnings .columns = []) ∧
    (∀ clearUnset, b.warnings (.each clearUnset) =
      (List.finRange a.fields.length).filterMap fun i =>
        (a.fields.get i).failure? (b.inputs.get i)) ∧
    b.warnings .strict = [] ∧
    (∀ m ∈ a.record.members, ∀ (x : a.Own) (v : Value),
      (m.set x v).2 = (m.field.failure? (some v)).toList ∧
      (v.isNull = false →
        (Own.get? (m.set x v).1 m.name = none ↔ ∃ w ∈ (m.set x v).2, Covers m.place w))) ∧
    ∀ (flavour : Flavour) (i : a.FieldIndex) (v : Value), b.inputs.get i = some v →
      v.isNull = false → (b.LeavesOut i flavour ↔ ∃ w ∈ b.warnings flavour, Covers i w) := by
  have herror : ∀ e, Own.tryBuild b = .error e ↔ b.tryBuild = .error e := fun _ => map_eq_error_iff
  refine ⟨?_, fun e he => warnings_of_error ((herror e).1 he), fun y hy => ?_,
    fun clearUnset => buildFields_warnings b clearUnset, rfl, fun m hm x v => ?_,
    fun flavour i v hinput hnull => leavesOut_iff hinput hnull flavour⟩
  · simp only [herror]
    exact tryBuild_fails_iff
  · obtain ⟨x, hx, -⟩ := map_eq_ok_iff.1 hy
    exact warnings_of_ok hx
  · exact ⟨Own.warnings_set m x v, fun hnull => Own.get?_set_eq_none_iff hm x hnull⟩

/-- A range that is no list is left absent, and the lock beside it is cleared without a warning. -/
example : warnings (⟨#v[some (.str "wide"), none]⟩ : Builder .scalarAxis) (.each true) =
    [.fieldAbsent (.ofField "rerun.blueprint.archetypes.ScalarAxis" "range"
      "rerun.components.Range1D") (.inField "range" (.invalidType "Range1D" "list" "string"))] :=
  rfl

end Builder

end Archetype

end ComponentLog
