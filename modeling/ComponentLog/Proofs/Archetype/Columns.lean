import ComponentLog.Archetype.Instance
import ComponentLog.Proofs.Datatype.Encoding
import ComponentLog.Proofs.Datatype.Rows
import ComponentLog.Proofs.Rows.Repartition

/-!
# Columns of given fields

A builder's columns are those of its given fields (`Builder.given`) in declaration order. Each
holds the rows of its field's input, which the items of the input give one by one
(`Builder.columns_rows`), and they are the batches of the build split into rows. Only three rows
of three, given for a field of matrices, are no rows (`Builder.columns_agree`).
-/

namespace ComponentLog

open Columnar Value PartitionPlan

/-! ## One field -/

/-- The batch is the column of the values. -/
structure ComponentBatch.Holds (b : ComponentBatch) (f : FieldDescriptor)
    (vs : List f.componentType.Carrier) : Prop where
  descriptor_eq : b.descriptor = f.descriptor
  kind_eq : b.kind = f.componentType.datatype.elementKind
  length_eq : b.length = vs.length
  cells_eq : b.array.cells = vs.map f.componentType.datatype.cell

theorem ComponentBatch.ofInput_eq_ok {f : FieldDescriptor} {v : Value} {b : ComponentBatch}
    (h : ComponentBatch.ofInput f.descriptor f.componentType v = .ok b) :
    ∃ vs, f.componentType.ofInput v = .ok vs ∧ b.Holds f vs := by
  obtain ⟨array, harray, h⟩ := bind_eq_ok_iff.1 h
  cases h
  obtain ⟨vs, hvs, harray⟩ := bind_eq_ok_iff.1 harray
  obtain ⟨s, hs, hlength, hcells⟩ := f.componentType.datatype.toSeries_ok vs
  obtain rfl : s = array := Except.ok.inj (hs.symm.trans harray)
  exact ⟨vs, hvs, rfl, rfl, hlength, hcells⟩

theorem ComponentType.groupSize_pos (c : ComponentType) : 1 ≤ c.datatype.elementKind.groupSize := by
  cases c <;> decide

theorem ComponentType.groupSize_le (c : ComponentType) : c.datatype.elementKind.groupSize ≤ 9 := by
  cases c <;> decide

theorem ComponentBatch.Holds.groupSize_pos {b : ComponentBatch} {f : FieldDescriptor}
    {vs : List f.componentType.Carrier} (h : b.Holds f vs) : 1 ≤ b.kind.groupSize := by
  rw [h.kind_eq]
  exact f.componentType.groupSize_pos

/-- The scalars of a batch that splits into rows are counted in the machine word. -/
theorem ComponentBatch.Holds.flatLength_lt {b : ComponentBatch} {f : FieldDescriptor}
    {vs : List f.componentType.Carrier} (h : b.Holds f vs)
    (hlen : b.length ≤ ComponentColumn.maxOffset) : b.length * b.kind.groupSize < UInt64.size := by
  have hle : b.kind.groupSize ≤ 9 := by
    rw [h.kind_eq]
    exact f.componentType.groupSize_le
  have hmax : ComponentColumn.maxOffset * 9 < UInt64.size := by decide
  have := Nat.mul_le_mul hlen hle
  omega

/-- A row of cells is the column of the values. -/
def ComponentType.Fills (c : ComponentType) (vs : List c.Carrier) (row : List Cell) : Prop :=
  ∃ s, c.toSeries vs = .ok s ∧ s.cells = row

theorem ComponentType.fills_map (c : ComponentType) (vs : List c.Carrier) :
    c.Fills vs (vs.map c.datatype.cell) := by
  obtain ⟨s, hs, -, hcells⟩ := c.datatype.toSeries_ok vs
  exact ⟨s, hs, hcells⟩

namespace ComponentColumn

/-- The column of a field holds the rows of the field's input, and nothing else. -/
structure HoldsRows (c : ComponentColumn) (f : FieldDescriptor)
    (vss : List (List f.componentType.Carrier)) : Prop where
  descriptor_eq : c.descriptor = f.descriptor
  lengths_eq : c.lengths = vss.map List.length
  rows_fill : List.Forall₂ f.componentType.Fills vss c.rows
  values_eq : c.values.cells = c.rows.flatten

/-- The rows of the column are those of an input. -/
def IsRowsOf (c : ComponentColumn) (f : FieldDescriptor) (v : Value) : Prop :=
  ∃ vss, f.componentType.datatype.ReadsRows v vss ∧ c.HoldsRows f vss

theorem holdsRows_of_toBatch {c : ComponentColumn} {f : FieldDescriptor}
    {vss : List (List f.componentType.Carrier)} (hb : c.toBatch.Holds f vss.flatten)
    (h : c.lengths = vss.map List.length) : c.HoldsRows f vss := by
  have hrows : c.rows = vss.map (·.map f.componentType.datatype.cell) := by
    show cut c.lengths c.toBatch.array.cells = _
    rw [hb.cells_eq, h, map_cut, cut_flatten]
  refine ⟨hb.descriptor_eq, h, ?_, ?_⟩
  · rw [hrows, List.forall₂_map_right_iff, List.forall₂_same]
    exact fun vs _ => f.componentType.fills_map vs
  · rw [hrows, ← List.map_flatten]
    exact hb.cells_eq

end ComponentColumn

/-! ## Inference for one field -/

/-- A value that is made of fewer parts than the machine word counts has a shape whose products
fit the word. -/
theorem PartitionPlan.productsFit_of_size {kind : ElementKind} {v : Value} {n : Nat}
    (hsize : v.size < UInt64.size) (hflat : n * kind.groupSize < UInt64.size) :
    ProductsFit kind v.shape n := by
  refine ⟨fun m _ => Nat.lt_of_le_of_lt (v.shapeSize_take_inner_le_size m) hsize, ?_, hflat⟩
  have hwhole := v.shapeSize_shape_le_size
  cases hshape : v.shape with
  | nil => decide
  | cons len inner =>
    rw [hshape] at hwhole
    exact Nat.lt_of_le_of_lt hwhole hsize

/-! ## Inputs that are given -/

/-- A field with its input, where that is not null. -/
def FieldDescriptor.given? (f : FieldDescriptor) : Option Value → Option (FieldDescriptor × Value)
  | some v => if v.isNull then none else some (f, v)
  | none => none

theorem FieldDescriptor.given?_eq_some_iff {f : FieldDescriptor} {input : Option Value}
    {fv : FieldDescriptor × Value} :
    f.given? input = some fv ↔ f = fv.1 ∧ input = some fv.2 ∧ fv.2.isNull = false := by
  obtain ⟨g, w⟩ := fv
  cases input with
  | none => simp [given?]
  | some v =>
    cases hnull : v.isNull with
    | true =>
      simp only [given?, hnull, if_true, Option.some.injEq]
      constructor
      · intro h
        cases h
      · rintro ⟨-, rfl, h⟩
        cases hnull.symm.trans h
    | false =>
      simp only [given?, hnull, Bool.false_eq_true, if_false, Option.some.injEq, Prod.mk.injEq]
      constructor
      · rintro ⟨rfl, rfl⟩
        exact ⟨rfl, rfl, hnull⟩
      · rintro ⟨rfl, rfl, -⟩
        exact ⟨rfl, rfl⟩

/-- An input that converts leaves its field absent, or gives the field a batch. -/
theorem FieldDescriptor.convertInput_eq_ok {f : FieldDescriptor} {input : Option Value}
    {b? : Option ComponentBatch} (h : f.convertInput input = .ok b?) :
    (f.given? input = none ∧ b? = none) ∨
      ∃ v b, input = some v ∧ f.given? input = some (f, v) ∧ b? = some b ∧
        ComponentBatch.ofInput f.descriptor f.componentType v = .ok b := by
  cases input with
  | none => exact .inl ⟨rfl, (Except.ok.inj h).symm⟩
  | some v =>
    have h' : f.convert v = .ok b? := h
    unfold convert at h'
    cases hnull : v.isNull with
    | true =>
      rw [hnull, if_pos rfl] at h'
      exact .inl ⟨by simp [given?, hnull], (Except.ok.inj h').symm⟩
    | false =>
      rw [hnull, if_neg (by simp)] at h'
      split at h'
      · rename_i b hb
        exact .inr ⟨v, b, rfl, by simp [given?, hnull], (Except.ok.inj h').symm, hb⟩
      · cases h'

theorem Archetype.Instance.present_ofBatches {a : Archetype}
    {batches : List (Option ComponentBatch)} (h : batches.length = a.fields.length) :
    (ofBatches batches : Instance a).present = batches.filterMap id := by
  have hlist : (ofBatches batches : Instance a).batches.toList = batches := by
    apply List.ext_getElem
    · simp [h]
    · intro i _ hi
      simp [ofBatches, hi]
  unfold present
  rw [hlist]

namespace Archetype.Builder

theorem inferredColumn_eq_ok {b : ComponentBatch} {v : Value} {c : ComponentColumn}
    (hk : 1 ≤ b.kind.groupSize) (h : inferredColumn b (some v) = .ok c) :
    c.toBatch = b ∧ c.lengths = rowLengths b.kind v.shape b.length := by
  obtain ⟨p, hp, hc⟩ := bind_eq_ok_iff.1 h
  obtain ⟨-, hlengths, hb⟩ := ComponentBatch.eq_ok_of_partitionedWith hc
  exact ⟨hb, elementLengths_of_infer hk hp hlengths⟩

section

variable {f : FieldDescriptor} {v : Value} {b : ComponentBatch} {c : ComponentColumn}

/-- One matrix does not split into three rows. -/
theorem inferredColumn_rowsOfMatrix (hv : f.componentType.datatype.RowsOfMatrix v)
    (hb : ComponentBatch.ofInput f.descriptor f.componentType v = .ok b) :
    inferredColumn b (some v) = .error (.unsplittableShape [3, 3] 1) := by
  obtain ⟨vs, hvs, hholds⟩ := ComponentBatch.ofInput_eq_ok hb
  have hlength : b.length = 1 :=
    hholds.length_eq.trans (Datatype.length_eq_one_of_rowsOfMatrix hv hvs)
  have hkind : b.kind = .fixedSizeGroup 9 := by
    rw [hholds.kind_eq, hv.1]
    rfl
  have hinfer : infer (.fixedSizeGroup 9) [3, 3] 1 = .error (.unsplittableShape [3, 3] 1) := rfl
  show infer b.kind v.shape b.length >>= b.partitionedWith = _
  rw [hkind, hlength, hv.2, hinfer]
  rfl

/-- A column that is found holds the rows of the input. -/
theorem isRowsOf_of_inferredColumn (hnull : v.isNull = false)
    (hb : ComponentBatch.ofInput f.descriptor f.componentType v = .ok b)
    (h : inferredColumn b (some v) = .ok c) : c.IsRowsOf f v := by
  by_cases hv : f.componentType.datatype.RowsOfMatrix v
  · cases (inferredColumn_rowsOfMatrix hv hb).symm.trans h
  · obtain ⟨vs, hvs, hholds⟩ := ComponentBatch.ofInput_eq_ok hb
    obtain ⟨vss, hrows⟩ := Datatype.exists_rowwise hv hnull hvs
    obtain ⟨rfl, hlengths⟩ := inferredColumn_eq_ok hholds.groupSize_pos h
    rw [hholds.kind_eq, hholds.length_eq, hrows.rowLengths_eq] at hlengths
    rw [hrows.eq_flatten] at hholds
    exact ⟨vss, hrows.readsRows, ComponentColumn.holdsRows_of_toBatch hholds hlengths⟩

/-- Every other batch is split, and comes back when the rows are dropped. -/
theorem inferredColumn_cases (hnull : v.isNull = false)
    (hb : ComponentBatch.ofInput f.descriptor f.componentType v = .ok b)
    (hsize : v.size < UInt64.size) (hlen : b.length ≤ ComponentColumn.maxOffset) :
    (f.componentType.datatype.RowsOfMatrix v ∧
      inferredColumn b (some v) = .error (.unsplittableShape [3, 3] 1)) ∨
    (¬ f.componentType.datatype.RowsOfMatrix v ∧
      ∃ c, inferredColumn b (some v) = .ok c ∧ c.toBatch = b) := by
  by_cases hv : f.componentType.datatype.RowsOfMatrix v
  · exact .inl ⟨hv, inferredColumn_rowsOfMatrix hv hb⟩
  · obtain ⟨vs, hvs, hholds⟩ := ComponentBatch.ofInput_eq_ok hb
    obtain ⟨vss, hrows⟩ := Datatype.exists_rowwise hv hnull hvs
    have hsplit : Splittable b.kind v.shape b.length := by
      rw [hholds.kind_eq, hholds.length_eq]
      exact hrows.splittable
    have hfit := productsFit_of_size hsize (hholds.flatLength_lt hlen)
    rcases infer_cases hholds.groupSize_pos hfit with ⟨-, p, hp, hinto⟩ | ⟨hsplit', -⟩
    · refine .inr ⟨hv, b.inRows (rowLengths b.kind v.shape b.length), ?_, rfl⟩
      show infer b.kind v.shape b.length >>= b.partitionedWith = _
      rw [hp]
      exact b.partitionedWith_eq hinto hlen
    · exact absurd hsplit hsplit'

end

/-! ## Given fields -/

variable {a : Archetype} {b : Builder a}

/-- The fields with an input that is not null, in declaration order. -/
def given (b : Builder a) : List (FieldDescriptor × Value) :=
  (a.fields.zip b.inputs.toList).filterMap fun (f, input) => f.given? input

theorem mem_given {fv : FieldDescriptor × Value} :
    fv ∈ b.given ↔ ∃ i : a.FieldIndex, a.fields.get i = fv.1 ∧
      b.inputs.get i = some fv.2 ∧ fv.2.isNull = false := by
  unfold given
  rw [List.mem_filterMap]
  constructor
  · rintro ⟨⟨f, input⟩, hmem, hgiven⟩
    obtain ⟨rfl, rfl, hnull⟩ := FieldDescriptor.given?_eq_some_iff.1 hgiven
    obtain ⟨i, hi, hget⟩ := List.mem_iff_getElem.1 hmem
    rw [List.length_zip, Vector.length_toList, Nat.min_self] at hi
    rw [List.getElem_zip, Prod.mk.injEq] at hget
    exact ⟨⟨i, hi⟩, hget.1, hget.2, hnull⟩
  · rintro ⟨i, hf, hinput, hnull⟩
    refine ⟨(fv.1, some fv.2), ?_, FieldDescriptor.given?_eq_some_iff.2 ⟨rfl, rfl, hnull⟩⟩
    rw [List.mem_iff_getElem]
    refine ⟨i, by simp, ?_⟩
    rw [List.getElem_zip, Prod.mk.injEq]
    exact ⟨hf, hinput⟩

/-- The input of a field by its name. -/
def input? (b : Builder a) (name : String) : Option Value := do
  let i ← a.fieldIndex? name
  b.inputs.get i

/-- The batches that are present, each with its input. -/
def presentWith (batches : List (Option ComponentBatch)) (inputs : List (Option Value)) :
    List (ComponentBatch × Option Value) :=
  (batches.zip inputs).filterMap fun (b?, input) => b?.map (·, input)

/-- The batch next to its input is that of a field with the input. -/
def IsBatchOf (fv : FieldDescriptor × Value) (bi : ComponentBatch × Option Value) : Prop :=
  ComponentBatch.ofInput fv.1.descriptor fv.1.componentType fv.2 = .ok bi.1 ∧ bi.2 = some fv.2

/-- The given fields are those with a batch. -/
theorem forall₂_present {ps : List (FieldDescriptor × Option Value)}
    {batches : List (Option ComponentBatch)}
    (h : List.Forall₂ (fun p b? => p.1.convertInput p.2 = .ok b?) ps batches) :
    List.Forall₂ IsBatchOf
      (ps.filterMap fun (f, input) => f.given? input) (presentWith batches (ps.map (·.2))) := by
  induction h with
  | nil => exact .nil
  | cons h _ ih =>
    rename_i p b? ps batches _
    obtain ⟨f, input⟩ := p
    unfold presentWith at ih ⊢
    rcases f.convertInput_eq_ok h with ⟨hgiven, rfl⟩ | ⟨v, batch, rfl, hgiven, rfl, hbatch⟩
    · simpa [hgiven] using ih
    · simpa [hgiven, IsBatchOf, hbatch] using ih

theorem length_eq_of_convertAll {batches : List (Option ComponentBatch)}
    (h : a.convertAll b.inputs.toList = .ok batches) : batches.length = a.fields.length := by
  obtain ⟨-, -, h⟩ := bind_eq_ok_iff.1 h
  rw [length_eq_of_mapM h]
  simp

theorem forall₂_given {batches : List (Option ComponentBatch)}
    (h : a.convertAll b.inputs.toList = .ok batches) :
    List.Forall₂ IsBatchOf b.given (presentWith batches b.inputs.toList) := by
  obtain ⟨-, -, h⟩ := bind_eq_ok_iff.1 h
  have hinputs : (a.fields.zip b.inputs.toList).map (·.2) = b.inputs.toList :=
    List.map_snd_zip (by simp)
  have := forall₂_present (mapM_eq_ok_iff.1 h)
  rwa [hinputs] at this

theorem columns_of_convertAll {batches : List (Option ComponentBatch)}
    (h : a.convertAll b.inputs.toList = .ok batches) :
    b.columns.1 = (presentWith batches b.inputs.toList).mapM fun (batch, input) =>
      inferredColumn batch input := by
  unfold columns
  rw [h]
  rfl

/-! ## Rows -/

/-- Every column holds the rows of its field's input. -/
theorem columns_rows {x : Instance a} {cols : ComponentColumnList} (hbuild : b.tryBuild = .ok x)
    (hcols : b.columns.1 = .ok cols) :
    List.Forall₂ (fun (fv : FieldDescriptor × Value) col => col.IsRowsOf fv.1 fv.2)
      b.given cols := by
  obtain ⟨batches, hbatches, -⟩ := map_eq_ok_iff.1 hbuild
  rw [columns_of_convertAll hbatches, mapM_eq_ok_iff] at hcols
  refine forall₂_of_mem (forall₂_comp (forall₂_given hbatches) hcols) ?_
  rintro ⟨f, v⟩ hfv col - ⟨⟨batch, input⟩, ⟨hbatch, rfl⟩, hcol⟩
  obtain ⟨-, -, -, hnull⟩ := mem_given.1 hfv
  exact isRowsOf_of_inferredColumn hnull hbatch hcol

/-- Two ranges as rows, and one flag. -/
def twoRanges : Builder .scalarAxis :=
  ⟨#v[some (.list [.list [.float ⟨0⟩, .float ⟨1⟩], .list [.float ⟨2⟩, .float ⟨3⟩]]),
    some (.bool true)]⟩

theorem columns_rows_twoRanges : ∃ x cols, twoRanges.tryBuild = .ok x ∧
    twoRanges.columns.1 = .ok cols ∧ cols.map (·.lengths) = [[1, 1], [1]] ∧
      List.Forall₂ (fun (fv : FieldDescriptor × Value) col => col.IsRowsOf fv.1 fv.2)
        twoRanges.given cols :=
  ⟨_, _, rfl, rfl, rfl, columns_rows rfl rfl⟩

/-! ## Agreement with the build -/

/-- All fields convert, and the field of matrices is given one matrix as three rows. -/
def SplitsMatrix (b : Builder a) : Prop :=
  (∃ x, b.tryBuild = .ok x) ∧ a = .instancePoses3D ∧
    ∃ v, b.input? "mat3x3" = some v ∧ v.shape = [3, 3]

/-- The one field of matrices. -/
theorem datatype_eq_mat3x3_iff (a : Archetype) (i : a.FieldIndex) :
    (a.fields.get i).componentType.datatype = .mat3x3 ↔
      a = .instancePoses3D ∧ a.fieldIndex? "mat3x3" = some i := by
  cases a <;> revert i <;> decide

theorem exists_rowsOfMatrix_iff :
    (∃ fv ∈ b.given, fv.1.componentType.datatype.RowsOfMatrix fv.2) ↔
      a = .instancePoses3D ∧ ∃ v, b.input? "mat3x3" = some v ∧ v.shape = [3, 3] := by
  constructor
  · rintro ⟨⟨f, v⟩, hfv, hdatatype, hshape⟩
    obtain ⟨i, rfl, hinput, -⟩ := mem_given.1 hfv
    obtain ⟨ha, hi⟩ := (datatype_eq_mat3x3_iff a i).1 hdatatype
    exact ⟨ha, v, by simp [input?, hi, hinput], hshape⟩
  · rintro ⟨ha, v, hinput, hshape⟩
    obtain ⟨i, hi, hinput⟩ := Option.bind_eq_some_iff.1 hinput
    have hnull : v.isNull = false := by
      cases v with
      | null => cases hshape
      | _ => rfl
    refine ⟨(a.fields.get i, v), mem_given.2 ⟨i, rfl, hinput, hnull⟩, ?_, hshape⟩
    exact (datatype_eq_mat3x3_iff a i).2 ⟨ha, hi⟩

theorem map_fst_presentWith {batches : List (Option ComponentBatch)} {inputs : List (Option Value)}
    (h : batches.length ≤ inputs.length) :
    (presentWith batches inputs).map (·.1) = batches.filterMap id := by
  unfold presentWith
  rw [List.map_filterMap]
  conv => rhs; rw [← List.map_fst_zip h, List.filterMap_map]
  congr 1
  funext ⟨b?, input⟩
  cases b? <;> rfl

theorem build_of_ok {x : Instance a} (h : b.tryBuild = .ok x) : b.build = (x, []) := by
  unfold build
  rw [h]

/-- A failed conversion leaves no fields, and is warned of. -/
theorem build_of_error {e : ConversionError} (h : b.tryBuild = .error e) :
    b.build = (.absent, [.degraded a.name e]) := by
  unfold build
  rw [h]

theorem columns_eq_of_error {e : ConversionError} (h : b.tryBuild = .error e) :
    b.columns = (.ok [], [.degraded a.name e]) := by
  have hconvert : a.convertAll b.inputs.toList = .error e := map_eq_error_iff.1 h
  unfold columns
  rw [hconvert]

/-- A failed conversion leaves no columns and no batches. -/
theorem columns_of_error {e : ConversionError} (h : b.tryBuild = .error e) :
    b.columns.1 = .ok [] ∧ b.build.1.present = [] := by
  rw [columns_eq_of_error h, build_of_error h]
  exact ⟨rfl, by simp [Instance.absent, Instance.present]⟩

/-- A conversion gives the present batches, and each of them splits into rows or is a matrix. -/
theorem columns_of_ok {x : Instance a} (h : b.tryBuild = .ok x)
    (hsize : ∀ fv ∈ b.given, fv.2.size < UInt64.size)
    (hlen : ∀ batch ∈ x.present, batch.length ≤ ComponentColumn.maxOffset) :
    ((∃ fv ∈ b.given, fv.1.componentType.datatype.RowsOfMatrix fv.2) ∧
      b.columns.1 = .error (.unsplittableShape [3, 3] 1)) ∨
    ((∀ fv ∈ b.given, ¬ fv.1.componentType.datatype.RowsOfMatrix fv.2) ∧
      ∃ cols, b.columns.1 = .ok cols ∧ cols.map ComponentColumn.toBatch = x.present) := by
  obtain ⟨batches, hbatches, rfl⟩ := map_eq_ok_iff.1 h
  have hlength := length_eq_of_convertAll hbatches
  have hpresent : (presentWith batches b.inputs.toList).map (·.1) =
      (Instance.ofBatches batches : Instance a).present := by
    rw [map_fst_presentWith (by simp [hlength]), Instance.present_ofBatches hlength]
  have hfields := forall₂_of_mem (forall₂_given hbatches) (S := fun fv bi =>
      (fv.1.componentType.datatype.RowsOfMatrix fv.2 ∧
        inferredColumn bi.1 bi.2 = .error (.unsplittableShape [3, 3] 1)) ∨
      (¬ fv.1.componentType.datatype.RowsOfMatrix fv.2 ∧
        ∃ c, inferredColumn bi.1 bi.2 = .ok c ∧ c.toBatch = bi.1)) <| by
    rintro ⟨f, v⟩ hfv ⟨batch, input⟩ hbi ⟨hbatch, rfl⟩
    obtain ⟨-, -, -, hnull⟩ := mem_given.1 hfv
    refine inferredColumn_cases hnull hbatch (hsize _ hfv) (hlen _ ?_)
    rw [← hpresent]
    exact List.mem_map_of_mem hbi
  rw [columns_of_convertAll hbatches, ← hpresent]
  rcases mapM_cases hfields with ⟨hmatrix, hcols⟩ | ⟨hmatrix, cols, hcols, hbatch⟩
  · exact .inl ⟨hmatrix, hcols⟩
  · refine .inr ⟨hmatrix, cols, hcols, ?_⟩
    rw [← List.forall₂_eq_eq_eq, List.forall₂_map_left_iff, List.forall₂_map_right_iff]
    exact hbatch.flip

/-- Columns fail only for a matrix given as three rows, and that with one error. All others are
the batches of the build, those of a failed conversion included. No value in memory reaches the
bound of `hsize`. -/
theorem columns_agree (hsize : ∀ fv ∈ b.given, fv.2.size < UInt64.size)
    (hlen : ∀ batch ∈ b.build.1.present, batch.length ≤ ComponentColumn.maxOffset) :
    (∀ e, b.columns.1 = .error e ↔ b.SplitsMatrix ∧ e = .unsplittableShape [3, 3] 1) ∧
    (¬ b.SplitsMatrix → ∃ cols, b.columns.1 = .ok cols ∧
      cols.map ComponentColumn.toBatch = b.build.1.present) := by
  cases hbuild : b.tryBuild with
  | error e =>
    obtain ⟨hcolumns, hpresent⟩ := columns_of_error hbuild
    refine ⟨fun e' => ⟨fun h => ?_, ?_⟩, fun _ => ⟨[], hcolumns, hpresent.symm⟩⟩
    · cases hcolumns.symm.trans h
    · rintro ⟨⟨⟨x, hx⟩, -⟩, -⟩
      cases hbuild.symm.trans hx
  | ok x =>
    have hx : b.build.1 = x := by
      unfold build
      rw [hbuild]
    rw [hx] at hlen ⊢
    rcases columns_of_ok hbuild hsize hlen with ⟨hmatrix, hcolumns⟩ |
      ⟨hmatrix, cols, hcolumns, hcols⟩
    · have hsplits : b.SplitsMatrix := ⟨⟨x, hbuild⟩, exists_rowsOfMatrix_iff.1 hmatrix⟩
      refine ⟨fun e => ⟨fun h => ⟨hsplits, ?_⟩, fun h => ?_⟩, fun h => absurd hsplits h⟩
      · exact (Except.error.inj (hcolumns.symm.trans h)).symm
      · rw [hcolumns, h.2]
    · have hsplits : ¬ b.SplitsMatrix := by
        rintro ⟨-, hgiven⟩
        obtain ⟨fv, hfv, hv⟩ := exists_rowsOfMatrix_iff.2 hgiven
        exact hmatrix fv hfv hv
      refine ⟨fun e => ⟨fun h => ?_, fun h => absurd h.1 hsplits⟩, fun _ => ⟨cols, hcolumns, hcols⟩⟩
      cases hcolumns.symm.trans h

/-- The zero matrix as three rows. -/
def matrixRows : Builder .instancePoses3D :=
  let row := list (.replicate 3 (float .zero))
  ⟨#v[none, none, none, none, some (.list [row, row, row])]⟩

theorem columns_agree_matrixRows :
    (∀ fv ∈ matrixRows.given, fv.2.size < UInt64.size) ∧
    (∀ batch ∈ matrixRows.build.1.present, batch.length ≤ ComponentColumn.maxOffset) ∧
    matrixRows.columns.1 = .error (.unsplittableShape [3, 3] 1) := by
  have hsize : ∀ fv ∈ matrixRows.given, fv.2.size < UInt64.size := by decide
  have hlen : ∀ batch ∈ matrixRows.build.1.present,
      batch.length ≤ ComponentColumn.maxOffset := by decide
  exact ⟨hsize, hlen, ((columns_agree hsize hlen).1 _).2 ⟨⟨⟨_, rfl⟩, rfl, _, rfl, rfl⟩, rfl⟩⟩

end Archetype.Builder

end ComponentLog
