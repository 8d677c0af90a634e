import ComponentLog.Proofs.Chunk.Assembly
import ComponentLog.Proofs.Columnar.Cells

/-!
# Chunks as record batches

A record batch takes columns that fit their fields (`RecordBatch.ofColumns_eq_ok_iff`).
The columns of a chunk have one number of rows, which is the chunk's, and the fields are
made for them, so that a chunk that could be assembled can always be written out
(`Chunk.serializes_of_rectangular`).
-/

namespace ComponentLog

open Columnar

/-! ## Columns that fit -/

namespace RecordBatch

variable {fields : List ColumnField} {columns : List Series} {rowCount : Nat}
  {metadata : List (String × String)}

/-- A column has its field's type, no nulls unless the field allows them, and one element a row. -/
structure Fits (rowCount : Nat) (f : ColumnField) (a : Series) : Prop where
  rows : a.length = rowCount
  type : a.type = f.field.type
  nulls : a.hasNulls = true → f.field.nullable = true

theorem checkColumn_eq_ok_iff {index : Nat} {f : ColumnField} {a : Series} :
    checkColumn rowCount index f a = .ok () ↔ Fits rowCount f a := by
  unfold checkColumn
  split
  · rename_i hrows
    simp only [reduceCtorEq, false_iff]
    exact fun h => hrows h.rows
  split
  · rename_i htype
    simp only [reduceCtorEq, false_iff]
    exact fun h => htype h.type
  rename_i hrows htype
  rw [not_not] at hrows htype
  split
  · rename_i hnulls
    simp only [reduceCtorEq, false_iff]
    intro h
    simp only [Bool.and_eq_true, Bool.not_eq_true'] at hnulls
    exact absurd (h.nulls hnulls.2) (by simp [hnulls.1])
  · rename_i hnulls
    refine iff_of_true rfl ⟨hrows, htype, fun h => ?_⟩
    simpa [h] using hnulls

/-- Columns make up a record batch exactly when each fits its field. -/
theorem ofColumns_eq_ok_iff {b : RecordBatch} :
    ofColumns fields columns rowCount metadata = .ok b ↔
      List.Forall₂ (Fits rowCount) fields columns ∧
        b = ⟨fields, columns, rowCount, metadata⟩ := by
  unfold ofColumns
  by_cases hcount : columns.length = fields.length
  · have hchecks : (fields.zip columns).zipIdx.forM
        (fun x => checkColumn rowCount x.2 x.1.1 x.1.2) = .ok () ↔
          List.Forall₂ (Fits rowCount) fields columns := by
      simp only [forM_eq_ok_iff, checkColumn_eq_ok_iff]
      rw [List.forall₂_iff_zip]
      constructor
      · intro h
        refine ⟨hcount.symm, fun {f a} hmem => ?_⟩
        obtain ⟨i, hi, hget⟩ := List.mem_iff_getElem.mp hmem
        exact h ((f, a), i) (List.mem_zipIdx_iff_getElem?.mpr (hget ▸ List.getElem?_eq_getElem hi))
      · rintro ⟨-, h⟩ ⟨⟨f, a⟩, i⟩ hmem
        exact h (List.mem_of_getElem? (List.mem_zipIdx_iff_getElem?.mp hmem))
    rw [if_neg (not_not.mpr hcount), ← hchecks]
    simp only [bind_eq_ok_iff]
    constructor
    · rintro ⟨_, hpass, h⟩
      exact ⟨hpass, (Except.ok.inj h).symm⟩
    · rintro ⟨hpass, rfl⟩
      exact ⟨(), hpass, rfl⟩
  · rw [if_pos hcount]
    refine iff_of_false (fun h => ?_) fun h => hcount h.1.length_eq.symm
    cases h

/-- The record batch of a chunk: the times of each timeline, then the rows of each component, under
fields made for them, and the path. -/
structure Shows (b : RecordBatch) (c : Chunk) : Prop where
  columns_eq : b.columns =
    c.timelines.map (fun t => .int64 (t.times.map some)) ++ c.components.map (·.list)
  fields_eq : b.fields = c.timelines.map Chunk.timeField ++ c.components.map Chunk.componentField
  fits : List.Forall₂ (Fits c.rowCount) b.fields b.columns
  rowCount_eq : b.rowCount = c.rowCount
  metadata_eq : b.metadata = [("entity_path", c.path.display)]

end RecordBatch

/-! ## Chunks written out -/

namespace Chunk

variable {path : EntityPath} {timelines : List TimeColumn} {components : List ComponentColumn}
  {chunk : Chunk}

/-- Every column of a chunk has as many rows as the chunk. -/
structure Even (c : Chunk) : Prop where
  times : ∀ t ∈ c.timelines, t.length = c.rowCount
  rows : ∀ k ∈ c.components, k.rowCount = c.rowCount

theorem even_of_rectangular (path : EntityPath) (h : Rectangular timelines components) :
    Even ⟨path, timelines, components⟩ := by
  have hall : ∀ a ∈ rowCounts timelines components,
      a.2 = (firstRowCount? timelines components).getD 0 := by
    intro a ha
    cases hfirst : firstRowCount? timelines components with
    | none => simp [rowCounts_of_firstRowCount?_eq_none hfirst] at ha
    | some n =>
      obtain ⟨b, hb, rfl⟩ := exists_of_firstRowCount? hfirst
      exact h a ha b hb
  obtain ⟨htimes, hrows⟩ := forall_rowCounts_iff.mp hall
  exact ⟨htimes, hrows⟩

theorem fits_timeField {n : Nat} {t : TimeColumn} (h : t.length = n) :
    RecordBatch.Fits n (timeField t) (.int64 (t.times.map some)) where
  rows := by simpa [Series.length, TimeColumn.length] using h
  type := rfl
  nulls hnulls := by simp [Series.hasNulls] at hnulls

theorem fits_componentField {n : Nat} {c : ComponentColumn} (h : c.rowCount = n) :
    RecordBatch.Fits n (componentField c) c.list where
  rows := c.length_lengths.trans h
  type := rfl
  nulls hnulls := by simp [ComponentColumn.list, Series.hasNulls, Series.hasNulls.masked] at hnulls

/-- A chunk whose columns are even is written out as it is. -/
theorem Even.exists_recordBatch (h : chunk.Even) :
    ∃ b, chunk.toRecordBatch = .ok b ∧ b.Shows chunk := by
  have hfits : List.Forall₂ (RecordBatch.Fits chunk.rowCount)
      (chunk.timelines.map timeField ++ chunk.components.map componentField)
      (chunk.timelines.map (fun t => .int64 (t.times.map some)) ++
        chunk.components.map (·.list)) := by
    refine List.rel_append ?_ ?_
    · rw [List.forall₂_map_left_iff, List.forall₂_map_right_iff, List.forall₂_same]
      exact fun t ht => fits_timeField (h.times t ht)
    · rw [List.forall₂_map_left_iff, List.forall₂_map_right_iff, List.forall₂_same]
      exact fun c hc => fits_componentField (h.rows c hc)
  exact ⟨_, RecordBatch.ofColumns_eq_ok_iff.mpr ⟨hfits, rfl⟩, rfl, rfl, hfits, rfl, rfl⟩

/-- A chunk with as many rows in every column as it has itself, and written out in full. -/
structure Serializes (c : Chunk) : Prop where
  even : c.Even
  written : ∃ b, c.toRecordBatch = .ok b ∧ b.Shows c

theorem serializes_of_ofParts (h : ofParts path timelines components = .ok chunk) :
    chunk.Serializes := by
  obtain ⟨hrect, rfl⟩ := ofParts_eq_ok_iff.mp h
  have heven := even_of_rectangular path hrect
  exact ⟨heven, heven.exists_recordBatch⟩

theorem serializes_of_ofBatches {batches : List ComponentBatch}
    (h : ofBatches path timelines batches = .ok chunk) : chunk.Serializes := by
  obtain ⟨columns, -, hparts⟩ := bind_eq_ok_iff.mp h
  exact serializes_of_ofParts hparts

end Chunk

/-! ## One static row -/

/-- The only element of a batch's row lists all its values. -/
theorem ComponentBatch.cells_list_row (b : ComponentBatch) :
    b.row.list.cells = [.list b.array.cells] := by
  have htake : b.array.cells.take b.length = b.array.cells :=
    List.take_of_length_le b.array.length_cells_le
  simp [row, ComponentColumn.list, Series.cells, Series.mask, htake]

theorem Chunk.ofBatches_static (path : EntityPath) {batches : List ComponentBatch}
    (hfit : ∀ x ∈ batches, x.length ≤ ComponentColumn.maxOffset) :
    ofBatches path [] batches = .ok ⟨path, [], batches.map (·.row)⟩ :=
  (ofBatches_eq_ok_iff (List.forall_mem_nil _)).mpr ⟨hfit, rfl⟩

/-- One row with a column for each batch, in order, whose only element lists the batch's values;
without batches no row. -/
structure RecordBatch.HoldsRow (b : RecordBatch) (batches : List ComponentBatch) : Prop where
  rowCount_eq : b.rowCount = if batches.isEmpty then 0 else 1
  fields_eq : b.fields = batches.map fun x =>
    ⟨⟨x.descriptor.component, .rowsOf x.array.type, false⟩, x.descriptor.metadata⟩
  cells_eq : b.columns.map (·.cells) = batches.map fun x => [.list x.array.cells]

/-- The row of batches is written out with nothing lost. -/
theorem RecordBatch.Shows.holdsRow {path : EntityPath} {batches : List ComponentBatch}
    {b : RecordBatch} (h : b.Shows ⟨path, [], batches.map (·.row)⟩) : b.HoldsRow batches where
  rowCount_eq := by
    rw [h.rowCount_eq]
    cases batches <;> rfl
  fields_eq := by
    rw [h.fields_eq, List.map_nil, List.nil_append, List.map_map]
    rfl
  cells_eq := by
    rw [h.columns_eq, List.map_nil, List.nil_append, List.map_map, List.map_map]
    exact List.map_congr_left fun x _ => x.cells_list_row

/-- A batch without values is there all the same: its row lists nothing. -/
theorem RecordBatch.HoldsRow.cells_of_isEmpty {b : RecordBatch} {batches : List ComponentBatch}
    (h : b.HoldsRow batches) {i : Nat} (hi : i < batches.length)
    (hempty : batches[i].isEmpty = true) : b.columns[i]?.map (·.cells) = some [.list []] := by
  rw [← List.getElem?_map, h.cells_eq, List.getElem?_map, List.getElem?_eq_getElem hi,
    Option.map_some, Series.cells_of_isEmpty hempty]

end ComponentLog
