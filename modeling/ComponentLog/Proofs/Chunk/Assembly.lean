import ComponentLog.Chunk
import ComponentLog.Proofs.Rows.GivenLengths
import ComponentLog.Proofs.Traversal

/-!
# Assembling chunks

Columns make up a chunk exactly when they have one number of rows. A batch whose values
end within the offsets becomes one row, so that such batches always make up a chunk
with a stamp, which has one time on each timeline.
-/

namespace ComponentLog

/-! ## Columns of one length -/

namespace Chunk

variable {timelines : List TimeColumn} {components : List ComponentColumn} {path : EntityPath}

/-- All columns have the same number of rows. -/
def Rectangular (timelines : List TimeColumn) (components : List ComponentColumn) : Prop :=
  ∀ a ∈ rowCounts timelines components, ∀ b ∈ rowCounts timelines components, a.2 = b.2

instance : Decidable (Rectangular timelines components) :=
  inferInstanceAs (Decidable (∀ a ∈ rowCounts timelines components,
    ∀ b ∈ rowCounts timelines components, a.2 = b.2))

theorem forall_rowCounts_iff {n : Nat} :
    (∀ a ∈ rowCounts timelines components, a.2 = n) ↔
      (∀ t ∈ timelines, t.length = n) ∧ ∀ c ∈ components, c.rowCount = n := by
  simp [rowCounts, or_imp, forall_and]

theorem rectangular_of_forall {n : Nat} (htimes : ∀ t ∈ timelines, t.length = n)
    (hrows : ∀ c ∈ components, c.rowCount = n) : Rectangular timelines components := by
  have h := forall_rowCounts_iff.mpr ⟨htimes, hrows⟩
  intro a ha b hb
  rw [h a ha, h b hb]

/-- The number of rows that is expected is that of one of the columns. -/
theorem exists_of_firstRowCount? {n : Nat} (h : firstRowCount? timelines components = some n) :
    ∃ a ∈ rowCounts timelines components, a.2 = n := by
  cases components with
  | cons c cs =>
    obtain rfl : c.rowCount = n := by simpa [firstRowCount?] using h
    exact ⟨(c.descriptor.display, c.rowCount), by simp [rowCounts], rfl⟩
  | nil =>
    cases timelines with
    | nil => simp [firstRowCount?] at h
    | cons t ts =>
      obtain rfl : t.length = n := by simpa [firstRowCount?] using h
      exact ⟨(t.timeline, t.length), by simp [rowCounts], rfl⟩

theorem rowCounts_of_firstRowCount?_eq_none (h : firstRowCount? timelines components = none) :
    rowCounts timelines components = [] := by
  simp only [firstRowCount?, Option.or_eq_none_iff, Option.map_eq_none_iff,
    List.head?_eq_none_iff] at h
  simp [rowCounts, h]

/-- Columns of one length make up a chunk, others do not. -/
theorem ofParts_eq_ok_iff {chunk : Chunk} :
    ofParts path timelines components = .ok chunk ↔
      Rectangular timelines components ∧ chunk = ⟨path, timelines, components⟩ := by
  unfold ofParts
  split
  · rename_i hnone
    have hrect : Rectangular timelines components := by
      simp [Rectangular, rowCounts_of_firstRowCount?_eq_none hnone]
    simp [hrect, eq_comm]
  · rename_i expected hexpected
    split
    · rename_i name actual hfind
      have hmem := List.mem_of_find?_eq_some hfind
      have hne : actual ≠ expected := by simpa using List.find?_some hfind
      obtain ⟨a, ha, rfl⟩ := exists_of_firstRowCount? hexpected
      have hrect : ¬ Rectangular timelines components := fun h => hne (h _ hmem a ha)
      simp [hrect]
    · rename_i hfind
      have hall : ∀ a ∈ rowCounts timelines components, a.2 = expected := by
        simpa using hfind
      have hrect : Rectangular timelines components := by
        intro a ha b hb
        rw [hall a ha, hall b hb]
      simp [hrect, eq_comm]

theorem ofParts_eq (path : EntityPath) (h : Rectangular timelines components) :
    ofParts path timelines components = .ok ⟨path, timelines, components⟩ :=
  ofParts_eq_ok_iff.mpr ⟨h, rfl⟩

theorem timelines_of_ofParts {path : EntityPath} {timelines : List TimeColumn}
    {components : List ComponentColumn} {chunk : Chunk}
    (h : ofParts path timelines components = .ok chunk) : chunk.timelines = timelines := by
  rw [(ofParts_eq_ok_iff.mp h).2]

theorem timelines_of_ofBatches {path : EntityPath} {timelines : List TimeColumn}
    {batches : List ComponentBatch} {chunk : Chunk}
    (h : ofBatches path timelines batches = .ok chunk) : chunk.timelines = timelines := by
  obtain ⟨components, -, hparts⟩ := bind_eq_ok_iff.mp h
  exact timelines_of_ofParts hparts

end Chunk

/-! ## One row -/

namespace ComponentBatch

/-- The column whose only row holds all values. -/
def row (b : ComponentBatch) : ComponentColumn := b.inRows [b.length]

theorem rowCount_row (b : ComponentBatch) : b.row.rowCount = 1 := rfl

/-- All values make up one row exactly if they end within the offsets. -/
theorem partitioned_length_eq_ok_iff {b : ComponentBatch} {c : ComponentColumn} :
    b.partitioned [b.length] = .ok c ↔ b.length ≤ ComponentColumn.maxOffset ∧ c = b.row := by
  rw [partitioned_eq_ok_iff]
  simp only [totalLength_cons, totalLength_nil, Nat.add_zero, true_and]
  rfl

end ComponentBatch

/-- Batches make up a chunk of one row with a stamp of one time on each timeline, unless one
of them is too long. -/
theorem Chunk.ofBatches_eq_ok_iff {path : EntityPath} {timelines : List TimeColumn}
    {batches : List ComponentBatch} {chunk : Chunk} (htimes : ∀ t ∈ timelines, t.length = 1) :
    ofBatches path timelines batches = .ok chunk ↔
      (∀ b ∈ batches, b.length ≤ ComponentColumn.maxOffset) ∧
        chunk = ⟨path, timelines, batches.map (·.row)⟩ := by
  have hrect : Rectangular timelines (batches.map (·.row)) :=
    rectangular_of_forall htimes (by simp [ComponentBatch.rowCount_row])
  unfold ofBatches
  simp only [bind_eq_ok_iff, mapM_eq_ok_map_iff fun _ _ =>
    ComponentBatch.partitioned_length_eq_ok_iff]
  constructor
  · rintro ⟨components, ⟨hfit, rfl⟩, h⟩
    exact ⟨hfit, (ofParts_eq_ok_iff.mp h).2⟩
  · rintro ⟨hfit, rfl⟩
    exact ⟨_, ⟨hfit, rfl⟩, ofParts_eq path hrect⟩

/-- A batch that is too long is the only failure, and a fault. -/
theorem Chunk.ofBatches_of_long (path : EntityPath) (timelines : List TimeColumn)
    {batches : List ComponentBatch} (h : ∃ b ∈ batches, ComponentColumn.maxOffset < b.length) :
    ∃ f, ofBatches path timelines batches = .error (.fault f) := by
  obtain ⟨f, hf⟩ : ∃ f, batches.mapM (fun b => b.partitioned [b.length]) = .error (.fault f) := by
    cases hcolumns : batches.mapM fun b => b.partitioned [b.length] with
    | ok components =>
      obtain ⟨b, hb, hlong⟩ := h
      have hfit := ((mapM_eq_ok_map_iff fun _ _ =>
        ComponentBatch.partitioned_length_eq_ok_iff).1 hcolumns).1 b hb
      omega
    | error e =>
      obtain ⟨i, hi, hfail, -⟩ := mapM_eq_error_iff.1 hcolumns
      rcases Nat.lt_or_ge ComponentColumn.maxOffset batches[i].length with hlong | hfit
      · have hsum : batches[i].length = totalLength [batches[i].length] := (Nat.add_zero _).symm
        obtain ⟨f, hf⟩ := ComponentBatch.partitioned_of_long hsum hlong
        cases hfail.symm.trans hf
        exact ⟨f, rfl⟩
      · have hrow := ComponentBatch.partitioned_length_eq_ok_iff.2 ⟨hfit, rfl⟩
        cases hrow.symm.trans hfail
  exact ⟨f, by rw [ofBatches, hf]; rfl⟩

end ComponentLog
