import ComponentLog.Columnar.Series

/-!
# Elements of a column

How many elements a column shows, and elements that hold no null at any depth.
-/

namespace ComponentLog.Columnar

namespace Series

/-- No column has more elements than its length says. -/
theorem length_cells_le (a : Series) : a.cells.length ≤ a.length := by
  have hmask : ∀ (validity? : Option (List Bool)) (cells : List Cell),
      (mask validity? cells).length ≤ cells.length := by
    intro validity? cells
    cases validity? with
    | none => exact Nat.le_refl _
    | some validity =>
      rw [mask, List.length_zipWith]
      exact Nat.min_le_left _ _
  cases a with
  | boolean | uint8 | int64 | float32 | float64 | utf8 | largeUtf8 =>
    simp [cells, length, slotCells]
  | fixedSizeList item size length validity? values =>
    exact Nat.le_trans (hmask _ _) (by simp [Series.length])
  | list item lengths validity? values =>
    exact Nat.le_trans (hmask _ _) (by simp [Series.length])
  | struct length validity? columns =>
    exact Nat.le_trans (hmask _ _) (by simp [Series.length, records])
  | unread type validity => simp [cells, length]

theorem cells_of_isEmpty {a : Series} (h : a.isEmpty = true) : a.cells = [] := by
  have hlength : a.length = 0 := by simpa [isEmpty] using h
  exact List.eq_nil_of_length_eq_zero (Nat.le_zero.mp (hlength ▸ a.length_cells_le))

theorem isEmpty_empty (t : DataType) : (empty t).isEmpty = true :=
  decide_eq_true (length_empty t)

theorem hasNulls_empty (t : DataType) : (empty t).hasNulls = false := by
  cases t with
  | scalar s => cases s <;> rfl
  | fixedSizeList item size =>
    unfold empty
    split
    · rfl
    · rfl
  | list item => rfl
  | largeList item => rfl
  | dictionary values => rfl
  | struct fields => rfl

end Series

/-- Neither null nor with a null inside. -/
inductive Cell.Full : Cell → Prop where
  | bool (b : Bool) : Full (.bool b)
  | uint8 (n : UInt8) : Full (.uint8 n)
  | int64 (i : Int64) : Full (.int64 i)
  | float32 (x : Numeric.Binary32) : Full (.float32 x)
  | float64 (x : Numeric.Binary64) : Full (.float64 x)
  | text (s : String) : Full (.text s)
  | list {cells : List Cell} (h : ∀ c ∈ cells, c.Full) : Full (.list cells)
  | record {fields : List (String × Cell)} (h : ∀ f ∈ fields, f.2.Full) : Full (.record fields)

end ComponentLog.Columnar
