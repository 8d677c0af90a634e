import ComponentLog.Proofs.Rows.Inference

/-!
# Rows of given lengths

A batch takes lengths that sum to its number of values, as long as the values end within the
offsets (`ComponentBatch.partitioned_eq_ok_iff`). Other lengths are refused for their sum, and
values beyond the offsets are a fault.
-/

namespace ComponentLog

open PartitionPlan

/-- Rows that do not end within the offsets are a fault. -/
theorem ComponentColumn.checkRows_of_long {lengths : List Nat} {length : Nat}
    (h : maxOffset < totalLength lengths) (hsize : totalLength lengths < UInt64.size) :
    checkRows lengths length = .error (.fault .offsetOverflow) := by
  unfold checkRows
  rw [sized_eq hsize]
  simp only [bind, Except.bind]
  rw [if_pos h]
  rfl

/-- Rows that pass end within the offsets. -/
theorem ComponentColumn.le_maxOffset_of_checkRows {lengths : List Nat} {length : Nat}
    (h : checkRows lengths length = .ok ()) : totalLength lengths ≤ maxOffset := by
  by_contra hlong
  by_cases hsize : totalLength lengths < UInt64.size
  · cases (checkRows_of_long (Nat.lt_of_not_le hlong) hsize).symm.trans h
  · obtain ⟨rowEnd, hend, -⟩ := bind_eq_ok_iff.1 h
    unfold sized at hend
    rw [if_neg hsize] at hend
    cases hend

namespace ComponentBatch

variable {b : ComponentBatch} {c : ComponentColumn} {lengths : List Nat}

theorem partitioned_eq_bind (b : ComponentBatch) (lengths : List Nat) :
    b.partitioned lengths = (do
      let total ← sized (totalLength lengths)
      if total ≠ b.length then throw (.lengthMismatch b.length total)
      ComponentColumn.checkRows lengths b.length
      return b.inRows lengths) := rfl

/-- Lengths take a batch of as many values as they sum to, within the offsets. -/
theorem partitioned_eq_ok_iff :
    b.partitioned lengths = .ok c ↔
      (b.length = totalLength lengths ∧ totalLength lengths ≤ ComponentColumn.maxOffset) ∧
        c = b.inRows lengths := by
  constructor
  · intro h
    rw [partitioned_eq_bind] at h
    obtain ⟨total, htotal, h⟩ := bind_eq_ok_iff.1 h
    obtain rfl := sized_eq_ok htotal
    split at h
    · cases h
    · rename_i hsum
      obtain ⟨_, hrows, h⟩ := bind_eq_ok_iff.1 h
      cases h
      exact ⟨⟨(not_not.1 hsum).symm, ComponentColumn.le_maxOffset_of_checkRows hrows⟩, rfl⟩
  · rintro ⟨⟨hsum, hoffset⟩, rfl⟩
    have hsize : totalLength lengths < UInt64.size := Nat.lt_of_le_of_lt hoffset (by decide)
    exact partitionedWith_eq ⟨hsum.symm, hsize, rfl, hsum.symm⟩ (hsum ▸ hoffset)

theorem exists_partitioned_iff (h : totalLength lengths ≤ ComponentColumn.maxOffset) :
    (∃ c, b.partitioned lengths = .ok c) ↔ b.length = totalLength lengths := by
  simp only [partitioned_eq_ok_iff, h, and_true, exists_and_left, exists_eq]

/-- Lengths within the offsets that sum to another number are refused for that alone. -/
theorem partitioned_eq_error_iff {e : PartitionError}
    (h : totalLength lengths ≤ ComponentColumn.maxOffset) :
    b.partitioned lengths = .error e ↔
      b.length ≠ totalLength lengths ∧ e = .lengthMismatch b.length (totalLength lengths) := by
  have hsize : totalLength lengths < UInt64.size := Nat.lt_of_le_of_lt h (by decide)
  by_cases hsum : b.length = totalLength lengths
  · rw [partitioned_eq_ok_iff.2 ⟨⟨hsum, h⟩, rfl⟩]
    simp [hsum]
  · rw [partitioned_eq_bind, sized_eq hsize]
    simp only [bind, Except.bind, if_pos (Ne.symm hsum)]
    exact ⟨fun h => ⟨hsum, (Except.error.inj h).symm⟩, fun h => h.2 ▸ rfl⟩

/-- Lengths that sum to the values of the batch fail beyond the offsets only, with a fault. -/
theorem partitioned_of_long (hsum : b.length = totalLength lengths)
    (hlong : ComponentColumn.maxOffset < b.length) :
    ∃ f, b.partitioned lengths = .error (.fault f) := by
  rw [partitioned_eq_bind]
  by_cases hsize : totalLength lengths < UInt64.size
  · have hcheck : ComponentColumn.checkRows lengths b.length = .error (.fault .offsetOverflow) :=
      ComponentColumn.checkRows_of_long (hsum ▸ hlong) hsize
    refine ⟨.offsetOverflow, ?_⟩
    simp only [sized_eq hsize, hcheck, bind, Except.bind, if_neg (not_not.2 hsum.symm)]
  · refine ⟨.sizeOverflow, ?_⟩
    rw [sized, if_neg hsize]
    rfl

end ComponentBatch

end ComponentLog
