import ComponentLog.Rows.Cut

/-!
# Row offsets

A column keeps its rows by where they lie: zero, then the place where each row ends.
Lengths are laid end to end (`Offsets.ofLengths`), and are read back as the differences of
neighbouring offsets (`Offsets.lengths_ofLengths`).
-/

namespace ComponentLog

/-- Where rows of the given lengths end, the first of which begins at `start`. -/
def rowEnds : (start : Nat) → List Nat → List Nat
  | _, [] => []
  | start, n :: ns => (start + n) :: rowEnds (start + n) ns

theorem le_of_mem_rowEnds {start rowEnd : Nat} {ns : List Nat} (h : rowEnd ∈ rowEnds start ns) :
    start ≤ rowEnd := by
  induction ns generalizing start with
  | nil => cases h
  | cons n ns ih =>
    rcases List.mem_cons.1 h with rfl | h
    · exact Nat.le_add_right start n
    · exact Nat.le_of_add_right_le (ih h)

theorem pairwise_rowEnds (start : Nat) (ns : List Nat) :
    (rowEnds start ns).Pairwise (· ≤ ·) := by
  induction ns generalizing start with
  | nil => exact .nil
  | cons n ns ih => exact .cons (fun _ => le_of_mem_rowEnds) (ih (start + n))

/-- Each number less the one before it. -/
def differences : List Nat → List Nat
  | a :: b :: rest => (b - a) :: differences (b :: rest)
  | _ => []

@[simp] theorem length_differences (a : Nat) (as : List Nat) :
    (differences (a :: as)).length = as.length := by
  induction as generalizing a with
  | nil => rfl
  | cons b as ih => rw [differences, List.length_cons, ih, List.length_cons]

theorem differences_rowEnds (start : Nat) (ns : List Nat) :
    differences (start :: rowEnds start ns) = ns := by
  induction ns generalizing start with
  | nil => rfl
  | cons n ns ih => rw [rowEnds, differences, ih, Nat.add_sub_cancel_left]

theorem rowEnds_differences {start : Nat} {ends : List Nat}
    (h : (start :: ends).Pairwise (· ≤ ·)) : rowEnds start (differences (start :: ends)) = ends := by
  induction ends generalizing start with
  | nil => rfl
  | cons e ends ih =>
    obtain ⟨hstart, hends⟩ := List.pairwise_cons.1 h
    rw [differences, rowEnds, Nat.add_sub_cancel' (hstart e List.mem_cons_self), ih hends]

/-- Where the rows of a column lie, which follow one another. -/
structure Offsets where
  /-- where each row ends -/
  ends : List Nat
  pairwise_ends : ends.Pairwise (· ≤ ·)

namespace Offsets

/-- Zero, where the first row begins, and the end of each row. -/
def entries (o : Offsets) : List Nat := 0 :: o.ends

/-- Rows of the given lengths, laid end to end. -/
def ofLengths (lengths : List Nat) : Offsets := ⟨rowEnds 0 lengths, pairwise_rowEnds 0 lengths⟩

/-- The length of each row. -/
def lengths (o : Offsets) : List Nat := differences o.entries

def rowCount (o : Offsets) : Nat := o.ends.length

@[simp] theorem length_lengths (o : Offsets) : o.lengths.length = o.rowCount :=
  length_differences 0 o.ends

@[simp] theorem lengths_ofLengths (lengths : List Nat) : (ofLengths lengths).lengths = lengths :=
  differences_rowEnds 0 lengths

/-- The lengths say all there is to the offsets. -/
@[simp] theorem ofLengths_lengths (o : Offsets) : ofLengths o.lengths = o := by
  have hentries : o.entries.Pairwise (· ≤ ·) := .cons (fun e _ => Nat.zero_le e) o.pairwise_ends
  obtain ⟨ends, hends⟩ := o
  simp only [ofLengths, Offsets.mk.injEq]
  exact rowEnds_differences hentries

end Offsets

end ComponentLog
