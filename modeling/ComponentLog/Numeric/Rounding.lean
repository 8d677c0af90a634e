/-!
# Rounding a ratio to the nearest integer

`nearest num den` is the integer nearest to `num / den`; a tie goes to the even
neighbour. A whole ratio is its own rounding (`nearest_mul`), and the result is
never below the floor nor more than one above it (`floor_le_nearest`,
`nearest_le_floor_succ`).
-/

namespace ComponentLog.Numeric

def nearest (num den : Nat) : Nat :=
  let q := num / den
  let r := num % den
  if 2 * r < den then q
  else if den < 2 * r then q + 1
  else if q % 2 = 0 then q else q + 1

theorem nearest_mul (k : Nat) {den : Nat} (h : 0 < den) : nearest (k * den) den = k := by
  simp [nearest, Nat.mul_div_cancel k h, h]

theorem floor_le_nearest (num den : Nat) : num / den ≤ nearest num den := by
  simp only [nearest]
  split
  · exact Nat.le_refl _
  · split
    · exact Nat.le_succ _
    · split <;> simp

theorem nearest_le_floor_succ (num den : Nat) : nearest num den ≤ num / den + 1 := by
  simp only [nearest]
  split
  · exact Nat.le_succ _
  · split
    · exact Nat.le_refl _
    · split <;> simp

end ComponentLog.Numeric
