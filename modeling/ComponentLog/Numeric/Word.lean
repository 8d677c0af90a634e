/-!
# Signed words of 64 bits

`int64?` takes an integer to the word that reads as it, where there is one
(`int64?_eq_some_iff`).
-/

namespace ComponentLog.Numeric

/-- The word of an integer in the range of 64 bits with sign. -/
def int64? (i : Int) : Option Int64 :=
  if Int64.minValue.toInt ≤ i ∧ i ≤ Int64.maxValue.toInt then some (.ofInt i) else none

theorem int64?_eq_some_iff {i : Int} {w : Int64} : int64? i = some w ↔ w.toInt = i := by
  unfold int64?
  constructor
  · intro h
    split at h
    · next hi =>
      rw [Int64.toInt_minValue, Int64.toInt_maxValue] at hi
      cases h
      exact Int64.toInt_ofInt_of_le hi.1 (Int.lt_of_le_sub_one hi.2)
    · cases h
  · intro h
    subst h
    rw [if_pos ⟨Int64.minValue_le_toInt w, Int64.toInt_le w⟩, Int64.ofInt_toInt]

end ComponentLog.Numeric
