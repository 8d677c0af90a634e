import ComponentLog.Proofs.Input.Uniform

/-!
# Counting leaves

Whether a value is rectangular, by the number of its leaves. A rectangular value has as many as the
product of its shape, and a value with as many is rectangular unless it is a list with as many
leaves as items: there the count says nothing, since a ragged list shows its length alone. Such a
list is rectangular when its items are single entries at one depth
(`isRectangular_iff_of_length_leaves`).
-/

namespace ComponentLog.Value

variable {v : Value} {items : List Value}

/-- An array of one entry has no dimension but ones. -/
theorem eq_replicate_one {dims : List Nat} (h : shapeSize dims = 1) :
    dims = List.replicate dims.length 1 := by
  refine List.eq_replicate_iff.2 ⟨rfl, ?_⟩
  induction dims with
  | nil => simp
  | cons d dims ih =>
    have hd : d = 1 := Nat.eq_one_of_mul_eq_one_right h
    have hdims : shapeSize dims = 1 := Nat.eq_one_of_mul_eq_one_left h
    exact List.forall_mem_cons.2 ⟨hd, ih hdims⟩

theorem isRectangular_iff : v.isRectangular = true ↔ v.rectangularShape? = some v.shape := by
  rw [isRectangular, Option.isSome_iff_exists]
  constructor
  · rintro ⟨s, hs⟩
    rw [hs, shape_eq_of_rectangular hs]
  · intro h
    exact ⟨v.shape, h⟩

theorem exists_items_of_ragged (h : v.isRectangular = false) :
    ∃ items, v = list items ∧ v.shape = [items.length] := by
  rw [isRectangular, Option.isSome_eq_false_iff, Option.isNone_iff_eq_none] at h
  cases v with
  | list items => exact ⟨items, rfl, by rw [shape, h, Option.getD_none]⟩
  | _ => cases h

/-- With as many leaves as items, the items must be single entries inside equally many lists. -/
theorem isRectangular_iff_of_length_leaves (h : (list items).leaves.length = items.length) :
    (list items).isRectangular = true ↔
      ∃ depth, ∀ w ∈ items, Uniform w (List.replicate depth 1) := by
  rw [isRectangular, Option.isSome_iff_exists]
  simp only [uniform_iff]
  constructor
  · rintro ⟨s, hs⟩
    obtain ⟨inner, rfl, -, hall⟩ := rectangularShape?_list_eq_some_iff.1 hs
    by_cases hnil : items.length = 0
    · rw [List.length_eq_zero_iff.1 hnil]
      exact ⟨0, by simp⟩
    · have hone : shapeSize inner = 1 := by
        rwa [leaves, length_itemLeaves hall, Nat.mul_eq_left hnil] at h
      rw [eq_replicate_one hone] at hall
      exact ⟨inner.length, hall⟩
  · rintro ⟨depth, hall⟩
    cases items with
    | nil => exact ⟨[0], rfl⟩
    | cons w rest => exact ⟨_, rectangularShape?_list_eq_some_iff.2 ⟨_, rfl, by simp, hall⟩⟩

/-- A value is rectangular exactly when it has as many leaves as the product of its shape and, if
it is a list with as many leaves as items, its items are single entries inside equally many
lists. -/
theorem isRectangular_iff_length_leaves (v : Value) :
    v.isRectangular = true ↔
      v.leaves.length = shapeSize v.shape ∧
      ∀ items, v = list items → v.leaves.length = items.length →
        ∃ depth, ∀ w ∈ items, Uniform w (List.replicate depth 1) := by
  constructor
  · intro hrect
    refine ⟨length_leaves (isRectangular_iff.1 hrect), ?_⟩
    rintro items rfl hlen
    exact (isRectangular_iff_of_length_leaves hlen).1 hrect
  · rintro ⟨hcount, hsingle⟩
    by_contra hragged
    obtain ⟨items, rfl, hshape⟩ := exists_items_of_ragged (Bool.eq_false_iff.2 hragged)
    -- a ragged list shows its length alone, so the count is that of its items
    have hlen : (list items).leaves.length = items.length := by
      rw [hcount, hshape, shapeSize, shapeSize, Nat.mul_one]
    exact hragged ((isRectangular_iff_of_length_leaves hlen).2 (hsingle items rfl hlen))

/-- A number beside a list of one number has two leaves for its shape `[2]`. -/
theorem isRectangular_mixedDepth :
    ¬ ((list [.int 1, list [.int 2]]).isRectangular = true ↔
      (list [.int 1, list [.int 2]]).leaves.length =
        shapeSize (list [.int 1, list [.int 2]]).shape) := by
  intro h
  cases h.2 rfl

end ComponentLog.Value
