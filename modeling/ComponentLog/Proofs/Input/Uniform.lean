import ComponentLog.Proofs.Input.Shape

/-!
# Uniform arrays

`Uniform v dims` says what an array of the dimensions is by what lies below the value alone: every
value `j` item steps down is a list of `dims[j]` items, and at the last step no list is left. Such
values are the rectangular ones, with the dimensions for their shape (`uniform_iff`). Their leaves
are the entries in row-major order (`getElem?_leaves`).
-/

namespace ComponentLog.Value

/-- The second value is reached from the first by a number of steps to an item. -/
inductive Below : Value → Nat → Value → Prop where
  | here (v : Value) : Below v 0 v
  | item {items : List Value} {v w : Value} {j : Nat} (hv : v ∈ items) (h : Below v j w) :
    Below (list items) (j + 1) w

/-- An array of the dimensions. -/
structure Uniform (v : Value) (dims : List Nat) : Prop where
  /-- below lists without items there are no further dimensions -/
  inner_ne_zero : ∀ d ∈ dims.dropLast, d ≠ 0
  lists : ∀ j (hj : j < dims.length) w, Below v j w →
    ∃ items, w = list items ∧ items.length = dims[j]
  entries : ∀ w, Below v dims.length w → w.isList = false

/-- The value at the end of a path of item indices. -/
def at? (v : Value) : List Nat → Option Value
  | [] => some v
  | i :: path => do
    let items ← v.items?
    let w ← items[i]?
    w.at? path

/-- The place of an index in row-major order, `((i₀ * d₁ + i₁) * d₂ + i₂) * ..`. -/
def rowMajor (dims index : List Nat) : Nat :=
  (dims.zip index).foldl (fun place (d, i) => place * d + i) 0

variable {v w : Value} {items : List Value} {d i j : Nat} {dims index : List Nat}

/-! ## Steps to items -/

theorem below_zero_iff : Below v 0 w ↔ w = v := by
  constructor
  · rintro ⟨⟩
    rfl
  · rintro rfl
    exact .here w

theorem below_succ_iff : Below (list items) (j + 1) w ↔ ∃ v ∈ items, Below v j w := by
  constructor
  · rintro (_ | ⟨hv, h⟩)
    exact ⟨_, hv, h⟩
  · rintro ⟨v, hv, h⟩
    exact .item hv h

/-! ## The dimensions one by one -/

theorem uniform_nil_iff : Uniform v [] ↔ v.isList = false := by
  constructor
  · intro h
    exact h.entries v (.here v)
  · intro h
    refine ⟨by simp, fun j hj => absurd hj (Nat.not_lt_zero j), ?_⟩
    intro w hw
    rwa [below_zero_iff.1 hw]

theorem Uniform.exists_items (h : Uniform v (d :: dims)) :
    ∃ items, v = list items ∧ items.length = d :=
  h.lists 0 (Nat.zero_lt_succ _) v (.here v)

/-- An array has an array of the inner dimensions for each item. -/
theorem uniform_cons_iff : Uniform (list items) (d :: dims) ↔
    items.length = d ∧ (items = [] → dims = []) ∧ ∀ v ∈ items, Uniform v dims := by
  constructor
  · intro h
    obtain ⟨_, ⟨⟩, hlen⟩ := h.exists_items
    refine ⟨hlen, ?_, fun v hv => ⟨fun e he => ?_, fun j hj w hw => ?_, fun w hw => ?_⟩⟩
    · rintro rfl
      cases dims with
      | nil => rfl
      | cons e dims => exact absurd hlen.symm (h.inner_ne_zero d (by simp))
    · refine h.inner_ne_zero e ?_
      cases dims with
      | nil => cases he
      | cons => exact List.mem_cons_of_mem _ he
    · exact h.lists (j + 1) (Nat.succ_lt_succ hj) w (.item hv hw)
    · exact h.entries w (.item hv hw)
  · rintro ⟨hlen, hnil, hall⟩
    refine ⟨fun e he => ?_, fun j hj w hw => ?_, fun w hw => ?_⟩
    · cases dims with
      | nil => cases he
      | cons e' dims =>
        obtain ⟨v, hv⟩ : ∃ v, v ∈ items := List.exists_mem_of_ne_nil _ fun h => by cases hnil h
        rcases List.mem_cons.1 he with rfl | he
        · rw [← hlen]
          exact fun h => List.ne_nil_of_mem hv (List.eq_nil_of_length_eq_zero h)
        · exact (hall v hv).inner_ne_zero e he
    · cases j with
      | zero => exact ⟨items, below_zero_iff.1 hw, hlen⟩
      | succ j =>
        obtain ⟨v, hv, hw⟩ := below_succ_iff.1 hw
        exact (hall v hv).lists j (Nat.lt_of_succ_lt_succ hj) w hw
    · obtain ⟨v, hv, hw⟩ := below_succ_iff.1 hw
      exact (hall v hv).entries w hw

/-- The rectangular values are the uniform arrays, and their shape is the dimensions. -/
theorem uniform_iff : Uniform v dims ↔ v.rectangularShape? = some dims := by
  induction dims generalizing v with
  | nil =>
    rw [uniform_nil_iff]
    constructor
    · exact rectangularShape?_of_not_isList
    · intro h
      cases v with
      | list items =>
        obtain ⟨_, ⟨⟩, -⟩ := rectangularShape?_list_eq_some_iff.1 h
      | _ => rfl
  | cons d dims ih =>
    have hlist : ∀ items : List Value,
        Uniform (list items) (d :: dims) ↔ (list items).rectangularShape? = some (d :: dims) := by
      intro items
      rw [uniform_cons_iff, rectangularShape?_list_eq_some_iff]
      constructor
      · rintro ⟨rfl, hnil, hall⟩
        exact ⟨dims, rfl, hnil, fun v hv => ih.1 (hall v hv)⟩
      · rintro ⟨_, ⟨⟩, hnil, hall⟩
        exact ⟨rfl, hnil, fun v hv => ih.2 (hall v hv)⟩
    constructor
    · intro h
      obtain ⟨items, rfl, -⟩ := h.exists_items
      exact (hlist items).1 h
    · intro h
      obtain ⟨items, rfl⟩ := exists_items_of_isList (isList_of_rectangularShape? h (by simp))
      exact (hlist items).2 h

/-! ## Entries by their index -/

/-- The dimensions that follow scale the place reached so far by their product. -/
theorem foldl_rowMajor (h : List.Forall₂ (· < ·) index dims) (place : Nat) :
    (dims.zip index).foldl (fun place (d, i) => place * d + i) place =
      place * shapeSize dims + rowMajor dims index := by
  unfold rowMajor
  induction h generalizing place with
  | nil => simp [shapeSize]
  | @cons i d index dims _ _ ih =>
    simp only [List.zip_cons_cons, List.foldl_cons, shapeSize]
    rw [ih (place * d + i), ih (0 * d + i), Nat.zero_mul, Nat.zero_add, Nat.add_mul, Nat.mul_assoc]
    omega

theorem rowMajor_cons (h : List.Forall₂ (· < ·) index dims) :
    rowMajor (d :: dims) (i :: index) = i * shapeSize dims + rowMajor dims index := by
  show (dims.zip index).foldl (fun place (d, i) => place * d + i) (0 * d + i) = _
  rw [Nat.zero_mul, Nat.zero_add, foldl_rowMajor h]

theorem rowMajor_lt (h : List.Forall₂ (· < ·) index dims) :
    rowMajor dims index < shapeSize dims := by
  induction h with
  | nil => exact Nat.one_pos
  | @cons i d index dims hi htail ih =>
    have hle : (i + 1) * shapeSize dims ≤ d * shapeSize dims := Nat.mul_le_mul_right _ hi
    rw [Nat.succ_mul] at hle
    rw [rowMajor_cons htail, shapeSize]
    omega

/-- Items of one shape have their leaves one after the other. -/
theorem getElem?_itemLeaves {s : List Nat} (h : ∀ v ∈ items, v.rectangularShape? = some s)
    (hi : i < items.length) {k : Nat} (hk : k < shapeSize s) :
    (itemLeaves items)[i * shapeSize s + k]? = items[i].leaves[k]? := by
  induction items generalizing i with
  | nil => cases hi
  | cons v rest ih =>
    have hlen := length_leaves (h v List.mem_cons_self)
    rw [itemLeaves]
    cases i with
    | zero =>
      rw [Nat.zero_mul, Nat.zero_add, List.getElem?_append_left (by omega), List.getElem_cons_zero]
    | succ i =>
      rw [List.getElem?_append_right (by rw [hlen, Nat.succ_mul]; omega), hlen,
        show (i + 1) * shapeSize s + k - shapeSize s = i * shapeSize s + k by
          rw [Nat.succ_mul]; omega,
        ih (fun w hw => h w (List.mem_cons_of_mem _ hw)) (Nat.lt_of_succ_lt_succ hi),
        List.getElem_cons_succ]

/-- The leaves of an array are its entries in row-major order. -/
theorem getElem?_leaves (h : v.rectangularShape? = some dims)
    (hindex : List.Forall₂ (· < ·) index dims) :
    ∃ w, v.at? index = some w ∧ v.leaves[rowMajor dims index]? = some w := by
  induction hindex generalizing v with
  | nil =>
    have hv : v.isList = false := uniform_nil_iff.1 (uniform_iff.2 h)
    exact ⟨v, rfl, by rw [leaves_of_not_isList hv]; rfl⟩
  | @cons i d index dims hi htail ih =>
    obtain ⟨items, rfl⟩ := exists_items_of_isList (isList_of_rectangularShape? h (by simp))
    obtain ⟨_, ⟨⟩, -, hall⟩ := rectangularShape?_list_eq_some_iff.1 h
    obtain ⟨w, hat, hleaf⟩ := ih (hall _ (List.getElem_mem hi))
    refine ⟨w, ?_, ?_⟩
    · simp [at?, items?, List.getElem?_eq_getElem hi, hat]
    · rw [rowMajor_cons htail, leaves, getElem?_itemLeaves hall hi (rowMajor_lt htail), hleaf]

/-! ## Shape and leaves -/

/-- A value is rectangular when it is an array of some dimensions. These are its shape, it has as
many leaves as their product, and the entry at an index is the leaf at the row-major place of the
index. A list that is not rectangular shows its length alone. -/
theorem shape_exact (v : Value) :
    (v.isRectangular = true ↔ ∃ dims, Uniform v dims) ∧
    (∀ dims, Uniform v dims → dims = v.shape ∧ v.leaves.length = shapeSize dims ∧
      ∀ index, List.Forall₂ (· < ·) index dims →
        ∃ w, v.at? index = some w ∧ v.leaves[rowMajor dims index]? = some w) ∧
    ∀ items, v = list items → v.isRectangular = false → v.shape = [items.length] := by
  refine ⟨?_, fun dims h => ?_, ?_⟩
  · simp only [uniform_iff, isRectangular, Option.isSome_iff_exists]
  · have hrect := uniform_iff.1 h
    exact ⟨(shape_eq_of_rectangular hrect).symm, length_leaves hrect,
      fun index => getElem?_leaves hrect⟩
  · rintro items rfl hragged
    have hnone : (list items).rectangularShape? = none := by
      simpa [isRectangular] using hragged
    rw [shape, hnone, Option.getD_none]

/-- Two rows of three, and a list beside a number. -/
theorem shape_exact_twoRows :
    Uniform (list [list [.int 1, .int 2, .int 3], list [.int 4, .int 5, .int 6]]) [2, 3] ∧
    List.Forall₂ (· < ·) [1, 1] [2, 3] ∧ rowMajor [2, 3] [1, 1] = 4 ∧
    (list [list [.int 1, .int 2, .int 3], list [.int 4, .int 5, .int 6]]).leaves[4]? =
      some (.int 5) ∧
    (list [.int 1, list []]).isRectangular = false ∧ (list [.int 1, list []]).shape = [2] := by
  have harray : Uniform (list [list [.int 1, .int 2, .int 3], list [.int 4, .int 5, .int 6]])
      [2, 3] := uniform_iff.2 rfl
  have hindex : List.Forall₂ (· < ·) [1, 1] [2, 3] := by simp
  obtain ⟨-, hentries, -⟩ := shape_exact
    (list [list [.int 1, .int 2, .int 3], list [.int 4, .int 5, .int 6]])
  obtain ⟨w, hat, hleaf⟩ := (hentries _ harray).2.2 _ hindex
  cases hat
  exact ⟨harray, hindex, rfl, hleaf, rfl, (shape_exact _).2.2 _ rfl rfl⟩

end ComponentLog.Value
