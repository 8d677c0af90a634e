import ComponentLog.Input.Value
import Mathlib.Data.List.Forall2

/-!
# Shapes of rectangular values

A value is rectangular when the items of each of its lists share one shape
(`rectangularShape?_list_eq_some_iff`). It then has as many leaves as the product of its
shape (`length_leaves`), and no leading part of the shape has a product beyond the number
of values it is made of (`shapeSize_take_le_size`).
-/

namespace ComponentLog.Value

/-! ## Uniform items -/

theorem commonShape?_eq_some_iff {ss : List (List Nat)} {s : List Nat} :
    commonShape? ss = some s ↔ (ss = [] → s = []) ∧ ∀ t ∈ ss, t = s := by
  cases ss with
  | nil => simp [commonShape?, eq_comm]
  | cons t ts =>
    simp only [commonShape?, List.all_eq_true, decide_eq_true_eq]
    constructor
    · intro h
      split at h
      · cases h
        exact ⟨by simp, by simpa⟩
      · cases h
    · rintro ⟨-, h⟩
      have ht : t = s := h t List.mem_cons_self
      subst ht
      rw [if_pos fun u hu => h u (List.mem_cons_of_mem _ hu)]

theorem itemShapes?_eq_some_iff {items : List Value} {ss : List (List Nat)} :
    itemShapes? items = some ss ↔
      List.Forall₂ (fun v s => v.rectangularShape? = some s) items ss := by
  induction items generalizing ss with
  | nil => simp [itemShapes?, List.forall₂_nil_left_iff, eq_comm]
  | cons v rest ih =>
    simp only [itemShapes?, Option.bind_eq_bind, Option.bind_eq_some_iff, Option.pure_def,
      Option.some.injEq]
    constructor
    · rintro ⟨s, hs, ts, hts, rfl⟩
      exact .cons hs (ih.1 hts)
    · intro h
      cases h with
      | cons hs hts => exact ⟨_, hs, _, ih.2 hts, rfl⟩

/-- Where every item has the shape, so have the collected shapes. -/
theorem forall₂_shape_iff {items : List Value} {s : List Nat} :
    (∃ ss, List.Forall₂ (fun v s => v.rectangularShape? = some s) items ss ∧
      (ss = [] → s = []) ∧ ∀ t ∈ ss, t = s) ↔
    (items = [] → s = []) ∧ ∀ v ∈ items, v.rectangularShape? = some s := by
  constructor
  · rintro ⟨ss, hss, hnil, hall⟩
    refine ⟨?_, fun v hv => ?_⟩
    · rintro rfl
      cases hss
      exact hnil rfl
    · clear hnil
      induction hss with
      | nil => cases hv
      | cons ht _ ih =>
        rcases List.mem_cons.1 hv with rfl | hv
        · rw [ht, hall _ List.mem_cons_self]
        · exact ih (fun t h => hall t (List.mem_cons_of_mem _ h)) hv
  · rintro ⟨hnil, hall⟩
    refine ⟨items.map fun _ => s, ?_, by simpa using hnil, by simp⟩
    rw [List.forall₂_map_right_iff, List.forall₂_same]
    exact hall

/-- A list is rectangular exactly when its items share one shape. -/
theorem rectangularShape?_list_eq_some_iff {items : List Value} {s : List Nat} :
    (list items).rectangularShape? = some s ↔
      ∃ inner, s = items.length :: inner ∧ (items = [] → inner = []) ∧
        ∀ v ∈ items, v.rectangularShape? = some inner := by
  simp only [rectangularShape?, Option.bind_eq_bind, Option.bind_eq_some_iff, Option.pure_def,
    Option.some.injEq, itemShapes?_eq_some_iff, commonShape?_eq_some_iff]
  constructor
  · rintro ⟨ss, hss, inner, hinner, rfl⟩
    exact ⟨inner, rfl, forall₂_shape_iff.1 ⟨ss, hss, hinner⟩⟩
  · rintro ⟨inner, rfl, hall⟩
    obtain ⟨ss, hss, hinner⟩ := forall₂_shape_iff.2 hall
    exact ⟨ss, hss, inner, hinner, rfl⟩

theorem exists_items_of_isList {v : Value} (h : v.isList = true) : ∃ items, v = list items := by
  cases v with
  | list items => exact ⟨items, rfl⟩
  | _ => cases h

theorem rectangularShape?_of_not_isList {v : Value} (h : v.isList = false) :
    v.rectangularShape? = some [] := by
  cases v <;> first | rfl | cases h

/-- A list of one item puts a one in front of the item's shape. -/
theorem rectangularShape?_singleton {v : Value} {s : List Nat}
    (h : v.rectangularShape? = some s) : (list [v]).rectangularShape? = some (1 :: s) :=
  rectangularShape?_list_eq_some_iff.2 ⟨s, rfl, by simp, by simpa⟩

theorem shape_eq_of_rectangular {v : Value} {s : List Nat} (h : v.rectangularShape? = some s) :
    v.shape = s := by
  cases v with
  | list items => simp only [shape, h, Option.getD_some]
  | _ => exact Option.some.inj h

theorem shape_of_not_isList {v : Value} (h : v.isList = false) : v.shape = [] :=
  shape_eq_of_rectangular (rectangularShape?_of_not_isList h)

theorem head?_shape_list (items : List Value) : (list items).shape.head? = some items.length := by
  unfold shape
  cases h : (list items).rectangularShape? with
  | none => rfl
  | some s =>
    obtain ⟨inner, rfl, -⟩ := rectangularShape?_list_eq_some_iff.1 h
    rfl

/-- More than one dimension is seen only where the value is rectangular. -/
theorem rectangularShape?_eq_shape {v : Value} (h : 2 ≤ v.shape.length) :
    v.rectangularShape? = some v.shape := by
  cases v with
  | list items =>
    unfold shape at h ⊢
    cases hrect : (list items).rectangularShape? with
    | none => simp [hrect] at h
    | some s => rfl
  | _ => simp [shape] at h

/-! ## Flat lists -/

theorem isFlatList_list_iff {items : List Value} :
    (list items).isFlatList = true ↔ ∀ v ∈ items, v.isList = false := by
  simp [isFlatList]

theorem rectangularShape?_of_isFlatList {items : List Value}
    (h : (list items).isFlatList = true) :
    (list items).rectangularShape? = some [items.length] :=
  rectangularShape?_list_eq_some_iff.2 ⟨[], rfl, fun _ => rfl, fun v hv =>
    rectangularShape?_of_not_isList (isFlatList_list_iff.1 h v hv)⟩

theorem itemLeaves_of_isFlatList {items : List Value} (h : (list items).isFlatList = true) :
    itemLeaves items = items := by
  rw [itemLeaves_eq_flatMap]
  have hv := isFlatList_list_iff.1 h
  clear h
  induction items with
  | nil => rfl
  | cons v rest ih =>
    rw [List.flatMap_cons, leaves_of_not_isList (hv v List.mem_cons_self),
      ih fun w hw => hv w (List.mem_cons_of_mem _ hw)]
    rfl

/-- The items of a rectangular list that is not flat are lists all of them. -/
theorem inner_ne_nil_of_not_isFlatList {items : List Value} {inner : List Nat}
    (hall : ∀ v ∈ items, v.rectangularShape? = some inner)
    (h : (list items).isFlatList = false) : inner ≠ [] := by
  rintro rfl
  obtain ⟨v, hv, hlist⟩ : ∃ v ∈ items, v.isList = true := by simpa [isFlatList] using h
  obtain ⟨ws, rfl⟩ := exists_items_of_isList hlist
  obtain ⟨_, h', -⟩ := rectangularShape?_list_eq_some_iff.1 (hall _ hv)
  cases h'

theorem isList_of_rectangularShape? {v : Value} {s : List Nat}
    (h : v.rectangularShape? = some s) (hs : s ≠ []) : v.isList = true := by
  cases v with
  | list items => rfl
  | _ => exact absurd (Option.some.inj h).symm hs

/-! ## Leaves -/

mutual

theorem not_isList_of_mem_leaves : ∀ {v w : Value}, w ∈ v.leaves → w.isList = false
  | list _, _, h => not_isList_of_mem_itemLeaves h
  | null, _, h => by cases List.mem_singleton.1 h; rfl
  | bool _, _, h => by cases List.mem_singleton.1 h; rfl
  | int _, _, h => by cases List.mem_singleton.1 h; rfl
  | float _, _, h => by cases List.mem_singleton.1 h; rfl
  | str _, _, h => by cases List.mem_singleton.1 h; rfl
  | map _, _, h => by cases List.mem_singleton.1 h; rfl

theorem not_isList_of_mem_itemLeaves : ∀ {items : List Value} {w : Value}, w ∈ itemLeaves items →
    w.isList = false
  | [], _, h => by cases h
  | _ :: _, _, h => by
    rw [itemLeaves, List.mem_append] at h
    rcases h with h | h
    · exact not_isList_of_mem_leaves h
    · exact not_isList_of_mem_itemLeaves h

end

theorem isFlatList_leaves (v : Value) : (list v.leaves).isFlatList = true :=
  isFlatList_list_iff.2 fun _ hw => not_isList_of_mem_leaves hw

mutual

/-- A rectangular value has as many leaves as the product of its shape. -/
theorem length_leaves : ∀ {v : Value} {s : List Nat}, v.rectangularShape? = some s →
    v.leaves.length = shapeSize s
  | list items, s, h => by
    obtain ⟨inner, rfl, -, hall⟩ := rectangularShape?_list_eq_some_iff.1 h
    exact length_itemLeaves hall
  | null, _, h => by cases h; rfl
  | bool _, _, h => by cases h; rfl
  | int _, _, h => by cases h; rfl
  | float _, _, h => by cases h; rfl
  | str _, _, h => by cases h; rfl
  | map _, _, h => by cases h; rfl

theorem length_itemLeaves : ∀ {items : List Value} {s : List Nat},
    (∀ v ∈ items, v.rectangularShape? = some s) →
      (itemLeaves items).length = items.length * shapeSize s
  | [], _, _ => by simp [itemLeaves]
  | v :: rest, s, h => by
    have hv := length_leaves (h v List.mem_cons_self)
    have hrest := length_itemLeaves fun w hw => h w (List.mem_cons_of_mem _ hw)
    rw [itemLeaves, List.length_append, hv, hrest, List.length_cons, Nat.add_mul, Nat.one_mul,
      Nat.add_comm]

end

/-! ## Number of parts -/

mutual

/-- How many values a value is made of, itself included. Entries of maps are left out. -/
def size : Value → Nat
  | list items => itemsSize items + 1
  | _ => 1

def itemsSize : List Value → Nat
  | [] => 0
  | v :: rest => size v + itemsSize rest

end

theorem size_pos (v : Value) : 0 < v.size := by
  cases v <;> simp [size]

mutual

theorem shapeSize_take_le_size : ∀ {v : Value} {s : List Nat}, v.rectangularShape? = some s →
    ∀ m, shapeSize (s.take m) ≤ v.size
  | list items, s, h, m => by
    obtain ⟨inner, rfl, -, hall⟩ := rectangularShape?_list_eq_some_iff.1 h
    cases m with
    | zero => simp [shapeSize, size]
    | succ m =>
      have := length_mul_le_itemsSize hall m
      simp only [List.take_succ_cons, shapeSize, size]
      omega
  | null, _, h, m => by cases h; simp [shapeSize, size]
  | bool _, _, h, m => by cases h; simp [shapeSize, size]
  | int _, _, h, m => by cases h; simp [shapeSize, size]
  | float _, _, h, m => by cases h; simp [shapeSize, size]
  | str _, _, h, m => by cases h; simp [shapeSize, size]
  | map _, _, h, m => by cases h; simp [shapeSize, size]

theorem length_mul_le_itemsSize : ∀ {items : List Value} {s : List Nat},
    (∀ v ∈ items, v.rectangularShape? = some s) →
      ∀ m, items.length * shapeSize (s.take m) ≤ itemsSize items
  | [], _, _, _ => by simp [itemsSize]
  | v :: rest, s, h, m => by
    have hv := shapeSize_take_le_size (h v List.mem_cons_self) m
    have hrest := length_mul_le_itemsSize (fun w hw => h w (List.mem_cons_of_mem _ hw)) m
    simp only [List.length_cons, itemsSize, Nat.add_mul, Nat.one_mul]
    omega

end

theorem size_le_itemsSize {v : Value} {items : List Value} (h : v ∈ items) :
    v.size ≤ itemsSize items := by
  induction items with
  | nil => cases h
  | cons w rest ih =>
    simp only [itemsSize]
    rcases List.mem_cons.1 h with rfl | h
    · omega
    · have := ih h
      omega

theorem length_le_itemsSize (items : List Value) : items.length ≤ itemsSize items := by
  induction items with
  | nil => exact Nat.zero_le _
  | cons v rest ih =>
    have := v.size_pos
    simp only [List.length_cons, itemsSize]
    omega

/-- A ragged list shows no more than its length. -/
theorem shapeSize_shape_le_size (v : Value) : shapeSize v.shape ≤ v.size := by
  cases hrect : v.rectangularShape? with
  | some s =>
    have h := shapeSize_take_le_size hrect s.length
    rwa [List.take_length, ← shape_eq_of_rectangular hrect] at h
  | none =>
    cases v with
    | list items =>
      have h := length_le_itemsSize items
      simp only [shape, hrect, Option.getD_none, shapeSize, size]
      omega
    | _ => cases hrect

theorem shapeSize_take_inner_le_size (v : Value) (m : Nat) :
    shapeSize ((v.shape.drop 1).take m) ≤ v.size := by
  have hpos := v.size_pos
  cases hrect : v.rectangularShape? with
  | some s =>
    rw [shape_eq_of_rectangular hrect]
    cases v with
    | list items =>
      obtain ⟨inner, rfl, hnil, hall⟩ := rectangularShape?_list_eq_some_iff.1 hrect
      rw [List.drop_one, List.tail_cons]
      cases items with
      | nil =>
        rw [hnil rfl, List.take_nil]
        exact hpos
      | cons w rest =>
        have hw := shapeSize_take_le_size (hall w List.mem_cons_self) m
        have hle := size_le_itemsSize (List.mem_cons_self (a := w) (l := rest))
        simp only [size]
        omega
    | _ =>
      cases hrect
      simp [shapeSize, size]
  | none =>
    cases v with
    | list items =>
      simp only [shape, hrect, Option.getD_none, List.drop_one, List.tail_cons, List.take_nil,
        shapeSize]
      exact hpos
    | _ => cases hrect

end ComponentLog.Value
