import ComponentLog.Datatype
import ComponentLog.Proofs.Datatype.Reading
import ComponentLog.Proofs.Rows.Inference

/-!
# The rows of an input

Input is a single value (`Datatype.IsSingle`), which is one row, or a list whose items are
rows: `Datatype.ReadsRows` says what each row holds, going by the items alone. Whatever
input is read into values, these are the values of its rows in order, and the shape of the
input splits them into rows of just these lengths (`Datatype.exists_rowwise`). The one
exception is a matrix given as three rows of three.
-/

namespace ComponentLog

open Columnar Value PartitionPlan

namespace Datatype

/-- Input that stands for one value: no list, a flat list of the scalars of a group, or the pair of
an axis and an angle. A flat list headed by a text is a list of names. -/
def IsSingle (d : Datatype) (v : Value) : Prop :=
  match v with
  | .list items =>
    ((∃ k, d.elementKind = .fixedSizeGroup k) ∧ items ≠ [] ∧ v.isFlatList = true ∧
      ∀ s, items.head? ≠ some (.str s)) ∨
    (d = .rotationAxisAngle ∧ (RotationAxisAngle.pair? items).isSome = true)
  | _ => True

/-- The values of each row of an input. The row of an item holds what the item gives alone. -/
inductive ReadsRows (d : Datatype) : Value → List (List d.Carrier) → Prop where
  | single {v : Value} {x : d.Carrier} : d.IsSingle v → d.ofInput v = .ok [x] →
      ReadsRows d v [[x]]
  | items {items : List Value} {vss : List (List d.Carrier)} : ¬ d.IsSingle (.list items) →
      List.Forall₂ (fun v vs => d.ofInput (.list [v]) = .ok vs) items vss →
      ReadsRows d (.list items) vss

/-- The input is read into rows, and its shape gives them their lengths. -/
structure Rowwise (d : Datatype) (v : Value) (vs : List d.Carrier) (vss : List (List d.Carrier)) :
    Prop where
  readsRows : d.ReadsRows v vss
  eq_flatten : vs = vss.flatten
  splittable : Splittable d.elementKind v.shape vs.length
  rowLengths_eq : rowLengths d.elementKind v.shape vs.length = vss.map List.length

theorem isSingle_of_not_isList {d : Datatype} {v : Value} (h : v.isList = false) :
    d.IsSingle v := by
  cases v with
  | list => cases h
  | _ => trivial

/-! ## Scalars -/

section

variable {d : Datatype} {v : Value} {vs : List d.Carrier}

theorem not_isSingle_primitive {items : List Value} (hkind : d.elementKind = .primitive) :
    ¬ d.IsSingle (.list items) := by
  rintro (⟨⟨k, hk⟩, -⟩ | ⟨rfl, -⟩)
  · cases hkind.symm.trans hk
  · cases hkind

theorem rowwise_scalar {target : String} {leaf : Value → Except ConversionError d.Carrier}
    (hkind : d.elementKind = .primitive) (hof : d.ofInput = scalarValues target leaf)
    (hnull : v.isNull = false) (h : d.ofInput v = .ok vs) : ∃ vss, d.Rowwise v vs vss := by
  cases hlist : v.isList with
  | false =>
    obtain ⟨x, -, rfl⟩ : ∃ x, leaf v = .ok x ∧ [x] = vs := by
      rwa [hof, scalarValues_of_not_isList hnull hlist, map_eq_ok_iff] at h
    refine ⟨[[x]], .single (isSingle_of_not_isList hlist) h, rfl, ?_, ?_⟩ <;>
      rw [hkind, shape_of_not_isList hlist]
    · rfl
    · rfl
  | true =>
    obtain ⟨items, rfl⟩ := exists_items_of_isList hlist
    rw [hof] at h
    obtain ⟨inner, vss, hrect, rfl, hrows⟩ := scalarValues_list h
    have hlengths := map_length_eq_replicate hrows fun _ _ h => h.2
    have htotal : vss.flatten.length = items.length * shapeSize inner := by
      rw [length_flatten_eq_totalLength, hlengths, totalLength_replicate]
    refine ⟨vss, .items (not_isSingle_primitive hkind) ?_, rfl, ?_, ?_⟩
    · rw [hof]
      exact hrows.imp fun _ _ h => h.1
    · rw [hkind, shape_eq_of_rectangular hrect]
      exact htotal.symm
    · rw [hkind, shape_eq_of_rectangular hrect, hlengths]
      rfl

end

/-! ## Groups -/

section

variable {d : Datatype} {n : Nat}

/-- The shape of a nested list splits the groups of its items. -/
theorem splittable_nested {len count : Nat} {inner : List Nat} (hinner : inner ≠ [])
    (hdvd : n ∣ shapeSize inner) (hcount : count = len * (shapeSize inner / n)) :
    Splittable (.fixedSizeGroup n) (len :: inner) count ∧
      rowLengths (.fixedSizeGroup n) (len :: inner) count =
        List.replicate len (shapeSize inner / n) := by
  have hshape : ¬ (len :: inner).length < 2 := by
    have := List.length_pos_iff.2 hinner
    simp only [List.length_cons]
    omega
  subst hcount
  refine ⟨.inr ⟨hdvd, ?_⟩, ?_⟩
  · show len * shapeSize inner = _
    rw [Nat.mul_assoc, Nat.div_mul_cancel hdvd]
  · rw [rowLengths_of_long hshape]
    rfl

theorem rowLengths_flat {shape : List Nat} {count : Nat} (h : shape.length < 2) :
    Splittable (.fixedSizeGroup n) shape count ∧
      rowLengths (.fixedSizeGroup n) shape count = List.replicate count 1 :=
  ⟨.inl h, rowLengths_of_short h⟩

theorem isSingle_group_iff {items : List Value} (hkind : d.elementKind = .fixedSizeGroup n) :
    d.IsSingle (.list items) ↔
      items ≠ [] ∧ (list items).isFlatList = true ∧ ∀ s, items.head? ≠ some (.str s) := by
  constructor
  · rintro (⟨-, h⟩ | ⟨rfl, -⟩)
    · exact h
    · cases hkind
  · exact fun h => .inl ⟨⟨n, hkind⟩, h⟩

/-- A list that is read as groups: no values, one group, or rows of whole groups. -/
theorem rowwise_groups {α : Type} {target : String} {leaf : Value → Except ConversionError α}
    {mk : Vector α n → d.Carrier} {items : List Value} {vs : List d.Carrier} (hn : 0 < n)
    (hkind : d.elementKind = .fixedSizeGroup n)
    (hof : d.ofInput (.list items) = (groupValues n target leaf (.list items)).map (·.map mk))
    (hone : ∀ v ∈ items, v.isList = true →
      d.ofInput (.list [v]) = (groupValues n target leaf (.list [v])).map (·.map mk))
    (hhead : ∀ s, items.head? ≠ some (.str s)) (h : d.ofInput (.list items) = .ok vs) :
    ∃ vss, d.Rowwise (.list items) vs vss := by
  obtain ⟨gs, hgs, rfl⟩ : ∃ gs, groupValues n target leaf (.list items) = .ok gs ∧
      gs.map mk = vs := by
    rwa [hof, map_eq_ok_iff] at h
  by_cases hne : items = []
  · subst hne
    have hnil : gs = [] := (Except.ok.inj hgs).symm.trans groups_nil
    subst hnil
    have hshape : (list []).shape.length < 2 := by decide
    refine ⟨[], .items (by simp [isSingle_group_iff hkind]) .nil, rfl, ?_, ?_⟩ <;> rw [hkind]
    · exact (rowLengths_flat hshape).1
    · exact (rowLengths_flat hshape).2
  cases hflat : (list items).isFlatList with
  | true =>
    obtain ⟨g, rfl⟩ := groupValues_flat hn hne hflat hgs
    have hshape : (list items).shape.length < 2 := by
      rw [shape_eq_of_rectangular (rectangularShape?_of_isFlatList hflat), List.length_singleton]
      decide
    refine ⟨[[mk g]], .single ((isSingle_group_iff hkind).2 ⟨hne, hflat, hhead⟩) h, rfl, ?_, ?_⟩ <;>
      rw [hkind]
    · exact (rowLengths_flat hshape).1
    · exact (rowLengths_flat hshape).2
  | false =>
    obtain ⟨inner, gss, hrect, hinner, hdvd, rfl, hrows⟩ := groupValues_nested hn hflat hgs
    have hlengths := map_length_eq_replicate hrows fun _ _ h => h.2
    have hlists : ∀ v ∈ items, v.isList = true := by
      obtain ⟨_, heq, -, hall⟩ := rectangularShape?_list_eq_some_iff.1 hrect
      cases heq
      exact fun v hv => isList_of_rectangularShape? (hall v hv) hinner
    have hcount : (gss.flatten.map mk).length = items.length * (shapeSize inner / n) := by
      rw [List.length_map, length_flatten_eq_totalLength, hlengths, totalLength_replicate]
    obtain ⟨hsplit, hrowLengths⟩ := splittable_nested hinner hdvd hcount
    refine ⟨gss.map (·.map mk), .items ?_ ?_, List.map_flatten, ?_, ?_⟩
    · rw [isSingle_group_iff hkind, hflat]
      simp
    · rw [List.forall₂_map_right_iff]
      refine forall₂_of_mem hrows fun v hv ws _ hws => ?_
      rw [hone v hv (hlists v hv), hws.1]
      rfl
    · rwa [hkind, shape_eq_of_rectangular hrect]
    · rw [hkind, shape_eq_of_rectangular hrect, hrowLengths, List.map_map, ← hlengths]
      simp

/-- A list of numbers or of lists is not headed by a text. -/
theorem head_ne_str_of_groupValues {α : Type} {target : String}
    {leaf : Value → Except ConversionError α} {items : List Value} {gs : List (Vector α n)}
    (hleaf : ∀ s x, leaf (.str s) ≠ .ok x) (h : groupValues n target leaf (.list items) = .ok gs)
    (s : String) : items.head? ≠ some (.str s) := by
  intro hhead
  obtain ⟨rest, rfl⟩ := List.head?_eq_some_iff.1 hhead
  obtain ⟨-, xs, hxs, -⟩ := groupValues_eq_ok_iff.1 h
  cases mapM_eq_ok_iff.1 hxs with
  | cons hx _ => exact hleaf s _ hx

theorem not_ok_of_not_list {α : Type} {target : String} {leaf : Value → Except ConversionError α}
    {v : Value} {gs : List (Vector α n)} (hnull : v.isNull = false) (hlist : v.isList = false) :
    groupValues n target leaf v ≠ .ok gs := by
  intro h
  obtain ⟨hv, -⟩ := groupValues_eq_ok_iff.1 h
  cases hv with
  | null => cases hnull
  | empty => cases hlist
  | flat => cases hlist
  | nested => cases hlist

/-- A datatype that reads all its input as groups of numbers. -/
theorem rowwise_numbers {α : Type} {target : String} {leaf : Value → Except ConversionError α}
    {mk : Vector α n → d.Carrier} {v : Value} {vs : List d.Carrier} (hn : 0 < n)
    (hkind : d.elementKind = .fixedSizeGroup n) (hleaf : ∀ s x, leaf (.str s) ≠ .ok x)
    (hof : d.ofInput = fun v => (groupValues n target leaf v).map (·.map mk))
    (hnull : v.isNull = false) (h : d.ofInput v = .ok vs) : ∃ vss, d.Rowwise v vs vss := by
  obtain ⟨gs, hgs, -⟩ : ∃ gs, groupValues n target leaf v = .ok gs ∧ gs.map mk = vs := by
    rwa [hof, map_eq_ok_iff] at h
  cases hlist : v.isList with
  | false => exact absurd hgs (not_ok_of_not_list hnull hlist)
  | true =>
    obtain ⟨items, rfl⟩ := exists_items_of_isList hlist
    exact rowwise_groups hn hkind (by rw [hof]) (fun _ _ _ => by rw [hof])
      (head_ne_str_of_groupValues hleaf hgs) h

end

/-! ## Values given one by one -/

section

variable {d : Datatype} {vs : List d.Carrier}

/-- The shape puts every value into a row of its own. -/
def UnitRows (d : Datatype) (shape : List Nat) (count : Nat) : Prop :=
  Splittable d.elementKind shape count ∧
    rowLengths d.elementKind shape count = List.replicate count 1

theorem rowwise_single {v : Value} {x : d.Carrier} (hsingle : d.IsSingle v)
    (hrows : d.UnitRows v.shape 1) (h : d.ofInput v = .ok [x]) : d.Rowwise v [x] [[x]] :=
  ⟨.single hsingle h, rfl, hrows.1, hrows.2⟩

/-- A list whose items give one value each. -/
theorem rowwise_items {f : Value → Except ConversionError d.Carrier} {items : List Value}
    (hsingle : ¬ d.IsSingle (.list items))
    (hone : ∀ v ∈ items, ∀ x, f v = .ok x → d.ofInput (.list [v]) = .ok [x])
    (hrows : d.UnitRows (list items).shape vs.length) (h : items.mapM f = .ok vs) :
    d.Rowwise (.list items) vs (vs.map ([·])) := by
  refine ⟨.items hsingle ?_, ?_, hrows.1, ?_⟩
  · rw [List.forall₂_map_right_iff]
    exact forall₂_of_mem (mapM_eq_ok_iff.1 h) fun v hv x _ => hone v hv x
  · rw [← List.flatMap_def, List.flatMap_singleton']
  · rw [hrows.2, List.map_map]
    exact List.map_const'.symm

end

/-! ## Matrices -/

theorem ofInput_mat3x3 {v : Value} (h : v.shape ≠ [3, 3]) :
    ofInput .mat3x3 v =
      (groupValues 9 Mat3x3.name (Leaf.binary32 Mat3x3.name) v).map (·.map Mat3x3.ofRows) := by
  show Mat3x3.ofInput v = _
  simp only [Mat3x3.ofInput, if_neg h]

theorem rowwise_mat3x3 {v : Value} {vs : List Mat3x3} (hshape : v.shape ≠ [3, 3])
    (hnull : v.isNull = false) (h : ofInput .mat3x3 v = .ok vs) :
    ∃ vss, Rowwise .mat3x3 v vs vss := by
  obtain ⟨gs, hgs, -⟩ := map_eq_ok_iff.1 ((ofInput_mat3x3 hshape).symm.trans h)
  cases hlist : v.isList with
  | false => exact absurd hgs (not_ok_of_not_list hnull hlist)
  | true =>
    obtain ⟨items, rfl⟩ := exists_items_of_isList hlist
    refine rowwise_groups (by decide) rfl (ofInput_mat3x3 hshape) (fun w _ _ => ?_)
      (head_ne_str_of_groupValues (fun _ _ h => by cases h) hgs) h
    apply ofInput_mat3x3
    intro hw
    have := head?_shape_list [w]
    rw [hw] at this
    cases this

/-- One matrix as three rows of three, none of which holds a value. -/
def RowsOfMatrix (d : Datatype) (v : Value) : Prop := d = .mat3x3 ∧ v.shape = [3, 3]

theorem length_eq_one_of_rowsOfMatrix {d : Datatype} {v : Value} {vs : List d.Carrier}
    (hv : d.RowsOfMatrix v) (h : d.ofInput v = .ok vs) : vs.length = 1 := by
  obtain ⟨rfl, hshape⟩ := hv
  have hof : ofInput .mat3x3 v = (groupValues 9 Mat3x3.name (Leaf.binary32 Mat3x3.name)
      (.list v.leaves)).map (·.map Mat3x3.ofRows) := by
    show Mat3x3.ofInput v = _
    simp only [Mat3x3.ofInput, if_pos hshape]
  obtain ⟨gs, hgs, rfl⟩ := map_eq_ok_iff.1 (hof.symm.trans h)
  have hleaves : v.leaves.length = 9 := by
    rw [length_leaves (rectangularShape?_eq_shape (by rw [hshape]; decide)), hshape]
    decide
  have hne : v.leaves ≠ [] := List.ne_nil_of_length_pos (by omega)
  obtain ⟨g, rfl⟩ := groupValues_flat (by decide) hne (isFlatList_leaves v) hgs
  rfl

/-! ## View coordinates -/

theorem ofInput_names {items : List Value} {s : String} (h : items.head? = some (.str s)) :
    ofInput .viewCoordinates (.list items) = items.mapM ViewCoordinates.ofName := by
  obtain ⟨rest, rfl⟩ := List.head?_eq_some_iff.1 h
  rfl

theorem ofInput_codes {items : List Value} (h : ∀ s, items.head? ≠ some (.str s)) :
    ofInput .viewCoordinates (.list items) =
      (groupValues 3 ViewCoordinates.name ViewCoordinates.leafCode (.list items)).map
        (·.map ViewCoordinates.mk) := by
  show ViewCoordinates.ofInput (.list items) = _
  unfold ViewCoordinates.ofInput
  split
  · rename_i h'
    cases h'
  · rename_i text rest h'
    cases h'
    exact absurd rfl (h text)
  · rfl

theorem exists_text_of_ofName {v : Value} {x : ViewCoordinates}
    (h : ViewCoordinates.ofName v = .ok x) : ∃ s, v = .str s := by
  cases v with
  | str s => exact ⟨s, rfl⟩
  | _ => cases h

theorem rowwise_viewCoordinates {v : Value} {vs : List ViewCoordinates} (hnull : v.isNull = false)
    (h : ofInput .viewCoordinates v = .ok vs) : ∃ vss, Rowwise .viewCoordinates v vs vss := by
  cases hlist : v.isList with
  | false =>
    cases v with
    | str s =>
      obtain ⟨x, -, rfl⟩ := map_eq_ok_iff.1 h
      exact ⟨[[x]], rowwise_single trivial (rowLengths_flat (Nat.zero_lt_succ 1)) h⟩
    | list => cases hlist
    | null => cases hnull
    | _ => cases h
  | true =>
    obtain ⟨items, rfl⟩ := exists_items_of_isList hlist
    by_cases hhead : ∃ s, items.head? = some (.str s)
    · obtain ⟨s, hs⟩ := hhead
      rw [ofInput_names hs] at h
      have hflat : (list items).isFlatList = true := by
        rw [isFlatList_list_iff]
        intro w hw
        obtain ⟨x, -, hx⟩ := exists_of_mem_forall₂ (mapM_eq_ok_iff.1 h).flip hw
        obtain ⟨t, rfl⟩ := exists_text_of_ofName hx
        rfl
      have hshape : (list items).shape.length < 2 := by
        rw [shape_eq_of_rectangular (rectangularShape?_of_isFlatList hflat), List.length_singleton]
        decide
      refine ⟨_, rowwise_items ?_ ?_ (rowLengths_flat hshape) h⟩
      · exact fun hsingle => ((isSingle_group_iff rfl).1 hsingle).2.2 s hs
      · intro w _ x hx
        obtain ⟨t, rfl⟩ := exists_text_of_ofName hx
        exact mapM_singleton_eq_ok hx
    · have hcodes : ∀ s, items.head? ≠ some (.str s) := fun s hs => hhead ⟨s, hs⟩
      refine rowwise_groups (by decide) rfl (ofInput_codes hcodes) (fun w _ hw => ?_) hcodes h
      obtain ⟨ws, rfl⟩ := exists_items_of_isList hw
      exact ofInput_codes (by simp)

/-! ## Rotations -/

theorem rowwise_rotationAxisAngle {v : Value} {vs : List RotationAxisAngle}
    (hnull : v.isNull = false) (h : ofInput .rotationAxisAngle v = .ok vs) :
    ∃ vss, Rowwise .rotationAxisAngle v vs vss := by
  have hrows : ∀ shape count, UnitRows .rotationAxisAngle shape count := fun _ _ => ⟨trivial, rfl⟩
  cases v with
  | map entries =>
    obtain ⟨x, -, rfl⟩ := map_eq_ok_iff.1 h
    exact ⟨_, rowwise_single trivial (hrows _ _) h⟩
  | list items =>
    cases hpair : (RotationAxisAngle.pair? items).isSome with
    | true =>
      have hof : ofInput .rotationAxisAngle (.list items) =
          (RotationAxisAngle.ofItem (.list items)).map ([·]) := if_pos hpair
      obtain ⟨x, -, rfl⟩ := map_eq_ok_iff.1 (hof.symm.trans h)
      exact ⟨_, rowwise_single (.inr ⟨rfl, hpair⟩) (hrows _ _) h⟩
    | false =>
      have hof : ofInput .rotationAxisAngle (.list items) =
          items.mapM RotationAxisAngle.ofItem := if_neg (by simp [hpair])
      refine ⟨_, rowwise_items ?_ ?_ (hrows _ _) (hof.symm.trans h)⟩
      · rintro (⟨⟨k, hk⟩, -⟩ | ⟨-, h⟩)
        · cases hk
        · simp [hpair] at h
      · intro w _ x hx
        exact mapM_singleton_eq_ok hx
  | null => cases hnull
  | _ => cases h

/-! ## All datatypes -/

/-- Whatever input is read, its shape splits the values into its rows, unless a matrix is given
as three rows. -/
theorem exists_rowwise {d : Datatype} {v : Value} {vs : List d.Carrier}
    (hmatrix : ¬ d.RowsOfMatrix v) (hnull : v.isNull = false)
    (h : d.ofInput v = .ok vs) : ∃ vss, d.Rowwise v vs vss := by
  cases d with
  | bool => exact rowwise_scalar rfl rfl hnull h
  | utf8 => exact rowwise_scalar rfl rfl hnull h
  | vec3D => exact rowwise_numbers (by decide) rfl (fun _ _ h => by cases h) rfl hnull h
  | quaternion => exact rowwise_numbers (by decide) rfl (fun _ _ h => by cases h) rfl hnull h
  | range1D => exact rowwise_numbers (by decide) rfl (fun _ _ h => by cases h) rfl hnull h
  | mat3x3 => exact rowwise_mat3x3 (fun hv => hmatrix ⟨rfl, hv⟩) hnull h
  | rotationAxisAngle => exact rowwise_rotationAxisAngle hnull h
  | viewCoordinates => exact rowwise_viewCoordinates hnull h
  | magnificationFilter => exact rowwise_scalar rfl rfl hnull h

end Datatype

end ComponentLog
