import ComponentLog.Proofs.Datatype.Rows
import ComponentLog.Proofs.Numeric.Widening

/-!
# Values given back as input

Every datatype reads its own values back from the input that `toValue` and `listValue` make of
them (`Datatype.ofInput_listValue_toValue`), floats that are not NaN and coordinates of three
directions.
-/

namespace ComponentLog

open Numeric Value

/-! ## Leaves -/

namespace Leaf

theorem binary64_float (target : String) (x : Binary64) : binary64 target (.float x) = .ok x := rfl

theorem binary32_ofBinary32 (target : String) {x : Binary32} (h : x.isNaN = false) :
    binary32 target (.ofBinary32 x) = .ok x := by
  show Except.ok x.widen.narrow = _
  rw [narrow_widen h]

theorem uint8_int (target : String) (c : UInt8) : uint8 target (.int (.ofInt c.toNat)) = .ok c := by
  have hlt := c.toNat_lt
  have hint : (Int64.ofInt c.toNat).toInt = c.toNat := by
    apply Int64.toInt_ofInt_of_le
    · omega
    · omega
  unfold uint8
  simp only [hint]
  rw [if_pos (by omega), Int.toNat_natCast, UInt8.ofNat_toNat]

end Leaf

/-! ## Scalars -/

section

variable {α : Type} {target : String} {leaf : Value → Except ConversionError α} {enc : α → Value}

theorem isFlatList_map (henc : ∀ x, (enc x).isList = false) (xs : List α) :
    (list (xs.map enc)).isFlatList = true := by
  rw [isFlatList_list_iff]
  intro v hv
  obtain ⟨x, -, rfl⟩ := List.mem_map.1 hv
  exact henc x

theorem scalarValues_map (henc : ∀ x, (enc x).isList = false) {xs : List α}
    (h : ∀ x ∈ xs, leaf (enc x) = .ok x) :
    scalarValues target leaf (.list (xs.map enc)) = .ok xs := by
  have hflat := isFlatList_map henc xs
  rw [scalarValues_list_eq_ok_iff, itemLeaves_of_isFlatList hflat]
  exact ⟨by simp [isRectangular, rectangularShape?_of_isFlatList hflat], mapM_map_eq_ok h⟩

/-! ## Groups -/

variable {n : Nat}

theorem groupValues_map (hn : 0 < n) (henc : ∀ x, (enc x).isList = false) {g : Vector α n}
    (h : ∀ x ∈ g.toList, leaf (enc x) = .ok x) :
    groupValues n target leaf (.list (g.toList.map enc)) = .ok [g] := by
  have hflat := isFlatList_map henc g.toList
  have hlen : (g.toList.map enc).length = n := by simp
  have hne : g.toList.map enc ≠ [] := List.ne_nil_of_length_pos (by omega)
  refine groupValues_eq_ok_iff.2 ⟨.flat hne hflat hlen, g.toList, ?_, ?_⟩
  · rw [takenLeaves_list, itemLeaves_of_isFlatList hflat]
    exact mapM_map_eq_ok h
  · have := groups_ungroup hn [g]
    simpa using this.symm

/-- A list of groups is nested, so it is not taken for one group. -/
theorem groupValues_map_map (hn : 0 < n) (henc : ∀ x, (enc x).isList = false)
    {gs : List (Vector α n)} (h : ∀ g ∈ gs, ∀ x ∈ g.toList, leaf (enc x) = .ok x) :
    groupValues n target leaf (.list (gs.map fun g => .list (g.toList.map enc))) = .ok gs := by
  have hleaves : itemLeaves (gs.map fun g => .list (g.toList.map enc)) =
      (ungroup gs).map enc := by
    clear h
    induction gs with
    | nil => rfl
    | cons g gs ih =>
      rw [List.map_cons, itemLeaves, ih, ungroup_cons, List.map_append]
      congr 1
      exact itemLeaves_of_isFlatList (isFlatList_map henc g.toList)
  have hread : ((ungroup gs).map enc).mapM leaf = .ok (ungroup gs) := by
    apply mapM_map_eq_ok
    intro x hx
    obtain ⟨g, hg, hx⟩ := List.mem_flatMap.1 hx
    exact h g hg x hx
  refine groupValues_eq_ok_iff.2 ⟨?_, ungroup gs, ?_, (groups_ungroup hn gs).symm⟩
  · by_cases hnil : gs = []
    · subst hnil
      exact .empty
    · have hflat : (list (gs.map fun g => .list (g.toList.map enc))).isFlatList = false := by
        obtain ⟨g, gs, rfl⟩ := List.exists_cons_of_ne_nil hnil
        rfl
      have hrect : (list (gs.map fun g => .list (g.toList.map enc))).rectangularShape? =
          some ((gs.map fun g => list (g.toList.map enc)).length :: [n]) := by
        rw [rectangularShape?_list_eq_some_iff]
        refine ⟨[n], rfl, by simp [hnil], ?_⟩
        intro v hv
        obtain ⟨g, -, rfl⟩ := List.mem_map.1 hv
        rw [rectangularShape?_of_isFlatList (isFlatList_map henc g.toList)]
        simp
      exact .nested hflat hrect ⟨1, rfl⟩
  · rw [takenLeaves_list, hleaves]
    exact hread

end

namespace Datatype

/-- No float is NaN, and each direction has a code. -/
def Readable : (d : Datatype) → d.Carrier → Prop
  | bool => fun _ => True
  | utf8 => fun _ => True
  | vec3D => fun v => ∀ x ∈ v.xyz.toList, x.isNaN = false
  | quaternion => fun q => ∀ x ∈ q.xyzw.toList, x.isNaN = false
  | range1D => fun r => ∀ x ∈ r.ends.toList, x.isNaN = false
  | mat3x3 => fun m => ∀ x ∈ m.flatColumns.toList, x.isNaN = false
  | rotationAxisAngle => fun r =>
    (∀ x ∈ r.axis.xyz.toList, x.isNaN = false) ∧ r.angle.radians.isNaN = false
  | viewCoordinates => fun v => ∀ c ∈ v.codes.toList, 1 ≤ c ∧ c ≤ 6
  | magnificationFilter => fun _ => True

/-- A datatype reads its values back, many at once and each alone. -/
structure ReadsBack (d : Datatype) : Prop where
  ofInput_listValue : ∀ {vs : List d.Carrier}, (∀ v ∈ vs, d.Readable v) →
    d.ofInput (d.listValue vs) = .ok vs
  ofInput_toValue : ∀ {v : d.Carrier}, d.Readable v → d.ofInput (d.toValue v) = .ok [v]

section

variable {d : Datatype} {α : Type} {n : Nat}

theorem readsBack_scalar {target : String} {leaf : Value → Except ConversionError d.Carrier}
    (hof : d.ofInput = scalarValues target leaf) (henc : ∀ v, (d.toValue v).isList = false)
    (hnull : ∀ v, (d.toValue v).isNull = false) (hread : ∀ v, leaf (d.toValue v) = .ok v) :
    d.ReadsBack where
  ofInput_listValue _ := by
    rw [hof]
    exact scalarValues_map henc fun v _ => hread v
  ofInput_toValue {v} _ := by
    rw [hof, scalarValues_of_not_isList (hnull v) (henc v), hread]
    rfl

/-- A datatype whose values are lists of the scalars of a group. -/
theorem readsBack_groups (target : String) {leaf : Value → Except ConversionError α}
    (enc : α → Value) {mk : Vector α n → d.Carrier} (scalars : d.Carrier → Vector α n) (hn : 0 < n)
    (henc : ∀ x, (enc x).isList = false) (hmk : ∀ v, mk (scalars v) = v)
    (hto : ∀ v, d.toValue v = .list ((scalars v).toList.map enc))
    (hread : ∀ v, d.Readable v → ∀ x ∈ (scalars v).toList, leaf (enc x) = .ok x)
    (hlist : ∀ vs, d.ofInput (d.listValue vs) =
      (groupValues n target leaf (d.listValue vs)).map (·.map mk))
    (hone : ∀ v, d.ofInput (d.toValue v) =
      (groupValues n target leaf (d.toValue v)).map (·.map mk)) : d.ReadsBack where
  ofInput_listValue {vs} h := by
    have hvalue : d.listValue vs =
        .list ((vs.map scalars).map fun g => .list (g.toList.map enc)) := by
      rw [listValue, List.map_map]
      congr 2
      funext v
      exact hto v
    have hgroups : groupValues n target leaf (d.listValue vs) = .ok (vs.map scalars) := by
      rw [hvalue]
      apply groupValues_map_map hn henc
      intro g hg
      obtain ⟨v, hv, rfl⟩ := List.mem_map.1 hg
      exact hread v (h v hv)
    have hid : mk ∘ scalars = id := funext hmk
    rw [hlist, hgroups]
    show Except.ok ((vs.map scalars).map mk) = _
    rw [List.map_map, hid, List.map_id]
  ofInput_toValue {v} h := by
    rw [hone, hto, groupValues_map hn henc (hread v h)]
    show Except.ok [mk (scalars v)] = _
    rw [hmk]

end

theorem isList_ofBinary32 (x : Binary32) : (ofBinary32 x).isList = false := rfl

theorem readsBack_vec3D : ReadsBack .vec3D :=
  readsBack_groups Vec3D.name ofBinary32 Vec3D.xyz (by decide) isList_ofBinary32 (fun _ => rfl)
    (fun _ => rfl) (fun _ h x hx => Leaf.binary32_ofBinary32 _ (h x hx)) (fun _ => rfl) fun _ => rfl

theorem readsBack_quaternion : ReadsBack .quaternion :=
  readsBack_groups Quaternion.name ofBinary32 Quaternion.xyzw (by decide) isList_ofBinary32
    (fun _ => rfl) (fun _ => rfl) (fun _ h x hx => Leaf.binary32_ofBinary32 _ (h x hx))
    (fun _ => rfl) fun _ => rfl

theorem readsBack_range1D : ReadsBack .range1D :=
  readsBack_groups Range1D.name .float Range1D.ends (by decide) (fun _ => rfl) (fun _ => rfl)
    (fun _ => rfl) (fun _ _ x _ => Leaf.binary64_float _ x) (fun _ => rfl) fun _ => rfl

/-! ## Matrices -/

theorem mem_of_mem_transpose {m : Vector Binary32 9} {x : Binary32}
    (h : x ∈ (Mat3x3.transpose m).toList) : x ∈ m.toList := by
  rw [Vector.mem_toList_iff] at h ⊢
  obtain ⟨i, rfl⟩ := Vector.mem_ofFn.1 h
  exact Vector.getElem_mem _

/-- A list of flat matrices is never three rows of three. -/
theorem shape_listValue_mat3x3 (ms : List Mat3x3) : (listValue .mat3x3 ms).shape ≠ [3, 3] := by
  intro hshape
  have hrect := rectangularShape?_eq_shape (v := listValue .mat3x3 ms) (by rw [hshape]; decide)
  rw [hshape] at hrect
  obtain ⟨inner, heq, -, hall⟩ := rectangularShape?_list_eq_some_iff.1 hrect
  obtain ⟨hlen, rfl⟩ := List.cons.inj heq
  cases ms with
  | nil => cases hlen
  | cons m ms =>
    have hm := hall _ List.mem_cons_self
    cases hm.symm.trans (rectangularShape?_of_isFlatList
      (isFlatList_map isList_ofBinary32 m.flatRows.toList))

theorem readsBack_mat3x3 : ReadsBack .mat3x3 := by
  refine readsBack_groups Mat3x3.name ofBinary32 Mat3x3.flatRows (by decide) isList_ofBinary32 ?_
    (fun _ => rfl) ?_ (fun ms => ofInput_mat3x3 (shape_listValue_mat3x3 ms)) fun m => ?_
  · intro m
    show Mat3x3.mk _ = m
    rw [Mat3x3.flatRows, Mat3x3.transpose_transpose]
  · exact fun m h x hx => Leaf.binary32_ofBinary32 _ (h x (mem_of_mem_transpose hx))
  · apply ofInput_mat3x3
    have hflat := isFlatList_map isList_ofBinary32 m.flatRows.toList
    have hshape := shape_eq_of_rectangular (rectangularShape?_of_isFlatList hflat)
    rw [show (toValue .mat3x3 m).shape = _ from hshape]
    simp

/-! ## Rotations -/

theorem axisOf_toValue {axis : Vec3D} (h : Readable .vec3D axis) :
    RotationAxisAngle.axisOf axis.toValue = .ok axis := by
  have haxis : Vec3D.ofInput axis.toValue = .ok [axis] := readsBack_vec3D.ofInput_toValue h
  unfold RotationAxisAngle.axisOf
  rw [haxis]
  rfl

theorem ofItem_toValue {r : RotationAxisAngle} (h : Readable .rotationAxisAngle r) :
    RotationAxisAngle.ofItem r.toValue = .ok r := by
  have haxis := axisOf_toValue h.1
  have hangle : RotationAxisAngle.angleOf
      [("axis", r.axis.toValue), ("radians", .ofBinary32 r.angle.radians)] = .ok r.angle := by
    show (Leaf.binary32 RotationAxisAngle.name (.ofBinary32 r.angle.radians)).map Angle.mk = _
    rw [Leaf.binary32_ofBinary32 _ h.2]
    rfl
  show (do
    let axis ← RotationAxisAngle.axisOf r.axis.toValue
    let angle ← RotationAxisAngle.angleOf
      [("axis", r.axis.toValue), ("radians", .ofBinary32 r.angle.radians)]
    return (⟨axis, angle⟩ : RotationAxisAngle)) = _
  rw [haxis, hangle]
  rfl

/-- A list of maps is no pair. -/
theorem pair?_map_toValue (rs : List RotationAxisAngle) :
    RotationAxisAngle.pair? (rs.map RotationAxisAngle.toValue) = none := by
  match rs with
  | [] => rfl
  | [_] => rfl
  | [_, _] => rfl
  | _ :: _ :: _ :: _ => rfl

theorem readsBack_rotationAxisAngle : ReadsBack .rotationAxisAngle where
  ofInput_listValue {rs} h := by
    show RotationAxisAngle.ofInput (.list (rs.map RotationAxisAngle.toValue)) = .ok rs
    unfold RotationAxisAngle.ofInput
    simp only [pair?_map_toValue, Option.isSome_none, Bool.false_eq_true, if_false]
    exact mapM_map_eq_ok fun r hr => ofItem_toValue (h r hr)
  ofInput_toValue {r} h := by
    show (RotationAxisAngle.ofItem r.toValue).map ([·]) = _
    rw [ofItem_toValue h]
    rfl

/-! ## Enumerations -/

theorem exists_code_eq {c : UInt8} (h : 1 ≤ c ∧ c ≤ 6) : ∃ d : ViewDirection, d.code = c := by
  obtain ⟨hlow, hhigh⟩ := h
  rw [UInt8.le_iff_toNat_le] at hlow hhigh
  have hcode : ∀ d : ViewDirection, d.code.toNat = c.toNat → ∃ d : ViewDirection, d.code = c :=
    fun d hd => ⟨d, UInt8.toNat_inj.1 hd⟩
  have hcases : 1 = c.toNat ∨ 2 = c.toNat ∨ 3 = c.toNat ∨ 4 = c.toNat ∨ 5 = c.toNat ∨
      6 = c.toNat := by
    have h1 : (1 : UInt8).toNat = 1 := rfl
    have h6 : (6 : UInt8).toNat = 6 := rfl
    omega
  rcases hcases with h | h | h | h | h | h
  · exact hcode .up h
  · exact hcode .down h
  · exact hcode .right h
  · exact hcode .left h
  · exact hcode .forward h
  · exact hcode .back h

theorem leafCode_int {c : UInt8} (h : 1 ≤ c ∧ c ≤ 6) :
    ViewCoordinates.leafCode (.int (.ofInt c.toNat)) = .ok c := by
  obtain ⟨d, rfl⟩ := exists_code_eq h
  unfold ViewCoordinates.leafCode
  simp only [Leaf.uint8_int, bind, Except.bind, ViewDirection.ofCode?_code]
  rfl

theorem readsBack_viewCoordinates : ReadsBack .viewCoordinates :=
  readsBack_groups ViewCoordinates.name (fun c : UInt8 => .int (.ofInt c.toNat))
    ViewCoordinates.codes (by decide) (fun _ => rfl) (fun _ => rfl) (fun _ => rfl)
    (fun _ h c hc => leafCode_int (h c hc))
    (fun vs => ofInput_codes (by cases vs <;> simp [toValue, ViewCoordinates.toValue]))
    fun v => ofInput_codes (by simp)

theorem ofLeaf_label (f : MagnificationFilter) :
    MagnificationFilter.ofLeaf (.str f.label) = .ok f := by
  cases f <;> rfl

/-! ## All datatypes -/

theorem readsBack (d : Datatype) : d.ReadsBack := by
  cases d with
  | bool => exact readsBack_scalar rfl (fun _ => rfl) (fun _ => rfl) fun _ => rfl
  | utf8 => exact readsBack_scalar rfl (fun _ => rfl) (fun _ => rfl) fun _ => rfl
  | vec3D => exact readsBack_vec3D
  | quaternion => exact readsBack_quaternion
  | range1D => exact readsBack_range1D
  | mat3x3 => exact readsBack_mat3x3
  | rotationAxisAngle => exact readsBack_rotationAxisAngle
  | viewCoordinates => exact readsBack_viewCoordinates
  | magnificationFilter => exact readsBack_scalar rfl (fun _ => rfl) (fun _ => rfl) ofLeaf_label

/-- Every datatype reads back the input that it makes of its values, of many at once and of each
alone. -/
theorem ofInput_listValue_toValue (d : Datatype) :
    (∀ vs : List d.Carrier, (∀ v ∈ vs, d.Readable v) → d.ofInput (d.listValue vs) = .ok vs) ∧
    ∀ v : d.Carrier, d.Readable v → d.ofInput (d.toValue v) = .ok [v] :=
  ⟨fun _ h => d.readsBack.ofInput_listValue h, fun _ h => d.readsBack.ofInput_toValue h⟩

theorem ofInput_listValue_toValue_identities :
    (∀ m ∈ [Mat3x3.identity, .identity], Readable .mat3x3 m) ∧
    ofInput .mat3x3 (listValue .mat3x3 [.identity, .identity]) = .ok [.identity, .identity] ∧
    ofInput .mat3x3 (toValue .mat3x3 .identity) = .ok [.identity] := by
  have hone : Readable .mat3x3 .identity := by
    show ∀ x ∈ Mat3x3.identity.flatColumns.toList, x.isNaN = false
    decide
  have htwo : ∀ m ∈ [Mat3x3.identity, .identity], Readable .mat3x3 m := by
    simpa using hone
  exact ⟨htwo, (ofInput_listValue_toValue .mat3x3).1 _ htwo,
    (ofInput_listValue_toValue .mat3x3).2 _ hone⟩

end Datatype

end ComponentLog
