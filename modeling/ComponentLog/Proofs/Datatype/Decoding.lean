import ComponentLog.ComponentType
import ComponentLog.Proofs.Datatype.Encoding

/-!
# Columns read back

A datatype reads its own columns: what `toSeries` stores is a column of the declared type,
without nulls, from which `ofSeries` takes the same values bit for bit (`Datatype.exists_column`).
Groups lie one after the other in the column, so the readers cut them apart by their size.
-/

namespace ComponentLog

open Columnar Numeric Series

variable {α : Type}

/-- The column is that of the values: it has the type, no nulls and one element for each value, and
is read back as the values. -/
structure IsColumnOf (type : DataType) (read : Series → Except ConversionError (List α))
    (vs : List α) (s : Series) : Prop where
  type_eq : s.type = type
  wellFormed : s.WellFormed
  hasNulls_eq : s.hasNulls = false
  length_eq : s.length = vs.length
  read_eq : read s = .ok vs

/-! ## Scalars -/

/-- A storage reads back what it wrote, in a column of its type. -/
structure Storage.Reversible (storage : Storage α) : Prop where
  type_write : ∀ xs, (storage.write xs).type = storage.type
  wellFormed_write : ∀ xs, (storage.write xs).WellFormed
  read?_write : ∀ xs, storage.read? (storage.write xs) = some xs

theorem map_getD_map_some (default : α) (xs : List α) :
    (xs.map some).map (·.getD default) = xs := by
  rw [List.map_map]
  exact List.map_id xs

namespace Storage

theorem reversible_binary32 : binary32.Reversible where
  type_write _ := rfl
  wellFormed_write _ := trivial
  read?_write xs := congrArg some (map_getD_map_some _ xs)

theorem reversible_binary64 : binary64.Reversible where
  type_write _ := rfl
  wellFormed_write _ := trivial
  read?_write xs := congrArg some (map_getD_map_some _ xs)

theorem reversible_uint8 : uint8.Reversible where
  type_write _ := rfl
  wellFormed_write _ := trivial
  read?_write xs := congrArg some (map_getD_map_some _ xs)

theorem reversible_bool : bool.Reversible where
  type_write _ := rfl
  wellFormed_write _ := trivial
  read?_write xs := congrArg some (map_getD_map_some _ xs)

theorem reversible_text : text.Reversible where
  type_write _ := rfl
  wellFormed_write _ := trivial
  read?_write xs := congrArg some (map_getD_map_some _ xs)

end Storage

section

variable {storage : Storage α} {cell : α → Cell} {target : String}

theorem isColumnOf_write (target : String) (hs : storage.Lawful cell) (hr : storage.Reversible)
    (xs : List α) :
    IsColumnOf storage.type (decodeScalars storage target) xs (storage.write xs) where
  type_eq := hr.type_write xs
  wellFormed := hr.wellFormed_write xs
  hasNulls_eq := hs.hasNulls_write xs
  length_eq := hs.length_write xs
  read_eq := by
    unfold decodeScalars
    rw [hr.read?_write]

/-! ## Groups -/

theorem decodeGroups_fixedSizeList {n : Nat} (hr : storage.Reversible) (item : Part)
    (gs : List (Vector α n)) :
    decodeGroups n storage target
      (.fixedSizeList item n gs.length none (storage.write (ungroup gs))) = .ok gs := by
  unfold decodeGroups
  by_cases hnil : gs = []
  · subst hnil
    rfl
  · have hlength : gs.length ≠ 0 := mt List.length_eq_zero_iff.1 hnil
    simp only [hlength, if_false, if_true, hr.read?_write, takeGroups_ungroup]

/-- A column of groups is as long as its scalars fill it, and is cut into the same groups. -/
theorem exists_column_groups {n : Nat} (target : String) (hn : 0 < n) (hs : storage.Lawful cell)
    (hr : storage.Reversible) (gs : List (Vector α n)) :
    ∃ s, encodeGroups storage gs = .ok s ∧
      IsColumnOf (.groupOf storage.type n) (decodeGroups n storage target) gs s := by
  refine ⟨_, encodeGroups_eq hn hs gs, ?_, ?_, rfl, rfl, decodeGroups_fixedSizeList hr _ gs⟩
  · simp only [type, hr.type_write, DataType.groupOf]
  · have hlength := hs.length_write (ungroup gs)
    rw [length_ungroup] at hlength
    exact ⟨hlength ▸ Nat.le_refl _, by simp, hr.wellFormed_write _⟩

end

/-! ## Values of other types -/

/-- Values that are stored as values of another type, and made from these again. -/
theorem IsColumnOf.map {β : Type} {type : DataType}
    {read : Series → Except ConversionError (List α)} {f : β → α} {g : α → β} {vs : List β}
    {s : Series} (h : IsColumnOf type read (vs.map f) s) (hgf : ∀ v, g (f v) = v) :
    IsColumnOf type (fun s => (read s).map (·.map g)) vs s where
  type_eq := h.type_eq
  wellFormed := h.wellFormed
  hasNulls_eq := h.hasNulls_eq
  length_eq := h.length_eq.trans (List.length_map f)
  read_eq := by
    have hid : g ∘ f = id := funext hgf
    rw [h.read_eq]
    show Except.ok ((vs.map f).map g) = _
    rw [List.map_map, hid, List.map_id]

/-- Values that are single groups. -/
theorem exists_column_of_groups {β : Type} {n : Nat} {storage : Storage α} {cell : α → Cell}
    (target : String) (hn : 0 < n) (hs : storage.Lawful cell) (hr : storage.Reversible)
    {f : β → Vector α n} {g : Vector α n → β} (hgf : ∀ v, g (f v) = v) (vs : List β) :
    ∃ s, encodeGroups storage (vs.map f) = .ok s ∧ IsColumnOf (.groupOf storage.type n)
      (fun s => (decodeGroups n storage target s).map (·.map g)) vs s := by
  obtain ⟨s, hencode, hcolumn⟩ := exists_column_groups target hn hs hr (vs.map f)
  exact ⟨s, hencode, hcolumn.map hgf⟩

theorem exists_column_vec3D (vs : List Vec3D) :
    ∃ s, Vec3D.toSeries vs = .ok s ∧ IsColumnOf Vec3D.dataType Vec3D.ofSeries vs s :=
  exists_column_of_groups Vec3D.name (by decide) Storage.lawful_binary32
    Storage.reversible_binary32 (fun _ => rfl) vs

theorem exists_column_magnificationFilter (fs : List MagnificationFilter) :
    ∃ s, MagnificationFilter.toSeries fs = .ok s ∧
      IsColumnOf MagnificationFilter.dataType MagnificationFilter.ofSeries fs s := by
  have hcodes := isColumnOf_write MagnificationFilter.name Storage.lawful_uint8
    Storage.reversible_uint8 (fs.map MagnificationFilter.code)
  refine ⟨_, rfl, hcodes.type_eq, hcodes.wellFormed, hcodes.hasNulls_eq, ?_, ?_⟩
  · exact hcodes.length_eq.trans (List.length_map _)
  · have hcode : ∀ f ∈ fs, MagnificationFilter.ofCode f.code = .ok f := by
      intro f _
      unfold MagnificationFilter.ofCode
      rw [MagnificationFilter.ofCode?_code]
    unfold MagnificationFilter.ofSeries
    rw [hcodes.read_eq]
    exact mapM_map_eq_ok hcode

/-! ## Rotations -/

/-- Two columns of one length without nulls make a struct. -/
theorem ofColumns?_pair {m n : String} {a b : Series} (hlength : a.length = b.length)
    (ha : a.hasNulls = false) (hb : b.hasNulls = false) :
    ofColumns? [(⟨m, false⟩, a), (⟨n, false⟩, b)] =
      .ok (.struct a.length none [(⟨m, false⟩, a), (⟨n, false⟩, b)]) := by
  simp [ofColumns?, checkColumn, hlength, ha, hb, bind, Except.bind, pure, Except.pure]

/-- The two columns are read on their own and put side by side. -/
theorem ofSeries_struct {length : Nat} {validity? : Option (List Bool)} {m n : Part}
    {axes angles : Series} {vs : List Vec3D} {xs : List Binary32}
    (haxes : Vec3D.ofSeries axes = .ok vs)
    (hangles : decodeScalars .binary32 RotationAxisAngle.name angles = .ok xs) :
    RotationAxisAngle.ofSeries (.struct length validity? [(m, axes), (n, angles)]) =
      .ok (vs.zipWith (fun axis radians => ⟨axis, ⟨radians⟩⟩) xs) := by
  show (do
    let axes ← Vec3D.ofSeries axes
    let angles ← decodeScalars .binary32 RotationAxisAngle.name angles
    return axes.zipWith (fun axis radians => (⟨axis, ⟨radians⟩⟩ : RotationAxisAngle)) angles) = _
  rw [haxes, hangles]
  rfl

theorem exists_column_rotationAxisAngle (rs : List RotationAxisAngle) :
    ∃ s, RotationAxisAngle.toSeries rs = .ok s ∧
      IsColumnOf RotationAxisAngle.dataType RotationAxisAngle.ofSeries rs s := by
  obtain ⟨axes, haxes, hcolumn⟩ := exists_column_vec3D (rs.map RotationAxisAngle.axis)
  have hangles := isColumnOf_write RotationAxisAngle.name Storage.lawful_binary32
    Storage.reversible_binary32 (rs.map (·.angle.radians))
  have hlength : axes.length = rs.length := hcolumn.length_eq.trans (List.length_map _)
  have hlength' := hangles.length_eq.trans (List.length_map _)
  have hpair := ofColumns?_pair (m := "axis") (n := "angle") (hlength.trans hlength'.symm)
    hcolumn.hasNulls_eq hangles.hasNulls_eq
  refine ⟨.struct axes.length none [(⟨"axis", false⟩, axes),
    (⟨"angle", false⟩, Storage.binary32.write (rs.map (·.angle.radians)))], ?_, ?_, ?_, rfl,
    hlength, ?_⟩
  · unfold RotationAxisAngle.toSeries
    rw [haxes]
    show (ofColumns? _).mapError ConversionError.columnar = _
    rw [hpair]
    rfl
  · simp only [type, columnFields, hcolumn.type_eq, hangles.type_eq, RotationAxisAngle.dataType]
    rfl
  · exact ⟨by simp, rfl, hcolumn.wellFormed, hlength'.trans hlength.symm, hangles.wellFormed,
      trivial⟩
  · rw [ofSeries_struct hcolumn.read_eq hangles.read_eq, List.zipWith_map, List.zipWith_self]
    exact congrArg Except.ok (List.map_id rs)

/-! ## All datatypes -/

/-- Any list of values is stored in a column of its datatype, and read back from it. -/
theorem Datatype.exists_column (d : Datatype) (vs : List d.Carrier) :
    ∃ s, d.toSeries vs = .ok s ∧ IsColumnOf d.dataType d.ofSeries vs s := by
  cases d with
  | bool =>
    exact ⟨_, rfl, isColumnOf_write _ Storage.lawful_bool Storage.reversible_bool vs⟩
  | utf8 =>
    exact ⟨_, rfl, isColumnOf_write _ Storage.lawful_text Storage.reversible_text vs⟩
  | vec3D => exact exists_column_vec3D vs
  | quaternion =>
    exact exists_column_of_groups Quaternion.name (by decide) Storage.lawful_binary32
      Storage.reversible_binary32 (fun _ => rfl) vs
  | range1D =>
    exact exists_column_of_groups Range1D.name (by decide) Storage.lawful_binary64
      Storage.reversible_binary64 (fun _ => rfl) vs
  | mat3x3 =>
    exact exists_column_of_groups Mat3x3.name (by decide) Storage.lawful_binary32
      Storage.reversible_binary32 (fun _ => rfl) vs
  | rotationAxisAngle => exact exists_column_rotationAxisAngle vs
  | viewCoordinates =>
    exact exists_column_of_groups ViewCoordinates.name (by decide) Storage.lawful_uint8
      Storage.reversible_uint8 (fun _ => rfl) vs
  | magnificationFilter => exact exists_column_magnificationFilter vs

/-- Storing and reading back is exact for every datatype, and for every component type through its
datatype. -/
theorem toSeries_column :
    (∀ (d : Datatype) (vs : List d.Carrier),
      ∃ s, d.toSeries vs = .ok s ∧ IsColumnOf d.dataType d.ofSeries vs s) ∧
    ∀ (c : ComponentType) (vs : List c.Carrier),
      ∃ s, c.toSeries vs = .ok s ∧ IsColumnOf c.dataType c.ofSeries vs s :=
  ⟨Datatype.exists_column, fun c => c.datatype.exists_column⟩

end ComponentLog
