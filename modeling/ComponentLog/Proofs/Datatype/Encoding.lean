import ComponentLog.Datatype
import ComponentLog.Proofs.Traversal

/-!
# Values in a column

Every datatype stores any list of its values (`toSeries_ok`). The column has one element
for each value, and element for element it holds the values' cells.
-/

namespace ComponentLog

open Columnar Numeric Series

variable {α : Type}

/-! ## Scalars -/

/-- A storage writes every list as a column without nulls, one slot a scalar. -/
structure Storage.Lawful (storage : Storage α) (cell : α → Cell) : Prop where
  length_write : ∀ xs, (storage.write xs).length = xs.length
  hasNulls_write : ∀ xs, (storage.write xs).hasNulls = false
  cells_write : ∀ xs, (storage.write xs).cells = xs.map cell

theorem slotCells_map_some (cell : α → Cell) (xs : List α) :
    slotCells cell (xs.map some) = xs.map cell := by
  simp [slotCells]

theorem any_isNone_map_some (xs : List α) : (xs.map some).any Option.isNone = false := by
  simp

namespace Storage

theorem lawful_binary32 : binary32.Lawful .float32 :=
  ⟨fun _ => List.length_map _, any_isNone_map_some, slotCells_map_some _⟩

theorem lawful_binary64 : binary64.Lawful .float64 :=
  ⟨fun _ => List.length_map _, any_isNone_map_some, slotCells_map_some _⟩

theorem lawful_uint8 : uint8.Lawful .uint8 :=
  ⟨fun _ => List.length_map _, any_isNone_map_some, slotCells_map_some _⟩

theorem lawful_bool : bool.Lawful .bool :=
  ⟨fun _ => List.length_map _, any_isNone_map_some, slotCells_map_some _⟩

theorem lawful_text : text.Lawful .text :=
  ⟨fun _ => List.length_map _, any_isNone_map_some, slotCells_map_some _⟩

end Storage

/-! ## Groups -/

/-- A group as an element of a column. -/
def groupCell {n : Nat} (cell : α → Cell) (g : Vector α n) : Cell := .list (g.toList.map cell)

section

variable {n : Nat} {storage : Storage α} {cell : α → Cell}

theorem encodeGroups_eq (hn : 0 < n) (hs : storage.Lawful cell) (gs : List (Vector α n)) :
    encodeGroups storage gs =
      .ok (.fixedSizeList ⟨"item", false⟩ n gs.length none (storage.write (ungroup gs))) := by
  unfold encodeGroups ofGroups?
  rw [if_neg (by omega), hs.hasNulls_write]
  simp only [Bool.and_false, Bool.false_eq_true, if_false, Except.mapError, Int.toNat_natCast,
    hs.length_write, length_ungroup, Nat.mul_div_cancel _ hn]

/-- Groups lie one after the other, so cutting the scalars gives them back. -/
theorem cells_fixedSizeList (hs : storage.Lawful cell) (item : Part) (gs : List (Vector α n)) :
    (Series.fixedSizeList item n gs.length none (storage.write (ungroup gs))).cells =
      gs.map (groupCell cell) := by
  simp only [cells, mask, hs.cells_write, map_cut, cut_ungroup, List.map_map]
  rfl

theorem encodeGroups_ok (hn : 0 < n) (hs : storage.Lawful cell) (gs : List (Vector α n)) :
    ∃ s, encodeGroups storage gs = .ok s ∧ s.length = gs.length ∧ s.hasNulls = false ∧
      s.cells = gs.map (groupCell cell) :=
  ⟨_, encodeGroups_eq hn hs gs, rfl, rfl, cells_fixedSizeList hs _ gs⟩

end

/-! ## Structs -/

/-- A struct of two columns of one length holds the pairs of their elements. -/
theorem records_pair (f g : α → Cell) (m n : String) (xs : List α) :
    records xs.length [(m, xs.map f), (n, xs.map g)] =
      xs.map fun x => .record [(m, f x), (n, g x)] := by
  apply List.ext_getElem
  · simp [records]
  · intro i hi _
    have hi' : i < xs.length := by simpa [records] using hi
    simp [records, hi']

namespace Datatype

/-- A value as an element of a column. -/
def cell : (d : Datatype) → d.Carrier → Cell
  | bool => .bool
  | utf8 => .text
  | vec3D => fun v => groupCell .float32 v.xyz
  | quaternion => fun q => groupCell .float32 q.xyzw
  | range1D => fun r => groupCell .float64 r.ends
  | mat3x3 => fun m => groupCell .float32 m.flatColumns
  | rotationAxisAngle => fun r =>
    .record [("axis", groupCell .float32 r.axis.xyz), ("angle", .float32 r.angle.radians)]
  | viewCoordinates => fun v => groupCell .uint8 v.codes
  | magnificationFilter => fun f => .uint8 f.code

theorem encodeGroups_map_ok {β : Type} {n : Nat} {storage : Storage α} {cell : α → Cell}
    (hn : 0 < n) (hs : storage.Lawful cell) (f : β → Vector α n) (vs : List β) :
    ∃ s, encodeGroups storage (vs.map f) = .ok s ∧ s.length = vs.length ∧
      s.cells = vs.map fun v => groupCell cell (f v) := by
  obtain ⟨s, hs, hlength, -, hcells⟩ := encodeGroups_ok hn hs (vs.map f)
  refine ⟨s, hs, by rw [hlength, List.length_map], ?_⟩
  rw [hcells, List.map_map]
  rfl

theorem toSeries_rotationAxisAngle_ok (rs : List RotationAxisAngle) :
    ∃ s, RotationAxisAngle.toSeries rs = .ok s ∧ s.length = rs.length ∧
      s.cells = rs.map (cell .rotationAxisAngle) := by
  obtain ⟨axes, haxes, hlength, hnulls, hcells⟩ := encodeGroups_ok (show 0 < 3 by decide)
    Storage.lawful_binary32 ((rs.map RotationAxisAngle.axis).map Vec3D.xyz)
  have hangles := Storage.lawful_binary32.length_write (rs.map (·.angle.radians))
  have hanulls := Storage.lawful_binary32.hasNulls_write (rs.map (·.angle.radians))
  have hacells := Storage.lawful_binary32.cells_write (rs.map (·.angle.radians))
  simp only [List.length_map] at hlength hangles
  have haxes' : Vec3D.toSeries (rs.map RotationAxisAngle.axis) = .ok axes := haxes
  refine ⟨.struct rs.length none [(⟨"axis", false⟩, axes),
    (⟨"angle", false⟩, Storage.binary32.write (rs.map (·.angle.radians)))], ?_, rfl, ?_⟩
  · simp [RotationAxisAngle.toSeries, haxes', ofColumns?, checkColumn, bind, Except.bind, hlength,
      hangles, hnulls, hanulls, Except.mapError, pure, Except.pure]
  · simp only [cells, mask, columnCells, hcells, hacells, List.map_map]
    exact records_pair _ _ _ _ rs

/-- Any list of values is stored, one element for each. -/
theorem toSeries_ok (d : Datatype) (vs : List d.Carrier) :
    ∃ s, d.toSeries vs = .ok s ∧ s.length = vs.length ∧ s.cells = vs.map d.cell := by
  cases d with
  | bool => exact ⟨_, rfl, Storage.lawful_bool.length_write vs, Storage.lawful_bool.cells_write vs⟩
  | utf8 => exact ⟨_, rfl, Storage.lawful_text.length_write vs, Storage.lawful_text.cells_write vs⟩
  | vec3D => exact encodeGroups_map_ok (by decide) Storage.lawful_binary32 Vec3D.xyz vs
  | quaternion => exact encodeGroups_map_ok (by decide) Storage.lawful_binary32 Quaternion.xyzw vs
  | range1D => exact encodeGroups_map_ok (by decide) Storage.lawful_binary64 Range1D.ends vs
  | mat3x3 => exact encodeGroups_map_ok (by decide) Storage.lawful_binary32 Mat3x3.flatColumns vs
  | rotationAxisAngle => exact toSeries_rotationAxisAngle_ok vs
  | viewCoordinates =>
    exact encodeGroups_map_ok (by decide) Storage.lawful_uint8 ViewCoordinates.codes vs
  | magnificationFilter =>
    refine ⟨_, rfl, ?_, ?_⟩
    · exact (Storage.lawful_uint8.length_write _).trans (List.length_map _)
    · rw [Storage.lawful_uint8.cells_write, List.map_map]
      rfl

end Datatype

end ComponentLog
