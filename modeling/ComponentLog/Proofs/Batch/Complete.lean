import ComponentLog.Proofs.Batch.Construction
import ComponentLog.Proofs.Columnar.Cells

/-!
# Batches without nulls

A batch that the library makes itself, from input or to clear, has the declared descriptor,
the data type and kind of its component type, and no null at any depth of an element.
-/

namespace ComponentLog

open Columnar

/-! ## Elements of stored values -/

theorem full_groupCell {α : Type} {n : Nat} {cell : α → Cell} (h : ∀ x, (cell x).Full)
    (g : Vector α n) : (groupCell cell g).Full :=
  .list (List.forall_mem_map.mpr fun x _ => h x)

theorem Datatype.full_cell (d : Datatype) (v : d.Carrier) : (d.cell v).Full := by
  cases d with
  | bool => exact .bool v
  | utf8 => exact .text v
  | vec3D | quaternion | mat3x3 => exact full_groupCell .float32 _
  | range1D => exact full_groupCell .float64 _
  | rotationAxisAngle =>
    refine .record (List.forall_mem_cons.mpr ⟨full_groupCell .float32 _, ?_⟩)
    exact List.forall_mem_singleton.mpr (.float32 _)
  | viewCoordinates => exact full_groupCell .uint8 _
  | magnificationFilter => exact .uint8 _

theorem Datatype.type_empty (d : Datatype) : (Series.empty d.dataType).type = d.dataType := by
  cases d <;> rfl

/-! ## Batches -/

namespace ComponentBatch

variable {descriptor : ComponentDescriptor} {c : ComponentType}

/-- The batch is one of the descriptor and the component type, without nulls. -/
structure IsOf (descriptor : ComponentDescriptor) (c : ComponentType) (b : ComponentBatch) :
    Prop where
  descriptor_eq : b.descriptor = descriptor
  type_eq : b.array.type = c.dataType
  kind_eq : b.kind = c.elementKind
  hasNulls_eq : b.array.hasNulls = false
  full : ∀ cell ∈ b.array.cells, cell.Full

theorem isOf_ofInput {v : Value} {b : ComponentBatch} (h : ofInput descriptor c v = .ok b) :
    b.IsOf descriptor c := by
  obtain ⟨s, hs, rfl⟩ := ofInput_eq_ok_iff.mp h
  obtain ⟨vs, -, hseries⟩ := bind_eq_ok_iff.mp hs
  obtain ⟨s', hs', hcolumn⟩ := c.datatype.exists_column vs
  obtain rfl : s' = s := Except.ok.inj (hs'.symm.trans hseries)
  obtain ⟨s'', hs'', -, hcells⟩ := c.datatype.toSeries_ok vs
  obtain rfl : s'' = s' := Except.ok.inj (hs''.symm.trans hseries)
  refine ⟨rfl, hcolumn.type_eq, rfl, hcolumn.hasNulls_eq, ?_⟩
  rw [hcells]
  exact List.forall_mem_map.mpr fun v _ => c.datatype.full_cell v

theorem isOf_empty (descriptor : ComponentDescriptor) (c : ComponentType) :
    (empty descriptor c).IsOf descriptor c where
  descriptor_eq := rfl
  type_eq := c.datatype.type_empty
  kind_eq := rfl
  hasNulls_eq := Series.hasNulls_empty _
  full cell hcell := by
    rw [empty, ComponentType.emptySeries, Series.cells_of_isEmpty (Series.isEmpty_empty _)] at hcell
    cases hcell

end ComponentBatch

end ComponentLog
