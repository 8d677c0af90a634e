import ComponentLog.Proofs.Archetype.Reachable
import ComponentLog.Proofs.Rows.GivenLengths
import ComponentLog.Proofs.Rows.Repartition

/-!
# Instances in rows of given lengths

All present fields are cut by the same lengths or none is. The columns of an instance are its
batches in the order of the fields, and the first batch that does not take the lengths is the
error. Columns that were cut before remember their batches alone, so they are cut anew like the
instance.
-/

namespace ComponentLog

open Columnar PartitionPlan

/-! ## Column lists -/

namespace ComponentColumnList

/-- Columns of one row count share it. -/
theorem rowCount?_eq {cs : ComponentColumnList} {n : Nat} (h : ∀ c ∈ cs, c.rowCount = n) :
    cs.rowCount? = .ok (if cs.isEmpty then none else some n) := by
  cases cs with
  | nil => rfl
  | cons first rest =>
    have hfirst : first.rowCount = n := h first List.mem_cons_self
    have hfind : rest.find? (fun c => c.rowCount ≠ n) = none := by
      rw [List.find?_eq_none]
      intro c hc
      simp [h c (List.mem_cons_of_mem _ hc)]
    simp only [rowCount?, hfirst, hfind]
    rfl

/-- Cutting columns anew is cutting the batches they were made from. -/
theorem partition_eq {bs : List ComponentBatch} {cs : ComponentColumnList}
    (h : List.Forall₂ (fun b c => ∃ p, ComponentBatch.partitionedWith b p = .ok c) bs cs)
    (lengths : List Nat) : cs.partition lengths = bs.mapM (·.partitioned lengths) := by
  unfold partition
  induction h with
  | nil => rfl
  | cons hc _ ih =>
    obtain ⟨p, hp⟩ := hc
    have hfirst := ComponentBatch.repartition_of_partitionedWith hp (.elements lengths)
    rw [List.mapM_cons, List.mapM_cons, ih]
    exact congrArg (· >>= _) hfirst

end ComponentColumnList

/-! ## Instances -/

namespace Archetype.Own

variable {a : Archetype}

/-- The fields that hold a batch, each with its batch, in the order declared. -/
def held (x : a.Own) : List (FieldDescriptor × ComponentBatch) :=
  a.fields.filterMap fun f => (get? x f.name).map (f, ·)

theorem map_snd_held (x : a.Own) : (held x).map (·.2) = (toInstance x).present := by
  rw [present_toInstance, held, List.map_filterMap]
  congr 1
  funext f
  cases get? x f.name <;> rfl

/-- The batches of an instance that can be made are of the fields that hold them. -/
theorem Reachable.admits {x : a.Own} (h : Reachable x) {fb : FieldDescriptor × ComponentBatch}
    (hfb : fb ∈ held x) : fb.1.Admits fb.2 := by
  obtain ⟨f, hf, hget⟩ := List.mem_filterMap.1 hfb
  obtain ⟨b, hb, rfl⟩ := Option.map_eq_some_iff.1 hget
  obtain ⟨i, rfl⟩ := List.mem_iff_get.1 hf
  rw [get?_name] at hb
  exact h.sound i b hb

theorem columnsWithLengths_eq_mapM (x : a.Own) (lengths : List Nat) :
    (toInstance x).columnsWithLengths lengths =
      (held x).mapM fun fb => fb.2.partitioned lengths := by
  rw [Instance.columnsWithLengths, ← map_snd_held, List.mapM_map]
  rfl

theorem columnsWithLengths_eq_ok_iff {x : a.Own} {lengths : List Nat} {cs : ComponentColumnList} :
    (toInstance x).columnsWithLengths lengths = .ok cs ↔
      (∀ fb ∈ held x, fb.2.length = totalLength lengths ∧
        totalLength lengths ≤ ComponentColumn.maxOffset) ∧
        cs = (held x).map fun fb => fb.2.inRows lengths := by
  rw [columnsWithLengths_eq_mapM]
  exact mapM_eq_ok_map_iff fun _ _ => ComponentBatch.partitioned_eq_ok_iff

/-- With batches of one length, the first of them counts the rows of all. -/
theorem columnsOfUnitBatches_eq {x : a.Own} {n : Nat} (h : ∀ fb ∈ held x, fb.2.length = n) :
    (toInstance x).columnsOfUnitBatches =
      (toInstance x).columnsWithLengths (List.replicate n 1) := by
  rw [Instance.columnsOfUnitBatches, ← map_snd_held]
  cases hheld : held x with
  | nil => rw [columnsWithLengths_eq_mapM, columnsWithLengths_eq_mapM, hheld]; rfl
  | cons fb rest =>
    have hfirst : fb.2.length = n := h fb (hheld ▸ List.mem_cons_self)
    simp [hfirst]

theorem columnsOfUnitBatches_eq_ok_iff {x : a.Own} {cs : ComponentColumnList} :
    (toInstance x).columnsOfUnitBatches = .ok cs ↔
      ∃ n ≤ ComponentColumn.maxOffset, (∀ fb ∈ held x, fb.2.length = n) ∧
        cs = (held x).map fun fb => fb.2.inRows (List.replicate n 1) := by
  constructor
  · intro h
    obtain ⟨hlen, rfl⟩ := columnsWithLengths_eq_ok_iff.1 h
    simp only [totalLength_replicate, Nat.mul_one] at hlen
    cases hheld : held x with
    | nil => exact ⟨0, Nat.zero_le _, by simp, rfl⟩
    | cons first rest =>
      obtain ⟨-, hn⟩ := hlen first (hheld ▸ List.mem_cons_self)
      exact ⟨_, hn, fun fb hfb => (hlen fb (hheld ▸ hfb)).1, rfl⟩
  · rintro ⟨n, hn, hlen, rfl⟩
    have htotal : totalLength (List.replicate n 1) = n := by
      rw [totalLength_replicate, Nat.mul_one]
    rw [columnsOfUnitBatches_eq hlen, columnsWithLengths_eq_ok_iff, htotal]
    exact ⟨fun fb hfb => ⟨hlen fb hfb, hn⟩, rfl⟩

/-- When the present fields take given lengths, what their columns are, and which field is at
fault otherwise; when they go one value a row; and columns of the same batches cut anew. -/
theorem columnsWithLengths_exact (x : a.Own) {lengths : List Nat}
    (hlengths : totalLength lengths ≤ ComponentColumn.maxOffset) :
    (∀ cs, (toInstance x).columnsWithLengths lengths = .ok cs ↔
      (∀ fb ∈ held x, fb.2.length = totalLength lengths) ∧
        cs = (held x).map fun fb => fb.2.inRows lengths) ∧
    (∀ cs, (toInstance x).columnsWithLengths lengths = .ok cs →
      ComponentColumnList.rowCount? cs =
        .ok (if (held x).isEmpty then none else some lengths.length) ∧
      (∀ c ∈ cs, c.lengths = lengths) ∧
      (Reachable x → cs.map (·.descriptor) = (held x).map (·.1.descriptor))) ∧
    (∀ e, (toInstance x).columnsWithLengths lengths = .error e ↔
      ∃ (i : Nat) (hi : i < (held x).length), (held x)[i].2.length ≠ totalLength lengths ∧
        e = .lengthMismatch (held x)[i].2.length (totalLength lengths) ∧
        ∀ (j : Nat) (hj : j < i), (held x)[j].2.length = totalLength lengths) ∧
    (∀ cs, (toInstance x).columnsOfUnitBatches = .ok cs ↔
      ∃ n ≤ ComponentColumn.maxOffset, (∀ fb ∈ held x, fb.2.length = n) ∧
        cs = (held x).map fun fb => fb.2.inRows (List.replicate n 1)) ∧
    ∀ (cs : ComponentColumnList) (newLengths : List Nat),
      List.Forall₂ (fun fb c => ∃ p, ComponentBatch.partitionedWith fb.2 p = .ok c) (held x) cs →
      cs.partition newLengths = (toInstance x).columnsWithLengths newLengths := by
  refine ⟨fun cs => ?_, fun cs h => ⟨?_, fun c hc => ?_, fun hx => ?_⟩, fun e => ?_,
    fun cs => columnsOfUnitBatches_eq_ok_iff, fun cs newLengths h => ?_⟩
  · simp only [columnsWithLengths_eq_ok_iff, hlengths, and_true]
  · obtain ⟨-, rfl⟩ := columnsWithLengths_eq_ok_iff.1 h
    rw [ComponentColumnList.rowCount?_eq (n := lengths.length)]
    · simp
    · intro c hc
      obtain ⟨fb, -, rfl⟩ := List.mem_map.1 hc
      exact fb.2.rowCount_inRows lengths
  · obtain ⟨-, rfl⟩ := columnsWithLengths_eq_ok_iff.1 h
    obtain ⟨fb, -, rfl⟩ := List.mem_map.1 hc
    exact fb.2.lengths_inRows lengths
  · obtain ⟨-, rfl⟩ := columnsWithLengths_eq_ok_iff.1 h
    rw [List.map_map]
    exact List.map_congr_left fun fb hfb => (hx.admits hfb).descriptor_eq
  · simp only [columnsWithLengths_eq_mapM, mapM_eq_error_iff, and_assoc,
      ComponentBatch.partitioned_eq_error_iff hlengths,
      ComponentBatch.exists_partitioned_iff hlengths]
  · rw [Instance.columnsWithLengths, ← map_snd_held]
    exact ComponentColumnList.partition_eq (List.forall₂_map_left_iff.2 h) newLengths

/-- Two translations and one scale. -/
def unevenPoses : Own .instancePoses3D :=
  let origin := Value.list (.replicate 3 (.int 0))
  let poses := (InstancePoses3D.translationsMember.set .new (.list [origin, origin])).1
  (InstancePoses3D.scalesMember.set poses origin).1

/-- The scale is at fault, also in columns that were cut before. Cleared fields take empty rows. -/
theorem columnsWithLengths_exact_unevenPoses :
    totalLength [2, 0] ≤ ComponentColumn.maxOffset ∧
    (toInstance unevenPoses).columnsWithLengths [2, 0] = .error (.lengthMismatch 1 2) ∧
    (∃ cs : ComponentColumnList, cs.map (·.lengths) = [[1, 1], [0, 1]] ∧
      cs.partition [2, 0] = .error (.lengthMismatch 1 2)) ∧
    totalLength [0, 0] ≤ ComponentColumn.maxOffset ∧ Reachable (cleared : Own .scalarAxis) ∧
    ∃ cs, (toInstance (cleared : Own .scalarAxis)).columnsWithLengths [0, 0] = .ok cs ∧
      ComponentColumnList.rowCount? cs = .ok (some 2) ∧
      cs.map (·.descriptor.component) = ["ScalarAxis:range", "ScalarAxis:zoom_lock"] := by
  have hlengths : totalLength [2, 0] ≤ ComponentColumn.maxOffset := by decide
  obtain ⟨-, -, herror, -, hcut⟩ := columnsWithLengths_exact unevenPoses hlengths
  have hscale : (toInstance unevenPoses).columnsWithLengths [2, 0] =
      .error (.lengthMismatch 1 2) := by
    refine (herror _).2 ⟨1, by decide, by decide, rfl, fun j hj => ?_⟩
    obtain rfl : j = 0 := by omega
    rfl
  obtain ⟨cs, hcs, hrows⟩ : ∃ cs : ComponentColumnList,
      List.Forall₂ (fun fb c => ∃ p, ComponentBatch.partitionedWith fb.2 p = .ok c)
        (held unevenPoses) cs ∧ cs.map (·.lengths) = [[1, 1], [0, 1]] :=
    ⟨_, .cons ⟨.flatValues [3, 3], rfl⟩ (.cons ⟨.elements [0, 1], rfl⟩ .nil), rfl⟩
  have hempty : totalLength [0, 0] ≤ ComponentColumn.maxOffset := by decide
  obtain ⟨hok, hcolumns, -⟩ := columnsWithLengths_exact (cleared : Own .scalarAxis) hempty
  have hcleared := (hok _).2 ⟨by decide, rfl⟩
  obtain ⟨hcount, -, hdescriptors⟩ := hcolumns _ hcleared
  refine ⟨hlengths, hscale, ⟨cs, hrows, (hcut cs [2, 0] hcs).trans hscale⟩, hempty, .cleared, _,
    hcleared, hcount, ?_⟩
  have := congrArg (List.map (·.component)) (hdescriptors .cleared)
  exact List.map_map.symm.trans (this.trans rfl)

end Archetype.Own

end ComponentLog
