import ComponentLog.Proofs.Datatype.Encoding
import ComponentLog.Proofs.Datatype.Grouping

/-!
# Matrices read by rows

Every layout that is accepted is read as its leaves, nine to a matrix and row after row, while a
matrix is stored column after column. Coefficient `(r, c)` of matrix `i` is thus leaf
`9 * i + 3 * r + c` and lies at `9 * i + 3 * c + r` of the column of scalars
(`Mat3x3.ofInput_reads_rows`).
-/

namespace ComponentLog

open Columnar Numeric Value

theorem Leaf.binary32_eq_ok_iff {target : String} {w : Value} {x : Binary32} :
    binary32 target w = .ok x ↔ w.number?.map Binary64.narrow = some x := by
  unfold binary32 binary64
  cases w.number? <;> simp [Except.map]

namespace Mat3x3

/-- Row `r` and column `c` are read at `3 * r + c` and stored at `3 * c + r`. -/
theorem getElem?_ofRows (g : Vector Binary32 9) (r c : Fin 3) :
    (ofRows g).flatColumns[3 * c.val + r.val]? = g[3 * r.val + c.val]? := by
  have hread : 3 * r.val + c.val < 9 := by omega
  have hstored : 3 * c.val + r.val < 9 := by omega
  rw [Vector.getElem?_eq_getElem hread, Vector.getElem?_eq_getElem hstored]
  simp only [ofRows, transpose, Vector.getElem_ofFn, Option.some.injEq]
  congr 1
  omega

theorem map_groupValues_eq_ok_iff {v : Value} {ms : List Mat3x3} :
    (groupValues 9 name (Leaf.binary32 name) v).map (·.map ofRows) = .ok ms ↔ Groupable 9 v ∧
      ∃ xs, (takenLeaves v).mapM (Leaf.binary32 name) = .ok xs ∧ ms = (groups 9 xs).map ofRows := by
  simp only [map_eq_ok_iff, groupValues_eq_ok_iff]
  constructor
  · rintro ⟨_, ⟨hv, xs, hxs, rfl⟩, rfl⟩
    exact ⟨hv, xs, hxs, rfl⟩
  · rintro ⟨hv, xs, hxs, rfl⟩
    exact ⟨_, ⟨hv, xs, hxs, rfl⟩, rfl⟩

/-- Three rows of three have nine leaves. -/
theorem length_leaves_of_shape {v : Value} (h : v.shape = [3, 3]) : v.leaves.length = 9 := by
  have hrect := rectangularShape?_eq_shape (v := v) (by rw [h]; decide)
  rw [length_leaves hrect, h]
  decide

theorem takenLeaves_of_shape {v : Value} (h : v.shape = [3, 3]) : takenLeaves v = v.leaves := by
  cases v with
  | null => cases h
  | _ => rfl

/-- Input is read where its leaves can be taken nine at a time, or are the nine of three rows. -/
theorem ofInput_eq_ok_iff {v : Value} {ms : List Mat3x3} :
    ofInput v = .ok ms ↔ (Groupable 9 v ∨ v.shape = [3, 3]) ∧
      ∃ xs, (takenLeaves v).mapM (Leaf.binary32 name) = .ok xs ∧ ms = (groups 9 xs).map ofRows := by
  unfold ofInput
  by_cases hshape : v.shape = [3, 3]
  · have hflat := isFlatList_leaves v
    have hlen := length_leaves_of_shape hshape
    have hgroup : Groupable 9 (.list v.leaves) :=
      .flat (List.ne_nil_of_length_pos (by omega)) hflat hlen
    have htaken : takenLeaves (.list v.leaves) = takenLeaves v := by
      rw [takenLeaves_list, itemLeaves_of_isFlatList hflat, takenLeaves_of_shape hshape]
    simp only [hshape, if_true, map_groupValues_eq_ok_iff, htaken, hgroup, or_true, true_and]
  · simp only [hshape, if_false, map_groupValues_eq_ok_iff, or_false]

/-- Whole matrices. -/
theorem dvd_length_takenLeaves {v : Value} (h : Groupable 9 v ∨ v.shape = [3, 3]) :
    9 ∣ (takenLeaves v).length := by
  rcases h with h | h
  · exact ComponentLog.dvd_length_takenLeaves h
  · exact ⟨1, by rw [takenLeaves_of_shape h, length_leaves_of_shape h]⟩

theorem exists_ofInput_iff {v : Value} :
    (∃ ms, ofInput v = .ok ms) ↔ (Groupable 9 v ∨ v.shape = [3, 3]) ∧
      ∀ w ∈ takenLeaves v, w.number?.isSome = true := by
  have hleaf : ∀ w : Value, w.number?.isSome = true ↔ ∃ x, Leaf.binary32 name w = .ok x := by
    intro w
    simp only [Leaf.binary32_eq_ok_iff, ← Option.isSome_iff_exists, Option.isSome_map]
  simp only [hleaf, ← exists_mapM_iff, ofInput_eq_ok_iff]
  constructor
  · rintro ⟨_, hv, xs, hxs, -⟩
    exact ⟨hv, xs, hxs⟩
  · rintro ⟨hv, xs, hxs⟩
    exact ⟨_, hv, xs, hxs, rfl⟩

/-- The matrices hold the leaves nine at a time, each nine as rows. -/
theorem exists_rows_of_ofInput {v : Value} {ms : List Mat3x3} (h : ofInput v = .ok ms) :
    ∃ gs : List (Vector Binary32 9), ms = gs.map ofRows ∧
      (takenLeaves v).mapM (Leaf.binary32 name) = .ok (ungroup gs) := by
  obtain ⟨hv, xs, hxs, rfl⟩ := ofInput_eq_ok_iff.1 h
  have hdvd : 9 ∣ xs.length := by
    rw [length_eq_of_mapM hxs]
    exact dvd_length_takenLeaves hv
  exact ⟨groups 9 xs, rfl, by rwa [ungroup_groups (by decide) hdvd]⟩

/-- The number at place `k` of the leaves, as a matrix holds it. -/
def scalar? (v : Value) (k : Nat) : Option Binary32 :=
  (v.leaves[k]?.bind number?).map Binary64.narrow

theorem scalar?_eq {v : Value} {xs : List Binary32}
    (h : v.leaves.mapM (Leaf.binary32 name) = .ok xs) (k : Nat) : scalar? v k = xs[k]? := by
  have hmap : v.leaves.map (fun w => w.number?.map Binary64.narrow) = xs.map some := by
    rw [← List.forall₂_eq_eq_eq, List.forall₂_map_left_iff, List.forall₂_map_right_iff]
    exact (mapM_eq_ok_iff.1 h).imp fun _ _ => Leaf.binary32_eq_ok_iff.1
  calc scalar? v k
      = (v.leaves.map fun w => w.number?.map Binary64.narrow)[k]?.join := by
        rw [List.getElem?_map]
        cases h : v.leaves[k]? <;> simp [scalar?, h]
    _ = (xs.map some)[k]?.join := by rw [hmap]
    _ = xs[k]? := by
        rw [List.getElem?_map]
        cases xs[k]? <;> rfl

theorem toSeries_eq (ms : List Mat3x3) :
    toSeries ms = .ok (.fixedSizeList ⟨"item", false⟩ 9 ms.length none
      (.float32 ((ungroup (ms.map flatColumns)).map some))) := by
  have h := encodeGroups_eq (by decide) Storage.lawful_binary32 (ms.map flatColumns)
  rwa [List.length_map] at h

/-- Which input is matrices. Its leaves are their coefficients row after row, whatever its layout,
and a column holds them column after column. -/
theorem ofInput_reads_rows (v : Value) :
    ((∃ ms, ofInput v = .ok ms) ↔ (Groupable 9 v ∨ v.shape = [3, 3]) ∧
      ∀ w ∈ takenLeaves v, w.number?.isSome = true) ∧
    ofInput .null = .ok [] ∧
    ∀ ms, v.isList = true → ofInput v = .ok ms →
      9 * ms.length = v.leaves.length ∧
      (∀ w ks, w.isList = true → ofInput w = .ok ks → w.leaves = v.leaves → ks = ms) ∧
      ∃ slots, toSeries ms =
          .ok (.fixedSizeList ⟨"item", false⟩ 9 ms.length none (.float32 slots)) ∧
        ∀ (i : Nat) (hi : i < ms.length) (r c : Fin 3),
          scalar? v (9 * i + 3 * r + c) = some ms[i].flatColumns[3 * c.val + r.val] ∧
          slots[9 * i + 3 * c + r]? = some (some ms[i].flatColumns[3 * c.val + r.val]) := by
  refine ⟨exists_ofInput_iff, rfl, fun ms hlist h => ?_⟩
  have htaken : ∀ {w : Value}, w.isList = true → takenLeaves w = w.leaves := by
    intro w hw
    obtain ⟨items, rfl⟩ := exists_items_of_isList hw
    rfl
  obtain ⟨gs, rfl, hgs⟩ := exists_rows_of_ofInput h
  rw [htaken hlist] at hgs
  refine ⟨?_, fun w ks hw hks hleaves => ?_, _, toSeries_eq _, fun i hi r c => ⟨?_, ?_⟩⟩
  · rw [← length_eq_of_mapM hgs, length_ungroup, List.length_map, Nat.mul_comm]
  · obtain ⟨hs, rfl, hhs⟩ := exists_rows_of_ofInput hks
    rw [htaken hw, hleaves] at hhs
    rw [ungroup_inj (by decide) (Except.ok.inj (hgs.symm.trans hhs))]
  · have hi' : i < gs.length := by simpa using hi
    rw [scalar?_eq hgs, Nat.add_assoc, getElem?_ungroup hi' (by omega),
      ← Vector.getElem?_eq_getElem, ← getElem?_ofRows, Vector.getElem?_eq_getElem, List.getElem_map]
  · have hi' : i < ((gs.map ofRows).map flatColumns).length := by simpa using hi
    rw [List.getElem?_map, Nat.add_assoc, getElem?_ungroup hi' (by omega), List.getElem_map]
    rfl

/-- Eighteen numbers in one row. -/
def longRow : Value := .list [.list ((List.range 18).map fun k => .int (.ofNat k))]

/-- The same numbers as two matrices of three rows. -/
def twoBlocks : Value :=
  .list <| [0, 9].map fun first => .list <| [0, 3, 6].map fun row =>
    .list <| [0, 1, 2].map fun column => .int (.ofNat (first + row + column))

/-- In the first row of the second matrix the last number is the twelfth. -/
theorem ofInput_reads_rows_longRow : ∃ ms, ofInput longRow = .ok ms ∧ ofInput twoBlocks = .ok ms ∧
    ∃ h : 1 < ms.length, scalar? longRow 11 = some ms[1].flatColumns[6] := by
  obtain ⟨hlong, -, hrows⟩ := ofInput_reads_rows longRow
  obtain ⟨hblocks, -, -⟩ := ofInput_reads_rows twoBlocks
  obtain ⟨ms, hms⟩ := hlong.2 ⟨.inl (.nested rfl rfl (by decide)), by decide⟩
  obtain ⟨ks, hks⟩ := hblocks.2 ⟨.inl (.nested rfl rfl (by decide)), by decide⟩
  obtain ⟨hlength, hsame, slots, -, hcoefficients⟩ := hrows ms rfl hms
  obtain rfl := hsame twoBlocks ks rfl hks rfl
  have hlen : longRow.leaves.length = 18 := rfl
  have htwo : 1 < ks.length := by omega
  exact ⟨ks, hms, hks, htwo, (hcoefficients 1 htwo 0 2).1⟩

end Mat3x3

end ComponentLog
