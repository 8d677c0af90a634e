import ComponentLog.Proofs.Datatype.Coordinates
import ComponentLog.Proofs.Datatype.ForeignColumns

/-!
# Decoded values as input

A column and input are read by different code. What a column is decoded to is read back from input
for every datatype, up to NaN, but view coordinates: their codes are looked at in input and not in
a column, so they are read back exactly where the column has codes of directions only
(`ofInput_decoded_iff`).
-/

namespace ComponentLog

open Columnar Numeric

namespace Datatype

/-- The codes that view coordinates are decoded from, three for each element. -/
def codesOf : Series → List UInt8
  | .fixedSizeList _ _ length _ values =>
    ((Storage.uint8.read? values).getD []).take (length * 3)
  | _ => []

/-- Where the column holds view coordinates, all its codes are those of directions. -/
def CodesNamed (d : Datatype) (a : Series) : Prop :=
  d = .viewCoordinates → ∀ c ∈ codesOf a, ∃ direction : ViewDirection, direction.code = c

/-! ## Values without NaN -/

theorem pointwise_self_iff {α : Type} {same : α → α → Bool} {xs : List α} :
    pointwise same xs xs = true ↔ ∀ x ∈ xs, same x x = true := by
  unfold pointwise
  rw [List.zip_eq_zipWith, List.zipWith_self, List.all_map, Bool.and_eq_true_iff,
    List.all_eq_true]
  simp

theorem sameNumber_self_binary32 (x : Binary32) : x.sameNumber x = true ↔ x.isNaN = false := by
  simp [Binary32.sameNumber]

theorem sameNumber_self_binary64 (x : Binary64) : x.sameNumber x = true ↔ x.isNaN = false := by
  simp [Binary64.sameNumber]

theorem pointwise_self_binary32_iff {xs : List Binary32} :
    pointwise Binary32.sameNumber xs xs = true ↔ ∀ x ∈ xs, x.isNaN = false := by
  simp only [pointwise_self_iff, sameNumber_self_binary32]

/-- Only codes can keep a value that equals itself from being read. -/
theorem readable_of_sameNumber {d : Datatype} (hd : d ≠ .viewCoordinates) {v : d.Carrier}
    (h : d.sameNumber v v = true) : d.Readable v := by
  cases d with
  | bool => trivial
  | utf8 => trivial
  | vec3D => exact pointwise_self_binary32_iff.1 h
  | quaternion => exact pointwise_self_binary32_iff.1 h
  | range1D =>
    intro x hx
    exact (sameNumber_self_binary64 x).1 (pointwise_self_iff.1 h x hx)
  | mat3x3 => exact pointwise_self_binary32_iff.1 h
  | rotationAxisAngle =>
    obtain ⟨haxis, hangle⟩ := Bool.and_eq_true_iff.1 h
    exact ⟨pointwise_self_binary32_iff.1 haxis, (sameNumber_self_binary32 _).1 hangle⟩
  | viewCoordinates => exact absurd rfl hd
  | magnificationFilter => trivial

/-! ## Codes -/

/-- Decoded coordinates hold the codes of the column, whatever these are. -/
theorem ungroup_codes_of_ofSeries {a : Series} {vs : List ViewCoordinates} (ha : a.WellFormed)
    (h : ViewCoordinates.ofSeries a = .ok vs) :
    ungroup (vs.map ViewCoordinates.codes) = codesOf a := by
  obtain ⟨gs, hgs, rfl⟩ := map_eq_ok_iff.1 h
  obtain ⟨_, _, _, _, _, rfl, -, hcodes⟩ :=
    exists_of_decodeGroups Storage.readsAll_uint8 ha hgs
  have hid : (gs.map ViewCoordinates.mk).map ViewCoordinates.codes = gs := by
    rw [List.map_map]
    exact List.map_id gs
  rw [hid]
  exact hcodes

theorem forall_directed_iff {vs : List ViewCoordinates} : (∀ v ∈ vs, v.Directed) ↔
    ∀ c ∈ ungroup (vs.map ViewCoordinates.codes), ∃ d : ViewDirection, d.code = c := by
  constructor
  · intro h c hc
    obtain ⟨_, hg, hc⟩ := List.mem_flatMap.1 hc
    obtain ⟨v, hv, rfl⟩ := List.mem_map.1 hg
    exact exists_code_eq ((h v hv).readable c hc)
  · intro h v hv
    refine ViewCoordinates.directed_of_codes fun c hc => h c ?_
    exact List.mem_flatMap.2 ⟨_, List.mem_map_of_mem hv, hc⟩

theorem ofInput_listValue_viewCoordinates_iff {vs : List ViewCoordinates} :
    ofInput .viewCoordinates (listValue .viewCoordinates vs) = .ok vs ↔ ∀ v ∈ vs, v.Directed := by
  constructor
  · intro h v hv
    have hform : ViewCoordinates.formOf (listValue .viewCoordinates vs) = .codes := by
      cases vs <;> rfl
    exact ViewCoordinates.directed_of_ofInput hform h hv
  · intro h
    exact readsBack_viewCoordinates.ofInput_listValue fun v hv => (h v hv).readable

/-! ## All datatypes -/

/-- Decoded values without NaN are what input gives for them, always or, for view coordinates,
exactly where the column's codes are those of directions. -/
theorem ofInput_decoded_iff (d : Datatype) {a : Series} {vs : List d.Carrier} (ha : a.WellFormed)
    (h : d.ofSeries a = .ok vs) (hnumbers : ∀ v ∈ vs, d.sameNumber v v = true) :
    d.ofInput (d.listValue vs) = .ok vs ↔ d.CodesNamed a := by
  by_cases hd : d = .viewCoordinates
  · subst hd
    rw [ofInput_listValue_viewCoordinates_iff, forall_directed_iff, ungroup_codes_of_ofSeries ha h]
    exact ⟨fun hall _ => hall, fun hall => hall rfl⟩
  · have hback := d.readsBack.ofInput_listValue fun v hv => readable_of_sameNumber hd (hnumbers v hv)
    exact ⟨fun _ hview => absurd hview hd, fun _ => hback⟩

/-- A column of one element, with the three codes. -/
def codeColumn (x y z : UInt8) : Series :=
  .fixedSizeList ⟨"item", false⟩ 3 1 none (.uint8 [some x, some y, some z])

theorem wellFormed_codeColumn (x y z : UInt8) : (codeColumn x y z).WellFormed := by
  simp [codeColumn, Series.WellFormed, Series.length]

/-- Directions on one axis are read back as well. -/
theorem ofInput_decoded_iff_sharedAxis :
    ofSeries .viewCoordinates (codeColumn 3 4 5) = .ok [⟨#v[3, 4, 5]⟩] ∧
    ofInput .viewCoordinates (listValue .viewCoordinates [⟨#v[3, 4, 5]⟩]) =
      .ok [⟨#v[3, 4, 5]⟩] := by
  have hread : ofSeries .viewCoordinates (codeColumn 3 4 5) = .ok [⟨#v[3, 4, 5]⟩] := rfl
  refine ⟨hread, (ofInput_decoded_iff .viewCoordinates (wellFormed_codeColumn 3 4 5) hread
    fun _ _ => decide_eq_true rfl).2 fun _ => ?_⟩
  show ∀ c ∈ [3, 4, 5], ∃ direction : ViewDirection, direction.code = c
  simp only [List.forall_mem_cons, List.not_mem_nil, false_implies, implies_true, and_true]
  exact ⟨⟨.right, rfl⟩, ⟨.left, rfl⟩, ⟨.forward, rfl⟩⟩

/-- Codes of no direction are decoded from the column and refused as input. -/
theorem decoded_unnamed : (codeColumn 0 0 0).WellFormed ∧ (codeColumn 0 0 0).hasNulls = false ∧
    ofSeries .viewCoordinates (codeColumn 0 0 0) = .ok [⟨#v[0, 0, 0]⟩] ∧
    ofInput .viewCoordinates (listValue .viewCoordinates [⟨#v[0, 0, 0]⟩]) =
      .error (.outOfRange ViewCoordinates.name 0) :=
  ⟨wellFormed_codeColumn 0 0 0, rfl, rfl, rfl⟩

end Datatype

end ComponentLog
