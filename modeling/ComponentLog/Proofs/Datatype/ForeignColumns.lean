import ComponentLog.ComponentType
import ComponentLog.Proofs.Traversal

/-!
# Columns from elsewhere

A column that is read need not be one the library wrote. `Answers` says that reading it comes to an
end of its own: one value for each element, or a refusal. Readers do not look for nulls, so a null
is an element like any other. Every datatype answers for every column, with one exception
(`answers_exact`): rotations look for two columns in a struct, and a struct that has fewer is not
refused.
-/

namespace ComponentLog

open Columnar Series

variable {α β : Type} {a : Series}

/-- One value for each element of the column, or a refusal. -/
def Answers (a : Series) (read : Except ConversionError (List α)) : Prop :=
  (∃ vs, read = .ok vs ∧ vs.length = a.length) ∨
    ∃ e, read = .error e ∧ ∀ cause, e ≠ .fault cause

theorem Answers.values {vs : List α} (h : vs.length = a.length) : Answers a (.ok vs) :=
  .inl ⟨vs, rfl, h⟩

theorem Answers.refusal {e : ConversionError} (h : ∀ cause, e ≠ .fault cause) :
    Answers a (.error e : Except ConversionError (List α)) :=
  .inr ⟨e, rfl, h⟩

theorem answers_columnMismatch (target : String) :
    Answers a (.error (columnMismatch target) : Except ConversionError (List α)) :=
  .refusal fun _ => nofun

theorem Answers.map {read : Except ConversionError (List α)} (h : Answers a read) (f : α → β) :
    Answers a (read.map (·.map f)) := by
  rcases h with ⟨vs, rfl, hlen⟩ | ⟨e, rfl, he⟩
  · exact .values ((List.length_map f).trans hlen)
  · exact .refusal he

theorem Answers.ne_fault {read : Except ConversionError (List α)} {cause : Fault}
    (h : Answers a read) : read ≠ .error (.fault cause) := by
  intro hread
  rcases h with ⟨vs, hvs, -⟩ | ⟨e, he, hfault⟩
  · cases hvs.symm.trans hread
  · cases he.symm.trans hread
    exact hfault cause rfl

/-! ## Scalars -/

/-- What a storage reads from a column is one value for each element, nulls included. -/
def Storage.ReadsAll (storage : Storage α) : Prop :=
  ∀ (a : Series) xs, storage.read? a = some xs → xs.length = a.length

namespace Storage

theorem readsAll_binary32 : binary32.ReadsAll := by
  intro a xs h
  cases a <;> cases h
  exact List.length_map _

theorem readsAll_binary64 : binary64.ReadsAll := by
  intro a xs h
  cases a <;> cases h
  exact List.length_map _

theorem readsAll_uint8 : uint8.ReadsAll := by
  intro a xs h
  cases a <;> cases h
  exact List.length_map _

theorem readsAll_bool : bool.ReadsAll := by
  intro a xs h
  cases a <;> cases h
  exact List.length_map _

theorem readsAll_text : text.ReadsAll := by
  intro a xs h
  cases a <;> cases h
  exact List.length_map _

end Storage

variable {storage : Storage α}

theorem answers_decodeScalars (hs : storage.ReadsAll) (target : String) (a : Series) :
    Answers a (decodeScalars storage target a) := by
  unfold decodeScalars
  split
  · rename_i xs hxs
    exact .values (hs a xs hxs)
  · exact answers_columnMismatch target

theorem answers_magnificationFilter (a : Series) : Answers a (MagnificationFilter.ofSeries a) := by
  have hcodes := answers_decodeScalars Storage.readsAll_uint8 MagnificationFilter.name a
  unfold MagnificationFilter.ofSeries
  rcases hcodes with ⟨codes, hread, hlen⟩ | ⟨e, hread, he⟩
  · rw [hread]
    show Answers a (codes.mapM MagnificationFilter.ofCode)
    cases h : codes.mapM MagnificationFilter.ofCode with
    | ok fs => exact .values ((length_eq_of_mapM h).trans hlen)
    | error e =>
      obtain ⟨i, hi, hfail, -⟩ := mapM_eq_error_iff.1 h
      unfold MagnificationFilter.ofCode at hfail
      split at hfail <;> cases hfail
      exact .refusal fun _ => nofun
  · rw [hread]
    exact .refusal he

/-! ## Groups -/

variable {n : Nat} {target : String} {gs : List (Vector α n)} {e : ConversionError}

/-- The values of a column hold all of its groups, so none is cut short. -/
theorem exists_of_decodeGroups (hs : storage.ReadsAll) (ha : a.WellFormed)
    (h : decodeGroups n storage target a = .ok gs) :
    ∃ item size length validity? values, a = .fixedSizeList item size length validity? values ∧
      gs.length = length ∧
      ungroup gs = ((storage.read? values).getD []).take (length * n) := by
  unfold decodeGroups at h
  split at h
  · rename_i item size length validity? values
    refine ⟨item, size, length, validity?, values, rfl, ?_⟩
    split at h
    · rename_i hzero
      cases h
      simp [hzero]
    · split at h
      · cases h
      · rename_i xs hxs
        split at h
        · rename_i hsize
          cases h
          subst hsize
          have hlen := ha.1
          rw [← hs values xs hxs] at hlen
          rw [hxs, Option.getD_some]
          exact ⟨length_takeGroups hlen, ungroup_takeGroups hlen⟩
        · cases h
  · cases h

theorem ne_fault_of_decodeGroups (h : decodeGroups n storage target a = .error e)
    (cause : Fault) : e ≠ .fault cause := by
  unfold decodeGroups at h
  split at h
  · split at h
    · cases h
    · split at h
      · cases h
        nofun
      · split at h <;> cases h
        nofun
  · cases h
    nofun

theorem answers_decodeGroups (n : Nat) (hs : storage.ReadsAll) (target : String)
    (ha : a.WellFormed) : Answers a (decodeGroups n storage target a) := by
  cases h : decodeGroups n storage target a with
  | ok gs =>
    obtain ⟨_, _, _, _, _, rfl, hlen, -⟩ := exists_of_decodeGroups hs ha h
    exact .values hlen
  | error e => exact .refusal (ne_fault_of_decodeGroups h)

/-! ## Rotations -/

/-- A struct without a column at an index where rotations look for one. The second column is only
looked for once the first is read. -/
inductive Lacks : Series → Nat → Prop where
  | axes {length : Nat} {validity? : Option (List Bool)} : Lacks (.struct length validity? []) 0
  | angles {length : Nat} {validity? : Option (List Bool)} {part : Part} {axes : Series}
    {vs : List Vec3D} (h : Vec3D.ofSeries axes = .ok vs) :
    Lacks (.struct length validity? [(part, axes)]) 1

theorem ofSeries_of_lacks {i : Nat} (h : Lacks a i) :
    RotationAxisAngle.ofSeries a = .error (.fault (.missingColumn i)) := by
  cases h with
  | axes => rfl
  | angles h =>
    simp only [RotationAxisAngle.ofSeries, List.getElem?_cons_zero, h]
    rfl

theorem answers_vec3D (ha : a.WellFormed) : Answers a (Vec3D.ofSeries a) :=
  (answers_decodeGroups 3 Storage.readsAll_binary32 Vec3D.name ha).map Vec3D.mk

/-- The two columns are as long as the struct, so the values pair up. -/
theorem answers_pair {length : Nat} {validity? : Option (List Bool)} {m n : Part}
    {axes angles : Series} {rest : List (Part × Series)}
    (ha : (Series.struct length validity? ((m, axes) :: (n, angles) :: rest)).WellFormed) :
    Answers (.struct length validity? ((m, axes) :: (n, angles) :: rest))
      (RotationAxisAngle.ofSeries (.struct length validity? ((m, axes) :: (n, angles) :: rest))) := by
  obtain ⟨-, haxes, hwell, hangles, -⟩ := ha
  simp only [RotationAxisAngle.ofSeries, List.getElem?_cons_zero, List.getElem?_cons_succ]
  rcases answers_vec3D hwell with ⟨vs, hvs, hlen⟩ | ⟨e, hread, he⟩
  · rw [hvs]
    rcases answers_decodeScalars Storage.readsAll_binary32 RotationAxisAngle.name angles with
      ⟨xs, hxs, hlen'⟩ | ⟨e, hread, he⟩
    · simp only [hxs, bind, Except.bind, pure, Except.pure]
      refine .values ?_
      rw [List.length_zipWith, hlen, hlen', haxes, hangles, Nat.min_self]
      rfl
    · simp only [hread, bind, Except.bind]
      exact .refusal he
  · rw [hread]
    exact .refusal he

theorem answers_or_lacks (ha : a.WellFormed) :
    Answers a (RotationAxisAngle.ofSeries a) ∨ ∃ i, Lacks a i := by
  cases a with
  | struct length validity? columns =>
    match columns with
    | [] => exact .inr ⟨0, .axes⟩
    | [(part, axes)] =>
      obtain ⟨-, hlength, hwell, -⟩ := ha
      rcases answers_vec3D hwell with ⟨vs, hvs, -⟩ | ⟨e, hread, he⟩
      · exact .inr ⟨1, .angles hvs⟩
      · refine .inl ?_
        simp only [RotationAxisAngle.ofSeries, List.getElem?_cons_zero, hread]
        exact .refusal he
    | _ :: _ :: _ => exact .inl (answers_pair ha)
  | _ => exact .inl (answers_columnMismatch RotationAxisAngle.name)

theorem answers_rotationAxisAngle_iff (ha : a.WellFormed) :
    Answers a (RotationAxisAngle.ofSeries a) ↔ ¬ ∃ i, Lacks a i := by
  constructor
  · rintro h ⟨i, hi⟩
    exact h.ne_fault (ofSeries_of_lacks hi)
  · exact (answers_or_lacks ha).resolve_right

theorem ofSeries_eq_fault_iff (ha : a.WellFormed) {i : Nat} :
    RotationAxisAngle.ofSeries a = .error (.fault (.missingColumn i)) ↔ Lacks a i := by
  constructor
  · intro h
    rcases answers_or_lacks ha with hanswers | ⟨j, hj⟩
    · exact absurd h hanswers.ne_fault
    · cases (ofSeries_of_lacks hj).symm.trans h
      exact hj
  · exact ofSeries_of_lacks

/-! ## All datatypes -/

theorem Datatype.answers (d : Datatype) (hd : d ≠ .rotationAxisAngle) (ha : a.WellFormed) :
    Answers a (d.ofSeries a) := by
  cases d with
  | bool => exact answers_decodeScalars Storage.readsAll_bool _ a
  | utf8 => exact answers_decodeScalars Storage.readsAll_text _ a
  | vec3D => exact answers_vec3D ha
  | quaternion => exact (answers_decodeGroups 4 Storage.readsAll_binary32 _ ha).map Quaternion.mk
  | range1D => exact (answers_decodeGroups 2 Storage.readsAll_binary64 _ ha).map Range1D.mk
  | mat3x3 => exact (answers_decodeGroups 9 Storage.readsAll_binary32 _ ha).map Mat3x3.mk
  | rotationAxisAngle => exact absurd rfl hd
  | viewCoordinates =>
    exact (answers_decodeGroups 3 Storage.readsAll_uint8 _ ha).map ViewCoordinates.mk
  | magnificationFilter => exact answers_magnificationFilter a

theorem Datatype.answers_iff (d : Datatype) (ha : a.WellFormed) :
    Answers a (d.ofSeries a) ↔ ¬ (d = .rotationAxisAngle ∧ ∃ i, Lacks a i) := by
  by_cases hd : d = .rotationAxisAngle
  · subst hd
    simp only [true_and]
    exact answers_rotationAxisAngle_iff ha
  · simp only [hd, false_and, not_false_eq_true, iff_true]
    exact d.answers hd ha

theorem ComponentType.datatype_eq_rotationAxisAngle_iff {c : ComponentType} :
    c.datatype = .rotationAxisAngle ↔ c = .poseRotationAxisAngle := by
  cases c <;> decide

/-- Every datatype gives one value for each element of a column or refuses it, and so does every
component type. Only a struct is not refused that rotations are read from and that lacks the column
of the axes, or behind readable axes that of the angles. -/
theorem answers_exact (ha : a.WellFormed) :
    (∀ d : Datatype,
      Answers a (d.ofSeries a) ↔ ¬ (d = .rotationAxisAngle ∧ ∃ i, Lacks a i)) ∧
    (∀ c : ComponentType,
      Answers a (c.ofSeries a) ↔ ¬ (c = .poseRotationAxisAngle ∧ ∃ i, Lacks a i)) ∧
    ∀ i, RotationAxisAngle.ofSeries a = .error (.fault (.missingColumn i)) ↔ Lacks a i := by
  refine ⟨fun d => d.answers_iff ha, fun c => ?_, fun i => ofSeries_eq_fault_iff ha⟩
  rw [← ComponentType.datatype_eq_rotationAxisAngle_iff]
  exact c.datatype.answers_iff ha

/-- A null rotation without an angle, in front of a column that is not looked at. -/
def nullRotation : Series :=
  .struct 1 (some [false]) [
    (⟨"a", true⟩, .fixedSizeList ⟨"item", false⟩ 3 1 none (.float32 [some .one, none, none])),
    (⟨"b", true⟩, .float32 [none]),
    (⟨"c", true⟩, .unread (.dictionary .utf8) [true])]

theorem answers_exact_nullRotation : nullRotation.WellFormed ∧
    Answers nullRotation (RotationAxisAngle.ofSeries nullRotation) := by
  have hwell : nullRotation.WellFormed := by
    simp [nullRotation, WellFormed, ColumnsWellFormed, length]
  refine ⟨hwell, ((answers_exact hwell).1 .rotationAxisAngle).2 ?_⟩
  rintro ⟨-, i, ⟨⟩⟩

/-- One axis, and no angles. -/
def loneAxis : Series :=
  .struct 1 none [
    (⟨"axis", false⟩, .fixedSizeList ⟨"item", false⟩ 3 1 none
      (.float32 [some .zero, some .zero, some .one]))]

theorem ofSeries_loneAxis : loneAxis.WellFormed ∧ loneAxis.hasNulls = false ∧
    RotationAxisAngle.ofSeries loneAxis = .error (.fault (.missingColumn 1)) ∧
    ¬ Answers loneAxis (Datatype.ofSeries .rotationAxisAngle loneAxis) := by
  have hwell : loneAxis.WellFormed := by
    simp [loneAxis, WellFormed, ColumnsWellFormed, length]
  have hfault : RotationAxisAngle.ofSeries loneAxis = .error (.fault (.missingColumn 1)) :=
    ofSeries_of_lacks (.angles rfl)
  exact ⟨hwell, rfl, hfault, fun h => h.ne_fault hfault⟩

end ComponentLog
