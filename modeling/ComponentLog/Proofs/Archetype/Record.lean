import ComponentLog.Archetype.Record
import ComponentLog.Proofs.Archetype.Construction
import Mathlib.Tactic.FinCases

/-!
# The places of the fields

The types of the archetypes write the order of the fields out many times: where they are
filled, where they list their batches, and at each member. `Record.Lawful` says that all of
these agree with the declaration, and `record_lawful` that they do. A value of an
archetype's own type is then an instance under other names: `toInstance` and `ofInstance`
are inverse, a member found by the name of a field holds the batch at its place
(`get?_name`), and a setter is the setter of that place (`toInstance_set`).
-/

namespace ComponentLog.Archetype

variable {a : Archetype}

/-- A member reads and writes the batch at the place of its field. -/
structure Member.Fits (r : Record a) (m : Member a r.Carrier) : Prop where
  getElem?_get : ∀ x, (r.batches x)[m.place.val]? = some (m.get x)
  batches_put : ∀ x b?, r.batches (m.put x b?) = (r.batches x).set m.place.val b?

/-- The places in an archetype's own type are those of the declared fields. -/
structure Record.Lawful (r : Record a) : Prop where
  batches_unset : r.batches r.unset = List.replicate a.fields.length none
  batches_ofBatches : ∀ batches, r.batches (r.ofBatches batches) =
    List.ofFn fun i : a.FieldIndex => batches[i.val]?.join
  ofBatches_batches : ∀ x, r.ofBatches (r.batches x) = x
  names : r.members.map Member.name = a.fields.map FieldDescriptor.name
  fits : ∀ m ∈ r.members, m.Fits r

theorem record_lawful (a : Archetype) : a.record.Lawful where
  batches_unset := by cases a <;> rfl
  batches_ofBatches batches := by cases a <;> rfl
  ofBatches_batches x := by cases a <;> rfl
  names := by cases a <;> rfl
  fits m hm := by
    cases a <;> fin_cases hm <;> exact ⟨fun _ => rfl, fun _ _ => rfl⟩

theorem nodup_names (a : Archetype) : (a.fields.map FieldDescriptor.name).Nodup := by
  cases a <;> decide

theorem nodup_descriptors (a : Archetype) :
    (a.fields.map FieldDescriptor.descriptor).Nodup := by
  cases a <;> decide

theorem index_eq_of_name_eq {i j : a.FieldIndex}
    (h : (a.fields.get i).name = (a.fields.get j).name) : i = j := by
  have hi : i.val < (a.fields.map FieldDescriptor.name).length := by simp
  exact Fin.ext ((List.getElem?_inj hi (nodup_names a)).mp (by simpa using h))

/-- A field is found by its name, and by no other. -/
theorem fieldIndex?_eq_some_iff {name : String} {i : a.FieldIndex} :
    a.fieldIndex? name = some i ↔ (a.fields.get i).name = name := by
  unfold fieldIndex?
  rw [List.findFinIdx?_eq_some_iff]
  constructor
  · rintro ⟨hname, -⟩
    simpa using hname
  · intro hname
    refine ⟨by simpa using hname, fun j hj hjname => ?_⟩
    have : j = i := index_eq_of_name_eq ((by simpa using hjname : _ = name).trans hname.symm)
    omega

theorem Member.place_eq {R : Type} (m : Member a R) {i : a.FieldIndex}
    (h : m.name = (a.fields.get i).name) : m.place = i :=
  index_eq_of_name_eq (m.name_eq.symm.trans h)

/-! ## Instances -/

namespace Instance

theorem toList_inj {x y : Instance a} (h : x.batches.toList = y.batches.toList) : x = y :=
  congrArg Instance.mk (Vector.toList_inj.mp h)

theorem get_set (x : Instance a) (i j : a.FieldIndex) (v : Value) :
    (x.set i v).1.batches.get j =
      if i = j then ((a.fields.get i).convertLenient v).1 else x.batches.get j := by
  simp only [set, vectorGet_eq_getElem, Vector.getElem_set, Fin.ext_iff]
  rfl

end Instance

namespace Own

theorem toList_toInstance (x : a.Own) : (toInstance x).batches.toList = a.record.batches x := by
  have hlawful := record_lawful a
  rw [toInstance, Instance.ofBatches, Vector.toList_ofFn, ← hlawful.batches_ofBatches,
    hlawful.ofBatches_batches]

theorem ofInstance_toInstance (x : a.Own) : ofInstance (toInstance x) = x := by
  rw [ofInstance, toList_toInstance, (record_lawful a).ofBatches_batches]

theorem toInstance_ofInstance (x : Instance a) : toInstance (ofInstance x) = x := by
  refine Instance.toList_inj ?_
  rw [toList_toInstance, ofInstance, (record_lawful a).batches_ofBatches]
  refine List.ext_getElem (by simp) fun i hi _ => ?_
  simp

theorem toInstance_unset : toInstance a.record.unset = .absent := by
  refine Instance.toList_inj ?_
  rw [toList_toInstance, (record_lawful a).batches_unset, Instance.absent, Vector.toList_replicate]

/-- A setter is the setter of its member's field. -/
theorem toInstance_set {m : Member a a.Own} (hm : m ∈ a.record.members) (x : a.Own) (v : Value) :
    toInstance (m.set x v).1 = ((toInstance x).set m.place v).1 ∧
      (m.set x v).2 = ((toInstance x).set m.place v).2 := by
  refine ⟨Instance.toList_inj ?_, rfl⟩
  rw [toList_toInstance, Member.set, ((record_lawful a).fits m hm).batches_put,
    ← toList_toInstance]
  simp only [Instance.set, Vector.toList_set]
  rfl

/-- The member of a field's name is found, and its place is that of the field. -/
theorem exists_member (i : a.FieldIndex) :
    ∃ m ∈ a.record.members, a.member? (a.fields.get i).name = some m ∧ m.place = i := by
  have hname : (a.fields.get i).name ∈ a.record.members.map Member.name := by
    rw [(record_lawful a).names]
    exact List.mem_map_of_mem (List.get_mem _ _)
  obtain ⟨m, hm, hmname⟩ := List.mem_map.mp hname
  have hsome : (a.member? (a.fields.get i).name).isSome :=
    List.find?_isSome.mpr ⟨m, hm, by simpa using hmname⟩
  obtain ⟨m, hfind⟩ := Option.isSome_iff_exists.mp hsome
  exact ⟨m, List.mem_of_find?_eq_some hfind, hfind,
    m.place_eq (by simpa using List.find?_some hfind)⟩

theorem mem_members_of_setter? {name : String} {m : Member a a.Own}
    (h : a.setter? name = some m) : m ∈ a.record.members :=
  List.mem_of_find?_eq_some h

/-- A field that may be set has a setter. -/
theorem exists_setter {i : a.FieldIndex} (h : (a.fields.get i).settable = true) :
    ∃ m, a.setter? (a.fields.get i).name = some m ∧ m.place = i := by
  obtain ⟨m, hm, -, rfl⟩ := exists_member i
  have hsettable : m.field.settable = true := h
  have hsome : (a.setter? m.field.name).isSome :=
    List.find?_isSome.mpr ⟨m, hm, by simp [m.name_eq, hsettable]⟩
  obtain ⟨m', hfind⟩ := Option.isSome_iff_exists.mp hsome
  have hfound := List.find?_some hfind
  simp only [Bool.and_eq_true, decide_eq_true_eq] at hfound
  exact ⟨m', hfind, m'.place_eq hfound.1⟩

theorem get?_name (x : a.Own) (i : a.FieldIndex) :
    get? x (a.fields.get i).name = (toInstance x).batches.get i := by
  obtain ⟨m, hm, hfind, rfl⟩ := exists_member i
  have hget := ((record_lawful a).fits m hm).getElem?_get x
  rw [← toList_toInstance] at hget
  rw [get?, hfind, Option.bind_some, vectorGet_eq_getElem]
  simpa [Option.some_inj, eq_comm] using hget

theorem get?_ofInstance (x : Instance a) (i : a.FieldIndex) :
    get? (ofInstance x) (a.fields.get i).name = x.batches.get i := by
  rw [get?_name, toInstance_ofInstance]

/-- A setter replaces what its own field holds and leaves the others. -/
theorem get?_set {m : Member a a.Own} (hm : m ∈ a.record.members) (x : a.Own) (v : Value)
    (i : a.FieldIndex) :
    get? (m.set x v).1 (a.fields.get i).name =
      if m.place = i then (m.field.convertLenient v).1 else get? x (a.fields.get i).name := by
  rw [get?_name, get?_name, (toInstance_set hm x v).1, Instance.get_set]
  rfl

/-- A setter puts what its value converts to. -/
theorem get?_set_self {m : Member a a.Own} (hm : m ∈ a.record.members) (x : a.Own) (v : Value) :
    get? (m.set x v).1 m.name = (m.field.convertLenient v).1 := by
  rw [m.name_eq]
  exact (get?_set hm x v m.place).trans (if_pos rfl)

end Own

end ComponentLog.Archetype
