import ComponentLog.Proofs.Archetype.Record
import ComponentLog.Proofs.Batch.Complete

/-!
# Instances that can be made

`Own.Reachable` lists the ways to a value of an archetype's own type: the constructors, the
builder, clearing, and setters on top. Each gives every field a batch of that field or none
(`Instance.Sound`), and that is kept by setters, so it holds of all of them. The batches
listed are then those of the fields in the order they are declared, each descriptor once.
-/

namespace ComponentLog

/-- Elements that keep what a map reads off their sources stand in the order of these. -/
theorem filterMap_sublist_map {α β γ : Type} {f : α → Option β} {g : β → γ} {h : α → γ}
    (hkeep : ∀ x, ∀ y ∈ f x, g y = h x) (l : List α) :
    ((l.filterMap f).map g).Sublist (l.map h) := by
  induction l with
  | nil => exact .slnil
  | cons x l ih =>
    cases hx : f x with
    | none =>
      rw [List.filterMap_cons_none hx, List.map_cons]
      exact ih.cons _
    | some y =>
      rw [List.filterMap_cons_some hx, List.map_cons, List.map_cons, hkeep x y hx]
      exact ih.cons_cons _

/-! ## One field -/

namespace FieldDescriptor

/-- The batch is one of the field. -/
abbrev Admits (f : FieldDescriptor) (b : ComponentBatch) : Prop :=
  b.IsOf f.descriptor f.componentType

theorem admits_clear (f : FieldDescriptor) : f.Admits f.clear :=
  ComponentBatch.isOf_empty f.descriptor f.componentType

theorem admits_convertPartial {f : FieldDescriptor} {clearUnset : Bool} {input : Option Value} :
    ∀ b ∈ (f.convertPartial clearUnset input).1, f.Admits b := by
  intro b hb
  rw [convertPartial_eq] at hb
  rcases f.input_cases input with ⟨-, houtcome⟩ | ⟨v, -, -, houtcome⟩
  · rw [houtcome] at hb
    cases clearUnset with
    | true =>
      obtain rfl := Option.some.inj hb
      exact f.admits_clear
    | false => cases hb
  · rw [houtcome] at hb
    cases hbatch : ComponentBatch.ofInput f.descriptor f.componentType v with
    | ok batch =>
      rw [hbatch] at hb
      obtain rfl := Option.some.inj hb
      exact ComponentBatch.isOf_ofInput hbatch
    | error cause =>
      rw [hbatch] at hb
      cases hb

/-- A setter converts as a partial update does that clears nothing. -/
theorem convertLenient_eq (f : FieldDescriptor) (v : Value) :
    f.convertLenient v = f.convertPartial false (some v) := by
  unfold convertPartial
  split
  · rename_i hnull
    have hnull : v.isNull = true := hnull
    simp [convertLenient, convert, hnull]
  · rfl

end FieldDescriptor

namespace Archetype

variable {a : Archetype}

theorem fields_eq (a : Archetype) :
    a.fields = (List.finRange a.fields.length).map a.fields.get := by
  refine List.ext_getElem (by simp) fun i _ _ => ?_
  simp

/-! ## Instances -/

namespace Instance

/-- Every batch present is one of its field. -/
def Sound (x : Instance a) : Prop :=
  ∀ (i : a.FieldIndex), ∀ b ∈ x.batches.get i, (a.fields.get i).Admits b

theorem sound_absent : (absent : Instance a).Sound := by
  intro i b hb
  simp [absent, vectorGet_eq_getElem] at hb

theorem sound_cleared : (cleared : Instance a).Sound := by
  intro i b hb
  simp only [cleared, vectorGet_eq_getElem, Vector.getElem_ofFn, Option.mem_some] at hb
  rw [← hb]
  exact FieldDescriptor.admits_clear _

theorem sound_buildFields (b : Builder a) (clearUnset : Bool) :
    (b.buildFields clearUnset).1.Sound := by
  intro i batch hbatch
  rw [Builder.get_buildFields] at hbatch
  exact FieldDescriptor.admits_convertPartial batch hbatch

theorem sound_tryBuild {b : Builder a} {x : Instance a} (h : b.tryBuild = .ok x) : x.Sound := by
  obtain ⟨-, rfl⟩ := Builder.tryBuild_eq_ok_iff.mp h
  exact sound_buildFields b false

theorem sound_build (b : Builder a) : b.build.1.Sound := by
  unfold Builder.build
  cases hbuild : b.tryBuild with
  | ok x => exact sound_tryBuild hbuild
  | error e => exact sound_absent

theorem Sound.set {x : Instance a} (h : x.Sound) (i : a.FieldIndex) (v : Value) :
    (x.set i v).1.Sound := by
  intro j b hb
  rw [get_set] at hb
  split at hb
  · rename_i hij
    rw [FieldDescriptor.convertLenient_eq] at hb
    exact hij ▸ FieldDescriptor.admits_convertPartial b hb
  · exact h j b hb

theorem present_eq (x : Instance a) :
    x.present = (List.finRange a.fields.length).filterMap x.batches.get := by
  have hlist : x.batches.toList = (List.finRange a.fields.length).map x.batches.get := by
    refine List.ext_getElem (by simp) fun i _ _ => ?_
    simp [vectorGet_eq_getElem]
  rw [present, hlist, List.filterMap_map]
  rfl

theorem Sound.descriptors_sublist {x : Instance a} (h : x.Sound) :
    (x.present.map (·.descriptor)).Sublist (a.fields.map (·.descriptor)) := by
  have hfields : a.fields.map (·.descriptor) =
      (List.finRange a.fields.length).map fun i => (a.fields.get i).descriptor :=
    (congrArg (List.map _) a.fields_eq).trans List.map_map
  rw [present_eq, hfields]
  exact filterMap_sublist_map (fun i b hb => (h i b hb).descriptor_eq) _

end Instance

/-! ## Own types -/

namespace Own

/-- The values that the constructors, the builder and the setters give. -/
inductive Reachable : {a : Archetype} → a.Own → Prop where
  | unset {a : Archetype} : Reachable a.record.unset
  | absent {a : Archetype} : Reachable (absent : a.Own)
  | cleared {a : Archetype} : Reachable (cleared : a.Own)
  | tryBuild {a : Archetype} {b : Builder a} {x : a.Own} (h : tryBuild b = .ok x) : Reachable x
  | build {a : Archetype} (b : Builder a) : Reachable (build b).1
  | buildFields {a : Archetype} (b : Builder a) (clearUnset : Bool) :
    Reachable (buildFields b clearUnset).1
  | ofJson {a : Archetype} {text : String} {x : a.Own} (h : a.ofJson text = .ok x) : Reachable x
  | newPoses : Reachable InstancePoses3D.new
  | newAxis : Reachable ScalarAxis.new
  | newCoordinates (xyz : Value) : Reachable (ViewCoordinates.new xyz).1
  | tryNewCoordinates {xyz : Value} {x : Own .viewCoordinates}
    (h : ViewCoordinates.tryNew xyz = .ok x) : Reachable x
  | coordinatesOfFields (clearUnset : Bool) (xyz : Option Value) :
    Reachable (ViewCoordinates.ofFields clearUnset xyz).1
  | newBlueprint (classIdentifier : Value) : Reachable (ViewBlueprint.new classIdentifier).1
  | tryNewBlueprint {classIdentifier : Value} {x : Own .viewBlueprint}
    (h : ViewBlueprint.tryNew classIdentifier = .ok x) : Reachable x
  | set {a : Archetype} {x : a.Own} (h : Reachable x) (name : String) {m : Member a a.Own}
    (hm : a.setter? name = some m) (v : Value) : Reachable (m.set x v).1

theorem sound_ofInstance {x : Instance a} (h : x.Sound) : (toInstance (ofInstance x)).Sound := by
  rwa [toInstance_ofInstance]

theorem sound_tryBuild {b : Builder a} {x : a.Own} (h : tryBuild b = .ok x) :
    (toInstance x).Sound := by
  obtain ⟨y, hy, rfl⟩ := map_eq_ok_iff.mp h
  exact sound_ofInstance (Instance.sound_tryBuild hy)

theorem sound_build (b : Builder a) : (toInstance (build b).1).Sound :=
  sound_ofInstance (Instance.sound_build b)

theorem sound_buildFields (b : Builder a) (clearUnset : Bool) :
    (toInstance (buildFields b clearUnset).1).Sound :=
  sound_ofInstance (Instance.sound_buildFields b clearUnset)

theorem sound_unset : (toInstance a.record.unset).Sound := by
  rw [toInstance_unset]
  exact Instance.sound_absent

theorem sound_ofJson {text : String} {x : a.Own} (h : a.ofJson text = .ok x) :
    (toInstance x).Sound := by
  obtain ⟨y, hy, rfl⟩ := map_eq_ok_iff.mp h
  unfold instanceFromJson at hy
  split at hy
  · cases hy
  · obtain ⟨b, -, hbuild⟩ := bind_eq_ok_iff.mp (mapError_eq_ok_iff.mp hy)
    exact sound_ofInstance (Instance.sound_tryBuild hbuild)
  · cases hy

theorem sound_set {x : a.Own} (h : (toInstance x).Sound) {m : Member a a.Own}
    (hm : m ∈ a.record.members) (v : Value) : (toInstance (m.set x v).1).Sound := by
  rw [(toInstance_set hm x v).1]
  exact h.set m.place v

theorem Reachable.sound {x : a.Own} (h : Reachable x) : (toInstance x).Sound := by
  induction h with
  | unset => exact sound_unset
  | newPoses => exact sound_unset (a := .instancePoses3D)
  | newAxis => exact sound_unset (a := .scalarAxis)
  | absent => exact sound_ofInstance Instance.sound_absent
  | cleared => exact sound_ofInstance Instance.sound_cleared
  | tryBuild h | tryNewCoordinates h | tryNewBlueprint h => exact sound_tryBuild h
  | build | newCoordinates | newBlueprint => exact sound_build _
  | buildFields | coordinatesOfFields => exact sound_buildFields _ _
  | ofJson h => exact sound_ofJson h
  | set _ _ hm v ih => exact sound_set ih (mem_members_of_setter? hm) v

theorem present_toInstance (x : a.Own) :
    (toInstance x).present = a.fields.filterMap fun f => get? x f.name := by
  have hget : (toInstance x).batches.get = fun i => get? x (a.fields.get i).name :=
    funext fun i => (get?_name x i).symm
  have hfields : a.fields.filterMap (fun f => get? x f.name) =
      (List.finRange a.fields.length).filterMap fun i => get? x (a.fields.get i).name :=
    (congrArg (List.filterMap _) a.fields_eq).trans List.filterMap_map
  rw [Instance.present_eq, hget, hfields]

/-- Every batch present is one of its field, with the declared descriptor, type and kind and without
nulls; a setter replaces what its own field holds and leaves the others; and the batches listed are
those of the fields that have one, in the order of the fields, each descriptor once. -/
theorem invariant_of_reachable {x : a.Own} (h : Reachable x) :
    (∀ (i : a.FieldIndex) (b : ComponentBatch), get? x (a.fields.get i).name = some b →
      b.descriptor = (a.fields.get i).descriptor ∧
      b.array.type = (a.fields.get i).componentType.dataType ∧
      b.kind = (a.fields.get i).componentType.elementKind ∧
      b.array.hasNulls = false ∧ ∀ cell ∈ b.array.cells, cell.Full) ∧
    (∀ i : a.FieldIndex, (a.fields.get i).settable = true →
      ∃ m, a.setter? (a.fields.get i).name = some m ∧
        ∀ (v : Value) (j : a.FieldIndex), get? (m.set x v).1 (a.fields.get j).name =
          if i = j then ((a.fields.get i).convertLenient v).1
          else get? x (a.fields.get j).name) ∧
    (toInstance x).present = a.fields.filterMap (fun f => get? x f.name) ∧
    ((toInstance x).present.map (·.descriptor)).Nodup := by
  refine ⟨fun i b hb => ?_, fun i hset => ?_, present_toInstance x, ?_⟩
  · rw [get?_name] at hb
    have hof := h.sound i b hb
    exact ⟨hof.descriptor_eq, hof.type_eq, hof.kind_eq, hof.hasNulls_eq, hof.full⟩
  · obtain ⟨m, hm, rfl⟩ := exists_setter hset
    exact ⟨m, hm, get?_set (mem_members_of_setter? hm) x⟩
  · exact (nodup_descriptors a).sublist h.sound.descriptors_sublist

/-- A view whose visibility is set before its name. -/
def namedView : Own .viewBlueprint :=
  let view := (ViewBlueprint.new (.str "TimeSeries")).1
  let view := (ViewBlueprint.visibleMember.set view (.bool true)).1
  (ViewBlueprint.displayNameMember.set view (.str "Temperatures")).1

theorem invariant_of_reachable_namedView :
    Reachable namedView ∧
    (∃ b, get? namedView "display_name" = some b ∧ b.array.type = .utf8 ∧
      b.descriptor.component = "ViewBlueprint:display_name" ∧ b.array.hasNulls = false) ∧
    (toInstance namedView).present.map (·.descriptor.component) =
      ["ViewBlueprint:class_identifier", "ViewBlueprint:display_name", "ViewBlueprint:visible"] := by
  have hreach : Reachable namedView :=
    .set (.set (.newBlueprint _) "visible" rfl _) "display_name" rfl _
  obtain ⟨hfields, -, hpresent, -⟩ := invariant_of_reachable hreach
  obtain ⟨hdescriptor, htype, -, hnulls, -⟩ := hfields ⟨1, by decide⟩ _ rfl
  refine ⟨hreach, ⟨_, rfl, htype, ?_, hnulls⟩, ?_⟩
  · rw [hdescriptor]
    rfl
  · rw [hpresent]
    rfl

end Own

end Archetype

end ComponentLog
