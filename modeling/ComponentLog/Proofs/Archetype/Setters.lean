import ComponentLog.Proofs.Archetype.Reachable

/-!
# Chains of setters

A setter converts its input at once and overwrites what its field held; a builder keeps
the inputs and converts them in the end. One call on each side keeps the two in step
(`Builder.buildFields_set`), so a chain of setters gives the partial update of the same
inputs that clears nothing (`Own.setAll_eq_buildFields`).
-/

namespace ComponentLog.Archetype

variable {a : Archetype}

theorem Member.place_ne {R : Type} {m n : Member a R} (h : m.name ≠ n.name) :
    m.place ≠ n.place := by
  intro hplace
  refine h (m.name_eq.trans ?_)
  rw [n.name_eq, field, hplace]
  rfl

namespace Instance

theorem ext_get {x y : Instance a} (h : ∀ i, x.batches.get i = y.batches.get i) : x = y := by
  obtain ⟨xs⟩ := x
  obtain ⟨ys⟩ := y
  congr
  exact Vector.ext fun i hi => h ⟨i, hi⟩

theorem set_comm (x : Instance a) {i j : a.FieldIndex} (h : i ≠ j) (v w : Value) :
    ((x.set i v).1.set j w).1 = ((x.set j w).1.set i v).1 := by
  refine ext_get fun k => ?_
  simp only [get_set]
  by_cases hi : i = k
  · have hj : ¬ j = k := fun hj => h (hi.trans hj.symm)
    simp only [hi, hj, if_true, if_false]
  · simp only [hi, if_false]

end Instance

/-! ## In step with the builder -/

namespace Builder

theorem buildFields_new : ((new : Builder a).buildFields false).1 = .absent := by
  refine Instance.ext_get fun i => ?_
  rw [get_buildFields]
  simp [new, Instance.absent, vectorGet_eq_getElem, FieldDescriptor.convertPartial,
    FieldDescriptor.isUnset]

/-- An input given to the builder is a field set anew in what it builds. -/
theorem buildFields_set (b : Builder a) (i : a.FieldIndex) (v : Value) :
    ((b.set i v).buildFields false).1 = ((b.buildFields false).1.set i v).1 := by
  refine Instance.ext_get fun j => ?_
  rw [get_buildFields, get_set, Instance.get_set, get_buildFields]
  by_cases hij : i = j
  · rw [if_pos hij, if_pos hij, FieldDescriptor.convertLenient_eq, hij]
  · rw [if_neg hij, if_neg hij]

/-- The builder takes the input of a member by the member's name. -/
theorem withField_name {R : Type} (b : Builder a) (m : Member a R) (v : Value) :
    b.withField m.name v = .ok (b.set m.place v) := by
  have hfound : a.fieldIndex? m.name = some m.place := fieldIndex?_eq_some_iff.mpr m.name_eq.symm
  unfold withField
  rw [hfound]

end Builder

namespace Own

theorem toInstance_inj {x y : a.Own} (h : toInstance x = toInstance y) : x = y := by
  rw [← ofInstance_toInstance x, h, ofInstance_toInstance]

theorem setAll_cons (x : a.Own) (s : Member a a.Own × Value)
    (steps : List (Member a a.Own × Value)) :
    (setAll x (s :: steps)).1 = (setAll (s.1.set x s.2).1 steps).1 := rfl

theorem setAll_append (x : a.Own) (before after : List (Member a a.Own × Value)) :
    (setAll x (before ++ after)).1 = (setAll (setAll x before).1 after).1 := by
  induction before generalizing x with
  | nil => rfl
  | cons s before ih => rw [List.cons_append, setAll_cons, setAll_cons, ih]

/-- A chain of setters from what a builder gives ends in what the builder gives after the same
inputs. -/
theorem exists_withFields {x : a.Own} {b : Builder a}
    (hx : toInstance x = (b.buildFields false).1) {steps : List (Member a a.Own × Value)}
    (hsteps : ∀ s ∈ steps, s.1 ∈ a.record.members) :
    ∃ b', b.withFields (steps.map fun s => (s.1.name, s.2)) = .ok b' ∧
      toInstance (setAll x steps).1 = (b'.buildFields false).1 := by
  induction steps generalizing x b with
  | nil => exact ⟨b, rfl, hx⟩
  | cons s steps ih =>
    have hset : toInstance (s.1.set x s.2).1 = ((b.set s.1.place s.2).buildFields false).1 := by
      rw [(toInstance_set (hsteps s List.mem_cons_self) x s.2).1, hx, Builder.buildFields_set]
    obtain ⟨b', hb', hx'⟩ := ih hset fun t ht => hsteps t (List.mem_cons_of_mem s ht)
    refine ⟨b', ?_, hx'⟩
    rw [List.map_cons, Builder.withFields_cons, Builder.withField_name]
    exact hb'

/-! ## Order and overwriting -/

theorem set_comm {m n : Member a a.Own} (hm : m ∈ a.record.members) (hn : n ∈ a.record.members)
    (h : m.name ≠ n.name) (x : a.Own) (v w : Value) :
    (n.set (m.set x v).1 w).1 = (m.set (n.set x w).1 v).1 := by
  refine toInstance_inj ?_
  rw [(toInstance_set hn _ w).1, (toInstance_set hm x v).1, (toInstance_set hm _ v).1,
    (toInstance_set hn x w).1]
  exact Instance.set_comm _ (Member.place_ne h) v w

/-- Setters of other fields leave a field as it is. -/
theorem get?_setAll_of_ne {m : Member a a.Own} {steps : List (Member a a.Own × Value)}
    (hsteps : ∀ s ∈ steps, s.1 ∈ a.record.members) (hne : ∀ s ∈ steps, s.1.name ≠ m.name)
    (x : a.Own) : get? (setAll x steps).1 m.name = get? x m.name := by
  induction steps generalizing x with
  | nil => rfl
  | cons s steps ih =>
    have hs : s.1.place ≠ m.place := Member.place_ne (hne s List.mem_cons_self)
    rw [setAll_cons, ih (fun t ht => hsteps t (List.mem_cons_of_mem s ht))
      (fun t ht => hne t (List.mem_cons_of_mem s ht)), m.name_eq]
    exact (get?_set (hsteps s List.mem_cons_self) x s.2 m.place).trans (if_neg hs)

/-- A setter whose value is null or does not convert leaves its field absent. -/
theorem get?_set_eq_none {m : Member a a.Own} (hm : m ∈ a.record.members) {v : Value}
    (hv : v.isNull = true ∨ ∃ cause, m.field.Fails (some v) cause) (x : a.Own) :
    get? (m.set x v).1 m.name = none := by
  rw [get?_set_self hm, FieldDescriptor.convertLenient_eq, FieldDescriptor.convertPartial_eq]
  rcases hv with hnull | ⟨cause, hfails⟩
  · have hunset : FieldDescriptor.isUnset (some v) = true := hnull
    rw [FieldDescriptor.outcome?_of_isUnset hunset]
    rfl
  · rw [hfails]

/-- A chain of setters gives what the builder gives for the same inputs, field by field and without
clearing. Setters of different fields commute, and the last setter of a field decides: after a null
or a value that does not convert the field is absent, whatever it held before. -/
theorem setAll_eq_buildFields (steps : List (Member a a.Own × Value))
    (hset : ∀ s ∈ steps, a.setter? s.1.name = some s.1) :
    (∃ b, Builder.withFields .new (steps.map fun s => (s.1.name, s.2)) = .ok b ∧
      (setAll absent steps).1 = (buildFields b false).1) ∧
    (∀ s ∈ steps, ∀ t ∈ steps, s.1.name ≠ t.1.name → ∀ x : a.Own,
      (setAll x [s, t]).1 = (setAll x [t, s]).1) ∧
    ∀ before s after, steps = before ++ s :: after →
      (s.2.isNull = true ∨ ∃ cause, s.1.field.Fails (some s.2) cause) →
      (∀ t ∈ after, t.1.name ≠ s.1.name) →
      get? (setAll absent steps).1 s.1.name = none := by
  have hmem : ∀ s ∈ steps, s.1 ∈ a.record.members := fun s hs =>
    mem_members_of_setter? (hset s hs)
  refine ⟨?_, fun s hs t ht hne x => ?_, ?_⟩
  · have habsent : toInstance (absent : a.Own) =
        ((Builder.new : Builder a).buildFields false).1 := by
      rw [Builder.buildFields_new, absent, toInstance_ofInstance]
    obtain ⟨b, hb, hx⟩ := exists_withFields habsent hmem
    refine ⟨b, hb, toInstance_inj ?_⟩
    rw [hx, buildFields, toInstance_ofInstance]
  · exact set_comm (hmem s hs) (hmem t ht) hne x s.2 t.2
  · rintro before s after rfl hv hne
    have hafter : ∀ t ∈ after, t.1 ∈ a.record.members := fun t ht => hmem t (by simp [ht])
    rw [setAll_append, setAll_cons, get?_setAll_of_ne hafter hne]
    exact get?_set_eq_none (hmem s (by simp)) hv _

/-- A range that is set and then set to a text, and a lock that is set in between. -/
def narrowedAxis : List (Member .scalarAxis (Own .scalarAxis) × Value) :=
  [(ScalarAxis.rangeMember, .list [.float ⟨0⟩, .float ⟨1⟩]),
    (ScalarAxis.zoomLockMember, .bool true), (ScalarAxis.rangeMember, .str "narrow")]

theorem setAll_eq_buildFields_narrowedAxis :
    (∀ s ∈ narrowedAxis, setter? .scalarAxis s.1.name = some s.1) ∧
    (∃ b, Builder.withFields .new [("range", .list [.float ⟨0⟩, .float ⟨1⟩]),
        ("zoom_lock", .bool true), ("range", .str "narrow")] = .ok b ∧
      (setAll absent narrowedAxis).1 = (buildFields b false).1) ∧
    get? (setAll absent narrowedAxis).1 "range" = none := by
  have hset : ∀ s ∈ narrowedAxis, setter? .scalarAxis s.1.name = some s.1 := by
    intro s hs
    fin_cases hs <;> rfl
  obtain ⟨hagree, -, hlast⟩ := setAll_eq_buildFields narrowedAxis hset
  exact ⟨hset, hagree, hlast [_, _] _ [] rfl (.inr ⟨_, rfl⟩) (by simp)⟩

end Own

end ComponentLog.Archetype
