import ComponentLog.Proofs.Datatype.Reading

/-!
# Grouping in full

Groups can be filled in place: the leaves are cut into runs of `n`, the last of which may be
short, and each run is written slot by slot over a group of blanks (`fillGroups`). Input that is
accepted has only full runs, so the blank never shows (`fillGroups_eq`). `Refused` lists the
input that gives no groups, each with its error.
-/

namespace ComponentLog

open Value

variable {α : Type} {n : Nat} {target : String} {leaf : Value → Except ConversionError α}

/-! ## Filling groups -/

/-- Runs of `n` from the front; what is left at the end is a shorter one. -/
def chunks {α : Type} (n : Nat) (xs : List α) : List (List α) :=
  cut (List.replicate ((xs.length + (n - 1)) / n) n) xs

/-- One group, written over blanks from its first slot on. A slot without an item stays blank, an
item without a slot is not looked at. -/
def fillGroup (n : Nat) (blank : α) (leaf : Value → Except ConversionError α)
    (items : List Value) : Except ConversionError (Vector α n) := do
  let xs ← (items.take n).mapM leaf
  return .ofFn fun i => xs[i]?.getD blank

/-- Converts input for a datatype of `n` scalars, one group after the other. -/
def fillGroups (n : Nat) (blank : α) (target : String) (leaf : Value → Except ConversionError α)
    (v : Value) : Except ConversionError (List (Vector α n)) := do
  let leaves ← groupLeaves n target v
  (chunks n leaves).mapM (fillGroup n blank leaf)

theorem chunks_ungroup (hn : 1 ≤ n) (gs : List (Vector α n)) :
    chunks n (ungroup gs) = gs.map (·.toList) := by
  have hcount : ((ungroup gs).length + (n - 1)) / n = gs.length := by
    rw [length_ungroup, Nat.add_comm, Nat.add_mul_div_right _ _ hn,
      Nat.div_eq_of_lt (by omega), Nat.zero_add]
  rw [chunks, hcount, cut_ungroup]

theorem fillGroup_eq_ok {blank : α} {items : List Value} {g : Vector α n}
    (h : items.mapM leaf = .ok g.toList) : fillGroup n blank leaf items = .ok g := by
  have hlen : items.length = n := by rw [← length_eq_of_mapM h, Vector.length_toList]
  rw [fillGroup, List.take_of_length_le (Nat.le_of_eq hlen), h]
  show Except.ok _ = _
  congr 1
  ext i hi
  simp

theorem fillGroup_eq_error {blank : α} {items : List Value} {e : ConversionError}
    (hlen : items.length = n) (h : items.mapM leaf = .error e) :
    fillGroup n blank leaf items = .error e := by
  rw [fillGroup, List.take_of_length_le (Nat.le_of_eq hlen), h]
  rfl

/-- Full runs are filled with their items, in order and up to the first that fails. -/
theorem mapM_fillGroup (hn : 1 ≤ n) (blank : α) (runs : List (Vector Value n)) :
    (runs.map (·.toList)).mapM (fillGroup n blank leaf) =
      ((ungroup runs).mapM leaf).map (groups n) := by
  induction runs with
  | nil => simp [pure, Except.pure, Except.map]
  | cons run runs ih =>
    rw [List.map_cons, List.mapM_cons, ungroup_cons, List.mapM_append, ih]
    cases hrun : run.toList.mapM leaf with
    | error e =>
      rw [fillGroup_eq_error Vector.length_toList hrun]
      rfl
    | ok xs =>
      have hxs : xs.length = n := (length_eq_of_mapM hrun).trans Vector.length_toList
      obtain ⟨g, rfl⟩ : ∃ g : Vector α n, g.toList = xs := ⟨⟨xs.toArray, hxs⟩, rfl⟩
      rw [fillGroup_eq_ok hrun]
      cases (ungroup runs).mapM leaf with
      | error e => rfl
      | ok ys =>
        have hcons : groups n (g.toList ++ ys) = g :: groups n ys := by
          simpa using groups_ungroup_append hn [g] ys
        show Except.ok _ = Except.ok _
        rw [hcons]

theorem dvd_length_takenLeaves {v : Value} (h : Groupable n v) : n ∣ (takenLeaves v).length := by
  cases h with
  | null => exact Nat.dvd_zero n
  | empty => exact Nat.dvd_zero n
  | flat _ hflat hlen =>
    exact ⟨1, by rw [takenLeaves_list, itemLeaves_of_isFlatList hflat, hlen, Nat.mul_one]⟩
  | nested _ hrect hdvd =>
    obtain ⟨_, hcons, -, hall⟩ := rectangularShape?_list_eq_some_iff.1 hrect
    cases hcons
    rw [takenLeaves_list, length_itemLeaves hall]
    exact Nat.dvd_mul_left_of_dvd hdvd _

/-- Filling group by group gives the groups of all leaves, whatever the slots hold before. -/
theorem fillGroups_eq (hn : 1 ≤ n) (blank : α) (v : Value) :
    fillGroups n blank target leaf v = groupValues n target leaf v := by
  unfold fillGroups groupValues
  cases h : groupLeaves n target v with
  | error e => rfl
  | ok leaves =>
    obtain ⟨hv, rfl⟩ := groupLeaves_eq_ok_iff.1 h
    obtain ⟨runs, hruns⟩ := exists_ungroup (dvd_length_takenLeaves hv)
    show (chunks n (takenLeaves v)).mapM _ = _
    rw [← hruns, chunks_ungroup hn, mapM_fillGroup hn]
    show _ = (ungroup runs).mapM leaf >>= fun scalars => .ok (groups n scalars)
    cases (ungroup runs).mapM leaf <;> rfl

/-! ## Input that is refused -/

/-- Input that gives no groups, and its error. Only where the leaves can be taken `n` at a time is
a leaf the cause, the first that is not read. -/
inductive Refused (n : Nat) (target : String) (leaf : Value → Except ConversionError α) :
    Value → ConversionError → Prop where
  | notList {v : Value} : v.isNull = false → v.isList = false →
      Refused n target leaf v (.invalidType target "list" v.typeName)
  | ragged {items : List Value} : (list items).isFlatList = false →
      (list items).isRectangular = false →
      Refused n target leaf (.list items) (.ragged target (list items).shape)
  | itemCount {items : List Value} : items ≠ [] → (list items).isFlatList = true →
      items.length ≠ n → Refused n target leaf (.list items) (.wrongArity target n items.length)
  | rowCount {items : List Value} {inner : List Nat} : (list items).isFlatList = false →
      (list items).rectangularShape? = some (items.length :: inner) → ¬ n ∣ shapeSize inner →
      Refused n target leaf (.list items) (.wrongArity target n (shapeSize inner))
  | leaf {v : Value} {i : Nat} {e : ConversionError} (hv : Groupable n v)
      (hi : i < (takenLeaves v).length) (hfail : leaf (takenLeaves v)[i] = .error e)
      (hbefore : ∀ (j : Nat) (hj : j < i), ∃ x, leaf (takenLeaves v)[j] = .ok x) :
      Refused n target leaf v e

theorem groupLeaves_of_not_isList {v : Value} (hnull : v.isNull = false)
    (hlist : v.isList = false) :
    groupLeaves n target v = .error (.invalidType target "list" v.typeName) := by
  cases v with
  | null => cases hnull
  | list => cases hlist
  | _ => rfl

/-- Input whose leaves are not taken is refused before any leaf is read. -/
theorem refused_of_groupLeaves {v : Value} {e : ConversionError}
    (h : groupLeaves n target v = .error e) : Refused n target leaf v e := by
  cases hlist : v.isList with
  | false =>
    cases hnull : v.isNull with
    | true =>
      cases v with
      | null => cases h
      | _ => cases hnull
    | false =>
      rw [groupLeaves_of_not_isList hnull hlist] at h
      cases h
      exact .notList hnull hlist
  | true =>
    obtain ⟨items, rfl⟩ := exists_items_of_isList hlist
    cases hflat : (list items).isFlatList with
    | true =>
      by_cases hne : items = []
      · subst hne
        cases h
      rw [groupLeaves_flat hne hflat] at h
      split at h
      · cases h
      · rename_i hlen
        cases h
        exact .itemCount hne hflat hlen
    | false =>
      cases hrect : (list items).rectangularShape? with
      | none =>
        rw [groupLeaves_ragged hflat hrect] at h
        cases h
        exact .ragged hflat (by simp [isRectangular, hrect])
      | some s =>
        obtain ⟨inner, rfl, -⟩ := rectangularShape?_list_eq_some_iff.1 hrect
        rw [groupLeaves_nested hflat hrect] at h
        split at h
        · cases h
        · rename_i hdvd
          cases h
          exact .rowCount hflat hrect hdvd

theorem groupValues_eq_error_iff {v : Value} {e : ConversionError} :
    groupValues n target leaf v = .error e ↔ Refused n target leaf v e := by
  unfold groupValues
  constructor
  · intro h
    rcases bind_eq_error_iff.1 h with h | ⟨leaves, hleaves, h⟩
    · exact refused_of_groupLeaves h
    · obtain ⟨hv, rfl⟩ := groupLeaves_eq_ok_iff.1 hleaves
      rcases bind_eq_error_iff.1 h with h | ⟨xs, -, h⟩
      · obtain ⟨i, hi, hfail, hbefore⟩ := mapM_eq_error_iff.1 h
        exact .leaf hv hi hfail hbefore
      · cases h
  · intro h
    cases h with
    | notList hnull hlist => rw [groupLeaves_of_not_isList hnull hlist]; rfl
    | ragged hflat hrect =>
      rw [groupLeaves_ragged hflat (by simpa [isRectangular] using hrect)]
      rfl
    | itemCount hne hflat hlen => rw [groupLeaves_flat hne hflat, if_neg hlen]; rfl
    | rowCount hflat hrect hdvd => rw [groupLeaves_nested hflat hrect, if_neg hdvd]; rfl
    | leaf hv hi hfail hbefore =>
      have hread := mapM_eq_error_iff.2 ⟨_, hi, hfail, hbefore⟩
      refine bind_eq_error_iff.2 (.inr ⟨_, groupLeaves_eq_ok_iff.2 ⟨hv, rfl⟩, ?_⟩)
      exact bind_eq_error_iff.2 (.inl hread)

/-! ## Input that is accepted -/

theorem ungroup_groups (hn : 1 ≤ n) {xs : List α} (h : n ∣ xs.length) :
    ungroup (groups n xs) = xs := by
  obtain ⟨gs, rfl⟩ := exists_ungroup h
  rw [groups_ungroup hn]

/-- The groups hold what the leaves are read as, one scalar for each leaf and in their order. -/
theorem forall₂_ungroup (hn : 1 ≤ n) {v : Value} {gs : List (Vector α n)}
    (h : groupValues n target leaf v = .ok gs) :
    List.Forall₂ (fun w x => leaf w = .ok x) (takenLeaves v) (ungroup gs) := by
  obtain ⟨hv, xs, hxs, rfl⟩ := groupValues_eq_ok_iff.1 h
  have hdvd : n ∣ xs.length := by
    rw [length_eq_of_mapM hxs]
    exact dvd_length_takenLeaves hv
  rw [ungroup_groups hn hdvd]
  exact mapM_eq_ok_iff.1 hxs

theorem exists_groupValues_iff {v : Value} :
    (∃ gs, groupValues n target leaf v = .ok gs) ↔
      Groupable n v ∧ ∀ w ∈ takenLeaves v, ∃ x, leaf w = .ok x := by
  simp only [groupValues_eq_ok_iff]
  rw [← exists_mapM_iff]
  constructor
  · rintro ⟨_, hv, xs, hxs, -⟩
    exact ⟨hv, xs, hxs⟩
  · rintro ⟨hv, xs, hxs⟩
    exact ⟨_, hv, xs, hxs, rfl⟩

/-- Which input gives groups, what they hold, and why other input is refused. The leaves of an
item of a nested list are groups of their own, and filling in place changes nothing. -/
theorem groupValues_exact (hn : 1 ≤ n) (target : String)
    (leaf : Value → Except ConversionError α) (v : Value) :
    ((∃ gs, groupValues n target leaf v = .ok gs) ↔
      Groupable n v ∧ ∀ w ∈ takenLeaves v, ∃ x, leaf w = .ok x) ∧
    (∀ gs, groupValues n target leaf v = .ok gs →
      (v.isNull = true → gs = []) ∧
      List.Forall₂ (fun w x => leaf w = .ok x) (takenLeaves v) (ungroup gs) ∧
      ∀ items, v = .list items → (list items).isFlatList = false →
        ∃ gss, gs = gss.flatten ∧ List.Forall₂ (fun item hs =>
          List.Forall₂ (fun w x => leaf w = .ok x) item.leaves (ungroup hs)) items gss) ∧
    (∀ e, groupValues n target leaf v = .error e ↔ Refused n target leaf v e) ∧
    ∀ blank : α, fillGroups n blank target leaf v = groupValues n target leaf v := by
  refine ⟨exists_groupValues_iff, fun gs h => ⟨fun hnull => ?_, forall₂_ungroup hn h, ?_⟩,
    fun _ => groupValues_eq_error_iff, fun blank => fillGroups_eq hn blank v⟩
  · obtain ⟨-, xs, hxs, rfl⟩ := groupValues_eq_ok_iff.1 h
    rw [takenLeaves, if_pos hnull] at hxs
    cases hxs
    exact groups_nil
  · rintro items rfl hflat
    obtain ⟨_, gss, -, -, -, hgs, hrows⟩ := groupValues_nested hn hflat h
    refine ⟨gss, hgs, hrows.imp fun item hs hitem => ?_⟩
    simpa [takenLeaves_list, itemLeaves] using forall₂_ungroup hn hitem.1

/-- Two rows of four numbers. -/
def twoRows : Value :=
  .list [.list [.int 1, .int 2, .int 3, .int 4], .list [.int 5, .int 6, .int 7, .int 8]]

/-- Taken two at a time the rows are four groups, and three at a time they are refused. -/
theorem groupValues_exact_twoRows :
    1 ≤ 2 ∧ 1 ≤ 3 ∧
    fillGroups 2 255 "pair" (Leaf.uint8 "pair") twoRows =
      .ok [#v[1, 2], #v[3, 4], #v[5, 6], #v[7, 8]] ∧
    groupValues 3 "triple" (Leaf.uint8 "triple") twoRows = .error (.wrongArity "triple" 3 4) := by
  have htwo : 1 ≤ 2 := by decide
  have hthree : 1 ≤ 3 := by decide
  obtain ⟨-, -, -, hfill⟩ := groupValues_exact htwo "pair" (Leaf.uint8 "pair") twoRows
  obtain ⟨-, -, herror, -⟩ := groupValues_exact hthree "triple" (Leaf.uint8 "triple") twoRows
  have hdvd : ¬ 3 ∣ shapeSize [4] := by decide
  exact ⟨htwo, hthree, hfill 255, (herror _).2 (.rowCount rfl rfl hdvd)⟩

end ComponentLog
