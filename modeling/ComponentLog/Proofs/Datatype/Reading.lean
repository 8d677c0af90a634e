import ComponentLog.Datatype.Group
import ComponentLog.Proofs.Input.Shape
import ComponentLog.Proofs.Traversal

/-!
# Reading lists of input item by item

`Groupable n` is the input whose leaves are taken `n` at a time; such input is read
exactly when its leaves are (`groupValues_eq_ok_iff`). A nested list is read item by item:
what it gives is what its items give, each alone in a list of its own, one after the other
(`scalarValues_list`, `groupValues_nested`).
-/

namespace ComponentLog

open Value

variable {α : Type} {target : String} {leaf : Value → Except ConversionError α}

/-! ## Scalars -/

theorem scalarValues_of_not_isList {v : Value} (hnull : v.isNull = false)
    (hlist : v.isList = false) : scalarValues target leaf v = (leaf v).map ([·]) := by
  cases v with
  | null => cases hnull
  | list => cases hlist
  | _ => rfl

theorem scalarValues_list_eq_ok_iff {items : List Value} {vs : List α} :
    scalarValues target leaf (.list items) = .ok vs ↔
      (list items).isRectangular = true ∧ (itemLeaves items).mapM leaf = .ok vs := by
  unfold scalarValues
  cases h : (list items).isRectangular with
  | true => simp [leaves]
  | false => simp

/-- The values of a list are those of its items, one after the other. -/
theorem scalarValues_list {items : List Value} {vs : List α}
    (h : scalarValues target leaf (.list items) = .ok vs) :
    ∃ inner vss, (list items).rectangularShape? = some (items.length :: inner) ∧
      vs = vss.flatten ∧
      List.Forall₂ (fun v ws => scalarValues target leaf (.list [v]) = .ok ws ∧
        ws.length = shapeSize inner) items vss := by
  obtain ⟨hrect, hleaves⟩ := scalarValues_list_eq_ok_iff.1 h
  obtain ⟨s, hs⟩ := Option.isSome_iff_exists.1 hrect
  obtain ⟨inner, rfl, -, hall⟩ := rectangularShape?_list_eq_some_iff.1 hs
  rw [itemLeaves_eq_flatMap] at hleaves
  obtain ⟨vss, hvss, rfl⟩ := mapM_flatMap_eq_ok hleaves
  refine ⟨inner, vss, hs, rfl, forall₂_of_mem hvss fun v hv ws _ hws => ⟨?_, ?_⟩⟩
  · have hone := rectangularShape?_singleton (hall v hv)
    exact scalarValues_list_eq_ok_iff.2 ⟨by simp [isRectangular, hone], by simpa [itemLeaves]⟩
  · rw [length_eq_of_mapM hws, length_leaves (hall v hv)]

/-! ## Groups -/

/-- Input whose leaves are taken `n` at a time. -/
inductive Groupable (n : Nat) : Value → Prop where
  | null : Groupable n .null
  | empty : Groupable n (.list [])
  | flat {items : List Value} : items ≠ [] → (list items).isFlatList = true →
      items.length = n → Groupable n (.list items)
  | nested {items : List Value} {inner : List Nat} : (list items).isFlatList = false →
      (list items).rectangularShape? = some (items.length :: inner) → n ∣ shapeSize inner →
      Groupable n (.list items)

/-- The leaves that are taken; null, which is a leaf, gives none. -/
def takenLeaves (v : Value) : List Value := if v.isNull then [] else v.leaves

theorem takenLeaves_list (items : List Value) : takenLeaves (.list items) = itemLeaves items := rfl

theorem isEmpty_of_not_isFlatList {items : List Value} (h : (list items).isFlatList = false) :
    items.isEmpty = false := by
  cases items with
  | nil => cases h
  | cons => rfl

theorem groupLeaves_nested {n : Nat} {items : List Value} {inner : List Nat}
    (hflat : (list items).isFlatList = false)
    (hrect : (list items).rectangularShape? = some (items.length :: inner)) :
    groupLeaves n target (.list items) =
      if n ∣ shapeSize inner then .ok (itemLeaves items)
      else .error (.wrongArity target n (shapeSize inner)) := by
  have hempty := isEmpty_of_not_isFlatList hflat
  simp only [groupLeaves, hempty, hflat, hrect, Bool.false_eq_true, if_false, List.drop_succ_cons,
    List.drop_zero, leaves, Nat.dvd_iff_mod_eq_zero]

theorem groupLeaves_flat {n : Nat} {items : List Value} (hne : items ≠ [])
    (hflat : (list items).isFlatList = true) :
    groupLeaves n target (.list items) =
      if items.length = n then .ok (itemLeaves items)
      else .error (.wrongArity target n items.length) := by
  have hempty : items.isEmpty = false := by simpa using hne
  simp only [groupLeaves, hempty, hflat, Bool.false_eq_true, if_false, if_true, leaves]

theorem groupLeaves_ragged {n : Nat} {items : List Value}
    (hflat : (list items).isFlatList = false)
    (hrect : (list items).rectangularShape? = none) :
    groupLeaves n target (.list items) = .error (.ragged target (list items).shape) := by
  have hempty := isEmpty_of_not_isFlatList hflat
  simp only [groupLeaves, hempty, hflat, hrect, Bool.false_eq_true, if_false]

theorem groupLeaves_eq_ok_iff {n : Nat} {v : Value} {ls : List Value} :
    groupLeaves n target v = .ok ls ↔ Groupable n v ∧ ls = takenLeaves v := by
  constructor
  · intro h
    cases v with
    | null => exact ⟨.null, (Except.ok.inj h).symm⟩
    | list items =>
      rw [takenLeaves_list]
      by_cases hne : items = []
      · subst hne
        exact ⟨.empty, (Except.ok.inj h).symm⟩
      cases hflat : (list items).isFlatList with
      | true =>
        rw [groupLeaves_flat hne hflat] at h
        split at h
        · rename_i hlen
          exact ⟨.flat hne hflat hlen, (Except.ok.inj h).symm⟩
        · cases h
      | false =>
        cases hrect : (list items).rectangularShape? with
        | none =>
          rw [groupLeaves_ragged hflat hrect] at h
          cases h
        | some s =>
          obtain ⟨inner, rfl, -⟩ := rectangularShape?_list_eq_some_iff.1 hrect
          rw [groupLeaves_nested hflat hrect] at h
          split at h
          · rename_i hdvd
            exact ⟨.nested hflat hrect hdvd, (Except.ok.inj h).symm⟩
          · cases h
    | _ => cases h
  · rintro ⟨h, rfl⟩
    cases h with
    | null => rfl
    | empty => rfl
    | flat hne hflat hlen => rw [groupLeaves_flat hne hflat, if_pos hlen, takenLeaves_list]
    | nested hflat hrect hdvd => rw [groupLeaves_nested hflat hrect, if_pos hdvd, takenLeaves_list]

/-- Input gives groups exactly when it can be grouped and each leaf is read. -/
theorem groupValues_eq_ok_iff {n : Nat} {v : Value} {gs : List (Vector α n)} :
    groupValues n target leaf v = .ok gs ↔
      Groupable n v ∧ ∃ xs, (takenLeaves v).mapM leaf = .ok xs ∧ gs = groups n xs := by
  unfold groupValues
  simp only [bind_eq_ok_iff, groupLeaves_eq_ok_iff]
  constructor
  · rintro ⟨_, ⟨hv, rfl⟩, xs, hxs, h⟩
    exact ⟨hv, xs, hxs, (Except.ok.inj h).symm⟩
  · rintro ⟨hv, xs, hxs, rfl⟩
    exact ⟨_, ⟨hv, rfl⟩, xs, hxs, rfl⟩

/-- A flat list is one group. -/
theorem groupValues_flat {n : Nat} (hn : 0 < n) {items : List Value} {gs : List (Vector α n)}
    (hne : items ≠ []) (hflat : (list items).isFlatList = true)
    (h : groupValues n target leaf (.list items) = .ok gs) : ∃ g, gs = [g] := by
  obtain ⟨hv, xs, hxs, rfl⟩ := groupValues_eq_ok_iff.1 h
  have hlen : items.length = n := by
    cases hv with
    | empty => exact absurd rfl hne
    | flat _ _ hlen => exact hlen
    | nested hflat' => cases hflat.symm.trans hflat'
  rw [takenLeaves_list, itemLeaves_of_isFlatList hflat] at hxs
  have hx : xs.length = n := (length_eq_of_mapM hxs).trans hlen
  apply List.length_eq_one_iff.1
  rw [length_groups hn ⟨1, by omega⟩, hx, Nat.div_self hn]

/-- The groups of a nested list are those of its items, one after the other. -/
theorem groupValues_nested {n : Nat} (hn : 0 < n) {items : List Value} {gs : List (Vector α n)}
    (hflat : (list items).isFlatList = false)
    (h : groupValues n target leaf (.list items) = .ok gs) :
    ∃ inner gss, (list items).rectangularShape? = some (items.length :: inner) ∧ inner ≠ [] ∧
      n ∣ shapeSize inner ∧ gs = gss.flatten ∧
      List.Forall₂ (fun v hs => groupValues n target leaf (.list [v]) = .ok hs ∧
        hs.length = shapeSize inner / n) items gss := by
  obtain ⟨hv, xs, hxs, rfl⟩ := groupValues_eq_ok_iff.1 h
  obtain ⟨inner, hrect, hdvd⟩ : ∃ inner,
      (list items).rectangularShape? = some (items.length :: inner) ∧ n ∣ shapeSize inner := by
    cases hv with
    | empty => cases hflat
    | flat _ hflat' => cases hflat.symm.trans hflat'
    | nested _ hrect hdvd => exact ⟨_, hrect, hdvd⟩
  have hall : ∀ v ∈ items, v.rectangularShape? = some inner := by
    obtain ⟨_, heq, -, hall⟩ := rectangularShape?_list_eq_some_iff.1 hrect
    cases heq
    exact hall
  have hinner := inner_ne_nil_of_not_isFlatList hall hflat
  rw [takenLeaves_list, itemLeaves_eq_flatMap] at hxs
  obtain ⟨xss, hxss, rfl⟩ := mapM_flatMap_eq_ok hxs
  have hlen : ∀ v ∈ items, ∀ ys, v.leaves.mapM leaf = .ok ys → ys.length = shapeSize inner :=
    fun v hv ys hys => (length_eq_of_mapM hys).trans (length_leaves (hall v hv))
  refine ⟨inner, xss.map (groups n), hrect, hinner, hdvd, ?_, ?_⟩
  · apply groups_flatten hn
    intro ys hys
    obtain ⟨v, hv, hread⟩ := exists_of_mem_forall₂ hxss hys
    rwa [hlen v hv ys hread]
  · rw [List.forall₂_map_right_iff]
    refine forall₂_of_mem hxss fun v hv ys _ hys => ⟨?_, ?_⟩
    · -- an item of a nested list is a list, so it stands in a nested list again
      have hlist := isList_of_rectangularShape? (hall v hv) hinner
      have hone := rectangularShape?_singleton (hall v hv)
      refine groupValues_eq_ok_iff.2 ⟨.nested (by simp [isFlatList, hlist]) hone hdvd, ys, ?_, rfl⟩
      simpa [takenLeaves_list, itemLeaves] using hys
    · have := hlen v hv ys hys
      rw [length_groups hn (by rwa [this]), this]

end ComponentLog
