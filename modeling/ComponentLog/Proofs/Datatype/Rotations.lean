import ComponentLog.Datatype.Rotation
import ComponentLog.Proofs.Input.Shape
import ComponentLog.Proofs.Traversal

/-!
# The forms of rotations

A list can be an axis, a pair or a batch. `RotationAxisAngle.Reads` is the grammar: null, one item,
or a list of items, where an item is a map or a pair of a list and a number. Input is read exactly
as the grammar has it (`ofInput_eq_ok_iff`), so that no input has two readings: the second item of
a pair is a number, and a number is no item.
-/

namespace ComponentLog.RotationAxisAngle

open Value

/-- A map, or a list of a list and a number. -/
inductive ItemForm : Value → Prop where
  | map (entries : List (String × Value)) : ItemForm (.map entries)
  | pair (axis : List Value) {radians : Value} (h : radians.number?.isSome = true) :
    ItemForm (.list [.list axis, radians])

/-- The value is an item that stands for the rotation. -/
def Denotes (v : Value) (r : RotationAxisAngle) : Prop := ItemForm v ∧ ofItem v = .ok r

/-- What input stands for. -/
inductive Reads : Value → List RotationAxisAngle → Prop where
  | null : Reads .null []
  | item {v : Value} {r : RotationAxisAngle} (h : Denotes v r) : Reads v [r]
  | batch {items : List Value} {rs : List RotationAxisAngle} (h : List.Forall₂ Denotes items rs) :
    Reads (.list items) rs

variable {v : Value} {r : RotationAxisAngle} {items : List Value} {rs : List RotationAxisAngle}

/-! ## Items -/

theorem pair?_eq_some_iff {axis radians : Value} :
    pair? items = some (axis, radians) ↔
      items = [axis, radians] ∧ axis.isList = true ∧ radians.number?.isSome = true := by
  constructor
  · intro h
    unfold pair? at h
    split at h
    · split at h
      · rename_i hform
        cases h
        exact ⟨rfl, by simpa using hform⟩
      · cases h
    · cases h
  · rintro ⟨rfl, haxis, hradians⟩
    simp [pair?, haxis, hradians]

theorem pair?_of_number (axis : List Value) {radians : Value}
    (h : radians.number?.isSome = true) :
    pair? [.list axis, radians] = some (.list axis, radians) :=
  pair?_eq_some_iff.2 ⟨rfl, rfl, h⟩

theorem itemForm_of_ofItem (h : ofItem v = .ok r) : ItemForm v := by
  cases v with
  | map entries => exact .map entries
  | list items =>
    simp only [ofItem] at h
    split at h
    · rename_i axis radians hpair
      obtain ⟨rfl, haxis, hradians⟩ := pair?_eq_some_iff.1 hpair
      obtain ⟨axis, rfl⟩ := exists_items_of_isList haxis
      exact .pair axis hradians
    · cases h
  | _ => cases h

theorem denotes_iff : Denotes v r ↔ ofItem v = .ok r :=
  ⟨And.right, fun h => ⟨itemForm_of_ofItem h, h⟩⟩

/-- No item is a number. -/
theorem ItemForm.number?_eq_none (h : ItemForm v) : v.number? = none := by
  cases h <;> rfl

/-- A list of items is no pair, as its second item would be a number. -/
theorem pair?_eq_none (h : List.Forall₂ Denotes items rs) : pair? items = none := by
  cases hpair : pair? items with
  | none => rfl
  | some p =>
    obtain ⟨rfl, -, hradians⟩ := pair?_eq_some_iff.1 hpair
    cases h with
    | cons _ h =>
      cases h with
      | cons hsecond _ =>
        rw [hsecond.1.number?_eq_none] at hradians
        cases hradians

/-! ## Input -/

theorem ofInput_of_denotes (h : Denotes v r) : ofInput v = .ok [r] := by
  obtain ⟨hform, hitem⟩ := h
  cases hform with
  | map entries =>
    show (ofItem (.map entries)).map ([·]) = _
    rw [hitem]
    rfl
  | pair axis hradians =>
    have hpair := pair?_of_number axis hradians
    simp only [ofInput, hpair, Option.isSome_some, if_true, hitem]
    rfl

theorem ofInput_of_forall₂ (h : List.Forall₂ Denotes items rs) :
    ofInput (.list items) = .ok rs := by
  simp only [ofInput, pair?_eq_none h, Option.isSome_none, Bool.false_eq_true, if_false]
  exact mapM_eq_ok_iff.2 (h.imp fun _ _ => And.right)

/-- Input is read as the grammar has it. -/
theorem ofInput_eq_ok_iff : ofInput v = .ok rs ↔ Reads v rs := by
  constructor
  · intro h
    have hone : ∀ {w : Value}, (ofItem w).map ([·]) = .ok rs → Reads w rs := by
      intro w hw
      obtain ⟨r, hr, rfl⟩ := map_eq_ok_iff.1 hw
      exact .item (denotes_iff.2 hr)
    cases v with
    | null =>
      cases h
      exact .null
    | map entries => exact hone h
    | list items =>
      simp only [ofInput] at h
      split at h
      · exact hone h
      · exact .batch ((mapM_eq_ok_iff.1 h).imp fun _ _ => denotes_iff.2)
    | _ => cases h
  · intro h
    cases h with
    | null => rfl
    | item h => exact ofInput_of_denotes h
    | batch h => exact ofInput_of_forall₂ h

/-- A map that holds an axis and its radians is the pair of them, whatever else it holds. -/
theorem ofItem_map {axis : List Value} {radians : Value} {entries : List (String × Value)}
    (hradians : radians.number?.isSome = true)
    (haxis : Value.entry? entries "axis" = some (.list axis))
    (hangle : (Value.entry? entries "angle").or (Value.entry? entries "radians") = some radians) :
    ofItem (.map entries) = ofItem (.list [.list axis, radians]) := by
  have hpair := pair?_of_number axis hradians
  simp only [ofItem, hpair, ofMap, ofPair, angleOf, haxis, hangle]
  cases axisOf (.list axis) with
  | error e => rfl
  | ok axis => cases Leaf.binary32 name radians <;> rfl

/-- Every input is read as the grammar has it or is an error, a list of items never as one pair. A
map with an axis and its radians, under either name, is read as the pair of them. -/
theorem ofInput_unambiguous :
    (∀ v rs, ofInput v = .ok rs ↔ Reads v rs) ∧
    (∀ items rs, List.Forall₂ Denotes items rs → pair? items = none) ∧
    ∀ (axis : List Value) (radians : Value) (entries : List (String × Value)),
      radians.number?.isSome = true → Value.entry? entries "axis" = some (.list axis) →
      (Value.entry? entries "angle").or (Value.entry? entries "radians") = some radians →
      ofItem (.map entries) = ofItem (.list [.list axis, radians]) ∧
      ofInput (.map entries) = ofInput (.list [.list axis, radians]) := by
  refine ⟨fun _ _ => ofInput_eq_ok_iff, fun _ _ => pair?_eq_none, ?_⟩
  intro axis radians entries hradians haxis hangle
  have hitem := ofItem_map hradians haxis hangle
  have hpair := pair?_of_number axis hradians
  refine ⟨hitem, ?_⟩
  simp only [ofInput, hpair, Option.isSome_some, if_true, hitem]

/-- A turn around the z axis as a pair. -/
def pairedTurn : Value := .list [.list [.int 0, .int 0, .int 1], .int 2]

/-- A turn around the x axis as a map. -/
def mappedTurn : Value :=
  .map [("degrees", .int 90), ("axis", .list [.int 1, .int 0, .int 0])]

/-- A list that begins with a pair is a batch if its second item is no number. -/
theorem ofInput_unambiguous_twoTurns : ∃ r s, Denotes pairedTurn r ∧ Denotes mappedTurn s ∧
    ofInput (.list [pairedTurn, mappedTurn]) = .ok [r, s] ∧
    ofInput (.map [("radians", .int 2), ("axis", .list [.int 0, .int 0, .int 1])]) = .ok [r] := by
  obtain ⟨hreads, -, hmap⟩ := ofInput_unambiguous
  obtain ⟨r, hr⟩ : ∃ r, Denotes pairedTurn r := ⟨_, .pair _ rfl, rfl⟩
  obtain ⟨s, hs⟩ : ∃ s, Denotes mappedTurn s := ⟨_, .map _, rfl⟩
  refine ⟨r, s, hr, hs, (hreads _ _).2 (.batch (.cons hr (.cons hs .nil))), ?_⟩
  exact (hmap _ _ _ rfl rfl rfl).2.trans ((hreads _ _).2 (.item hr))

end ComponentLog.RotationAxisAngle
