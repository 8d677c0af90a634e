import ComponentLog.Input.Value
import ComponentLog.Proofs.Traversal
import ComponentLog.Rows.Column

/-!
# Inferred partition plans

Which shapes split a batch into rows of whole values (`Splittable`), and the lengths of
those rows (`rowLengths`). Inference finds a plan exactly for these shapes (`infer_cases`),
and whether the plan counts values or flat scalars, it stands for these lengths and fits
every batch of the kind and length (`partitionedWith_eq`).
-/

namespace ComponentLog

open Columnar Value

namespace PartitionPlan

/-! ## Checked sizes -/

theorem sized_eq {n : Nat} (h : n < UInt64.size) : sized n = .ok n := if_pos h

theorem word_eq (a : Arithmetic) {n : Nat} (h : n < UInt64.size) : word a n = .ok n := by
  cases a with
  | checked => exact sized_eq h
  | wrapping => rw [word, Nat.mod_eq_of_lt h]

theorem remainder_eq {n groupSize : Nat} (h : 1 ≤ groupSize) :
    remainder n groupSize = .ok (n % groupSize) := if_neg (by omega)

/-- A product is found where the products of all leading parts fit. -/
theorem foldlM_word_eq (a : Arithmetic) {sizes : List Nat} {acc : Nat}
    (h : ∀ m ≤ sizes.length, acc * shapeSize (sizes.take m) < UInt64.size) :
    sizes.foldlM (fun acc n => word a (acc * n)) acc = .ok (acc * shapeSize sizes) := by
  induction sizes generalizing acc with
  | nil => simp [shapeSize, pure, Except.pure]
  | cons n ns ih =>
    have h1 := h 1 (by simp)
    simp only [List.take_succ_cons, List.take_zero, shapeSize, Nat.mul_one] at h1
    rw [List.foldlM_cons, word_eq a h1]
    show ns.foldlM (fun acc n => word a (acc * n)) (acc * n) = _
    rw [ih, shapeSize, Nat.mul_assoc]
    intro m hm
    have := h (m + 1) (by simpa using hm)
    rwa [List.take_succ_cons, shapeSize, ← Nat.mul_assoc] at this

theorem product_eq (a : Arithmetic) {sizes : List Nat}
    (h : ∀ m ≤ sizes.length, shapeSize (sizes.take m) < UInt64.size) :
    product a sizes = .ok (shapeSize sizes) := by
  unfold product
  rw [foldlM_word_eq a (by simpa using h), Nat.one_mul]

/-- One row, which ends where the word counts its end. -/
theorem wholeGroups_cons (a : Arithmetic) {k offset n : Nat} {ns : List Nat}
    (hlt : offset + n < UInt64.size) (hk : 1 ≤ k) : wholeGroups a k offset (n :: ns) =
      if k ∣ n then (n / k :: ·) <$> wholeGroups a k (offset + n) ns
      else throw (.splitsGroup k (offset + n)) := by
  rw [wholeGroups, word_eq a hlt, remainder_eq hk]
  simp only [bind, Except.bind, Nat.dvd_iff_mod_eq_zero]
  split
  · rfl
  · rfl

/-- Flat lengths of whole groups are found, each divided by the size of the groups. -/
theorem wholeGroups_eq (a : Arithmetic) {k : Nat} (hk : 1 ≤ k) {ns : List Nat} {offset : Nat}
    (hns : ∀ n ∈ ns, k ∣ n) (hfit : offset + totalLength ns < UInt64.size) :
    wholeGroups a k offset ns = .ok (ns.map (· / k)) := by
  induction ns generalizing offset with
  | nil => rfl
  | cons n ns ih =>
    rw [totalLength_cons] at hfit
    have hrest : wholeGroups a k (offset + n) ns = .ok (ns.map (· / k)) :=
      ih (fun m hm => hns m (List.mem_cons_of_mem _ hm)) (by omega)
    rw [wholeGroups_cons a (by omega) hk, if_pos (hns n List.mem_cons_self), hrest]
    rfl

/-! ## Sizes that were found -/

theorem sized_eq_ok {m n : Nat} (h : sized m = .ok n) : n = m := by
  unfold sized at h
  split at h
  · exact (Except.ok.inj h).symm
  · cases h

theorem foldlM_word_eq_ok {sizes : List Nat} {acc x : Nat}
    (h : sizes.foldlM (fun acc n => word .checked (acc * n)) acc = .ok x) :
    x = acc * shapeSize sizes := by
  induction sizes generalizing acc with
  | nil =>
    cases h
    exact (Nat.mul_one _).symm
  | cons n ns ih =>
    rw [List.foldlM_cons] at h
    obtain ⟨m, hm, h⟩ := bind_eq_ok_iff.1 h
    obtain rfl := sized_eq_ok hm
    rw [ih h, shapeSize, Nat.mul_assoc]

theorem product_eq_ok {sizes : List Nat} {x : Nat} (h : product .checked sizes = .ok x) :
    x = shapeSize sizes := by
  rw [foldlM_word_eq_ok h, Nat.one_mul]

theorem wholeGroups_eq_ok {a : Arithmetic} {k : Nat} {ns lengths : List Nat} {offset : Nat}
    (h : wholeGroups a k offset ns = .ok lengths) : lengths = ns.map (· / k) := by
  induction ns generalizing offset lengths with
  | nil => exact (Except.ok.inj h).symm
  | cons n ns ih =>
    rw [wholeGroups] at h
    obtain ⟨next, -, h⟩ := bind_eq_ok_iff.1 h
    obtain ⟨r, -, h⟩ := bind_eq_ok_iff.1 h
    split at h
    · obtain ⟨rest, hrest, h⟩ := bind_eq_ok_iff.1 h
      cases h
      rw [ih hrest, List.map_cons]
    · cases h

/-! ## Plans that fit a batch -/

/-- A plan fits a batch of `n` values of a kind and gives rows of the lengths. -/
structure SplitsInto (p : PartitionPlan) (kind : ElementKind) (n : Nat) (lengths : List Nat) :
    Prop where
  total_eq : p.total = match p.unit with
    | .elements => n
    | .flatValues => n * kind.groupSize
  total_lt : p.total < UInt64.size
  elementLengths_eq : p.elementLengths kind.groupSize = .ok lengths
  totalLength_eq : totalLength lengths = n

theorem total_elements (rows perRow : Nat) :
    (elements (List.replicate rows perRow)).total = rows * perRow :=
  totalLength_replicate rows perRow

theorem total_flatValues (rows perRow : Nat) :
    (flatValues (List.replicate rows perRow)).total = rows * perRow :=
  totalLength_replicate rows perRow

theorem splitsInto_elements (kind : ElementKind) {rows perRow : Nat}
    (hfit : rows * perRow < UInt64.size) :
    (elements (List.replicate rows perRow)).SplitsInto kind (rows * perRow)
      (List.replicate rows perRow) :=
  ⟨total_elements rows perRow, by rwa [total_elements], rfl, totalLength_replicate rows perRow⟩

theorem splitsInto_flatValues {kind : ElementKind} (hk : 1 ≤ kind.groupSize) {rows perRow : Nat}
    (hdvd : kind.groupSize ∣ perRow) (hfit : rows * perRow < UInt64.size) :
    (flatValues (List.replicate rows perRow)).SplitsInto kind
      (rows * (perRow / kind.groupSize)) (List.replicate rows (perRow / kind.groupSize)) := by
  refine ⟨?_, by rwa [total_flatValues], ?_, totalLength_replicate _ _⟩
  · show _ = rows * (perRow / kind.groupSize) * kind.groupSize
    rw [total_flatValues, Nat.mul_assoc, Nat.div_mul_cancel hdvd]
  · show wholeGroups .checked kind.groupSize 0 (List.replicate rows perRow) = _
    rw [wholeGroups_eq .checked hk, List.map_replicate]
    · intro n hn
      rwa [List.eq_of_mem_replicate hn]
    · rwa [Nat.zero_add, totalLength_replicate]

end PartitionPlan

open PartitionPlan

theorem ComponentColumn.checkRows_eq {lengths : List Nat} {length : Nat}
    (h : totalLength lengths ≤ length) (hlen : length ≤ maxOffset) :
    checkRows lengths length = .ok () := by
  have hmax : maxOffset < UInt64.size := by decide
  unfold checkRows
  rw [sized_eq (by omega)]
  simp only [bind, Except.bind]
  rw [if_neg (by omega), if_neg (by omega)]
  rfl

/-- A plan that fits splits the batch, and leaves its descriptor and values as they are. -/
theorem ComponentBatch.partitionedWith_eq {b : ComponentBatch} {p : PartitionPlan}
    {lengths : List Nat} (h : p.SplitsInto b.kind b.length lengths)
    (hlen : b.length ≤ ComponentColumn.maxOffset) :
    b.partitionedWith p = .ok (b.inRows lengths) := by
  have hrows := ComponentColumn.checkRows_eq (Nat.le_of_eq h.totalLength_eq) hlen
  have hlengths : p.elementLengthsOn .checked b.kind.groupSize = .ok lengths := h.elementLengths_eq
  have htotal := h.total_eq
  have hlt := h.total_lt
  unfold partitionedWith ComponentColumn.ofBatch ComponentColumn.ofBatchOn
  cases hunit : p.unit with
  | elements =>
    simp only [hunit] at htotal
    simp only [bind, Except.bind, pure, Except.pure, word_eq _ hlt, ← htotal, ne_eq,
      not_true_eq_false, if_false, hlengths]
    rw [htotal, hrows]
  | flatValues =>
    simp only [hunit] at htotal
    have hflat : word .checked b.flatLength = .ok p.total := by
      show word .checked (b.length * b.kind.groupSize) = _
      rw [← htotal, word_eq _ hlt]
    simp only [bind, Except.bind, pure, Except.pure, word_eq _ hlt, hflat, hlengths, hrows, ne_eq,
      not_true_eq_false, if_false]

namespace PartitionPlan

/-! ## Inference -/

/-- The row count of a shape: its outer dimension, one where it has none. -/
def outerSize (shape : List Nat) : Nat := shape.head?.getD 1

/-- Scalars in each row of a shape. -/
def innerSize (shape : List Nat) : Nat := shapeSize (shape.drop 1)

/-- The shape splits a batch of `n` values into rows of whole values. -/
def Splittable (kind : ElementKind) (shape : List Nat) (n : Nat) : Prop :=
  match kind with
  | .compound => True
  | .primitive => outerSize shape * innerSize shape = n
  | .fixedSizeGroup k =>
    shape.length < 2 ∨ (k ∣ innerSize shape ∧ outerSize shape * innerSize shape = n * k)

/-- The lengths of the rows, in values: one value a row for compound values and for groups given
without rows, else as many rows as the outer dimension has. -/
def rowLengths (kind : ElementKind) (shape : List Nat) (n : Nat) : List Nat :=
  match kind with
  | .compound => List.replicate n 1
  | .primitive => List.replicate (outerSize shape) (innerSize shape)
  | .fixedSizeGroup k =>
    if shape.length < 2 then List.replicate n 1
    else List.replicate (outerSize shape) (innerSize shape / k)

theorem rowLengths_of_short {k : Nat} {shape : List Nat} {n : Nat} (h : shape.length < 2) :
    rowLengths (.fixedSizeGroup k) shape n = List.replicate n 1 := if_pos h

theorem rowLengths_of_long {k : Nat} {shape : List Nat} {n : Nat} (h : ¬ shape.length < 2) :
    rowLengths (.fixedSizeGroup k) shape n =
      List.replicate (outerSize shape) (innerSize shape / k) := if_neg h

/-- The products that inference forms fit the machine word. -/
structure ProductsFit (kind : ElementKind) (shape : List Nat) (n : Nat) : Prop where
  inner_lt : ∀ m ≤ (shape.drop 1).length, shapeSize ((shape.drop 1).take m) < UInt64.size
  whole_lt : outerSize shape * innerSize shape < UInt64.size
  flat_lt : n * kind.groupSize < UInt64.size

theorem unitRows_splitsInto (kind : ElementKind) {n : Nat} (h : n < UInt64.size) :
    (unitRows n).SplitsInto kind n (List.replicate n 1) := by
  have hfit : n * 1 < UInt64.size := by omega
  have := splitsInto_elements kind hfit
  rwa [Nat.mul_one] at this

section

variable {m : Machine} {a : Arithmetic} {kind : ElementKind} {shape : List Nat} {n perRow k : Nat}
  {p q : PartitionPlan} {covered : Bool}

theorem covers_elements {rows count : Nat} (hlt : rows * count < UInt64.size) :
    (elements (.replicate rows count)).covers a perRow k n = .ok (decide (rows * count = n)) := by
  have htotal : word a (elements (.replicate rows count)).total = .ok (rows * count) := by
    rw [total_elements, word_eq a hlt]
  unfold covers
  rw [htotal]
  rfl

theorem covers_flatValues {rows : Nat} (hk : 1 ≤ k) (hlt : rows * perRow < UInt64.size)
    (hflat : n * k < UInt64.size) :
    (flatValues (.replicate rows perRow)).covers a perRow k n =
      .ok (decide (rows * perRow = n * k ∧ k ∣ perRow)) := by
  have htotal : word a (flatValues (.replicate rows perRow)).total = .ok (rows * perRow) := by
    rw [total_flatValues, word_eq a hlt]
  unfold covers
  rw [htotal]
  simp only [flatValues, word_eq a hflat, remainder_eq hk, bind, Except.bind, pure, Except.pure,
    Nat.dvd_iff_mod_eq_zero]
  split
  · rename_i h
    simp [h]
  · rename_i h
    simp [h]

theorem inferOn_of_hasRows (m : Machine) (h : hasRows kind shape = true) :
    inferOn m kind shape n = inferNestedOn m kind shape n := if_pos h

theorem inferOn_of_not_hasRows (m : Machine) (h : hasRows kind shape = false) :
    inferOn m kind shape n = unitRowsOn m.memory n := if_neg (by simp [h])

theorem hasRows_of_long (h : ¬ shape.length < 2) : hasRows (.fixedSizeGroup k) shape = true :=
  decide_eq_true (Nat.le_of_not_lt h)

theorem hasRows_of_short (h : shape.length < 2) : hasRows (.fixedSizeGroup k) shape = false :=
  decide_eq_false (Nat.not_le_of_lt h)

theorem nestedRowsOn_of_eq {rows : Nat} (h : k = perRow) :
    nestedRowsOn .unlimited (.fixedSizeGroup k) rows perRow = .ok (elements (.replicate rows 1)) :=
  if_pos h

theorem nestedRowsOn_of_ne {rows : Nat} (h : k ≠ perRow) :
    nestedRowsOn .unlimited (.fixedSizeGroup k) rows perRow =
      .ok (flatValues (.replicate rows perRow)) := if_neg h

/-- Rows of the shape are the plan if they cover the batch. -/
theorem inferNestedOn_eq (hproduct : product m.arithmetic (shape.drop 1) = .ok (innerSize shape))
    (hplan : nestedRowsOn m.memory kind (outerSize shape) (innerSize shape) = .ok p)
    (hcovers : p.covers m.arithmetic (innerSize shape) kind.groupSize n = .ok covered) :
    inferNestedOn m kind shape n =
      if covered then .ok p else .error (.unsplittableShape shape n) := by
  unfold outerSize at hplan
  unfold inferNestedOn
  simp only [hproduct, hplan, hcovers, bind, Except.bind]
  rfl

/-- A plan of rows is made for the row count and the scalars of each row. -/
theorem nestedRowsOn_of_inferNestedOn (h : inferNestedOn m kind shape n = .ok p) :
    ∃ perRow, product m.arithmetic (shape.drop 1) = .ok perRow ∧
      nestedRowsOn m.memory kind (outerSize shape) perRow = .ok p := by
  obtain ⟨perRow, hperRow, h⟩ := bind_eq_ok_iff.1 h
  obtain ⟨q, hq, h⟩ := bind_eq_ok_iff.1 h
  obtain ⟨c, -, h⟩ := bind_eq_ok_iff.1 h
  refine ⟨perRow, hperRow, ?_⟩
  split at h
  · cases h
    exact hq
  · cases h

end

/-- Inference finds a plan of the rows exactly where the shape splits the batch. -/
theorem infer_cases {kind : ElementKind} {shape : List Nat} {n : Nat} (hk : 1 ≤ kind.groupSize)
    (hfit : ProductsFit kind shape n) :
    (Splittable kind shape n ∧ ∃ p, infer kind shape n = .ok p ∧
      p.SplitsInto kind n (rowLengths kind shape n)) ∨
    (¬ Splittable kind shape n ∧ infer kind shape n = .error (.unsplittableShape shape n)) := by
  have hn : n < UInt64.size := Nat.lt_of_le_of_lt (Nat.le_mul_of_pos_right n hk) hfit.flat_lt
  have hproduct : product .checked (shape.drop 1) = .ok (innerSize shape) :=
    product_eq .checked hfit.inner_lt
  have hwhole := hfit.whole_lt
  unfold infer
  cases kind with
  | compound => exact .inl ⟨trivial, _, rfl, unitRows_splitsInto _ hn⟩
  | primitive =>
    rw [inferOn_of_hasRows .ideal rfl, inferNestedOn_eq hproduct rfl (covers_elements hwhole)]
    by_cases h : outerSize shape * innerSize shape = n
    · rw [if_pos (by simpa using h)]
      subst h
      exact .inl ⟨rfl, _, rfl, splitsInto_elements _ hwhole⟩
    · rw [if_neg (by simpa using h)]
      exact .inr ⟨h, rfl⟩
  | fixedSizeGroup k =>
    have hk' : 1 ≤ k := hk
    have hsize : ElementKind.groupSize (.fixedSizeGroup k) = k := rfl
    unfold Splittable rowLengths
    by_cases hshape : shape.length < 2
    · rw [inferOn_of_not_hasRows .ideal (hasRows_of_short hshape)]
      simp only [hshape, true_or, if_true]
      exact .inl ⟨trivial, _, rfl, unitRows_splitsInto _ hn⟩
    · rw [inferOn_of_hasRows .ideal (hasRows_of_long hshape)]
      simp only [hshape, false_or, if_false]
      by_cases htie : k = innerSize shape
      · -- a row is one value, and the plan counts values
        have hle : outerSize shape * 1 ≤ outerSize shape * innerSize shape :=
          Nat.mul_le_mul_left _ (by omega)
        have hdiv : innerSize shape / k = 1 := by rw [← htie, Nat.div_self hk']
        rw [inferNestedOn_eq hproduct (nestedRowsOn_of_eq htie) (covers_elements (by omega)), hdiv,
          ← htie, Nat.mul_one]
        by_cases h : outerSize shape = n
        · rw [if_pos (by simpa using h)]
          subst h
          have := splitsInto_elements (.fixedSizeGroup k) (show outerSize shape * 1 < _ by omega)
          rw [Nat.mul_one] at this
          exact .inl ⟨⟨Nat.dvd_refl k, rfl⟩, _, rfl, this⟩
        · rw [if_neg (by simpa using h)]
          exact .inr ⟨fun h' => h (Nat.eq_of_mul_eq_mul_right hk' h'.2), rfl⟩
      · rw [inferNestedOn_eq hproduct (nestedRowsOn_of_ne htie)
          (covers_flatValues hk hwhole hfit.flat_lt), hsize]
        by_cases h : outerSize shape * innerSize shape = n * k ∧ k ∣ innerSize shape
        · rw [if_pos (by simpa using h)]
          have hn : n = outerSize shape * (innerSize shape / k) := by
            apply Nat.eq_of_mul_eq_mul_right hk'
            rw [Nat.mul_assoc, Nat.div_mul_cancel h.2, h.1]
          refine .inl ⟨h.symm, _, rfl, ?_⟩
          have := splitsInto_flatValues hk h.2 hwhole
          rwa [hsize, ← hn] at this
        · rw [if_neg (by simpa using h)]
          exact .inr ⟨fun h' => h h'.symm, rfl⟩

/-- Whatever plan is found, the rows it gives are those of the shape. -/
theorem elementLengths_of_infer {kind : ElementKind} {shape : List Nat} {n : Nat}
    {p : PartitionPlan} {lengths : List Nat} (hk : 1 ≤ kind.groupSize)
    (hp : infer kind shape n = .ok p) (h : p.elementLengths kind.groupSize = .ok lengths) :
    lengths = rowLengths kind shape n := by
  unfold infer at hp
  cases kind with
  | compound =>
    cases hp
    exact (Except.ok.inj h).symm
  | primitive =>
    rw [inferOn_of_hasRows .ideal rfl] at hp
    obtain ⟨perRow, hperRow, hplan⟩ := nestedRowsOn_of_inferNestedOn hp
    obtain rfl := product_eq_ok hperRow
    cases hplan
    exact (Except.ok.inj h).symm
  | fixedSizeGroup k =>
    by_cases hshape : shape.length < 2
    · rw [inferOn_of_not_hasRows .ideal (hasRows_of_short hshape)] at hp
      cases hp
      rw [rowLengths_of_short hshape]
      exact (Except.ok.inj h).symm
    · rw [inferOn_of_hasRows .ideal (hasRows_of_long hshape)] at hp
      obtain ⟨perRow, hperRow, hplan⟩ := nestedRowsOn_of_inferNestedOn hp
      obtain rfl := product_eq_ok hperRow
      rw [rowLengths_of_long hshape]
      by_cases htie : k = innerSize shape
      · obtain rfl := Except.ok.inj ((nestedRowsOn_of_eq htie).symm.trans hplan)
        rw [← htie, Nat.div_self (show 0 < k from hk)]
        exact (Except.ok.inj h).symm
      · obtain rfl := Except.ok.inj ((nestedRowsOn_of_ne htie).symm.trans hplan)
        rw [wholeGroups_eq_ok h]
        exact List.map_replicate

/-- Inference answers exactly for the shapes that split the batch. The plan it finds, whichever
unit it counts in, stands for the rows of the shape, and every batch of the kind and length is
split into them. -/
theorem infer_exact {kind : ElementKind} {shape : List Nat} {n : Nat} (hk : 1 ≤ kind.groupSize)
    (hfit : ProductsFit kind shape n) :
    ((∃ p, infer kind shape n = .ok p) ↔ Splittable kind shape n) ∧
    ∀ p, infer kind shape n = .ok p →
      p.elementLengths kind.groupSize = .ok (rowLengths kind shape n) ∧
      totalLength (rowLengths kind shape n) = n ∧
      ∀ b : ComponentBatch, b.kind = kind → b.length = n → n ≤ ComponentColumn.maxOffset →
        b.partitionedWith p = .ok (b.inRows (rowLengths kind shape n)) ∧
          (b.inRows (rowLengths kind shape n)).lengths = rowLengths kind shape n := by
  rcases infer_cases hk hfit with ⟨hs, p, hp, hrows⟩ | ⟨hs, hp⟩
  · refine ⟨⟨fun _ => hs, fun _ => ⟨p, hp⟩⟩, fun q hq => ?_⟩
    obtain rfl : p = q := Except.ok.inj (hp.symm.trans hq)
    refine ⟨hrows.elementLengths_eq, hrows.totalLength_eq, ?_⟩
    rintro b rfl rfl hlen
    exact ⟨b.partitionedWith_eq hrows hlen, b.lengths_inRows _⟩
  · refine ⟨⟨?_, fun h => absurd h hs⟩, ?_⟩
    · rintro ⟨p, h⟩
      cases hp.symm.trans h
    · intro p h
      cases hp.symm.trans h

/-- Two rows of six scalars hold two groups of three each. -/
theorem infer_exact_two_rows :
    1 ≤ ElementKind.groupSize (.fixedSizeGroup 3) ∧ ProductsFit (.fixedSizeGroup 3) [2, 6] 4 ∧
      ∃ p, infer (.fixedSizeGroup 3) [2, 6] 4 = .ok p ∧ p.elementLengths 3 = .ok [2, 2] := by
  have hk : 1 ≤ ElementKind.groupSize (.fixedSizeGroup 3) := by decide
  have hfit : ProductsFit (.fixedSizeGroup 3) [2, 6] 4 := ⟨by decide, by decide, by decide⟩
  obtain ⟨hiff, hrows⟩ := infer_exact hk hfit
  obtain ⟨p, hp⟩ := hiff.2 (.inr (by decide))
  exact ⟨hk, hfit, p, hp, (hrows p hp).1⟩

end PartitionPlan

end ComponentLog
