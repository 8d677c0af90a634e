import ComponentLog.Proofs.Rows.Repartition

/-!
# Plans beyond the machine

The sizes of a plan are counted in 64-bit words, and its rows are a vector of them. A size that
does not fit its word stops the computation or loses its upper bits. Rows beyond the address space
stop it on either kind of word, and so does a remainder by a group of no scalars. `stops_exact`
says for which plans and shapes nothing of this happens, on both kinds.
-/

namespace ComponentLog

open Columnar Value

namespace PartitionPlan

/-! ## Computations that stop -/

section Stops

variable {α β : Type} {x y : Except PartitionError α} {f g : α → Except PartitionError β}
  {kind : ElementKind} {shape : List Nat} {n k : Nat} {p : PartitionPlan}

/-- The computation is stopped, and gives neither a value nor an error of the plan. -/
def Stops (x : Except PartitionError α) : Prop := ∃ cause, x = .error (.fault cause)

@[simp] theorem not_stops_ok (v : α) : ¬ Stops (.ok v) := by
  rintro ⟨_, ⟨⟩⟩

@[simp] theorem not_stops_pure (v : α) : ¬ Stops (pure v) := not_stops_ok v

@[simp] theorem not_stops_unsplittableShape (shape : List Nat) (n : Nat) :
    ¬ Stops (throw (.unsplittableShape shape n) : Except PartitionError α) := by
  rintro ⟨_, ⟨⟩⟩

@[simp] theorem not_stops_splitsGroup (k offset : Nat) :
    ¬ Stops (throw (.splitsGroup k offset) : Except PartitionError α) := by
  rintro ⟨_, ⟨⟩⟩

theorem stops_bind_iff : Stops (x >>= f) ↔ Stops x ∨ ∃ v, x = .ok v ∧ Stops (f v) := by
  cases x with
  | ok v => simp [bind, Except.bind]
  | error e => simp [bind, Except.bind, Stops]

theorem stops_map_iff {g : α → β} : Stops (g <$> x) ↔ Stops x := by
  cases x with
  | ok v => simp [Functor.map, Except.map]
  | error e => simp [Functor.map, Except.map, Stops]

/-- A guard stops where its condition fails. -/
theorem stops_guard_iff {c : Prop} [Decidable c] {v : α} {cause : Fault} :
    Stops (if c then .ok v else .error (.fault cause)) ↔ ¬ c := by
  split
  · rename_i h
    exact iff_of_false (not_stops_ok v) (not_not.2 h)
  · rename_i h
    exact iff_of_true ⟨cause, rfl⟩ h

theorem stops_word_iff : Stops (word .checked n) ↔ UInt64.size ≤ n :=
  stops_guard_iff.trans Nat.not_lt

theorem stops_filled_iff {count : Nat} :
    Stops (filled .addressed count n) ↔ vectorLimit ≤ count :=
  stops_guard_iff.trans Nat.not_lt

theorem stops_remainder_iff : Stops (remainder n k) ↔ k = 0 := by
  unfold remainder
  rw [← ite_not, stops_guard_iff, not_not]

/-! ## Machines that stop less

A computation that words or memory stop is otherwise the same on any machine. The machine with
checked words and an address space stops most. -/

/-- The second computation is the first unless that one is stopped. -/
def Extends (x y : Except PartitionError α) : Prop := ¬ Stops x → y = x

theorem Extends.refl (x : Except PartitionError α) : Extends x x := fun _ => rfl

theorem Extends.bind (hx : Extends x y) (hf : ∀ v, Extends (f v) (g v)) :
    Extends (x >>= f) (y >>= g) := by
  intro h
  rw [stops_bind_iff, not_or] at h
  rw [hx h.1]
  cases x with
  | ok v => exact hf v fun hv => h.2 ⟨v, rfl, hv⟩
  | error e => rfl

theorem Extends.map (h : Extends x y) (g : α → β) : Extends (g <$> x) (g <$> y) := by
  intro hstops
  rw [h fun hx => hstops (stops_map_iff.2 hx)]

theorem Extends.eq_ok {v : α} (h : Extends x y) (hstops : ¬ Stops x) (hy : y = .ok v) :
    x = .ok v := (h hstops).symm.trans hy

variable (a : Arithmetic) (memory : Memory) (m : Machine)

theorem word_extends (n : Nat) : Extends (word .checked n) (word a n) := by
  intro h
  rw [stops_word_iff, Nat.not_le] at h
  rw [word_eq a h, word_eq .checked h]

theorem filled_extends (count n : Nat) :
    Extends (filled .addressed count n) (filled memory count n) := by
  intro h
  rw [stops_filled_iff, Nat.not_le] at h
  cases memory with
  | addressed => rfl
  | unlimited => exact (if_pos h).symm

theorem product_extends (sizes : List Nat) :
    Extends (product .checked sizes) (product a sizes) := by
  unfold product
  generalize 1 = acc
  induction sizes generalizing acc with
  | nil => exact .refl _
  | cons n ns ih =>
    rw [List.foldlM_cons, List.foldlM_cons]
    exact (word_extends a (acc * n)).bind ih

theorem covers_extends (p : PartitionPlan) (perRow k n : Nat) :
    Extends (p.covers .checked perRow k n) (p.covers a perRow k n) := by
  refine (word_extends a p.total).bind fun total => ?_
  cases p.unit with
  | elements => exact .refl _
  | flatValues => exact (word_extends a (n * k)).bind fun _ => .refl _

theorem unitRowsOn_extends (count : Nat) :
    Extends (unitRowsOn .addressed count) (unitRowsOn memory count) :=
  (filled_extends memory count 1).map elements

theorem nestedRowsOn_extends (kind : ElementKind) (rows perRow : Nat) :
    Extends (nestedRowsOn .addressed kind rows perRow) (nestedRowsOn memory kind rows perRow) := by
  unfold nestedRowsOn
  split
  · split
    · exact unitRowsOn_extends memory rows
    · exact (filled_extends memory rows perRow).map flatValues
  · exact (filled_extends memory rows perRow).map elements

theorem inferOn_extends (kind : ElementKind) (shape : List Nat) (n : Nat) :
    Extends (inferOn (.addressed .checked) kind shape n) (inferOn m kind shape n) := by
  unfold inferOn
  split
  · refine (product_extends m.arithmetic (shape.drop 1)).bind fun perRow => ?_
    refine (nestedRowsOn_extends m.memory kind (outerSize shape) perRow).bind fun p => ?_
    exact (covers_extends m.arithmetic p perRow kind.groupSize n).bind fun _ => .refl _
  · exact unitRowsOn_extends m.memory n

theorem wholeGroups_extends (k offset : Nat) (ns : List Nat) :
    Extends (wholeGroups .checked k offset ns) (wholeGroups a k offset ns) := by
  induction ns generalizing offset with
  | nil => exact .refl _
  | cons n ns ih =>
    rw [wholeGroups, wholeGroups]
    refine (word_extends a (offset + n)).bind fun next => (Extends.refl _).bind fun r => ?_
    split
    · exact (ih next).bind fun _ => .refl _
    · exact .refl _

theorem elementLengthsOn_extends (p : PartitionPlan) (k : Nat) :
    Extends (p.elementLengthsOn .checked k) (p.elementLengthsOn a k) := by
  unfold elementLengthsOn
  cases p.unit with
  | elements => exact .refl _
  | flatValues => exact wholeGroups_extends a k 0 p.lengths

omit a memory m in
/-- On both kinds of word a computation goes through as elsewhere if checked words do not stop
it. -/
theorem forall_agree_iff {on : Arithmetic → Except PartitionError α}
    (hwords : ∀ a, Extends (on .checked) (on a)) (hx : Extends (on .checked) x) :
    (∀ a, ¬ Stops (on a) ∧ on a = x) ↔ ¬ Stops (on .checked) := by
  constructor
  · intro h
    exact (h .checked).1
  · intro h a
    rw [hwords a h, hx h]
    exact ⟨h, rfl⟩

/-! ## Where inference stops -/

/-- A product stops where that of some leading part does not fit. -/
theorem stops_foldlM_word_iff {sizes : List Nat} {acc : Nat} (hacc : acc < UInt64.size) :
    Stops (sizes.foldlM (fun acc n => word .checked (acc * n)) acc) ↔
      ∃ m ≤ sizes.length, UInt64.size ≤ acc * shapeSize (sizes.take m) := by
  induction sizes generalizing acc with
  | nil => simp [shapeSize, hacc]
  | cons n ns ih =>
    rw [List.foldlM_cons, stops_bind_iff, stops_word_iff]
    constructor
    · rintro (h | ⟨next, hnext, h⟩)
      · exact ⟨1, by simp, by simpa [shapeSize] using h⟩
      · have hlt : acc * n < UInt64.size := by
          by_contra hge
          exact not_stops_ok next (hnext ▸ stops_word_iff.2 (Nat.le_of_not_lt hge))
        obtain rfl := sized_eq_ok hnext
        obtain ⟨m, hm, hle⟩ := (ih hlt).1 h
        refine ⟨m + 1, by simpa using hm, ?_⟩
        rwa [List.take_succ_cons, shapeSize, ← Nat.mul_assoc]
    · rintro ⟨m, hm, hle⟩
      by_cases hlt : acc * n < UInt64.size
      · refine .inr ⟨_, word_eq .checked hlt, (ih hlt).2 ?_⟩
        cases m with
        | zero =>
          rw [List.take_zero, shapeSize] at hle
          omega
        | succ m =>
          rw [List.take_succ_cons, shapeSize, ← Nat.mul_assoc] at hle
          exact ⟨m, by simpa using hm, hle⟩
      · exact .inl (Nat.le_of_not_lt hlt)

/-- The products of all leading parts of the inner dimensions fit. -/
def InnerFits (shape : List Nat) : Prop :=
  ∀ m ≤ (shape.drop 1).length, shapeSize ((shape.drop 1).take m) < UInt64.size

theorem stops_product_iff :
    Stops (product .checked (shape.drop 1)) ↔ ¬ InnerFits shape := by
  unfold product InnerFits
  rw [stops_foldlM_word_iff (by decide)]
  simp

theorem stops_unitRowsOn_iff {count : Nat} :
    Stops (unitRowsOn .addressed count) ↔ vectorLimit ≤ count := by
  unfold unitRowsOn
  rw [stops_map_iff, stops_filled_iff]

theorem stops_nestedRowsOn_iff {rows perRow : Nat} :
    Stops (nestedRowsOn .addressed kind rows perRow) ↔ vectorLimit ≤ rows := by
  unfold nestedRowsOn
  split
  · split
    · exact stops_unitRowsOn_iff
    · rw [stops_map_iff, stops_filled_iff]
  · rw [stops_map_iff, stops_filled_iff]

theorem stops_covers_iff {perRow : Nat} :
    Stops (p.covers .checked perRow k n) ↔ UInt64.size ≤ p.total ∨
      (p.unit = .flatValues ∧ (UInt64.size ≤ n * k ∨ (p.total = n * k ∧ k = 0))) := by
  unfold covers
  rw [stops_bind_iff, stops_word_iff]
  by_cases htotal : UInt64.size ≤ p.total
  · simp only [htotal, true_or]
  simp only [htotal, word_eq .checked (Nat.lt_of_not_le htotal), Except.ok.injEq, exists_eq_left',
    false_or]
  cases p.unit with
  | elements => simp
  | flatValues =>
    rw [stops_bind_iff, stops_word_iff]
    by_cases hflat : UInt64.size ≤ n * k
    · simp only [hflat, true_or, true_and]
    simp only [hflat, word_eq .checked (Nat.lt_of_not_le hflat), Except.ok.injEq, exists_eq_left',
      false_or, true_and]
    split
    · rename_i heq
      rw [stops_bind_iff, stops_remainder_iff]
      simp [heq]
    · rename_i hne
      simp [hne]

/-- Inference from nested rows forms the scalars of a row, then the rows, then their sum. -/
theorem stops_inferNestedOn_iff
    (hplan : nestedRowsOn .unlimited kind (outerSize shape) (innerSize shape) = .ok p) :
    Stops (inferNestedOn (.addressed .checked) kind shape n) ↔
      ¬ InnerFits shape ∨ vectorLimit ≤ outerSize shape ∨
        Stops (p.covers .checked (innerSize shape) kind.groupSize n) := by
  unfold inferNestedOn
  show Stops (product .checked (shape.drop 1) >>= _) ↔ _
  rw [stops_bind_iff, stops_product_iff]
  by_cases hinner : ¬ InnerFits shape
  · simp only [hinner, not_false_iff, true_or]
  rw [not_not] at hinner
  have hproduct : product .checked (shape.drop 1) = .ok (innerSize shape) :=
    product_eq .checked hinner
  simp only [hinner, not_true_eq_false, false_or, hproduct, Except.ok.injEq, exists_eq_left']
  show Stops (nestedRowsOn .addressed kind (outerSize shape) (innerSize shape) >>= _) ↔ _
  rw [stops_bind_iff, stops_nestedRowsOn_iff]
  by_cases hrows : vectorLimit ≤ outerSize shape
  · simp only [hrows, true_or]
  have haddressed := (nestedRowsOn_extends .unlimited kind _ _).eq_ok
    (fun h => hrows (stops_nestedRowsOn_iff.1 h)) hplan
  simp only [hrows, false_or, haddressed, Except.ok.injEq, exists_eq_left']
  rw [stops_bind_iff]
  refine or_iff_left ?_
  rintro ⟨covered, -, h⟩
  cases covered with
  | true => exact not_stops_pure p h
  | false => exact not_stops_unsplittableShape _ _ h

/-- A vector holds the rows that inference makes, and words the sizes that it forms. Groups of no
scalars come with rows, whose scalars they do not cover, so that no row is divided by them. -/
def InferenceFits (kind : ElementKind) (shape : List Nat) (n : Nat) : Prop :=
  match kind with
  | .compound => n < vectorLimit
  | .primitive => InnerFits shape ∧ outerSize shape < vectorLimit ∧
      outerSize shape * innerSize shape < UInt64.size
  | .fixedSizeGroup k =>
    if shape.length < 2 then n < vectorLimit
    else InnerFits shape ∧ outerSize shape < vectorLimit ∧
      (k ≠ innerSize shape → outerSize shape * innerSize shape < UInt64.size ∧
        n * k < UInt64.size ∧ (k = 0 → outerSize shape ≠ 0))

theorem stops_inferOn_iff :
    Stops (inferOn (.addressed .checked) kind shape n) ↔ ¬ InferenceFits kind shape n := by
  unfold InferenceFits
  cases kind with
  | compound =>
    rw [inferOn_of_not_hasRows _ rfl, Nat.not_lt]
    exact stops_unitRowsOn_iff
  | primitive =>
    rw [inferOn_of_hasRows _ rfl, stops_inferNestedOn_iff rfl, stops_covers_iff, total_elements]
    simp only [elements, reduceCtorEq, false_and, or_false, not_and_or, Nat.not_lt]
  | fixedSizeGroup k =>
    by_cases hshape : shape.length < 2
    · simp only [hshape, if_true]
      rw [inferOn_of_not_hasRows _ (hasRows_of_short hshape), Nat.not_lt]
      exact stops_unitRowsOn_iff
    simp only [hshape, if_false]
    rw [inferOn_of_hasRows _ (hasRows_of_long hshape)]
    by_cases htie : k = innerSize shape
    · -- the rows are ones, whose sum fits wherever a vector holds them
      have hlimit : vectorLimit ≤ UInt64.size := by decide
      rw [stops_inferNestedOn_iff (nestedRowsOn_of_eq htie), stops_covers_iff, total_elements]
      simp only [htie, ne_eq, not_true_eq_false, false_imp_iff, and_true, not_and_or, Nat.not_lt]
      refine or_congr_right (or_iff_left_of_imp ?_)
      rintro (hsum | ⟨⟨⟩, -⟩)
      omega
    · -- the remainder is reached where the sums agree, for groups of no scalars without rows
      rw [stops_inferNestedOn_iff (nestedRowsOn_of_ne htie), stops_covers_iff, total_flatValues]
      simp only [flatValues, ElementKind.groupSize, true_and]
      have hzero : outerSize shape * innerSize shape = n * k ∧ k = 0 ↔
          k = 0 ∧ outerSize shape = 0 := by
        rw [and_comm]
        refine and_congr_right fun hk => ?_
        subst hk
        rw [Nat.mul_zero, Nat.mul_eq_zero, or_iff_left (Ne.symm htie)]
      rw [hzero]
      simp only [ne_eq, htie, not_false_iff, true_imp_iff, not_and_or, Nat.not_lt,
        Classical.not_imp, not_not]

/-! ## Where the lengths of rows stop -/

theorem exists_split_cons_iff {P : List α → α → Prop} {a : α} {as : List α} :
    (∃ front m back, a :: as = front ++ m :: back ∧ P front m) ↔
      P [] a ∨ ∃ front m back, as = front ++ m :: back ∧ P (a :: front) m := by
  constructor
  · rintro ⟨front, m, back, heq, hm⟩
    cases front with
    | nil =>
      obtain ⟨rfl, rfl⟩ := List.cons_eq_cons.1 heq
      exact .inl hm
    | cons _ front =>
      obtain ⟨rfl, rfl⟩ := List.cons_eq_cons.1 heq
      exact .inr ⟨front, m, back, rfl, hm⟩
  · rintro (hm | ⟨front, m, back, rfl, hm⟩)
    · exact ⟨[], a, as, rfl, hm⟩
    · exact ⟨a :: front, m, back, rfl, hm⟩

/-- Rows stop at the first end that does not fit, or at groups of no scalars, unless a row
before it does not hold whole groups. -/
theorem stops_wholeGroups_iff {offset : Nat} {ns : List Nat} :
    Stops (wholeGroups .checked k offset ns) ↔ ∃ front n back, ns = front ++ n :: back ∧
      (∀ m ∈ front, k ∣ m) ∧ (UInt64.size ≤ offset + totalLength front + n ∨ k = 0) := by
  induction ns generalizing offset with
  | nil => simp [wholeGroups]
  | cons n ns ih =>
    rw [exists_split_cons_iff]
    by_cases hfirst : UInt64.size ≤ offset + n ∨ k = 0
    · refine iff_of_true ?_ (.inl ⟨by simp, by simpa using hfirst⟩)
      rw [wholeGroups, stops_bind_iff, stops_word_iff]
      refine or_iff_not_imp_left.2 fun hlt => ⟨_, word_eq .checked (Nat.lt_of_not_le hlt), ?_⟩
      rw [stops_bind_iff, stops_remainder_iff]
      exact .inl (hfirst.resolve_left hlt)
    · obtain ⟨hlt, hk⟩ := not_or.1 hfirst
      rw [wholeGroups_cons .checked (Nat.lt_of_not_le hlt) (Nat.one_le_iff_ne_zero.2 hk),
        or_iff_right]
      · by_cases hn : k ∣ n
        · rw [if_pos hn, stops_map_iff, ih]
          simp only [List.forall_mem_cons, hn, true_and, totalLength_cons, ← Nat.add_assoc]
        · rw [if_neg hn]
          refine iff_of_false (not_stops_splitsGroup k (offset + n)) ?_
          rintro ⟨front, m, back, -, hfront, -⟩
          exact hn (List.forall_mem_cons.1 hfront).1
      · rintro ⟨-, h⟩
        exact hfirst (by simpa using h)

/-- Each row of flat scalars with whole groups before it ends where the word counts its end, and
is divided by groups of some scalars. -/
def RowsFit (p : PartitionPlan) (k : Nat) : Prop :=
  p.unit = .flatValues → ∀ front n back, p.lengths = front ++ n :: back →
    (∀ m ∈ front, k ∣ m) → totalLength front + n < UInt64.size ∧ k ≠ 0

theorem stops_elementLengthsOn_iff :
    Stops (p.elementLengthsOn .checked k) ↔ ¬ p.RowsFit k := by
  obtain ⟨ns, unit⟩ := p
  cases unit with
  | elements => simp [elementLengthsOn, RowsFit]
  | flatValues =>
    show Stops (wholeGroups .checked k 0 ns) ↔ _
    rw [stops_wholeGroups_iff]
    simp only [RowsFit, true_imp_iff, not_forall, not_and_or, Nat.not_lt, not_not, exists_prop,
      Nat.zero_add]

end Stops

end PartitionPlan

open PartitionPlan

/-! ## Sums beyond the word -/

theorem ComponentColumn.checkRows_ne_lengthMismatch {lengths : List Nat}
    {length expected actual : Nat} :
    checkRows lengths length ≠ .error (.lengthMismatch expected actual) := by
  unfold checkRows sized
  split
  · simp only [bind, Except.bind]
    split
    · rintro ⟨⟩
    · split
      · rintro ⟨⟩
      · rintro ⟨⟩
  · rintro ⟨⟩

namespace ComponentBatch

variable {b : ComponentBatch} {lengths : List Nat}

theorem partitionedOn_eq_bind (a : Arithmetic) (b : ComponentBatch) (lengths : List Nat) :
    b.partitionedOn a lengths = (do
      let total ← word a (totalLength lengths)
      if total ≠ b.length then throw (.lengthMismatch b.length total)
      ComponentColumn.checkRows lengths b.length
      return b.inRows lengths) := rfl

/-- A wrapped sum may be the length of the batch, but then the offsets do not hold the rows. -/
theorem totalLength_of_partitionedOn {a : Arithmetic} {c : ComponentColumn}
    (h : b.partitionedOn a lengths = .ok c) : totalLength lengths = b.length := by
  rw [partitionedOn_eq_bind] at h
  obtain ⟨total, htotal, h⟩ := bind_eq_ok_iff.1 h
  split at h
  · cases h
  · rename_i heq
    obtain ⟨_, hrows, -⟩ := bind_eq_ok_iff.1 h
    obtain ⟨rowEnd, hend, -⟩ := bind_eq_ok_iff.1 hrows
    have hsum : ¬ Stops (word .checked (totalLength lengths)) := by
      show ¬ Stops (sized (totalLength lengths))
      rw [hend]
      exact not_stops_ok rowEnd
    rw [word_extends a (totalLength lengths) hsum] at htotal
    rw [← sized_eq_ok htotal]
    exact not_not.1 heq

theorem partitionedOn_eq_lengthMismatch (a : Arithmetic) (hne : totalLength lengths ≠ b.length)
    (hlt : totalLength lengths < UInt64.size) :
    b.partitionedOn a lengths = .error (.lengthMismatch b.length (totalLength lengths)) := by
  rw [partitionedOn_eq_bind, word_eq a hlt]
  simp only [bind, Except.bind, if_pos hne]
  rfl

theorem partitionedOn_eq_lengthMismatch_iff :
    (∀ a, ∃ actual, b.partitionedOn a lengths = .error (.lengthMismatch b.length actual)) ↔
      totalLength lengths ≠ b.length ∧ totalLength lengths < UInt64.size := by
  constructor
  · intro h
    obtain ⟨actual, h⟩ := h .checked
    have hlt : totalLength lengths < UInt64.size := by
      by_contra hge
      obtain ⟨cause, hcause⟩ := stops_word_iff.2 (Nat.le_of_not_lt hge)
      rw [partitionedOn_eq_bind, hcause] at h
      cases h
    refine ⟨fun heq => ?_, hlt⟩
    rw [partitionedOn_eq_bind, word_eq .checked hlt] at h
    simp only [bind, Except.bind, heq, ne_eq, not_true_eq_false, if_false] at h
    split at h
    · rename_i hrows
      cases h
      exact ComponentColumn.checkRows_ne_lengthMismatch hrows
    · cases h
  · rintro ⟨hne, hlt⟩ a
    exact ⟨_, partitionedOn_eq_lengthMismatch a hne hlt⟩

end ComponentBatch

/-- Sums the word counts are held against the batch on either kind of word, and a batch is split by
no other sum than its length. Inference and the lengths of rows stop on neither kind, and find the
same, exactly where a vector holds the rows, words hold the sizes that are formed, and no row is
divided by groups of no scalars. -/
theorem stops_exact (b : ComponentBatch) (lengths : List Nat) (kind : ElementKind)
    (shape : List Nat) (n : Nat) (p : PartitionPlan) (k : Nat) :
    (((∀ a, ∃ actual, b.partitionedOn a lengths = .error (.lengthMismatch b.length actual)) ↔
        totalLength lengths ≠ b.length ∧ totalLength lengths < UInt64.size) ∧
      ∀ a c, b.partitionedOn a lengths = .ok c → totalLength lengths = b.length) ∧
    ((∀ a, ¬ Stops (inferOn (.addressed a) kind shape n) ∧
        inferOn (.addressed a) kind shape n = infer kind shape n) ↔
      InferenceFits kind shape n) ∧
    ((∀ a, ¬ Stops (p.elementLengthsOn a k) ∧ p.elementLengthsOn a k = p.elementLengths k) ↔
      p.RowsFit k) := by
  refine ⟨⟨b.partitionedOn_eq_lengthMismatch_iff, fun a c => b.totalLength_of_partitionedOn⟩,
    ?_, ?_⟩
  · rw [forall_agree_iff (fun a => inferOn_extends (.addressed a) kind shape n)
      (inferOn_extends .ideal kind shape n), stops_inferOn_iff, not_not]
  · rw [forall_agree_iff (fun a => elementLengthsOn_extends a p k)
      (elementLengthsOn_extends .checked p k), stops_elementLengthsOn_iff, not_not]

/-- Two lengths that wrap to the length of the batch, rows beyond the address space, and groups of
no scalars. -/
theorem stops_oversizedLengths :
    let groupsOf := fun size => ElementKind.ofDataType
      (.fixedSizeList ⟨"item", .scalar .float32, false⟩ size)
    ∀ a : Arithmetic,
      ComponentBatch.twoScales.partitionedOn a [9223372036854775807, 9223372036854775807, 4] =
        .error (.fault .sizeOverflow) ∧
      inferOn (.addressed a) (groupsOf 3) [] vectorLimit = .error (.fault .capacityOverflow) ∧
      inferOn (.addressed a) (groupsOf 0) [0, 3] 0 = .error (.fault .zeroGroup) ∧
      (flatValues [3]).elementLengthsOn a 0 = .error (.fault .zeroGroup) := by
  intro groupsOf a
  cases a with
  | checked => exact ⟨rfl, rfl, rfl, rfl⟩
  | wrapping => exact ⟨rfl, rfl, rfl, rfl⟩

end ComponentLog
