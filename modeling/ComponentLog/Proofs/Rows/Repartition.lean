import ComponentLog.Proofs.Rows.Inference

/-!
# Splitting again

Which plans split a batch (`PartitionPlan.Fits`), and into rows of which lengths. A column keeps
the batch it was split from, so of a plan that another follows only its success counts
(`ComponentBatch.repartitioned_cons`), and a chain ends in the column of its last plan.
-/

namespace ComponentLog

open Columnar

namespace PartitionPlan

/-- What the lengths of the plan are to sum to: the values of the batch or its flat scalars. -/
def expected (p : PartitionPlan) (b : ComponentBatch) : Nat :=
  match p.unit with
  | .elements => b.length
  | .flatValues => b.flatLength

/-- What the lengths are to sum to, where the machine word counts it. -/
def expectedSize (p : PartitionPlan) (b : ComponentBatch) : Except PartitionError Nat :=
  match p.unit with
  | .elements => pure b.length
  | .flatValues => sized b.flatLength

/-- The plan covers the batch, and every row holds whole values. -/
def Fits (p : PartitionPlan) (b : ComponentBatch) : Prop :=
  match p.unit with
  | .elements => p.total = b.length
  | .flatValues => p.total = b.flatLength ∧ ∀ n ∈ p.lengths, b.kind.groupSize ∣ n

/-- The lengths of the rows in values. -/
def valueLengths (p : PartitionPlan) (groupSize : Nat) : List Nat :=
  match p.unit with
  | .elements => p.lengths
  | .flatValues => p.lengths.map (· / groupSize)

variable {p : PartitionPlan} {b : ComponentBatch}

theorem expectedSize_eq (h : p.expected b < UInt64.size) :
    p.expectedSize b = .ok (p.expected b) := by
  obtain ⟨lengths, unit⟩ := p
  cases unit with
  | elements => rfl
  | flatValues => exact sized_eq h

theorem expectedSize_eq_ok {n : Nat} (h : p.expectedSize b = .ok n) : n = p.expected b := by
  obtain ⟨lengths, unit⟩ := p
  cases unit with
  | elements => exact (Except.ok.inj h).symm
  | flatValues => exact sized_eq_ok h

theorem totalLength_map_div {k : Nat} {ns : List Nat} (h : ∀ n ∈ ns, k ∣ n) :
    totalLength (ns.map (· / k)) * k = totalLength ns := by
  induction ns with
  | nil => simp
  | cons n ns ih =>
    rw [List.map_cons, totalLength_cons, totalLength_cons, Nat.add_mul,
      Nat.div_mul_cancel (h n List.mem_cons_self), ih fun m hm => h m (List.mem_cons_of_mem n hm)]

/-- Lengths are found only for rows of whole groups. -/
theorem dvd_of_wholeGroups {a : Arithmetic} {k : Nat} {ns lengths : List Nat} {offset : Nat}
    (h : wholeGroups a k offset ns = .ok lengths) : ∀ n ∈ ns, k ∣ n := by
  induction ns generalizing offset lengths with
  | nil => simp
  | cons m ns ih =>
    rw [wholeGroups] at h
    obtain ⟨next, -, h⟩ := bind_eq_ok_iff.1 h
    obtain ⟨r, hr, h⟩ := bind_eq_ok_iff.1 h
    split at h
    · rename_i hzero
      obtain ⟨rest, hrest, -⟩ := bind_eq_ok_iff.1 h
      have hm : k ∣ m := by
        unfold remainder at hr
        split at hr
        · cases hr
        · exact Nat.dvd_of_mod_eq_zero ((Except.ok.inj hr).trans hzero)
      exact List.forall_mem_cons.2 ⟨hm, ih hrest⟩
    · cases h

theorem elementLengths_eq_ok {k : Nat} {lengths : List Nat} (h : p.elementLengths k = .ok lengths) :
    lengths = p.valueLengths k := by
  obtain ⟨ns, unit⟩ := p
  cases unit with
  | elements => exact (Except.ok.inj h).symm
  | flatValues => exact wholeGroups_eq_ok h

theorem Fits.splitsInto (h : p.Fits b) (hk : 1 ≤ b.kind.groupSize)
    (hlt : p.total < UInt64.size) :
    p.SplitsInto b.kind b.length (p.valueLengths b.kind.groupSize) := by
  obtain ⟨ns, unit⟩ := p
  cases unit with
  | elements => exact ⟨h, hlt, rfl, h⟩
  | flatValues =>
    obtain ⟨htotal, hdvd⟩ := h
    have hlengths :
        wholeGroups .checked b.kind.groupSize 0 ns = .ok (ns.map (· / b.kind.groupSize)) :=
      wholeGroups_eq .checked hk hdvd (by rwa [Nat.zero_add])
    refine ⟨htotal, hlt, hlengths, Nat.eq_of_mul_eq_mul_right hk ?_⟩
    exact (totalLength_map_div hdvd).trans htotal

theorem fits_of_elementLengths {lengths : List Nat} (htotal : p.total = p.expected b)
    (h : p.elementLengths b.kind.groupSize = .ok lengths) : p.Fits b := by
  obtain ⟨ns, unit⟩ := p
  cases unit with
  | elements => exact htotal
  | flatValues => exact ⟨htotal, dvd_of_wholeGroups h⟩

end PartitionPlan

open PartitionPlan

namespace ComponentBatch

variable {b : ComponentBatch} {p : PartitionPlan} {c : ComponentColumn}

/-- A plan is first held against the size of the batch, then turned into lengths in values. -/
theorem partitionedWith_eq_bind (b : ComponentBatch) (p : PartitionPlan) :
    b.partitionedWith p = (do
      let expected ← p.expectedSize b
      let total ← sized p.total
      if total ≠ expected then throw (.lengthMismatch expected total)
      let lengths ← p.elementLengths b.kind.groupSize
      ComponentColumn.checkRows lengths b.length
      return b.inRows lengths) := by
  unfold partitionedWith ComponentColumn.ofBatch ComponentColumn.ofBatchOn
    PartitionPlan.expectedSize
  cases p.unit <;> rfl

/-- Splitting takes the rows from the plan, and everything else from the batch. -/
theorem eq_ok_of_partitionedWith (h : b.partitionedWith p = .ok c) :
    p.total = p.expected b ∧ p.elementLengths b.kind.groupSize = .ok c.lengths ∧ c.toBatch = b := by
  rw [partitionedWith_eq_bind] at h
  obtain ⟨expected, hexpected, h⟩ := bind_eq_ok_iff.1 h
  obtain ⟨total, htotal, h⟩ := bind_eq_ok_iff.1 h
  obtain rfl := expectedSize_eq_ok hexpected
  obtain rfl := sized_eq_ok htotal
  split at h
  · cases h
  · rename_i heq
    obtain ⟨lengths, hlengths, h⟩ := bind_eq_ok_iff.1 h
    obtain ⟨_, -, h⟩ := bind_eq_ok_iff.1 h
    cases h
    rw [lengths_inRows]
    exact ⟨not_not.1 heq, hlengths, b.toBatch_inRows lengths⟩

/-- The sum is looked at first, so it decides even where a group would be split. -/
theorem partitionedWith_eq_lengthMismatch (hexpected : p.expected b < UInt64.size)
    (htotal : p.total < UInt64.size) (h : p.total ≠ p.expected b) :
    b.partitionedWith p = .error (.lengthMismatch (p.expected b) p.total) := by
  rw [partitionedWith_eq_bind, expectedSize_eq hexpected, sized_eq htotal]
  simp only [bind, Except.bind, if_pos h]
  rfl

/-- A plan that fits gives its own lengths, and one that does not fit gives no column. -/
theorem partitionedWith_eq_ok_iff (hk : 1 ≤ b.kind.groupSize)
    (hlen : b.length ≤ ComponentColumn.maxOffset) (htotal : p.total < UInt64.size) :
    b.partitionedWith p = .ok c ↔
      p.Fits b ∧ c = b.inRows (p.valueLengths b.kind.groupSize) := by
  constructor
  · intro h
    obtain ⟨hsum, hlengths, hb⟩ := eq_ok_of_partitionedWith h
    refine ⟨fits_of_elementLengths hsum hlengths, ?_⟩
    rw [← inRows_lengths c, hb, elementLengths_eq_ok hlengths]
  · rintro ⟨hfits, rfl⟩
    exact partitionedWith_eq (hfits.splitsInto hk htotal) hlen

theorem exists_partitionedWith_iff (hk : 1 ≤ b.kind.groupSize)
    (hlen : b.length ≤ ComponentColumn.maxOffset) (htotal : p.total < UInt64.size) :
    (∃ c, b.partitionedWith p = .ok c) ↔ p.Fits b := by
  simp only [partitionedWith_eq_ok_iff hk hlen htotal, exists_and_left, exists_eq, and_true]

/-! ## Chains -/

/-- Splits a batch, then the values of each column by the next plan. -/
def repartitioned (b : ComponentBatch) (p : PartitionPlan) (ps : List PartitionPlan) :
    Except PartitionError ComponentColumn := do
  ps.foldlM ComponentColumn.repartition (← b.partitionedWith p)

/-- A column remembers its batch alone, not the rows it had. -/
theorem repartition_of_partitionedWith (h : b.partitionedWith p = .ok c) (q : PartitionPlan) :
    c.repartition q = b.partitionedWith q := by
  obtain ⟨-, -, rfl⟩ := eq_ok_of_partitionedWith h
  rfl

theorem repartitioned_nil (b : ComponentBatch) (p : PartitionPlan) :
    b.repartitioned p [] = b.partitionedWith p := bind_pure _

/-- Of a plan that another follows, only its success counts. -/
theorem repartitioned_cons (b : ComponentBatch) (p q : PartitionPlan) (ps : List PartitionPlan) :
    b.repartitioned p (q :: ps) = (b.partitionedWith p >>= fun _ => b.repartitioned q ps) := by
  unfold repartitioned
  cases h : b.partitionedWith p with
  | error e => rfl
  | ok c =>
    show (q :: ps).foldlM ComponentColumn.repartition c =
      b.partitionedWith q >>= fun c => ps.foldlM ComponentColumn.repartition c
    rw [List.foldlM_cons, repartition_of_partitionedWith h]

/-- A chain succeeds where each of its plans splits the batch, with the column of the last. -/
theorem repartitioned_eq_ok_iff {ps : List PartitionPlan} :
    b.repartitioned p ps = .ok c ↔
      (∀ q ∈ p :: ps, ∃ d, b.partitionedWith q = .ok d) ∧
        b.partitionedWith ((p :: ps).getLast (List.cons_ne_nil p ps)) = .ok c := by
  induction ps generalizing p with
  | nil =>
    rw [repartitioned_nil, List.forall_mem_singleton, List.getLast_singleton]
    exact ⟨fun h => ⟨⟨c, h⟩, h⟩, And.right⟩
  | cons q ps ih =>
    rw [repartitioned_cons, bind_eq_ok_iff, List.forall_mem_cons, List.getLast_cons_cons,
      exists_and_right, ih, and_assoc]

/-- Which plans split a batch, the rows of each, and the chains of them. The values of a batch
are counted by 32-bit offsets, its scalars and the sums of its plans by the machine word. -/
theorem partitionedWith_exact (hk : 1 ≤ b.kind.groupSize)
    (hlen : b.length ≤ ComponentColumn.maxOffset) :
    (∀ p : PartitionPlan, p.total < UInt64.size →
      ((∃ c, b.partitionedWith p = .ok c) ↔ p.Fits b) ∧
      (p.expected b < UInt64.size → p.total ≠ p.expected b →
        b.partitionedWith p = .error (.lengthMismatch (p.expected b) p.total))) ∧
    (∀ p c, b.partitionedWith p = .ok c →
      c.lengths = p.valueLengths b.kind.groupSize ∧
      p.elementLengths b.kind.groupSize = .ok c.lengths ∧ c.toBatch = b) ∧
    ∀ p ps, (∀ q ∈ p :: ps, q.total < UInt64.size) →
      ((∃ c, b.repartitioned p ps = .ok c) ↔ ∀ q ∈ p :: ps, q.Fits b) ∧
      ∀ c, b.repartitioned p ps = .ok c →
        b.partitionedWith ((p :: ps).getLast (List.cons_ne_nil p ps)) = .ok c := by
  refine ⟨fun p htotal => ⟨exists_partitionedWith_iff hk hlen htotal, fun hexpected hne => ?_⟩,
    fun p c h => ?_, fun p ps htotals => ⟨?_, fun c h => (repartitioned_eq_ok_iff.1 h).2⟩⟩
  · exact partitionedWith_eq_lengthMismatch hexpected htotal hne
  · obtain ⟨-, hlengths, hb⟩ := eq_ok_of_partitionedWith h
    exact ⟨elementLengths_eq_ok hlengths, hlengths, hb⟩
  · have hfits : (∀ q ∈ p :: ps, ∃ d, b.partitionedWith q = .ok d) ↔ ∀ q ∈ p :: ps, q.Fits b :=
      forall₂_congr fun q hq => exists_partitionedWith_iff hk hlen (htotals q hq)
    rw [← hfits]
    constructor
    · rintro ⟨c, h⟩
      exact (repartitioned_eq_ok_iff.1 h).1
    · intro h
      obtain ⟨c, hc⟩ := h _ (List.getLast_mem (List.cons_ne_nil p ps))
      exact ⟨c, repartitioned_eq_ok_iff.2 ⟨h, hc⟩⟩

/-- Two scales of zeros. -/
def twoScales : ComponentBatch :=
  ⟨.ofType ComponentType.scale3D.identifier,
    .fixedSizeList ⟨"item", false⟩ 3 2 none (.float32 (.replicate 6 (some .zero))),
    .fixedSizeGroup 3⟩

theorem partitionedWith_exact_twoScales :
    1 ≤ twoScales.kind.groupSize ∧ twoScales.length ≤ ComponentColumn.maxOffset ∧
    twoScales.partitionedWith (.flatValues [1, 4]) = .error (.lengthMismatch 6 5) ∧
    ∃ c, twoScales.repartitioned (.flatValues [0, 6]) [.elements [1, 0, 1]] = .ok c ∧
      twoScales.partitionedWith (.elements [1, 0, 1]) = .ok c ∧ c.lengths = [1, 0, 1] := by
  have hk : 1 ≤ twoScales.kind.groupSize := by decide
  have hlen : twoScales.length ≤ ComponentColumn.maxOffset := by decide
  obtain ⟨hplan, hcolumn, hchain⟩ := partitionedWith_exact hk hlen
  obtain ⟨hchain, hlast⟩ := hchain (.flatValues [0, 6]) [.elements [1, 0, 1]] (by decide)
  obtain ⟨c, hc⟩ := hchain.2 <| by
    rw [List.forall_mem_cons, List.forall_mem_singleton]
    exact ⟨⟨rfl, by decide⟩, rfl⟩
  have hsplit := hlast c hc
  refine ⟨hk, hlen, (hplan _ (by decide)).2 (by decide) (by decide), c, hc, hsplit, ?_⟩
  exact (hcolumn _ c hsplit).1

end ComponentBatch

end ComponentLog
