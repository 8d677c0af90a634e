import ComponentLog.Proofs.Rows.Repartition

/-!
# Rows at group boundaries

Where the rows of a plan in flat scalars end (`boundary`), and when all of these places lie between
groups. Rows are looked at one by one, each by its own length; since the rows before it hold whole
groups, a row holds whole groups exactly when it ends between two. So the lengths in values are
found where every row does, and are refused for the first row that ends inside a group
(`elementLengths_exact`).
-/

namespace ComponentLog

namespace PartitionPlan

/-- Where the first `j` rows end. -/
def boundary (lengths : List Nat) (j : Nat) : Nat := totalLength (lengths.take j)

/-- A place strictly inside a group, with groups of `k` one after the other. -/
def InsideGroup (k place : Nat) : Prop := ∃ g, g * k < place ∧ place < (g + 1) * k

variable {k place offset n : Nat} {ns lengths : List Nat}

@[simp] theorem boundary_zero (lengths : List Nat) : boundary lengths 0 = 0 := rfl

@[simp] theorem boundary_cons_succ (n : Nat) (ns : List Nat) (j : Nat) :
    boundary (n :: ns) (j + 1) = n + boundary ns j := rfl

/-- A place is inside a group when it is not between two. -/
theorem insideGroup_iff (hk : 1 ≤ k) : InsideGroup k place ↔ ¬ k ∣ place := by
  constructor
  · rintro ⟨g, hlo, hhi⟩ ⟨m, rfl⟩
    rw [Nat.mul_comm k m] at hlo hhi
    have hgm : g < m := Nat.lt_of_mul_lt_mul_right hlo
    have hmg : m < g + 1 := Nat.lt_of_mul_lt_mul_right hhi
    omega
  · intro hplace
    have hmod : 0 < place % k := Nat.pos_of_ne_zero fun h => hplace (Nat.dvd_of_mod_eq_zero h)
    have hlt : place % k < k := Nat.mod_lt place hk
    have hdiv := Nat.div_add_mod' place k
    refine ⟨place / k, by omega, ?_⟩
    rw [Nat.succ_mul]
    omega

/-! ## Boundaries and lengths -/

/-- All rows end between groups exactly when all hold whole groups. -/
theorem forall_dvd_boundary_iff :
    (∀ j ≤ ns.length, k ∣ boundary ns j) ↔ ∀ n ∈ ns, k ∣ n := by
  induction ns with
  | nil => simp
  | cons n ns ih =>
    rw [List.forall_mem_cons, ← ih]
    constructor
    · intro h
      have hn : k ∣ n := h 1 (by simp)
      refine ⟨hn, fun j hj => ?_⟩
      exact (Nat.dvd_add_right hn).1 (h (j + 1) (Nat.succ_le_succ hj))
    · rintro ⟨hn, hns⟩ j hj
      cases j with
      | zero => exact Nat.dvd_zero k
      | succ j => exact Nat.dvd_add hn (hns j (Nat.le_of_succ_le_succ hj))

theorem boundary_map_div (h : ∀ n ∈ ns, k ∣ n) (j : Nat) :
    boundary (ns.map (· / k)) j * k = boundary ns j := by
  unfold boundary
  rw [← List.map_take]
  exact totalLength_map_div fun n hn => h n (List.mem_of_mem_take hn)

/-! ## Rows one by one -/

/-- The error of rows that start between groups names the first end inside a group. -/
theorem exists_of_wholeGroups_eq_error (hk : 1 ≤ k) (hlt : offset + totalLength ns < UInt64.size)
    (hoffset : k ∣ offset) {a : Arithmetic} {e : PartitionError}
    (h : wholeGroups a k offset ns = .error e) :
    ∃ j ≤ ns.length, e = .splitsGroup k (offset + boundary ns j) ∧
      ¬ k ∣ offset + boundary ns j ∧ ∀ i < j, k ∣ offset + boundary ns i := by
  -- the rows after the first start where it ends, which is between groups again
  induction ns generalizing offset with
  | nil => cases h
  | cons n ns ih =>
    rw [totalLength_cons] at hlt
    rw [wholeGroups_cons a (by omega) hk] at h
    split at h
    · rename_i hn
      obtain ⟨j, hj, he, hsplit, hfirst⟩ :=
        ih (by omega) (Nat.dvd_add hoffset hn) (map_eq_error_iff.1 h)
      refine ⟨j + 1, Nat.succ_le_succ hj, ?_⟩
      simp only [boundary_cons_succ, ← Nat.add_assoc]
      refine ⟨he, hsplit, fun i hi => ?_⟩
      cases i with
      | zero => exact hoffset
      | succ i =>
        rw [boundary_cons_succ, ← Nat.add_assoc]
        exact hfirst i (Nat.lt_of_succ_lt_succ hi)
    · rename_i hn
      cases h
      have hend : boundary (n :: ns) 1 = n := rfl
      refine ⟨1, by simp, by rw [hend], ?_, fun i hi => ?_⟩
      · rw [hend]
        exact fun h => hn ((Nat.dvd_add_right hoffset).1 h)
      · obtain rfl : i = 0 := by omega
        exact hoffset

/-- Lengths in values are found for flat rows exactly when every row ends between two groups, and
these rows end at the same places. Otherwise the first row that ends inside a group is named by its
end. -/
theorem elementLengths_exact (hk : 1 ≤ k) (hlt : totalLength lengths < UInt64.size) :
    ((∃ found, (flatValues lengths).elementLengths k = .ok found) ↔
      ∀ j ≤ lengths.length, k ∣ boundary lengths j) ∧
    (∀ found, (flatValues lengths).elementLengths k = .ok found →
      found.length = lengths.length ∧
      ∀ j ≤ lengths.length, boundary found j * k = boundary lengths j) ∧
    ∀ e, (flatValues lengths).elementLengths k = .error e →
      ∃ j ≤ lengths.length, e = .splitsGroup k (boundary lengths j) ∧
        InsideGroup k (boundary lengths j) ∧ ∀ i < j, ¬ InsideGroup k (boundary lengths i) := by
  have hfit : 0 + totalLength lengths < UInt64.size := by rwa [Nat.zero_add]
  refine ⟨⟨?_, fun h => ?_⟩, fun found h => ?_, fun e h => ?_⟩
  · rintro ⟨found, h⟩
    exact forall_dvd_boundary_iff.2 (dvd_of_wholeGroups h)
  · exact ⟨_, wholeGroups_eq .checked hk (forall_dvd_boundary_iff.1 h) hfit⟩
  · obtain rfl : found = lengths.map (· / k) := wholeGroups_eq_ok h
    exact ⟨List.length_map _, fun j _ => boundary_map_div (dvd_of_wholeGroups h) j⟩
  · obtain ⟨j, hj, he, hsplit, hfirst⟩ :=
      exists_of_wholeGroups_eq_error hk hfit (Nat.dvd_zero k) h
    simp only [Nat.zero_add] at he hsplit hfirst
    refine ⟨j, hj, he, (insideGroup_iff hk).2 hsplit, fun i hi => ?_⟩
    rw [insideGroup_iff hk]
    exact not_not.2 (hfirst i hi)

/-- Rows of 3, 0, 4 and 5 scalars in groups of three, and rows of 3, 0 and 6. -/
theorem elementLengths_exact_splitGroup :
    1 ≤ 3 ∧ totalLength [3, 0, 4, 5] < UInt64.size ∧
    (∃ j ≤ 4, (flatValues [3, 0, 4, 5]).elementLengths 3 =
        .error (.splitsGroup 3 (boundary [3, 0, 4, 5] j)) ∧
      InsideGroup 3 (boundary [3, 0, 4, 5] j)) ∧
    totalLength [3, 0, 6] < UInt64.size ∧
    (flatValues [3, 0, 6]).elementLengths 3 = .ok [1, 0, 2] ∧ boundary [1, 0, 2] 3 * 3 = 9 := by
  have hk : 1 ≤ 3 := by decide
  have hsplit : totalLength [3, 0, 4, 5] < UInt64.size := by decide
  have hwhole : totalLength [3, 0, 6] < UInt64.size := by decide
  have hrefused : (flatValues [3, 0, 4, 5]).elementLengths 3 = .error (.splitsGroup 3 7) := rfl
  obtain ⟨j, hj, he, hinside, -⟩ := (elementLengths_exact hk hsplit).2.2 _ hrefused
  refine ⟨hk, hsplit, ⟨j, hj, by rw [← he]; rfl, hinside⟩, hwhole, rfl, ?_⟩
  exact ((elementLengths_exact hk hwhole).2.1 _ rfl).2 3 (by decide)

end PartitionPlan

end ComponentLog
