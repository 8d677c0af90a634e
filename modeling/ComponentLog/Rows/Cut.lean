/-!
# Cutting a list into consecutive runs

`cut lengths xs` takes runs of the given lengths from the front of `xs`, one after
the other; joined again they are the front of `xs` (`flatten_cut`). `groups n xs` is
the case of whole groups of `n`, each carrying its length in its type.
-/

namespace ComponentLog

variable {α β : Type}

/-- The sum of lengths. -/
def totalLength : List Nat → Nat
  | [] => 0
  | n :: ns => n + totalLength ns

@[simp] theorem totalLength_nil : totalLength [] = 0 := rfl

@[simp] theorem totalLength_cons (n : Nat) (ns : List Nat) :
    totalLength (n :: ns) = n + totalLength ns := rfl

@[simp] theorem totalLength_append (ms ns : List Nat) :
    totalLength (ms ++ ns) = totalLength ms + totalLength ns := by
  induction ms with
  | nil => simp
  | cons m ms ih => simp [ih, Nat.add_assoc]

theorem totalLength_replicate (count n : Nat) :
    totalLength (List.replicate count n) = count * n := by
  induction count with
  | zero => simp
  | succ count ih => simp [List.replicate_succ, ih, Nat.add_mul, Nat.add_comm]

theorem length_flatten_eq_totalLength (xss : List (List α)) :
    xss.flatten.length = totalLength (xss.map List.length) := by
  induction xss with
  | nil => rfl
  | cons xs xss ih => simp [ih]

/-- Runs of the given lengths, from the front. -/
def cut : List Nat → List α → List (List α)
  | [], _ => []
  | n :: ns, xs => xs.take n :: cut ns (xs.drop n)

@[simp] theorem cut_nil (xs : List α) : cut [] xs = [] := rfl

@[simp] theorem cut_cons (n : Nat) (ns : List Nat) (xs : List α) :
    cut (n :: ns) xs = xs.take n :: cut ns (xs.drop n) := rfl

@[simp] theorem length_cut (ns : List Nat) (xs : List α) : (cut ns xs).length = ns.length := by
  induction ns generalizing xs with
  | nil => rfl
  | cons n ns ih => simp [ih]

theorem flatten_cut (ns : List Nat) (xs : List α) :
    (cut ns xs).flatten = xs.take (totalLength ns) := by
  induction ns generalizing xs with
  | nil => simp
  | cons n ns ih => simp [ih, List.take_add]

theorem map_cut (f : α → β) (ns : List Nat) (xs : List α) :
    cut ns (xs.map f) = (cut ns xs).map (·.map f) := by
  induction ns generalizing xs with
  | nil => rfl
  | cons n ns ih => simp [← ih, List.map_take, List.map_drop]

/-- Joined runs are cut apart by their own lengths. -/
theorem cut_flatten (xss : List (List α)) : cut (xss.map List.length) xss.flatten = xss := by
  induction xss with
  | nil => rfl
  | cons xs xss ih => simp [ih]

/-- The first `count` groups of `n`, or as many as there are. -/
def takeGroups (n : Nat) : Nat → List α → List (Vector α n)
  | 0, _ => []
  | count + 1, xs =>
    if h : n ≤ xs.length then
      ⟨(xs.take n).toArray, by simp [h]⟩ :: takeGroups n count (xs.drop n)
    else []

/-- All whole groups of `n`. -/
def groups (n : Nat) (xs : List α) : List (Vector α n) := takeGroups n (xs.length / n) xs

@[simp] theorem groups_nil {n : Nat} : groups n ([] : List α) = [] := by
  simp [groups, takeGroups]

/-- The elements of groups in order. -/
def ungroup {n : Nat} (gs : List (Vector α n)) : List α := gs.flatMap (·.toList)

@[simp] theorem length_ungroup {n : Nat} (gs : List (Vector α n)) :
    (ungroup gs).length = gs.length * n := by
  induction gs with
  | nil => simp [ungroup]
  | cons g gs ih =>
    simp only [ungroup, List.flatMap_cons, List.length_append, Vector.length_toList,
      List.length_cons] at ih ⊢
    rw [ih, Nat.add_mul, Nat.one_mul, Nat.add_comm]

@[simp] theorem ungroup_nil {n : Nat} : ungroup ([] : List (Vector α n)) = [] := rfl

@[simp] theorem ungroup_cons {n : Nat} (g : Vector α n) (gs : List (Vector α n)) :
    ungroup (g :: gs) = g.toList ++ ungroup gs := rfl

/-- Scalar `j` of group `i`. -/
theorem getElem?_ungroup {n : Nat} {gs : List (Vector α n)} {i j : Nat}
    (hi : i < gs.length) (hj : j < n) : (ungroup gs)[n * i + j]? = some gs[i][j] := by
  induction gs generalizing i with
  | nil => cases hi
  | cons g gs ih =>
    have hlen : g.toList.length = n := Vector.length_toList
    rw [ungroup_cons]
    cases i with
    | zero =>
      rw [Nat.mul_zero, Nat.zero_add, List.getElem?_append_left (by omega)]
      simp [hj]
    | succ i =>
      have hi' : i < gs.length := Nat.lt_of_succ_lt_succ hi
      rw [List.getElem?_append_right (by rw [hlen, Nat.mul_succ]; omega), hlen,
        show n * (i + 1) + j - n = n * i + j by rw [Nat.mul_succ]; omega, ih hi',
        List.getElem_cons_succ]

/-- Cutting the elements into runs of `n` gives the groups. -/
theorem cut_ungroup {n : Nat} (gs : List (Vector α n)) :
    cut (List.replicate gs.length n) (ungroup gs) = gs.map (·.toList) := by
  induction gs with
  | nil => rfl
  | cons g gs ih =>
    have hlen : g.toList.length = n := Vector.length_toList
    simp [List.replicate_succ, hlen, ih]

/-- The groups in front are found whatever follows them. -/
theorem takeGroups_ungroup_append {n : Nat} (gs : List (Vector α n)) (count : Nat)
    (xs : List α) :
    takeGroups n (gs.length + count) (ungroup gs ++ xs) = gs ++ takeGroups n count xs := by
  induction gs with
  | nil => simp
  | cons g gs ih =>
    have hlen : g.toList.length = n := Vector.length_toList
    have htake : (ungroup (g :: gs) ++ xs).take n = g.toList := by
      simp [hlen]
    have hdrop : (ungroup (g :: gs) ++ xs).drop n = ungroup gs ++ xs := by
      simp [hlen]
    rw [List.length_cons, Nat.add_right_comm, takeGroups,
      dif_pos (by rw [List.length_append, length_ungroup, List.length_cons, Nat.add_mul]; omega),
      hdrop, ih, List.cons_append]
    congr 1
    apply Vector.toArray_inj.1
    apply Array.toList_inj.1
    exact htake

theorem takeGroups_ungroup {n : Nat} (gs : List (Vector α n)) :
    takeGroups n gs.length (ungroup gs) = gs := by
  have := takeGroups_ungroup_append gs 0 []
  simpa [takeGroups] using this

theorem length_takeGroups {n count : Nat} {xs : List α} (h : count * n ≤ xs.length) :
    (takeGroups n count xs).length = count := by
  induction count generalizing xs with
  | zero => rfl
  | succ count ih =>
    rw [Nat.succ_mul] at h
    rw [takeGroups, dif_pos (by omega), List.length_cons, ih (by rw [List.length_drop]; omega)]

theorem ungroup_takeGroups {n count : Nat} {xs : List α} (h : count * n ≤ xs.length) :
    ungroup (takeGroups n count xs) = xs.take (count * n) := by
  induction count generalizing xs with
  | zero => simp [takeGroups]
  | succ count ih =>
    rw [Nat.succ_mul] at h
    rw [takeGroups, dif_pos (by omega), ungroup_cons, ih (by rw [List.length_drop]; omega),
      Nat.succ_mul, Nat.add_comm, List.take_add]
    rfl

theorem groups_ungroup_append {n : Nat} (h : 0 < n) (gs : List (Vector α n)) (xs : List α) :
    groups n (ungroup gs ++ xs) = gs ++ groups n xs := by
  rw [groups, List.length_append, length_ungroup, Nat.add_comm, Nat.add_mul_div_right _ _ h,
    Nat.add_comm, takeGroups_ungroup_append, groups]

theorem groups_ungroup {n : Nat} (h : 0 < n) (gs : List (Vector α n)) :
    groups n (ungroup gs) = gs := by
  rw [groups, length_ungroup, Nat.mul_div_cancel _ h, takeGroups_ungroup]

theorem ungroup_inj {n : Nat} (hn : 0 < n) {gs hs : List (Vector α n)}
    (h : ungroup gs = ungroup hs) : gs = hs := by
  rw [← groups_ungroup hn gs, h, groups_ungroup hn]

/-- A list of whole groups. -/
theorem exists_ungroup {n : Nat} {xs : List α} (h : n ∣ xs.length) :
    ∃ gs : List (Vector α n), ungroup gs = xs := by
  obtain ⟨count, hcount⟩ := h
  induction count generalizing xs with
  | zero => exact ⟨[], (List.eq_nil_of_length_eq_zero (by simpa using hcount)).symm⟩
  | succ count ih =>
    rw [Nat.mul_succ] at hcount
    have hrest : (xs.drop n).length = n * count := by rw [List.length_drop]; omega
    obtain ⟨gs, hgs⟩ := ih hrest
    refine ⟨⟨(xs.take n).toArray, by simp; omega⟩ :: gs, ?_⟩
    rw [ungroup_cons, hgs]
    exact List.take_append_drop n xs

theorem groups_append {n : Nat} (h : 0 < n) {xs : List α} (hxs : n ∣ xs.length) (ys : List α) :
    groups n (xs ++ ys) = groups n xs ++ groups n ys := by
  obtain ⟨gs, rfl⟩ := exists_ungroup hxs
  rw [groups_ungroup_append h, groups_ungroup h]

/-- No group spans two of the joined lists. -/
theorem groups_flatten {n : Nat} (h : 0 < n) {xss : List (List α)}
    (hxss : ∀ xs ∈ xss, n ∣ xs.length) :
    groups n xss.flatten = (xss.map (groups n)).flatten := by
  induction xss with
  | nil => simp
  | cons xs xss ih =>
    rw [List.flatten_cons, groups_append h (hxss xs List.mem_cons_self),
      ih fun ys hys => hxss ys (List.mem_cons_of_mem _ hys), List.map_cons, List.flatten_cons]

theorem length_groups {n : Nat} (h : 0 < n) {xs : List α} (hxs : n ∣ xs.length) :
    (groups n xs).length = xs.length / n := by
  obtain ⟨gs, rfl⟩ := exists_ungroup hxs
  rw [groups_ungroup h, length_ungroup, Nat.mul_div_cancel _ h]

end ComponentLog
