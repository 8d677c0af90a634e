import Mathlib.Data.List.Forall2

/-!
# Computations that may fail

When a step, a chain of steps or a traversal of a list in `Except` succeeds, and with
what. A traversal succeeds exactly with the results of its elements in order
(`mapM_eq_ok_iff`), and one over joined lists with the joined results
(`mapM_flatMap_eq_ok`).
-/

namespace ComponentLog

variable {ε α β γ : Type}

/-! ## Single steps -/

theorem bind_eq_ok_iff {x : Except ε α} {f : α → Except ε β} {b : β} :
    x >>= f = .ok b ↔ ∃ a, x = .ok a ∧ f a = .ok b := by
  cases x <;> simp [bind, Except.bind]

theorem bind_eq_error_iff {x : Except ε α} {f : α → Except ε β} {e : ε} :
    x >>= f = .error e ↔ x = .error e ∨ ∃ a, x = .ok a ∧ f a = .error e := by
  cases x <;> simp [bind, Except.bind]

theorem map_eq_ok_iff {x : Except ε α} {f : α → β} {b : β} :
    x.map f = .ok b ↔ ∃ a, x = .ok a ∧ f a = b := by
  cases x <;> simp [Except.map]

theorem map_eq_error_iff {x : Except ε α} {f : α → β} {e : ε} :
    x.map f = .error e ↔ x = .error e := by
  cases x <;> simp [Except.map]

theorem mapError_eq_ok_iff {ε' : Type} {x : Except ε α} {f : ε → ε'} {a : α} :
    x.mapError f = .ok a ↔ x = .ok a := by
  cases x <;> simp [Except.mapError]

theorem mapError_eq_error_iff {ε' : Type} {x : Except ε α} {f : ε → ε'} {e : ε'} :
    x.mapError f = .error e ↔ ∃ cause, x = .error cause ∧ f cause = e := by
  cases x <;> simp [Except.mapError]

theorem toOption_eq_some_iff {x : Except ε α} {a : α} : x.toOption = some a ↔ x = .ok a := by
  cases x <;> simp [Except.toOption]

/-! ## Lists next to each other -/

theorem forall₂_of_mem {R S : α → β → Prop} {xs : List α} {ys : List β}
    (h : List.Forall₂ R xs ys) (hS : ∀ x ∈ xs, ∀ y ∈ ys, R x y → S x y) :
    List.Forall₂ S xs ys := by
  induction h with
  | nil => exact .nil
  | cons hxy _ ih =>
    refine .cons (hS _ List.mem_cons_self _ List.mem_cons_self hxy) (ih fun x hx y hy => ?_)
    exact hS x (List.mem_cons_of_mem _ hx) y (List.mem_cons_of_mem _ hy)

theorem exists_of_mem_forall₂ {R : α → β → Prop} {xs : List α} {ys : List β}
    (h : List.Forall₂ R xs ys) {y : β} (hy : y ∈ ys) : ∃ x ∈ xs, R x y := by
  induction h with
  | nil => cases hy
  | cons hxy _ ih =>
    rcases List.mem_cons.1 hy with rfl | hy
    · exact ⟨_, List.mem_cons_self, hxy⟩
    · obtain ⟨x, hx, hxy⟩ := ih hy
      exact ⟨x, List.mem_cons_of_mem _ hx, hxy⟩

theorem forall₂_comp {R : α → β → Prop} {S : β → γ → Prop} {xs : List α} {ys : List β}
    {zs : List γ} (h : List.Forall₂ R xs ys) (h' : List.Forall₂ S ys zs) :
    List.Forall₂ (fun x z => ∃ y, R x y ∧ S y z) xs zs := by
  induction h generalizing zs with
  | nil =>
    cases h'
    exact .nil
  | cons hxy _ ih =>
    cases h' with
    | cons hyz hrest => exact .cons ⟨_, hxy, hyz⟩ (ih hrest)

theorem map_length_eq_replicate {R : α → List β → Prop} {xs : List α} {yss : List (List β)}
    {n : Nat} (h : List.Forall₂ R xs yss) (hn : ∀ x ys, R x ys → ys.length = n) :
    yss.map List.length = List.replicate xs.length n := by
  induction h with
  | nil => rfl
  | cons hxy _ ih => rw [List.map_cons, ih, hn _ _ hxy, List.length_cons, List.replicate_succ]

/-! ## Traversals -/

theorem mapM_eq_ok_iff {f : α → Except ε β} {xs : List α} {ys : List β} :
    xs.mapM f = .ok ys ↔ List.Forall₂ (fun x y => f x = .ok y) xs ys := by
  induction xs generalizing ys with
  | nil =>
    simp only [List.mapM_nil, List.forall₂_nil_left_iff]
    exact ⟨fun h => (Except.ok.inj h).symm, fun h => h ▸ rfl⟩
  | cons x xs ih =>
    rw [List.mapM_cons, bind_eq_ok_iff]
    constructor
    · rintro ⟨y, hy, h⟩
      obtain ⟨zs, hzs, h⟩ := bind_eq_ok_iff.1 h
      cases h
      exact .cons hy (ih.1 hzs)
    · intro h
      cases h with
      | cons hy hys => exact ⟨_, hy, bind_eq_ok_iff.2 ⟨_, ih.2 hys, rfl⟩⟩

/-- A traversal fails with the first element that fails. -/
theorem mapM_eq_error_iff {f : α → Except ε β} {xs : List α} {e : ε} :
    xs.mapM f = .error e ↔ ∃ (i : Nat) (hi : i < xs.length), f xs[i] = .error e ∧
      ∀ (j : Nat) (hj : j < i), ∃ y, f xs[j] = .ok y := by
  induction xs with
  | nil => simp [pure, Except.pure]
  | cons x xs ih =>
    rw [List.mapM_cons, bind_eq_error_iff]
    constructor
    · rintro (h | ⟨y, hy, h⟩)
      · exact ⟨0, Nat.zero_lt_succ _, h, fun j hj => absurd hj (Nat.not_lt_zero j)⟩
      · obtain ⟨i, hi, hfail, hbefore⟩ : ∃ (i : Nat) (hi : i < xs.length), f xs[i] = .error e ∧
            ∀ (j : Nat) (hj : j < i), ∃ y, f xs[j] = .ok y := by
          rcases bind_eq_error_iff.1 h with h | ⟨ys, -, h⟩
          · exact ih.1 h
          · cases h
        refine ⟨i + 1, Nat.succ_lt_succ hi, hfail, fun j hj => ?_⟩
        cases j with
        | zero => exact ⟨y, hy⟩
        | succ j => exact hbefore j (Nat.lt_of_succ_lt_succ hj)
    · rintro ⟨i, hi, hfail, hbefore⟩
      cases i with
      | zero => exact .inl hfail
      | succ i =>
        obtain ⟨y, hy⟩ := hbefore 0 (Nat.zero_lt_succ i)
        refine .inr ⟨y, hy, bind_eq_error_iff.2 (.inl (ih.2 ?_))⟩
        exact ⟨i, Nat.lt_of_succ_lt_succ hi, hfail,
          fun j hj => hbefore (j + 1) (Nat.succ_lt_succ hj)⟩

theorem exists_mapM_iff {f : α → Except ε β} {xs : List α} :
    (∃ ys, xs.mapM f = .ok ys) ↔ ∀ x ∈ xs, ∃ y, f x = .ok y := by
  constructor
  · rintro ⟨ys, hys⟩ x hx
    obtain ⟨y, -, hy⟩ := exists_of_mem_forall₂ (mapM_eq_ok_iff.1 hys).flip hx
    exact ⟨y, hy⟩
  · intro h
    cases hmap : xs.mapM f with
    | ok ys => exact ⟨ys, rfl⟩
    | error e =>
      obtain ⟨i, hi, hfail, -⟩ := mapM_eq_error_iff.1 hmap
      obtain ⟨y, hy⟩ := h _ (List.getElem_mem hi)
      cases hfail.symm.trans hy

/-- Checks pass when each of them does. -/
theorem forM_eq_ok_iff {f : α → Except ε Unit} {xs : List α} :
    xs.forM f = .ok () ↔ ∀ x ∈ xs, f x = .ok () := by
  induction xs with
  | nil => simp [List.forM, pure, Except.pure]
  | cons x xs ih =>
    have hcons : (x :: xs).forM f = f x >>= fun _ => xs.forM f := rfl
    rw [hcons, bind_eq_ok_iff, List.forall_mem_cons, ← ih]
    exact ⟨fun ⟨_, hx, hrest⟩ => ⟨hx, hrest⟩, fun ⟨hx, hrest⟩ => ⟨(), hx, hrest⟩⟩

theorem mapM_singleton_eq_ok {f : α → Except ε β} {x : α} {y : β} (h : f x = .ok y) :
    [x].mapM f = .ok [y] :=
  mapM_eq_ok_iff.2 (.cons h .nil)

/-- A traversal by a function that is another wherever it succeeds. -/
theorem mapM_eq_ok_map_iff {f : α → Except ε β} {g : α → β} {P : α → Prop}
    (h : ∀ x y, f x = .ok y ↔ P x ∧ y = g x) {xs : List α} {ys : List β} :
    xs.mapM f = .ok ys ↔ (∀ x ∈ xs, P x) ∧ ys = xs.map g := by
  rw [mapM_eq_ok_iff]
  constructor
  · intro hall
    induction hall with
    | nil => simp
    | cons hxy _ ih =>
      obtain ⟨hP, rfl⟩ := (h _ _).1 hxy
      obtain ⟨hPs, rfl⟩ := ih
      exact ⟨by simpa using ⟨hP, hPs⟩, rfl⟩
  · rintro ⟨hP, rfl⟩
    rw [List.forall₂_map_right_iff, List.forall₂_same]
    exact fun x hx => (h x _).2 ⟨hP x hx, rfl⟩

/-- Elements that read back what they were made from. -/
theorem mapM_map_eq_ok {f : α → Except ε β} {g : β → α} {ys : List β}
    (h : ∀ y ∈ ys, f (g y) = .ok y) : (ys.map g).mapM f = .ok ys := by
  rw [mapM_eq_ok_iff, List.forall₂_map_left_iff, List.forall₂_same]
  exact h

theorem mapM_append_eq_ok {f : α → Except ε β} {xs xs' : List α} {ys : List β}
    (h : (xs ++ xs').mapM f = .ok ys) :
    ∃ zs zs', xs.mapM f = .ok zs ∧ xs'.mapM f = .ok zs' ∧ ys = zs ++ zs' := by
  rw [List.mapM_append] at h
  obtain ⟨zs, hzs, h⟩ := bind_eq_ok_iff.1 h
  obtain ⟨zs', hzs', h⟩ := bind_eq_ok_iff.1 h
  cases h
  exact ⟨zs, zs', hzs, hzs', rfl⟩

/-- A traversal of joined lists is one of each list, with the results joined. -/
theorem mapM_flatMap_eq_ok {f : α → Except ε β} {g : γ → List α} {cs : List γ} {ys : List β}
    (h : (cs.flatMap g).mapM f = .ok ys) :
    ∃ yss, List.Forall₂ (fun c ys => (g c).mapM f = .ok ys) cs yss ∧ ys = yss.flatten := by
  induction cs generalizing ys with
  | nil =>
    cases h
    exact ⟨[], .nil, rfl⟩
  | cons c cs ih =>
    rw [List.flatMap_cons] at h
    obtain ⟨zs, zs', hzs, hzs', rfl⟩ := mapM_append_eq_ok h
    obtain ⟨yss, hyss, rfl⟩ := ih hzs'
    exact ⟨zs :: yss, .cons hzs hyss, rfl⟩

theorem length_eq_of_mapM {f : α → Except ε β} {xs : List α} {ys : List β}
    (h : xs.mapM f = .ok ys) : ys.length = xs.length :=
  (mapM_eq_ok_iff.1 h).length_eq.symm

/-- A traversal whose only failures are those of certain elements, all with one error. The
elements are told by what stands next to them. -/
theorem mapM_cases {f : α → Except ε β} {cs : List γ} {xs : List α} {e : ε} {P : γ → Prop}
    {R : α → β → Prop}
    (h : List.Forall₂ (fun c x => (P c ∧ f x = .error e) ∨ (¬ P c ∧ ∃ y, f x = .ok y ∧ R x y))
      cs xs) :
    ((∃ c ∈ cs, P c) ∧ xs.mapM f = .error e) ∨
      ((∀ c ∈ cs, ¬ P c) ∧ ∃ ys, xs.mapM f = .ok ys ∧ List.Forall₂ R xs ys) := by
  induction h with
  | nil => exact .inr ⟨by simp, [], rfl, .nil⟩
  | cons hx _ ih =>
    rw [List.mapM_cons]
    rcases hx with ⟨hP, hf⟩ | ⟨hP, y, hf, hy⟩
    · rw [hf]
      exact .inl ⟨⟨_, List.mem_cons_self, hP⟩, rfl⟩
    · rw [hf]
      rcases ih with ⟨⟨c, hc, hPc⟩, he⟩ | ⟨hPs, ys, hys, hR⟩
      · refine .inl ⟨⟨c, List.mem_cons_of_mem _ hc, hPc⟩, ?_⟩
        rw [he]
        rfl
      · refine .inr ⟨by simpa using ⟨hP, hPs⟩, y :: ys, ?_, .cons hy hR⟩
        rw [hys]
        rfl

end ComponentLog
