import ComponentLog.Numeric.Binary

/-!
# Widening loses nothing

A finite word is a significand and a shift (`Format.Parts`): its magnitude is the shifted
significand, and encoding that magnitude gives the word back. A wider format has a word of
the same magnitude, so a number that is widened narrows to itself (`narrow_widen`).
-/

namespace ComponentLog.Numeric

namespace Format

/-- The significand and the shift of a finite word. The significand has its leading bit unless
the word is below the least normal one. -/
structure Parts (f : Format) (m s : Nat) : Prop where
  lt : m < 1 <<< (f.fraction + 1)
  leading : 1 <<< f.fraction ≤ m ∨ s = 0

/-- The word of a significand and a shift. -/
def join (f : Format) (m s : Nat) : Nat := (s <<< f.fraction) + m

variable {f g : Format} {m s : Nat}

theorem one_shiftLeft_pos (n : Nat) : 0 < 1 <<< n := by
  rw [Nat.one_shiftLeft]
  exact Nat.two_pow_pos n

theorem one_shiftLeft_succ (n : Nat) : 1 <<< (n + 1) = 2 * 1 <<< n := by
  rw [Nat.one_shiftLeft, Nat.one_shiftLeft, Nat.pow_succ, Nat.mul_comm]

theorem shiftLeft_eq_mul (m n : Nat) : m <<< n = m * 1 <<< n := by
  rw [Nat.shiftLeft_eq, Nat.one_shiftLeft]

theorem join_eq (f : Format) (m s : Nat) : f.join m s = s * 1 <<< f.fraction + m := by
  rw [join, shiftLeft_eq_mul]

theorem exists_parts (f : Format) (word : Nat) : ∃ m s, f.Parts m s ∧ f.join m s = word := by
  have hlt := Nat.mod_lt word (one_shiftLeft_pos f.fraction)
  have hsucc := one_shiftLeft_succ f.fraction
  have hword := Nat.div_add_mod' word (1 <<< f.fraction)
  cases hexp : word / (1 <<< f.fraction) with
  | zero =>
    rw [hexp] at hword
    refine ⟨word % (1 <<< f.fraction), 0, ⟨by omega, .inr rfl⟩, ?_⟩
    rw [join_eq]
    exact hword
  | succ s =>
    rw [hexp, Nat.succ_mul] at hword
    refine ⟨1 <<< f.fraction + word % (1 <<< f.fraction), s, ⟨by omega, .inl (by omega)⟩, ?_⟩
    rw [join_eq]
    omega

theorem magnitude_join (h : f.Parts m s) : f.magnitude (f.join m s) = m <<< s := by
  have hpos := one_shiftLeft_pos f.fraction
  have hlt := h.lt
  rw [one_shiftLeft_succ] at hlt
  unfold magnitude
  rw [join_eq, Nat.shiftRight_eq_div_pow, ← Nat.one_shiftLeft]
  by_cases hm : 1 <<< f.fraction ≤ m
  · -- the leading bit counts in the exponent
    obtain ⟨r, rfl⟩ := Nat.exists_eq_add_of_le hm
    have hr : r < 1 <<< f.fraction := by omega
    have hword : s * 1 <<< f.fraction + (1 <<< f.fraction + r) =
        r + (s + 1) * 1 <<< f.fraction := by
      rw [Nat.succ_mul]
      omega
    rw [hword, Nat.add_mul_div_right _ _ hpos, Nat.add_mul_mod_self_right, Nat.div_eq_of_lt hr,
      Nat.mod_eq_of_lt hr, Nat.zero_add]
    simp only [Nat.succ_ne_zero, if_false, Nat.add_sub_cancel]
    rw [Nat.add_comm r]
  · have hs : s = 0 := h.leading.resolve_left hm
    subst hs
    have hm' : m < 1 <<< f.fraction := by omega
    rw [Nat.zero_mul, Nat.zero_add, Nat.div_eq_of_lt hm', Nat.mod_eq_of_lt hm']
    simp only [if_true, Nat.shiftLeft_zero]

/-- The shift is found from the number of bits. -/
theorem log2_sub_fraction (h : f.Parts m s) : (m <<< s).log2 - f.fraction = s := by
  have hlt := h.lt
  rw [Nat.one_shiftLeft] at hlt
  by_cases hzero : m = 0
  · have hs : s = 0 := by
      have hpos := one_shiftLeft_pos f.fraction
      rcases h.leading with h' | h'
      · omega
      · exact h'
    subst hzero hs
    simp
  · have hpos : m <<< s ≠ 0 := by
      rw [Nat.shiftLeft_eq]
      exact Nat.ne_of_gt (Nat.mul_pos (Nat.pos_of_ne_zero hzero) (Nat.two_pow_pos s))
    have hupper : (m <<< s).log2 < f.fraction + 1 + s := by
      rw [Nat.log2_lt hpos, Nat.pow_add, Nat.shiftLeft_eq]
      exact Nat.mul_lt_mul_of_pos_right hlt (Nat.two_pow_pos s)
    rcases h.leading with hm | rfl
    · have hlower : f.fraction + s ≤ (m <<< s).log2 := by
        rw [Nat.le_log2 hpos, Nat.pow_add, Nat.shiftLeft_eq, ← Nat.one_shiftLeft]
        exact Nat.mul_le_mul_right _ hm
      omega
    · omega

theorem encode_join (h : f.Parts m s) {den : Nat} (hden : 0 < den)
    (hfit : f.join m s ≤ f.infinity) : f.encode ((m <<< s) * den) den = f.join m s := by
  have hnearest : nearest (m <<< s * den) (den <<< s) = m := by
    have hnum : m <<< s * den = m * (den <<< s) := by
      rw [Nat.shiftLeft_eq, Nat.shiftLeft_eq, Nat.mul_assoc, Nat.mul_comm den]
    rw [hnum]
    refine nearest_mul m ?_
    rw [Nat.shiftLeft_eq]
    exact Nat.mul_pos hden (Nat.two_pow_pos s)
  simp only [encode, Nat.mul_div_cancel _ hden, log2_sub_fraction h, hnearest]
  exact Nat.min_eq_right hfit

/-- A wider format has the magnitude too, in smaller units. -/
theorem exists_wider (h : f.Parts m s) {k : Nat} (hfg : f.fraction ≤ g.fraction)
    (hk : g.fraction ≤ k) :
    ∃ m' s', g.Parts m' s' ∧ m' <<< s' = (m <<< s) <<< k ∧ s' ≤ s + k := by
  by_cases hzero : m = 0
  · subst hzero
    exact ⟨0, 0, ⟨one_shiftLeft_pos _, .inr rfl⟩, by simp, Nat.zero_le _⟩
  · have hlt := h.lt
    rw [Nat.one_shiftLeft] at hlt
    have hlog : m.log2 < f.fraction + 1 := (Nat.log2_lt hzero).2 hlt
    -- the significand is shifted up until its leading bit is the wider format's
    obtain ⟨t, ht⟩ := Nat.exists_eq_add_of_le (show m.log2 ≤ g.fraction by omega)
    have hpos := Nat.two_pow_pos t
    refine ⟨m <<< t, s + k - t, ⟨?_, .inl ?_⟩, ?_, by omega⟩
    · have hupper := Nat.mul_lt_mul_of_pos_right (Nat.lt_log2_self (n := m)) hpos
      rwa [← Nat.pow_add, ← Nat.shiftLeft_eq, Nat.add_right_comm, ← ht, ← Nat.one_shiftLeft]
        at hupper
    · have hlower := Nat.mul_le_mul_right (Nat.pow 2 t) (Nat.log2_self_le hzero)
      show 1 <<< g.fraction ≤ m <<< t
      rw [Nat.one_shiftLeft, ht, Nat.pow_add, Nat.shiftLeft_eq]
      exact hlower
    · rw [← Nat.shiftLeft_add, ← Nat.shiftLeft_add]
      congr 1
      omega

theorem join_lt (h : f.Parts m s) {e : Nat} (he : s + 1 < e) : f.join m s < e <<< f.fraction := by
  have hlt := h.lt
  rw [one_shiftLeft_succ] at hlt
  rw [join_eq, shiftLeft_eq_mul e]
  calc s * 1 <<< f.fraction + m < (s + 2) * 1 <<< f.fraction := by rw [Nat.add_mul]; omega
    _ ≤ e * 1 <<< f.fraction := Nat.mul_le_mul_right _ he

theorem shift_lt_of_join_lt {e : Nat} (h : f.join m s < e <<< f.fraction) : s < e := by
  rw [join_eq, shiftLeft_eq_mul e] at h
  exact Nat.lt_of_mul_lt_mul_right (Nat.lt_of_le_of_lt (Nat.le_add_right _ _) h)

end Format

/-! ## Words with a sign -/

theorem Binary32.ofWord_word (x : Binary32) : ofWord x.isNegative x.word = x := by
  have hsign : single.signBit = 2147483648 := rfl
  have hlt := x.bits.toNat_lt
  have hbits : (if x.isNegative then single.signBit + x.word else x.word) = x.bits.toNat := by
    unfold isNegative word
    rw [hsign]
    by_cases h : 2147483648 ≤ x.bits.toNat
    · simp only [h, decide_true, if_true]
      omega
    · simp only [h, decide_false, Bool.false_eq_true, if_false]
      omega
  unfold ofWord
  rw [hbits, UInt32.ofNat_toNat]

section

variable {negative : Bool} {w : Nat}

theorem Binary64.toNat_ofWord (h : w < double.signBit) :
    (ofWord negative w).bits.toNat = if negative then double.signBit + w else w := by
  have hsign : double.signBit = 9223372036854775808 := rfl
  rw [hsign] at h ⊢
  apply UInt64.toNat_ofNat_of_lt'
  have hsize : UInt64.size = 18446744073709551616 := rfl
  cases negative with
  | true =>
    simp only [if_true]
    omega
  | false =>
    simp only [Bool.false_eq_true, if_false]
    omega

theorem Binary64.word_ofWord (h : w < double.signBit) : (ofWord negative w).word = w := by
  unfold word
  rw [toNat_ofWord h]
  cases negative with
  | true => simp [Nat.mod_eq_of_lt h]
  | false => simp [Nat.mod_eq_of_lt h]

theorem Binary64.isNegative_ofWord (h : w < double.signBit) :
    (ofWord negative w).isNegative = negative := by
  unfold isNegative
  rw [toNat_ofWord h]
  cases negative with
  | true => simp
  | false => simp [h]

theorem double_infinity_lt : double.infinity < double.signBit := by decide

/-- Narrowing a finite number keeps the sign and rounds the magnitude. -/
theorem Binary64.narrow_ofWord (h : w < double.infinity) :
    (ofWord negative w).narrow =
      .ofWord negative (single.encode (double.magnitude w) (1 <<< 925)) := by
  have hlt : w < double.signBit := Nat.lt_trans h double_infinity_lt
  unfold narrow isNaN isInfinite magnitude
  rw [word_ofWord hlt, isNegative_ofWord hlt]
  have hnan : ¬ double.infinity < w := by omega
  have hinf : ¬ w = double.infinity := by omega
  simp only [hnan, hinf, decide_false, Bool.false_eq_true, if_false]

theorem Binary64.narrow_ofWord_infinity :
    (ofWord negative double.infinity).narrow = .ofWord negative single.infinity := by
  unfold narrow isNaN isInfinite
  rw [word_ofWord double_infinity_lt, isNegative_ofWord double_infinity_lt]
  simp only [Nat.lt_irrefl, decide_false, Bool.false_eq_true, if_false, decide_true, if_true]

end

/-! ## Widening -/

/-- A finite number has its magnitude in the wider format. -/
theorem Binary32.widen_finite {x : Binary32} (h : x.word < single.infinity) :
    ∃ w, x.widen = .ofWord x.isNegative w ∧ w < double.infinity ∧
      double.magnitude w = x.magnitude <<< 925 := by
  obtain ⟨m, s, hparts, hword⟩ := single.exists_parts x.word
  have hmagnitude : x.magnitude = m <<< s := by
    unfold magnitude
    rw [← hword, Format.magnitude_join hparts]
  obtain ⟨m', s', hparts', hshift, hle⟩ :=
    Format.exists_wider hparts (g := double) (k := 925) (by decide) (by decide)
  have hs : s < 255 := Format.shift_lt_of_join_lt (f := single) (hword ▸ h)
  have hw : double.join m' s' < double.infinity :=
    Format.join_lt hparts' (show s' + 1 < 2047 by omega)
  refine ⟨double.join m' s', ?_, hw, ?_⟩
  · have hencode := Format.encode_join hparts' Nat.one_pos (Nat.le_of_lt hw)
    rw [Nat.mul_one, hshift, ← hmagnitude] at hencode
    have hnan : ¬ single.infinity < x.word := by omega
    have hinf : ¬ x.word = single.infinity := by omega
    unfold widen isNaN isInfinite
    simp only [hnan, hinf, decide_false, Bool.false_eq_true, if_false, hencode]
  · rw [Format.magnitude_join hparts', hshift, hmagnitude]

/-- Narrowing undoes widening, for all numbers but NaN bit by bit. -/
theorem narrow_widen {x : Binary32} (h : x.isNaN = false) : x.widen.narrow = x := by
  unfold Binary32.isNaN at h
  by_cases hinf : x.word = single.infinity
  · have hwiden : x.widen = .ofWord x.isNegative double.infinity := by
      unfold Binary32.widen Binary32.isNaN Binary32.isInfinite
      simp only [hinf, Nat.lt_irrefl, decide_false, Bool.false_eq_true, if_false, decide_true,
        if_true]
    rw [hwiden, Binary64.narrow_ofWord_infinity, ← hinf, x.ofWord_word]
  · have hfinite : x.word < single.infinity := by
      simp only [decide_eq_false_iff_not] at h
      omega
    obtain ⟨w, hwiden, hw, hmagnitude⟩ := Binary32.widen_finite hfinite
    obtain ⟨m, s, hparts, hword⟩ := single.exists_parts x.word
    have hencode := Format.encode_join hparts (Format.one_shiftLeft_pos 925)
      (Nat.le_of_lt (hword ▸ hfinite))
    rw [hwiden, Binary64.narrow_ofWord hw, hmagnitude]
    have hunits : x.magnitude <<< 925 = m <<< s * 1 <<< 925 := by
      unfold Binary32.magnitude
      rw [← hword, Format.magnitude_join hparts, Format.shiftLeft_eq_mul _ 925]
    rw [hunits, hencode, hword, x.ofWord_word]

end ComponentLog.Numeric
