/-!
# Blank characters

The characters of the Unicode property White_Space and trimming by them. Trimmed
text neither starts nor ends with a blank (`head_trim`, `getLast_trim`), trimming
takes away blanks only (`exists_trim`) and leaves such text as it is (`trim_eq_self`).
-/

namespace ComponentLog.Text

/-- Unicode White_Space. -/
def isBlank (c : Char) : Bool :=
  let n := c.toNat
  (9 ≤ n && n ≤ 13) || n = 0x20 || n = 0x85 || n = 0xa0 || n = 0x1680 ||
    (0x2000 ≤ n && n ≤ 0x200a) || n = 0x2028 || n = 0x2029 || n = 0x202f || n = 0x205f ||
    n = 0x3000

/-- The text without the blanks at its front. -/
def trimLeft (cs : List Char) : List Char := cs.dropWhile isBlank

/-- The text without the blanks at its end. -/
def trimRight (cs : List Char) : List Char := (trimLeft cs.reverse).reverse

def trim (cs : List Char) : List Char := trimRight (trimLeft cs)

theorem head_trimLeft {cs : List Char} {c : Char} (h : (trimLeft cs).head? = some c) :
    isBlank c = false := by
  induction cs with
  | nil => simp [trimLeft] at h
  | cons d cs ih =>
    unfold trimLeft at h ih
    by_cases hd : isBlank d = true
    · rw [List.dropWhile_cons_of_pos hd] at h
      exact ih h
    · rw [List.dropWhile_cons_of_neg hd] at h
      simp only [List.head?_cons, Option.some.injEq] at h
      simpa [h] using hd

theorem exists_trimLeft (cs : List Char) :
    ∃ front, cs = front ++ trimLeft cs ∧ ∀ c ∈ front, isBlank c = true :=
  ⟨cs.takeWhile isBlank, (List.takeWhile_append_dropWhile).symm,
    fun _ h => List.all_eq_true.1 List.all_takeWhile _ h⟩

theorem exists_trimRight (cs : List Char) :
    ∃ back, cs = trimRight cs ++ back ∧ ∀ c ∈ back, isBlank c = true := by
  obtain ⟨front, h, hb⟩ := exists_trimLeft cs.reverse
  refine ⟨front.reverse, ?_, by simpa using hb⟩
  rw [trimRight, ← List.reverse_append, ← h, List.reverse_reverse]

theorem exists_trim (cs : List Char) :
    ∃ front back, cs = front ++ trim cs ++ back ∧
      (∀ c ∈ front, isBlank c = true) ∧ ∀ c ∈ back, isBlank c = true := by
  obtain ⟨front, h, hf⟩ := exists_trimLeft cs
  obtain ⟨back, k, hb⟩ := exists_trimRight (trimLeft cs)
  exact ⟨front, back, by rw [List.append_assoc, trim, ← k]; exact h, hf, hb⟩

theorem getLast_trimRight {cs : List Char} {c : Char} (h : (trimRight cs).getLast? = some c) :
    isBlank c = false := by
  rw [trimRight, List.getLast?_reverse] at h
  exact head_trimLeft h

theorem getLast_trim {cs : List Char} {c : Char} (h : (trim cs).getLast? = some c) :
    isBlank c = false :=
  getLast_trimRight h

theorem head_trim {cs : List Char} {c : Char} (h : (trim cs).head? = some c) :
    isBlank c = false := by
  obtain ⟨back, k, _⟩ := exists_trimRight (trimLeft cs)
  have hl : (trimLeft cs).head? = some c → isBlank c = false := head_trimLeft
  apply hl
  rw [k]
  unfold trim at h
  cases ht : trimRight (trimLeft cs) with
  | nil => simp [ht] at h
  | cons d ds => simpa [ht] using h

theorem trimLeft_eq_self {cs : List Char} (h : ∀ c ∈ cs.head?, isBlank c = false) :
    trimLeft cs = cs := by
  cases cs with
  | nil => rfl
  | cons c cs => exact List.dropWhile_cons_of_neg (by simp [h c rfl])

/-- Text that neither starts nor ends with a blank is trimmed already. -/
theorem trim_eq_self {cs : List Char} (hhead : ∀ c ∈ cs.head?, isBlank c = false)
    (hlast : ∀ c ∈ cs.getLast?, isBlank c = false) : trim cs = cs := by
  rw [trim, trimLeft_eq_self hhead, trimRight, trimLeft_eq_self (by simpa using hlast),
    List.reverse_reverse]

end ComponentLog.Text
