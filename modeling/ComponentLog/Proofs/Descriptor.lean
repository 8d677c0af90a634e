import ComponentLog.Descriptor
import Mathlib.Data.List.TakeWhile

/-!
# Names of fields

The name of a field is not kept: it is joined to the last part of the archetype's name, and read
back as what follows the first colon. It comes back whole where that last part has no colon,
whatever the field is called, and the display text then is the archetype's name, a colon and the
field. For archetypes without a colon this text names one field of one archetype
(`ofField_exact`).
-/

namespace ComponentLog.ComponentDescriptor

/-- What follows the last occurrence of a character, or the whole text if it does not occur. -/
def IsAfterLast (c : Char) (text rest : List Char) : Prop :=
  c ∉ rest ∧ (text = rest ∨ ∃ front, text = front ++ c :: rest)

variable {c : Char} {text front rest : List Char}

/-! ## Text around a character -/

theorem takeWhile_ne_of_not_mem (h : c ∉ front) : front.takeWhile (· ≠ c) = front := by
  rw [List.takeWhile_eq_self_iff]
  intro d hd
  exact decide_eq_true fun hdc => h (hdc ▸ hd)

/-- The text up to the first occurrence of the character. -/
theorem takeWhile_ne_append (h : c ∉ front) (rest : List Char) :
    (front ++ c :: rest).takeWhile (· ≠ c) = front := by
  rw [List.takeWhile_append, takeWhile_ne_of_not_mem h, if_pos rfl,
    List.takeWhile_cons_of_neg (by simp), List.append_nil]

theorem afterFirst_append (h : c ∉ front) (rest : List Char) :
    afterFirst c (front ++ c :: rest) = rest := by
  have hdrop : (front ++ c :: rest).dropWhile (· ≠ c) = c :: rest := by
    have hsplit := List.takeWhile_append_dropWhile (p := (· ≠ c)) (l := front ++ c :: rest)
    rw [takeWhile_ne_append h] at hsplit
    exact List.append_cancel_left hsplit
  rw [afterFirst, hdrop]

theorem exists_isAfterLast (c : Char) (text : List Char) : ∃ rest, IsAfterLast c text rest := by
  by_cases h : c ∈ text
  · obtain ⟨rest, front, hsplit, hrest⟩ := List.eq_append_cons_of_mem (List.mem_reverse.2 h)
    refine ⟨rest.reverse, by simpa using hrest, .inr ⟨front.reverse, ?_⟩⟩
    simpa using congrArg List.reverse hsplit
  · exact ⟨text, h, .inl rfl⟩

theorem IsAfterLast.afterLast_eq (h : IsAfterLast c text rest) : afterLast c text = rest := by
  unfold afterLast
  obtain ⟨hrest, rfl | ⟨front, rfl⟩⟩ := h
  · rw [takeWhile_ne_of_not_mem (by simpa using hrest), List.reverse_reverse]
  · rw [List.reverse_append, List.reverse_cons, List.append_assoc, List.singleton_append,
      takeWhile_ne_append (by simpa using hrest), List.reverse_reverse]

theorem afterLast_eq_iff : afterLast c text = rest ↔ IsAfterLast c text rest := by
  constructor
  · rintro rfl
    obtain ⟨rest, h⟩ := exists_isAfterLast c text
    rwa [h.afterLast_eq]
  · exact IsAfterLast.afterLast_eq

theorem IsAfterLast.subset (h : IsAfterLast c text rest) : rest ⊆ text := by
  obtain ⟨-, rfl | ⟨front, rfl⟩⟩ := h
  · exact List.Subset.refl _
  · exact List.subset_append_of_subset_right _ (List.subset_cons_self _ _)

/-! ## Fields -/

variable {archetype short field : String}

theorem shortName_eq_iff :
    shortName archetype = short ↔ IsAfterLast '.' archetype.toList short.toList := by
  rw [← afterLast_eq_iff, shortName, ← String.toList_inj, String.toList_ofList]

/-- The field's name comes back where the last part of the archetype's name has no colon. -/
theorem fieldName_ofField (h : ':' ∉ (shortName archetype).toList) (field componentType : String) :
    (ofField archetype field componentType).fieldName = field := by
  have hname : (shortName archetype ++ ":" ++ field).toList =
      (shortName archetype).toList ++ ':' :: field.toList := by simp
  rw [fieldName, ofField, hname, afterFirst_append h, String.ofList_toList]

theorem display_ofField (h : ':' ∉ (shortName archetype).toList) (field componentType : String) :
    (ofField archetype field componentType).display = archetype ++ ":" ++ field := by
  show archetype ++ ":" ++ (ofField archetype field componentType).fieldName = _
  rw [fieldName_ofField h]

/-- Names joined with a colon are told apart where the first has none. -/
theorem colon_inj {first second : String} {field other : String} (hfirst : ':' ∉ first.toList)
    (hsecond : ':' ∉ second.toList) (h : first ++ ":" ++ field = second ++ ":" ++ other) :
    first = second ∧ field = other := by
  have htext : first.toList ++ ':' :: field.toList = second.toList ++ ':' :: other.toList := by
    simpa using congrArg String.toList h
  have hfront := congrArg (List.takeWhile (· ≠ ':')) htext
  have hrest := congrArg (afterFirst ':') htext
  rw [takeWhile_ne_append hfirst, takeWhile_ne_append hsecond] at hfront
  rw [afterFirst_append hfirst, afterFirst_append hsecond] at hrest
  exact ⟨String.toList_inj.1 hfront, String.toList_inj.1 hrest⟩

/-- A field of an archetype whose last part has no colon is displayed as the archetype and the
field, and its component is the last part and the field. Where the archetype has no colon at all,
the display text tells both. -/
theorem ofField_exact :
    (∀ archetype short field componentType : String,
      IsAfterLast '.' archetype.toList short.toList → ':' ∉ short.toList →
        (ofField archetype field componentType).display = archetype ++ ":" ++ field ∧
        (ofField archetype field componentType).component = short ++ ":" ++ field) ∧
    ∀ archetype other field otherField componentType otherType : String,
      ':' ∉ archetype.toList → ':' ∉ other.toList →
        (ofField archetype field componentType).display =
          (ofField other otherField otherType).display →
        archetype = other ∧ field = otherField := by
  refine ⟨fun archetype short field componentType hshort hcolon => ?_,
    fun archetype other field otherField componentType otherType hcolon hother h => ?_⟩
  · obtain rfl := shortName_eq_iff.2 hshort
    exact ⟨display_ofField hcolon field componentType, rfl⟩
  · have hshort : ∀ {name : String}, ':' ∉ name.toList → ':' ∉ (shortName name).toList :=
      fun hname hmem => hname ((shortName_eq_iff.1 rfl).subset hmem)
    rw [display_ofField (hshort hcolon), display_ofField (hshort hother)] at h
    exact colon_inj hcolon hother h

/-- A field with a colon and a point in its name, and fields that differ before a colon. -/
theorem ofField_exact_separators :
    IsAfterLast '.' "log.View".toList "View".toList ∧
    (ofField "log.View" "a:b.c" "Name").display = "log.View:a:b.c" ∧
    (ofField "log.View" "a:b.c" "Name").component = "View:a:b.c" ∧
    (ofField "log.View" "a:b" "Name").display ≠ (ofField "log.View" "b" "Name").display := by
  have hshort : IsAfterLast '.' "log.View".toList "View".toList :=
    ⟨by decide, .inr ⟨"log".toList, by decide⟩⟩
  obtain ⟨hdisplay, hcomponent⟩ :=
    ofField_exact.1 "log.View" "View" "a:b.c" "Name" hshort (by decide)
  refine ⟨hshort, hdisplay, hcomponent, fun h => ?_⟩
  have hcolon : ':' ∉ "log.View".toList := by decide
  have hsame := ofField_exact.2 "log.View" "log.View" "a:b" "b" "Name" "Name" hcolon hcolon h
  exact absurd hsame.2 (by decide)

end ComponentLog.ComponentDescriptor
