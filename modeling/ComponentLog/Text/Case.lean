/-! # Text up to the case of ASCII letters -/

namespace ComponentLog.Text

/-- Equality up to the case of ASCII letters; other letters must agree exactly. -/
def equalIgnoringCase (s t : String) : Bool :=
  s.toList.map Char.toUpper = t.toList.map Char.toUpper

theorem equalIgnoringCase_iff {s t : String} :
    equalIgnoringCase s t = true ↔ s.toList.map Char.toUpper = t.toList.map Char.toUpper := by
  simp [equalIgnoringCase]

end ComponentLog.Text
