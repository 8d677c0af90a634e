import ComponentLog.EntityPath

/-!
# Reading and writing entity paths

A path's text is a slash and its parts with slashes between them (`toList_display`),
and paths whose parts are segments are told apart by it (`Segmented.display_inj`).
`parse_eq_ok_iff` says what reading does: the path read is the one whose text is a
slash and the body of the text read. Which texts are read, which paths come out and
which texts give the same one all follow from that.
-/

namespace ComponentLog.EntityPath

/-! ## Splitting at slashes -/

theorem segments_ne_nil (cs : List Char) : segments cs ≠ [] := by
  cases cs with
  | nil => simp [segments]
  | cons c cs =>
    rw [segments]
    split
    · simp
    · cases segments cs <;> simp

theorem segments_cons (c : Char) (cs : List Char) :
    segments (c :: cs) =
      if c = '/' then [] :: segments cs else (segments cs).modifyHead (c :: ·) := by
  rw [segments]
  cases hs : segments cs with
  | nil => exact absurd hs (segments_ne_nil cs)
  | cons s ss => rfl

theorem segments_eq_splitOn (cs : List Char) : segments cs = cs.splitOn '/' := by
  induction cs with
  | nil => rfl
  | cons c cs ih =>
    rw [segments_cons, ih]
    simp only [List.splitOn, List.splitOnP_cons_eq_if_modifyHead, beq_iff_eq]

theorem intercalate_segments (cs : List Char) : ['/'].intercalate (segments cs) = cs := by
  rw [segments_eq_splitOn, List.intercalate_splitOn]

theorem segments_intercalate {ss : List (List Char)} (hne : ss ≠ []) (h : ∀ s ∈ ss, '/' ∉ s) :
    segments (['/'].intercalate ss) = ss := by
  rw [segments_eq_splitOn, List.splitOn_intercalate '/' h hne]

theorem not_mem_of_mem_segments {cs s : List Char} (hs : s ∈ segments cs) : '/' ∉ s := by
  induction cs generalizing s with
  | nil => simp_all [segments]
  | cons c cs ih =>
    rw [segments_cons] at hs
    obtain ⟨t, ts, hts⟩ := List.exists_cons_of_ne_nil (segments_ne_nil cs)
    rw [hts] at hs ih
    split at hs
    · rcases List.mem_cons.mp hs with rfl | hs
      · exact List.not_mem_nil
      · exact ih hs
    · rename_i hc
      rcases List.mem_cons.mp hs with rfl | hs
      · simpa [Ne.symm hc] using ih List.mem_cons_self
      · exact ih (List.mem_cons_of_mem t hs)

/-! ## The text of a path -/

/-- Every part is a segment: not empty and without a slash. -/
def Segmented (p : EntityPath) : Prop := ∀ part ∈ p.parts, part ≠ "" ∧ '/' ∉ part.toList

theorem toList_display (p : EntityPath) :
    p.display.toList = '/' :: ['/'].intercalate (p.parts.map String.toList) := by
  obtain ⟨parts⟩ := p
  cases parts with
  | nil => rfl
  | cons part parts =>
    simp only [display, List.isEmpty_cons, Bool.false_eq_true, if_false, String.toList_join]
    induction parts generalizing part with
    | nil => simp [List.intercalate]
    | cons next parts ih =>
      rw [List.map_cons, List.flatMap_cons, ih]
      simp [List.intercalate_cons_cons]

/-! ## Paths and bodies -/

/-- The text read when blanks around it and a slash in front of it are gone. -/
def body (text : String) : List Char := dropSlash (Text.trim text.toList)

/-- Empty, for the root, or without an empty segment. -/
def Readable (cs : List Char) : Prop := cs = [] ∨ [] ∉ cs.splitOn '/'

instance (cs : List Char) : Decidable (Readable cs) :=
  inferInstanceAs (Decidable (_ ∨ _))

def ofBody (cs : List Char) : EntityPath :=
  if cs = [] then root else ⟨(segments cs).map String.ofList⟩

theorem toList_display_ofBody (cs : List Char) : (ofBody cs).display.toList = '/' :: cs := by
  unfold ofBody
  split
  · rename_i hcs
    rw [hcs]
    rfl
  · rw [toList_display, List.map_map]
    simp [Function.comp_def, intercalate_segments]

theorem segmented_ofBody {cs : List Char} : (ofBody cs).Segmented ↔ Readable cs := by
  unfold ofBody Readable
  split
  · rename_i hcs
    simp [hcs, Segmented, root]
  · rename_i hcs
    rw [← segments_eq_splitOn]
    simp only [Segmented, List.forall_mem_map, String.toList_ofList, hcs, false_or]
    constructor
    · intro h hnil
      exact (h [] hnil).1 rfl
    · intro h s hs
      refine ⟨fun hempty => h ?_, not_mem_of_mem_segments hs⟩
      obtain rfl : s = [] := by simpa using congrArg String.toList hempty
      exact hs

/-- A path with segments for parts is read off the body of its text. -/
theorem ofBody_display {p : EntityPath} (h : p.Segmented) : ofBody p.display.toList.tail = p := by
  rw [toList_display, List.tail_cons]
  obtain ⟨parts⟩ := p
  by_cases hroot : parts = []
  · rw [hroot]
    rfl
  have hsegments : segments (['/'].intercalate (parts.map String.toList)) =
      parts.map String.toList :=
    segments_intercalate (by simpa using hroot) (by simpa using fun part hp => (h part hp).2)
  -- parts that are not empty leave some text
  have hne : ['/'].intercalate (parts.map String.toList) ≠ [] := by
    intro hnil
    rw [hnil] at hsegments
    have hmem : [] ∈ parts.map String.toList := hsegments ▸ List.mem_singleton_self []
    obtain ⟨part, hpart, hempty⟩ := List.mem_map.mp hmem
    exact (h part hpart).1 (String.toList_eq_nil_iff.mp hempty)
  rw [ofBody, if_neg hne, hsegments, List.map_map]
  simp [Function.comp_def]

/-- The text of a path gives the path. -/
theorem Segmented.display_inj {p q : EntityPath} (hp : p.Segmented) (hq : q.Segmented)
    (h : p.display = q.display) : p = q := by
  rw [← ofBody_display hp, h, ofBody_display hq]

/-! ## Reading -/

theorem parse_eq (text : String) :
    parse text =
      if Text.trim text.toList = [] then .error (.invalidEntityPath text .empty)
      else if Readable (body text) then .ok (ofBody (body text))
      else .error (.invalidEntityPath text .emptySegment) := by
  have hany : ∀ cs, (segments cs).any List.isEmpty = true ↔ [] ∈ cs.splitOn '/' := by
    simp [segments_eq_splitOn]
  unfold parse body Readable ofBody
  simp only [List.isEmpty_iff, hany]
  split
  · rfl
  by_cases hbody : dropSlash (Text.trim text.toList) = []
  · simp [hbody]
  · by_cases hempty : [] ∈ (dropSlash (Text.trim text.toList)).splitOn '/' <;> simp [hbody, hempty]

theorem exists_parse_iff {text : String} :
    (∃ p, parse text = .ok p) ↔ Text.trim text.toList ≠ [] ∧ Readable (body text) := by
  rw [parse_eq]
  split
  · simp_all
  · split <;> simp_all

theorem parse_eq_ok_iff {text : String} {p : EntityPath} :
    parse text = .ok p ↔
      Text.trim text.toList ≠ [] ∧ p.Segmented ∧ p.display.toList = '/' :: body text := by
  constructor
  · intro h
    obtain ⟨htrim, hbody⟩ := exists_parse_iff.mp ⟨p, h⟩
    rw [parse_eq, if_neg htrim, if_pos hbody, Except.ok.injEq] at h
    rw [← h]
    exact ⟨htrim, segmented_ofBody.mpr hbody, toList_display_ofBody _⟩
  · rintro ⟨htrim, hp, hdisplay⟩
    have hpath : ofBody (body text) = p := by
      rw [← ofBody_display hp, hdisplay, List.tail_cons]
    rw [parse_eq, if_neg htrim, if_pos (segmented_ofBody.mp (hpath ▸ hp)), hpath]

/-- The last part does not end in a blank. -/
def NoBlankEnd (p : EntityPath) : Prop :=
  ∀ part ∈ p.parts.getLast?, ∀ c ∈ part.toList.getLast?, Text.isBlank c = false

theorem getLast_display {p : EntityPath} {part : String} (hlast : p.parts.getLast? = some part)
    (hne : part ≠ "") : p.display.toList.getLast? = part.toList.getLast? := by
  obtain ⟨front, hparts⟩ := List.getLast?_eq_some_iff.mp hlast
  have hpart : part.toList ≠ [] := mt String.toList_eq_nil_iff.mp hne
  have hroot : p.parts.isEmpty = false := by simp [hparts]
  rw [display, hroot, if_neg Bool.false_ne_true, String.toList_join, hparts]
  simp [List.getLast?_append, List.getLast?_cons, List.getLast?_eq_some_getLast hpart]

theorem getLast_body {text : String} (h : body text ≠ []) :
    (body text).getLast? = (Text.trim text.toList).getLast? := by
  unfold body at h ⊢
  generalize Text.trim text.toList = cs at h ⊢
  unfold dropSlash at h ⊢
  split
  · exact (List.getLast?_cons_of_ne_nil h).symm
  · rfl

/-- A path whose parts are segments and whose last part does not end in a blank is read
from its text. -/
theorem parse_display {p : EntityPath} (h : p.Segmented) (hend : p.NoBlankEnd) :
    parse p.display = .ok p := by
  have htrim : Text.trim p.display.toList = p.display.toList := by
    refine Text.trim_eq_self ?_ ?_
    · rw [toList_display]
      rintro c ⟨⟩
      rfl
    · intro c hc
      cases hlast : p.parts.getLast? with
      | none =>
        rw [toList_display, List.getLast?_eq_none_iff.mp hlast] at hc
        obtain rfl : '/' = c := by simpa using hc
        rfl
      | some part =>
        rw [getLast_display hlast (h part (List.mem_of_getLast? hlast)).1] at hc
        exact hend part hlast c hc
  refine parse_eq_ok_iff.mpr ⟨?_, h, ?_⟩
  · rw [htrim, toList_display]
    exact List.cons_ne_nil _ _
  · rw [body, htrim, toList_display]
    rfl

/-- The paths read. -/
theorem exists_text_iff {p : EntityPath} :
    (∃ text, parse text = .ok p) ↔ p.Segmented ∧ p.NoBlankEnd := by
  constructor
  · rintro ⟨text, h⟩
    obtain ⟨htrim, hp, hdisplay⟩ := parse_eq_ok_iff.mp h
    refine ⟨hp, fun part hpart c hc => ?_⟩
    rw [Option.mem_def] at hpart hc
    rw [← getLast_display hpart (hp part (List.mem_of_getLast? hpart)).1, hdisplay] at hc
    have hbody : body text ≠ [] := by
      intro hbody
      have hroot := ofBody_display hp
      rw [hdisplay, List.tail_cons, hbody] at hroot
      simp [← hroot, ofBody, root] at hpart
    rw [List.getLast?_cons_of_ne_nil hbody, getLast_body hbody] at hc
    exact Text.getLast_trim hc
  · rintro ⟨hp, hend⟩
    exact ⟨p.display, parse_display hp hend⟩

/-- Two texts are read as one path when their bodies are the same. -/
theorem eq_iff_body_eq {s t : String} {p q : EntityPath} (hs : parse s = .ok p)
    (ht : parse t = .ok q) : p = q ↔ body s = body t := by
  obtain ⟨-, hp, hdisplay⟩ := parse_eq_ok_iff.mp hs
  obtain ⟨-, hq, hdisplay'⟩ := parse_eq_ok_iff.mp ht
  constructor
  · rintro rfl
    exact List.tail_eq_of_cons_eq (hdisplay.symm.trans hdisplay')
  · intro hbody
    refine hp.display_inj hq (String.toList_inj.mp ?_)
    rw [hdisplay, hdisplay', hbody]

/-- Which texts are read, which paths are read, that a path read is read again from its
text, and which texts are read as one path. -/
theorem parse_exact :
    (∀ text, (∃ p, parse text = .ok p) ↔
      Text.trim text.toList ≠ [] ∧ (body text = [] ∨ [] ∉ (body text).splitOn '/')) ∧
    (∀ p : EntityPath, (∃ text, parse text = .ok p) ↔
      (∀ part ∈ p.parts, part ≠ "" ∧ '/' ∉ part.toList) ∧ p.NoBlankEnd) ∧
    (∀ p text, parse text = .ok p → parse p.display = .ok p) ∧
    ∀ s t p q, parse s = .ok p → parse t = .ok q → (p = q ↔ body s = body t) := by
  refine ⟨fun _ => exists_parse_iff, fun _ => exists_text_iff, fun p text h => ?_,
    fun _ _ _ _ => eq_iff_body_eq⟩
  obtain ⟨hp, hend⟩ := exists_text_iff.mp ⟨text, h⟩
  exact parse_display hp hend

/-- Blanks around the text go; those inside it and behind the slash in front stay. -/
theorem parse_exact_blanks :
    parse " /a b/ c\t" = .ok ⟨["a b", " c"]⟩ ∧ parse "a b/ c" = .ok ⟨["a b", " c"]⟩ ∧
      body " /a b/ c\t" = body "a b/ c" ∧ parse "/a b/ c" = .ok ⟨["a b", " c"]⟩ := by
  have hs : parse " /a b/ c\t" = .ok ⟨["a b", " c"]⟩ := rfl
  have ht : parse "a b/ c" = .ok ⟨["a b", " c"]⟩ := rfl
  have hdisplay : display ⟨["a b", " c"]⟩ = "/a b/ c" := rfl
  obtain ⟨-, -, hagain, hbody⟩ := parse_exact
  exact ⟨hs, ht, (hbody _ _ _ _ hs ht).mp rfl, hdisplay ▸ hagain _ _ hs⟩

end ComponentLog.EntityPath
