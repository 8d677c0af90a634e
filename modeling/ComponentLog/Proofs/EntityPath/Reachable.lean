import ComponentLog.Proofs.Chunk.Serialization
import ComponentLog.Proofs.EntityPath.Parsing

/-!
# Paths that are reached

`Reaches start joined` are the paths got from some first ones by going up and by joining parts.
Going up uncovers inner parts of a text that was read, whose blanks were not trimmed, so the text
of an ancestor can be read as another path (`parse_display_iff_of_reaches`). Joining takes any
text, and the parts stay segments exactly as long as the joined ones are
(`reaches_invariant_iff`).
-/

namespace ComponentLog

theorem Chunk.metadata_toRecordBatch {c : Chunk} {b : RecordBatch}
    (h : c.toRecordBatch = .ok b) : b.metadata = [("entity_path", c.path.display)] := by
  rw [(RecordBatch.ofColumns_eq_ok_iff.mp h).2]

namespace EntityPath

/-- The paths got from the first ones by dropping the last part and joining parts, any number of
times and in any order. -/
inductive Reaches (start : EntityPath → Prop) (joined : String → Prop) : EntityPath → Prop where
  | start {p : EntityPath} : start p → Reaches start joined p
  | parent {p q : EntityPath} : Reaches start joined p → p.parent? = some q →
      Reaches start joined q
  | join {p : EntityPath} {part : String} : Reaches start joined p → joined part →
      Reaches start joined (p.join part)

/-- Not empty and without a slash. -/
def Segment (part : String) : Prop := part ≠ "" ∧ '/' ∉ part.toList

/-- A segment with no blank at either end. -/
def CleanSegment (part : String) : Prop :=
  Segment part ∧ (∀ c ∈ part.toList.head?, Text.isBlank c = false) ∧
    ∀ c ∈ part.toList.getLast?, Text.isBlank c = false

/-- The root and the paths that are read. -/
def Given (p : EntityPath) : Prop := p = root ∨ ∃ text, parse text = .ok p

variable {start : EntityPath → Prop} {joined : String → Prop} {p q : EntityPath}

theorem parent?_eq_some_iff : p.parent? = some q ↔ ∃ part, p = q.join part := by
  obtain ⟨parts⟩ := p
  obtain ⟨above⟩ := q
  rcases List.eq_nil_or_concat parts with rfl | ⟨front, last, rfl⟩
  · simp [parent?, join]
  · simp [parent?, join]

theorem segmented_join {part : String} :
    (p.join part).Segmented ↔ p.Segmented ∧ Segment part := by
  unfold Segmented join
  rw [List.forall_mem_append, List.forall_mem_singleton]
  rfl

/-! ## Segments -/

/-- Going up keeps segments, and joining one does. -/
theorem Reaches.segmented (hstart : ∀ p, start p → p.Segmented)
    (hjoined : ∀ part, joined part → Segment part) (h : Reaches start joined p) :
    p.Segmented := by
  induction h with
  | start hp => exact hstart _ hp
  | parent _ hparent ih =>
    obtain ⟨part, rfl⟩ := parent?_eq_some_iff.mp hparent
    exact (segmented_join.mp ih).1
  | join _ hpart ih => exact segmented_join.mpr ⟨ih, hjoined _ hpart⟩

theorem Given.segmented (h : p.Given) : p.Segmented := by
  rcases h with rfl | ⟨text, h⟩
  · exact fun part hpart => absurd hpart List.not_mem_nil
  · exact (parse_eq_ok_iff.mp h).2.1

/-! ## Texts of ancestors -/

/-- What is left of the path gone out from, and then parts that were joined. -/
theorem Reaches.exists_parts (h : Reaches (· = p) joined q) :
    ∃ front back, q.parts = front ++ back ∧ front <+: p.parts ∧ ∀ part ∈ back, joined part := by
  induction h with
  | start hp =>
    exact ⟨_, [], (List.append_nil _).symm, hp ▸ List.prefix_rfl, by simp⟩
  | parent _ hparent ih =>
    obtain ⟨part, rfl⟩ := parent?_eq_some_iff.mp hparent
    obtain ⟨front, back, hparts, hfront, hback⟩ := ih
    rcases List.eq_nil_or_concat back with rfl | ⟨back, last, rfl⟩
    · -- nothing joined is left, so a part of the first path goes
      rw [List.append_nil] at hparts
      refine ⟨_, [], (List.append_nil _).symm, ?_, by simp⟩
      exact (List.prefix_append _ _).trans (hparts ▸ hfront)
    · rw [List.concat_eq_append, ← List.append_assoc] at hparts
      obtain ⟨hparts, -⟩ := List.append_inj' hparts rfl
      exact ⟨front, back, hparts, hfront, fun part hpart => hback part (by simp [hpart])⟩
  | @join r part _ hpart ih =>
    obtain ⟨front, back, hparts, hfront, hback⟩ := ih
    refine ⟨front, back ++ [part], ?_, hfront, ?_⟩
    · rw [EntityPath.join, hparts, List.append_assoc]
    · rw [List.forall_mem_append, List.forall_mem_singleton]
      exact ⟨hback, hpart⟩

/-- Paths got from one that was read by going up and joining clean segments are read from their
texts unless they end in a blank. Only proper ancestors of the first path can. -/
theorem parse_display_iff_of_reaches {text : String} (hp : parse text = .ok p)
    (hq : Reaches (· = p) CleanSegment q) :
    (parse q.display = .ok q ↔ q.NoBlankEnd) ∧
      (¬ q.NoBlankEnd → ∃ part rest, p.parts = q.parts ++ part :: rest) := by
  obtain ⟨hsegmented, hend⟩ := exists_text_iff.mp ⟨text, hp⟩
  have hq' : q.Segmented :=
    hq.segmented (by rintro _ rfl; exact hsegmented) fun part hpart => hpart.1
  refine ⟨⟨fun h => (exists_text_iff.mp ⟨_, h⟩).2, parse_display hq'⟩, fun hblank => ?_⟩
  obtain ⟨front, back, hparts, ⟨rest, hrest⟩, hback⟩ := hq.exists_parts
  rcases List.eq_nil_or_concat back with rfl | ⟨back, last, rfl⟩
  · rw [List.append_nil] at hparts
    subst hparts
    cases rest with
    | cons part rest => exact ⟨part, rest, hrest.symm⟩
    | nil =>
      rw [List.append_nil] at hrest
      refine absurd (fun part hpart => hend part ?_) hblank
      rwa [← hrest]
  · -- the last part was joined, and is clean
    refine absurd (fun part hpart => ?_) hblank
    rw [hparts, List.concat_eq_append, ← List.append_assoc, List.getLast?_concat] at hpart
    cases hpart
    exact (hback last (by simp)).2.2

/-- The parent of a path that was read ends in the blank of an inner segment. -/
theorem parse_display_blankEnd :
    parse "a /b" = .ok ⟨["a ", "b"]⟩ ∧ Reaches (· = ⟨["a ", "b"]⟩) CleanSegment ⟨["a "]⟩ ∧
      parse (display ⟨["a "]⟩) = .ok ⟨["a"]⟩ ∧ parse (display ⟨["a "]⟩) ≠ .ok ⟨["a "]⟩ := by
  have hread : parse (display ⟨["a "]⟩) = .ok ⟨["a"]⟩ := rfl
  refine ⟨rfl, .parent (.start rfl) rfl, hread, ?_⟩
  rw [hread]
  decide

/-- A clean segment below the blank shields it. -/
theorem parse_display_iff_of_reaches_shielded :
    parse "a /b" = .ok ⟨["a ", "b"]⟩ ∧ Reaches (· = ⟨["a ", "b"]⟩) CleanSegment ⟨["a ", "c"]⟩ ∧
      parse (display ⟨["a ", "c"]⟩) = .ok ⟨["a ", "c"]⟩ := by
  have hread : parse "a /b" = .ok ⟨["a ", "b"]⟩ := rfl
  have hclean : CleanSegment "c" := by
    refine ⟨by simp [Segment], ?_, ?_⟩ <;> rintro _ ⟨⟩ <;> rfl
  have hparent : Reaches (· = ⟨["a ", "b"]⟩) CleanSegment ⟨["a "]⟩ := .parent (.start rfl) rfl
  have hreach : Reaches (· = ⟨["a ", "b"]⟩) CleanSegment ⟨["a ", "c"]⟩ := hparent.join hclean
  refine ⟨hread, hreach, (parse_display_iff_of_reaches hread hreach).1.mpr ?_⟩
  rintro _ ⟨⟩ _ ⟨⟩
  rfl

/-! ## Paths as names -/

/-- Paths got by going up and by joining parts have segments for parts, are told apart by their
texts and are named by the metadata of their record batches, exactly as long as what is joined
is a segment. -/
theorem reaches_invariant_iff (joined : String → Prop) :
    ((∀ p, Reaches Given joined p → ∀ part ∈ p.parts, part ≠ "" ∧ '/' ∉ part.toList) ∧
      (∀ p q, Reaches Given joined p → Reaches Given joined q → p.display = q.display → p = q) ∧
      ∀ (c d : Chunk) (a b : RecordBatch), Reaches Given joined c.path →
        Reaches Given joined d.path → c.toRecordBatch = .ok a → d.toRecordBatch = .ok b →
        a.metadata = b.metadata → c.path = d.path) ↔
    ∀ part, joined part → Segment part := by
  constructor
  · rintro ⟨hsegmented, -, -⟩ part hpart
    have hroot : Reaches Given joined (root.join part) := .join (.start (.inl rfl)) hpart
    exact hsegmented _ hroot part (List.mem_append_right _ List.mem_cons_self)
  · intro hjoined
    have hsegmented : ∀ p, Reaches Given joined p → p.Segmented :=
      fun p hp => hp.segmented (fun _ => Given.segmented) hjoined
    refine ⟨hsegmented, fun p q hp hq => (hsegmented p hp).display_inj (hsegmented q hq), ?_⟩
    intro c d a b hc hd ha hb hmetadata
    rw [Chunk.metadata_toRecordBatch ha, Chunk.metadata_toRecordBatch hb] at hmetadata
    have hdisplay : c.path.display = d.path.display := by simpa using hmetadata
    exact (hsegmented _ hc).display_inj (hsegmented _ hd) hdisplay

/-- A joined part with a slash in it gives the text of another path. -/
theorem display_join_slash :
    Reaches Given (fun _ => True) ⟨["a", "b/c"]⟩ ∧ Reaches Given (fun _ => True) ⟨["a", "b", "c"]⟩ ∧
      display ⟨["a", "b/c"]⟩ = display ⟨["a", "b", "c"]⟩ ∧
      ¬ ∀ part ∈ ["a", "b/c"], part ≠ "" ∧ '/' ∉ part.toList := by
  have hfirst : Given ⟨["a"]⟩ := .inr ⟨"a", rfl⟩
  have hread : Given ⟨["a", "b", "c"]⟩ := .inr ⟨"a/b/c", rfl⟩
  exact ⟨(Reaches.start hfirst).join trivial, .start hread, rfl, by decide⟩

end EntityPath

end ComponentLog
