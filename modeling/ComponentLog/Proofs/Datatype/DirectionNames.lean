import ComponentLog.Datatype.ViewCoordinates

/-!
# Names of view coordinates

Which texts name view coordinates, and which ones (`ViewCoordinates.Names`): a preset, or three
letters of directions on three different axes. The letters of whatever was read are a name of it
again (`parse_letters`).
-/

namespace ComponentLog

open ViewDirection

namespace ViewDirection

/-- A direction is read from its letter in either case, and from nothing else. -/
theorem ofLetter?_eq_some_iff {c : Char} {d : ViewDirection} :
    ofLetter? c = some d ↔ c.toUpper = d.letter := by
  unfold ofLetter?
  constructor
  · intro h
    split at h <;> cases h <;> assumption
  · intro h
    rw [h]
    cases d <;> rfl

theorem mapM_ofLetter?_eq_some_iff {cs : List Char} {ds : List ViewDirection} :
    cs.mapM ofLetter? = some ds ↔ cs.map Char.toUpper = ds.map letter := by
  induction cs generalizing ds with
  | nil => cases ds <;> simp
  | cons c cs ih =>
    rw [List.mapM_cons, Option.bind_eq_bind, Option.bind_eq_some_iff]
    constructor
    · rintro ⟨d, hd, h⟩
      obtain ⟨rest, hrest, h⟩ := Option.bind_eq_some_iff.1 h
      cases h
      rw [List.map_cons, List.map_cons, ofLetter?_eq_some_iff.1 hd, ih.1 hrest]
    · intro h
      cases ds with
      | nil => cases h
      | cons d ds =>
        obtain ⟨hd, hrest⟩ := List.cons.inj h
        exact ⟨d, ofLetter?_eq_some_iff.2 hd, Option.bind_eq_some_iff.2 ⟨ds, ih.2 hrest, rfl⟩⟩

end ViewDirection

namespace ViewCoordinates

/-- The text names the coordinates, in any mixture of ASCII cases. -/
inductive Names : String → ViewCoordinates → Prop where
  | preset {s : String} {p : String × ViewCoordinates} (hp : p ∈ presets)
    (h : Text.equalIgnoringCase p.1 s = true) : Names s p.2
  | letters {s : String} {x y z : ViewDirection}
    (h : s.toList.map Char.toUpper = [x.letter, y.letter, z.letter])
    (hxy : x.axis ≠ y.axis) (hyz : y.axis ≠ z.axis) (hxz : x.axis ≠ z.axis) :
    Names s (new x y z)

variable {s : String} {v : ViewCoordinates}

/-! ## Presets -/

/-- No two presets have one name. -/
theorem preset_eq {p q : String × ViewCoordinates} (hp : p ∈ presets) (hq : q ∈ presets)
    (h : Text.equalIgnoringCase p.1 q.1 = true) : p = q := by
  have hall : ∀ p ∈ presets, ∀ q ∈ presets,
      Text.equalIgnoringCase p.1 q.1 = true → p = q := by decide
  exact hall p hp q hq h

theorem find?_presets_eq_some_iff {p : String × ViewCoordinates} :
    (presets.find? fun q => Text.equalIgnoringCase q.1 s) = some p ↔
      p ∈ presets ∧ Text.equalIgnoringCase p.1 s = true := by
  constructor
  · intro h
    have heq := List.find?_some h
    exact ⟨List.mem_of_find?_eq_some h, heq⟩
  · rintro ⟨hp, hps⟩
    obtain ⟨q, hq⟩ : ∃ q, (presets.find? fun q => Text.equalIgnoringCase q.1 s) = some q :=
      Option.isSome_iff_exists.1 (List.find?_isSome.2 ⟨p, hp, hps⟩)
    have hqs := List.find?_some hq
    rw [hq, preset_eq (List.mem_of_find?_eq_some hq) hp]
    rw [Text.equalIgnoringCase_iff] at hps hqs ⊢
    exact hqs.trans hps.symm

/-- A preset is not named by three letters. -/
theorem find?_presets_eq_none (h : s.toList.length = 3) :
    (presets.find? fun q => Text.equalIgnoringCase q.1 s) = none := by
  rw [List.find?_eq_none]
  intro p hp hps
  have hlen := congrArg List.length (Text.equalIgnoringCase_iff.1 hps)
  have hall : ∀ p ∈ presets, p.1.toList.length ≠ 3 := by decide
  rw [List.length_map, List.length_map, h] at hlen
  exact hall p hp hlen

/-! ## Three letters -/

theorem ofDirections?_eq_some_iff {ds : List ViewDirection} :
    ofDirections? ds = some v ↔ ∃ x y z, ds = [x, y, z] ∧ x.axis ≠ y.axis ∧ y.axis ≠ z.axis ∧
      x.axis ≠ z.axis ∧ v = new x y z := by
  constructor
  · intro h
    unfold ofDirections? at h
    split at h
    · rename_i x y z
      split at h
      · cases h
      · rename_i haxes
        simp only [not_or] at haxes
        exact ⟨x, y, z, rfl, haxes.1, haxes.2.1, haxes.2.2, (Option.some.inj h).symm⟩
    · cases h
  · rintro ⟨x, y, z, rfl, hxy, hyz, hxz, rfl⟩
    simp [ofDirections?, hxy, hyz, hxz]

/-- The letters of three directions. -/
theorem letters_new (x y z : ViewDirection) :
    (new x y z).letters = String.ofList [x.letter, y.letter, z.letter] := by
  simp [letters, directions?, new, ofCode?_code]

/-! ## Reading -/

theorem parse?_eq_some_iff : parse? s = some v ↔ Names s v := by
  unfold parse?
  constructor
  · intro h
    split at h
    · rename_i p hp
      obtain ⟨hmem, heq⟩ := find?_presets_eq_some_iff.1 hp
      cases h
      exact .preset hmem heq
    · obtain ⟨ds, hds, h⟩ := Option.bind_eq_some_iff.1 h
      obtain ⟨x, y, z, rfl, hxy, hyz, hxz, rfl⟩ := ofDirections?_eq_some_iff.1 h
      exact .letters (mapM_ofLetter?_eq_some_iff.1 hds) hxy hyz hxz
  · intro h
    cases h with
    | preset hp h => rw [find?_presets_eq_some_iff.2 ⟨hp, h⟩]
    | @letters x y z h hxy hyz hxz =>
      have hlen : s.toList.length = 3 := by simpa using congrArg List.length h
      have hds : s.toList.mapM ofLetter? = some [x, y, z] := mapM_ofLetter?_eq_some_iff.2 h
      rw [find?_presets_eq_none hlen, hds]
      exact ofDirections?_eq_some_iff.2 ⟨x, y, z, rfl, hxy, hyz, hxz, rfl⟩

theorem parse_eq_ok_iff : parse s = .ok v ↔ Names s v := by
  rw [← parse?_eq_some_iff]
  unfold parse
  cases parse? s <;> simp

theorem parse_eq_error_iff {e : ConversionError} :
    parse s = .error e ↔ (¬ ∃ v, Names s v) ∧ e = .unknownVariant name s := by
  simp only [← parse?_eq_some_iff]
  unfold parse
  cases parse? s <;> simp [eq_comm]

/-- Whatever is named has three directions on three axes. -/
theorem Names.exists_directions (h : Names s v) : ∃ x y z, v = new x y z ∧
    x.axis ≠ y.axis ∧ y.axis ≠ z.axis ∧ x.axis ≠ z.axis := by
  cases h with
  | letters _ hxy hyz hxz => exact ⟨_, _, _, rfl, hxy, hyz, hxz⟩
  | preset hp =>
    have hall : ∀ p ∈ presets, ∃ x y z, p.2 = new x y z ∧
        x.axis ≠ y.axis ∧ y.axis ≠ z.axis ∧ x.axis ≠ z.axis := by
      simp only [presets, List.forall_mem_cons]
      exact ⟨⟨_, _, _, rfl, by decide⟩, ⟨_, _, _, rfl, by decide⟩, ⟨_, _, _, rfl, by decide⟩,
        by simp⟩
    exact hall _ hp

theorem toUpper_letter (d : ViewDirection) : d.letter.toUpper = d.letter := by
  cases d <;> rfl

/-- The letters of coordinates on three axes are a name of them. -/
theorem names_letters {x y z : ViewDirection} (hxy : x.axis ≠ y.axis) (hyz : y.axis ≠ z.axis)
    (hxz : x.axis ≠ z.axis) : Names (new x y z).letters (new x y z) := by
  refine .letters ?_ hxy hyz hxz
  rw [letters_new, String.toList_ofList]
  simp [toUpper_letter]

/-- Which texts are read, as what, and that the letters of what was read give it back. -/
theorem parse_names (s : String) :
    (∀ v, parse s = .ok v ↔ Names s v) ∧
    (∀ x y z, s.toList.map Char.toUpper = [x.letter, y.letter, z.letter] →
      (new x y z).letters = s.toUpper) ∧
    (∀ v, parse s = .ok v → parse v.letters = .ok v) ∧
    ∀ e, parse s = .error e ↔ (¬ ∃ v, Names s v) ∧ e = .unknownVariant name s := by
  refine ⟨fun _ => parse_eq_ok_iff, fun x y z h => ?_, fun v h => ?_, fun _ => parse_eq_error_iff⟩
  · rw [letters_new, ← h, ← String.toList_map, String.ofList_toList]
    rfl
  · obtain ⟨x, y, z, rfl, hxy, hyz, hxz⟩ := (parse_eq_ok_iff.1 h).exists_directions
    exact parse_eq_ok_iff.2 (names_letters hxy hyz hxz)

theorem parse_names_mixedCase : parse "fLu" = .ok flu ∧ flu.letters = "fLu".toUpper ∧
    parse flu.letters = .ok flu := by
  obtain ⟨hread, hletters, hback, -⟩ := parse_names "fLu"
  have hflu : parse "fLu" = .ok flu :=
    (hread _).2 (.letters (by decide) (by decide) (by decide) (by decide))
  exact ⟨hflu, hletters _ _ _ (by decide), hback _ hflu⟩

end ViewCoordinates

end ComponentLog
