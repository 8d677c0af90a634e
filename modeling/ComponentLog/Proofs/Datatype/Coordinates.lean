import ComponentLog.Proofs.Datatype.DirectionNames
import ComponentLog.Proofs.Datatype.Grouping
import ComponentLog.Proofs.Datatype.RoundTrip

/-!
# Coordinates from names and from codes

Names are read as a whole, codes one by one. What is read from names has its directions on three
different axes; from codes any three directions are read, also two on one axis, and these have no
name (`readFrom_exact`).
-/

namespace ComponentLog

open Value ViewDirection

theorem ViewDirection.ofCode?_eq_some_iff {c : UInt8} {d : ViewDirection} :
    ofCode? c = some d ↔ d.code = c := by
  constructor
  · intro h
    unfold ofCode? at h
    split at h <;> cases h <;> rfl
  · rintro rfl
    exact ofCode?_code d

namespace ViewCoordinates

/-- Three directions, on whichever axes. -/
def Directed (v : ViewCoordinates) : Prop := ∃ x y z, v = new x y z

/-- Three directions on three different axes. -/
def OnThreeAxes (v : ViewCoordinates) : Prop :=
  ∃ x y z, v = new x y z ∧ x.axis ≠ y.axis ∧ y.axis ≠ z.axis ∧ x.axis ≠ z.axis

/-- How coordinates are written in input. -/
inductive InputForm where
  | names
  | codes
  deriving DecidableEq, Repr

/-- A text is a name, and a list that begins with one holds names. -/
def formOf : Value → InputForm
  | .str _ => .names
  | .list (.str _ :: _) => .names
  | _ => .codes

/-- The coordinates are read from input of the form, alone or among others. -/
def ReadFrom (form : InputForm) (v : ViewCoordinates) : Prop :=
  ∃ input vs, formOf input = form ∧ ofInput input = .ok vs ∧ v ∈ vs

variable {input w : Value} {v : ViewCoordinates} {vs : List ViewCoordinates} {c : UInt8}

/-! ## Directions -/

theorem OnThreeAxes.directed (h : v.OnThreeAxes) : v.Directed := by
  obtain ⟨x, y, z, rfl, -⟩ := h
  exact ⟨x, y, z, rfl⟩

theorem directions?_new (x y z : ViewDirection) : (new x y z).directions? = some [x, y, z] := by
  simp [directions?, new, ofCode?_code]

/-- Codes of directions make coordinates of directions. -/
theorem directed_of_codes (h : ∀ c ∈ v.codes.toList, ∃ d : ViewDirection, d.code = c) :
    v.Directed := by
  have hcode : ∀ (i : Nat) (hi : i < 3), ∃ d : ViewDirection, d.code = v.codes[i] :=
    fun i hi => h _ (by simp)
  obtain ⟨x, hx⟩ := hcode 0 (by decide)
  obtain ⟨y, hy⟩ := hcode 1 (by decide)
  obtain ⟨z, hz⟩ := hcode 2 (by decide)
  refine ⟨x, y, z, ?_⟩
  obtain ⟨codes⟩ := v
  congr 1
  apply Vector.ext
  intro i hi
  rcases (show i = 0 ∨ i = 1 ∨ i = 2 by omega) with rfl | rfl | rfl
  · exact hx.symm
  · exact hy.symm
  · exact hz.symm

theorem Directed.readable (h : v.Directed) : Datatype.Readable .viewCoordinates v := by
  have hcode : ∀ d : ViewDirection, 1 ≤ d.code ∧ d.code ≤ 6 := by
    intro d
    cases d <;> decide
  obtain ⟨x, y, z, rfl⟩ := h
  show ∀ c ∈ [x.code, y.code, z.code], 1 ≤ c ∧ c ≤ 6
  simp [hcode]

/-- Letters name coordinates exactly where the directions are on three axes. -/
theorem parse_letters_iff : parse v.letters = .ok v ↔ v.OnThreeAxes := by
  constructor
  · intro h
    exact (parse_eq_ok_iff.1 h).exists_directions
  · rintro ⟨x, y, z, rfl, hxy, hyz, hxz⟩
    exact parse_eq_ok_iff.2 (names_letters hxy hyz hxz)

/-! ## What is read -/

theorem exists_direction_of_leafCode (h : leafCode w = .ok c) :
    ∃ d : ViewDirection, d.code = c := by
  obtain ⟨code, -, h⟩ := bind_eq_ok_iff.1 h
  split at h
  · rename_i d hd
    cases h
    exact ⟨d, ofCode?_eq_some_iff.1 hd⟩
  · cases h

theorem ofInput_of_codes (h : formOf input = .codes) :
    ofInput input = (groupValues 3 name leafCode input).map (·.map mk) := by
  unfold ofInput
  split
  · cases h
  · cases h
  · rfl

/-- Each leaf is checked by itself, so the directions may share an axis. -/
theorem directed_of_ofInput (hform : formOf input = .codes) (h : ofInput input = .ok vs)
    (hv : v ∈ vs) : v.Directed := by
  rw [ofInput_of_codes hform] at h
  obtain ⟨gs, hgs, rfl⟩ := map_eq_ok_iff.1 h
  obtain ⟨g, hg, rfl⟩ := List.mem_map.1 hv
  apply directed_of_codes
  intro c hc
  have hmem : c ∈ ungroup gs := List.mem_flatMap.2 ⟨g, hg, hc⟩
  obtain ⟨w, -, hw⟩ := exists_of_mem_forall₂ (forall₂_ungroup (by decide) hgs) hmem
  exact exists_direction_of_leafCode hw

theorem onThreeAxes_of_ofName (h : ofName w = .ok v) : v.OnThreeAxes := by
  obtain ⟨text, rfl⟩ := Datatype.exists_text_of_ofName h
  exact (parse_eq_ok_iff.1 h).exists_directions

theorem onThreeAxes_of_ofInput (hform : formOf input = .names) (h : ofInput input = .ok vs)
    (hv : v ∈ vs) : v.OnThreeAxes := by
  unfold ofInput at h
  split at h
  · obtain ⟨u, hu, rfl⟩ := map_eq_ok_iff.1 h
    obtain rfl := List.mem_singleton.1 hv
    exact (parse_eq_ok_iff.1 hu).exists_directions
  · obtain ⟨w, -, hw⟩ := exists_of_mem_forall₂ (mapM_eq_ok_iff.1 h) hv
    exact onThreeAxes_of_ofName hw
  · rename_i hstr hlist
    unfold formOf at hform
    split at hform
    · exact absurd rfl (hstr _)
    · exact absurd rfl (hlist _ _)
    · cases hform

/-- Names are read as coordinates on three axes and as all of these; codes are read as any three
directions. Coordinates have directions and a name exactly where these are on three axes. -/
theorem readFrom_exact (v : ViewCoordinates) :
    (ReadFrom .names v ↔ v.OnThreeAxes) ∧ (ReadFrom .codes v ↔ v.Directed) ∧
    (v.OnThreeAxes ↔ (∃ ds, v.directions? = some ds) ∧ parse v.letters = .ok v) := by
  refine ⟨⟨?_, fun h => ?_⟩, ⟨?_, fun h => ?_⟩, fun h => ⟨?_, parse_letters_iff.2 h⟩,
    fun h => parse_letters_iff.1 h.2⟩
  · rintro ⟨input, vs, hform, h, hv⟩
    exact onThreeAxes_of_ofInput hform h hv
  · refine ⟨.str v.letters, [v], rfl, ?_, List.mem_singleton_self v⟩
    rw [ofInput, parse_letters_iff.2 h]
    rfl
  · rintro ⟨input, vs, hform, h, hv⟩
    exact directed_of_ofInput hform h hv
  · have hread : ofInput v.toValue = .ok [v] :=
      Datatype.readsBack_viewCoordinates.ofInput_toValue h.readable
    obtain ⟨x, y, z, rfl⟩ := h
    exact ⟨_, _, rfl, hread, List.mem_singleton_self _⟩
  · obtain ⟨x, y, z, rfl⟩ := h.directed
    exact ⟨_, directions?_new x y z⟩

/-- Right and left lie on one axis. The codes are read, the letters are not. -/
theorem readFrom_sharedAxis :
    ofInput (.list [.int 3, .int 4, .int 5]) = .ok [new right left forward] ∧
    (new right left forward).letters = "RLF" ∧
    ofInput (.str "RLF") = .error (.unknownVariant name "RLF") ∧
    ¬ (new right left forward).OnThreeAxes := by
  have hletters : (new right left forward).letters = "RLF" := letters_new right left forward
  have hread : parse "RLF" = .error (.unknownVariant name "RLF") := by decide
  refine ⟨rfl, hletters, ?_, fun h => ?_⟩
  · rw [ofInput, hread]
    rfl
  · rw [← parse_letters_iff, hletters, hread] at h
    cases h

end ViewCoordinates

end ComponentLog
