import ComponentLog.Proofs.Archetype.Record
import ComponentLog.Proofs.Input.Entries

/-!
# Archetypes from documents

A document of members fills the builder in its own order and stops at the first key that names
no field; the fields convert afterwards, in the order they are declared
(`ofJson_eq`). So an unknown key comes before every failed field, and the order of the members
decides no more than which unknown key is named (`ofJson_exact`).
-/

namespace ComponentLog

/-- Nothing fails exactly where a value is null or converts. -/
theorem FieldDescriptor.not_fails_iff {f : FieldDescriptor} {v : Value} :
    (∀ cause, ¬ f.Fails (some v) cause) ↔ (v.isNull = false →
      ∃ batch, ComponentBatch.ofInput f.descriptor f.componentType v = .ok batch) := by
  unfold Fails
  cases hnull : v.isNull with
  | true => simp [outcome?_of_isUnset (show isUnset (some v) = true from hnull)]
  | false =>
    rw [outcome?_of_not_isNull hnull]
    cases ComponentBatch.ofInput f.descriptor f.componentType v <;> simp

namespace Archetype

open Value (keys)

variable {a : Archetype} {entries : List (String × Value)}

/-- The first key that names no field. -/
def unknownKey? (a : Archetype) (entries : List (String × Value)) : Option String :=
  (keys entries).find? fun key => (a.fieldIndex? key).isNone

theorem unknownKey?_eq_none_iff :
    a.unknownKey? entries = none ↔ ∀ e ∈ entries, (a.fieldIndex? e.1).isSome := by
  simp [unknownKey?, List.find?_eq_none, Option.isSome_iff_ne_none]

theorem fieldIndex?_of_unknownKey? {key : String} (h : a.unknownKey? entries = some key) :
    key ∈ keys entries ∧ a.fieldIndex? key = none :=
  ⟨List.mem_of_find?_eq_some h, by simpa using List.find?_some h⟩

namespace Builder

/-- The inputs that entries give the fields by name. -/
def ofEntries (entries : List (String × Value)) : Builder a :=
  ⟨.ofFn fun i => Value.entry? entries (a.fields.get i).name⟩

theorem get_ofEntries (entries : List (String × Value)) (i : a.FieldIndex) :
    (ofEntries entries : Builder a).inputs.get i = Value.entry? entries (a.fields.get i).name := by
  simp [ofEntries, vectorGet_eq_getElem]

theorem ext_inputs {b b' : Builder a} (h : ∀ i, b.inputs.get i = b'.inputs.get i) : b = b' := by
  obtain ⟨xs⟩ := b
  obtain ⟨ys⟩ := b'
  congr
  exact Vector.ext fun i hi => h ⟨i, hi⟩

theorem withFields_of_unknownKey? {key : String} (h : a.unknownKey? entries = some key)
    (b : Builder a) : b.withFields entries = .error (.unknownField a.name key) := by
  induction entries generalizing b with
  | nil => cases h
  | cons e entries ih =>
    rw [withFields_cons]
    unfold unknownKey? at h ih
    rw [keys, List.map_cons] at h
    cases hi : a.fieldIndex? e.1 with
    | none =>
      rw [List.find?_cons_of_pos (by simp [hi])] at h
      obtain rfl := Option.some.inj h
      unfold withField
      rw [hi]
      rfl
    | some i =>
      rw [List.find?_cons_of_neg (by simp [hi])] at h
      unfold withField
      rw [hi]
      exact ih h (b.set i e.2)

/-- The last input of a field is the last entry of its name. -/
theorem lastInput?_named (entries : List (String × Value)) (i : a.FieldIndex) :
    lastInput? (entries.map fun e => Call.named e.1 e.2) i =
      Value.entry? entries.reverse (a.fields.get i).name := by
  have hname : ∀ e : String × Value,
      decide ((Call.named e.1 e.2 : Call a).field? = some i) =
        decide (e.1 = (a.fields.get i).name) := by
    intro e
    rw [decide_eq_decide, eq_comm (a := e.1)]
    exact fieldIndex?_eq_some_iff
  unfold lastInput? Value.entry?
  rw [← List.map_reverse, List.find?_map, Option.map_map]
  simp only [Function.comp_def, hname, Call.input]

theorem withFields_of_known (hknown : a.unknownKey? entries = none) (hnd : (keys entries).Nodup) :
    (new : Builder a).withFields entries = .ok (ofEntries entries) := by
  have hcalls : (new : Builder a).withFields entries =
      ofCalls (entries.map fun e => Call.named e.1 e.2) := by
    unfold withFields ofCalls
    rw [List.foldlM_map]
    rfl
  have hfields : ∀ c ∈ entries.map fun e => (Call.named e.1 e.2 : Call a), c.field?.isSome := by
    intro c hc
    obtain ⟨e, he, rfl⟩ := List.mem_map.1 hc
    exact unknownKey?_eq_none_iff.1 hknown e he
  obtain ⟨b, hb⟩ := exists_foldlM hfields new
  rw [hcalls, ofCalls, hb]
  refine congrArg Except.ok (ext_inputs fun i => ?_)
  rw [inputs_of_calls hb, lastInput?_named, get_ofEntries]
  exact (Value.entry?_eq_of_perm (List.reverse_perm entries).symm hnd _).symm

end Builder

/-- What a document of members comes to. -/
theorem ofJson_eq {text : String} (h : Value.fromJson? text = some (.map entries)) :
    a.ofJson text = match a.unknownKey? entries with
      | some key => .error (.conversion (.unknownField a.name key))
      | none => (Own.tryBuild (.ofEntries entries)).mapError .conversion := by
  obtain ⟨hnd, -⟩ := Value.exists_members_of_fromJson? h
  unfold ofJson instanceFromJson
  rw [h]
  cases hkey : a.unknownKey? entries with
  | some key =>
    simp only [Builder.withFields_of_unknownKey? hkey]
    rfl
  | none =>
    simp only [Builder.withFields_of_known hkey hnd]
    show (Except.mapError _ (Builder.tryBuild _)).map _ = _
    unfold Own.tryBuild
    cases Builder.tryBuild (Builder.ofEntries entries : Builder a) <;> rfl

theorem ofJson_of_unknownKey? {text key : String} (h : Value.fromJson? text = some (.map entries))
    (hkey : a.unknownKey? entries = some key) :
    a.ofJson text = .error (.conversion (.unknownField a.name key)) := by
  rw [ofJson_eq h, hkey]

theorem ofJson_of_known {text : String} (h : Value.fromJson? text = some (.map entries))
    (hknown : a.unknownKey? entries = none) :
    a.ofJson text = (Own.tryBuild (.ofEntries entries)).mapError .conversion := by
  rw [ofJson_eq h, hknown]

/-! ## Success -/

/-- The key names a field, and the value is null or converts for it. -/
def Accepts (a : Archetype) (e : String × Value) : Prop :=
  ∃ i, a.fieldIndex? e.1 = some i ∧ (e.2.isNull = false → ∃ batch,
    ComponentBatch.ofInput (a.fields.get i).descriptor (a.fields.get i).componentType e.2 =
      .ok batch)

/-- No field fails exactly when the entry of each field converts. -/
theorem forall_accepts_iff (hknown : a.unknownKey? entries = none) (hnd : (keys entries).Nodup) :
    (∀ e ∈ entries, a.Accepts e) ↔ ∀ (i : a.FieldIndex) cause,
      ¬ (a.fields.get i).Fails (Value.entry? entries (a.fields.get i).name) cause := by
  constructor
  · intro h i cause
    cases hentry : Value.entry? entries (a.fields.get i).name with
    | none => simp [FieldDescriptor.Fails, FieldDescriptor.outcome?]
    | some v =>
      obtain ⟨j, hj, hconverts⟩ := h _ (Value.mem_of_entry?_eq_some hentry)
      obtain rfl : j = i := index_eq_of_name_eq (fieldIndex?_eq_some_iff.1 hj)
      exact FieldDescriptor.not_fails_iff.2 hconverts cause
  · intro h e he
    obtain ⟨i, hi⟩ := Option.isSome_iff_exists.1 (unknownKey?_eq_none_iff.1 hknown e he)
    refine ⟨i, hi, FieldDescriptor.not_fails_iff.1 fun cause => ?_⟩
    have hentry : Value.entry? entries (a.fields.get i).name = some e.2 := by
      rw [fieldIndex?_eq_some_iff.1 hi]
      exact (Value.entry?_eq_some_iff hnd).2 he
    exact hentry ▸ h i cause

theorem tryBuild_ofEntries_eq_ok_iff {x : a.Own} : Own.tryBuild (.ofEntries entries) = .ok x ↔
    (∀ (i : a.FieldIndex) cause,
      ¬ (a.fields.get i).Fails (Value.entry? entries (a.fields.get i).name) cause) ∧
    x = (Own.buildFields (.ofEntries entries) false).1 := by
  unfold Own.tryBuild Own.buildFields
  rw [map_eq_ok_iff]
  constructor
  · rintro ⟨y, hy, rfl⟩
    obtain ⟨hfails, rfl⟩ := Builder.tryBuild_eq_ok_iff.1 hy
    exact ⟨fun i cause => Builder.get_ofEntries entries i ▸ hfails i cause, rfl⟩
  · rintro ⟨hfails, rfl⟩
    refine ⟨_, Builder.tryBuild_eq_ok_iff.2 ⟨fun i cause => ?_, rfl⟩, rfl⟩
    rw [Builder.get_ofEntries]
    exact hfails i cause

theorem tryBuild_ofEntries_eq_error_iff {e : ConversionError} :
    Own.tryBuild (.ofEntries entries : Builder a) = .error e ↔
      ∃ (i : a.FieldIndex) (cause : ConversionError),
        (a.fields.get i).Fails (Value.entry? entries (a.fields.get i).name) cause ∧
        (∀ j < i, ∀ cause,
          ¬ (a.fields.get j).Fails (Value.entry? entries (a.fields.get j).name) cause) ∧
        e = .inField (a.fields.get i).name cause := by
  unfold Own.tryBuild
  rw [map_eq_error_iff, Builder.tryBuild_eq_error_iff]
  simp only [Builder.get_ofEntries]

theorem exists_ofJson_eq_ok_iff {text : String} (h : Value.fromJson? text = some (.map entries)) :
    (∃ x, a.ofJson text = .ok x) ↔ ∀ e ∈ entries, a.Accepts e := by
  obtain ⟨hnd, -⟩ := Value.exists_members_of_fromJson? h
  cases hkey : a.unknownKey? entries with
  | some key =>
    obtain ⟨hmem, hnone⟩ := fieldIndex?_of_unknownKey? hkey
    obtain ⟨e, he, rfl⟩ := List.mem_map.1 hmem
    rw [ofJson_of_unknownKey? h hkey]
    constructor
    · rintro ⟨x, hx⟩
      cases hx
    · intro haccepts
      obtain ⟨i, hi, -⟩ := haccepts e he
      cases hnone.symm.trans hi
  | none =>
    rw [ofJson_of_known h hkey, forall_accepts_iff hkey hnd]
    simp only [mapError_eq_ok_iff, tryBuild_ofEntries_eq_ok_iff]
    exact ⟨fun ⟨_, hfails, _⟩ => hfails, fun hfails => ⟨_, hfails, rfl⟩⟩

/-- An instance that is read has the fields of the strict build, and none that is missing or
null. -/
theorem tryBuild_of_ofJson {text : String} (h : Value.fromJson? text = some (.map entries))
    {x : a.Own} (hx : a.ofJson text = .ok x) :
    Own.tryBuild (.ofEntries entries) = .ok x ∧ ∀ i : a.FieldIndex,
      FieldDescriptor.isUnset (Value.entry? entries (a.fields.get i).name) = true →
        Own.get? x (a.fields.get i).name = none := by
  cases hkey : a.unknownKey? entries with
  | some key => cases (ofJson_of_unknownKey? h hkey).symm.trans hx
  | none =>
    rw [ofJson_of_known h hkey, mapError_eq_ok_iff] at hx
    refine ⟨hx, fun i hunset => ?_⟩
    obtain ⟨-, rfl⟩ := tryBuild_ofEntries_eq_ok_iff.1 hx
    rw [Own.buildFields, Own.get?_ofInstance, Builder.get_buildFields, Builder.get_ofEntries,
      FieldDescriptor.convertPartial_eq, FieldDescriptor.outcome?_of_isUnset hunset]
    rfl

/-! ## Order -/

theorem Builder.ofEntries_eq_of_perm {entries' : List (String × Value)}
    (h : entries.Perm entries') (hnd : (keys entries).Nodup) :
    (ofEntries entries : Builder a) = ofEntries entries' := by
  refine ext_inputs fun i => ?_
  rw [get_ofEntries, get_ofEntries, Value.entry?_eq_of_perm h hnd]

theorem unknownKey?_eq_none_of_perm {entries' : List (String × Value)} (h : entries.Perm entries')
    (hknown : a.unknownKey? entries = none) : a.unknownKey? entries' = none := by
  rw [unknownKey?_eq_none_iff] at hknown ⊢
  exact fun e he => hknown e (h.mem_iff.2 he)

/-- Two orders of the same entries come to the same, up to the unknown key that is named. -/
theorem ofJson_of_perm {text text' : String} {entries' : List (String × Value)}
    (h : Value.fromJson? text = some (.map entries))
    (h' : Value.fromJson? text' = some (.map entries')) (hperm : entries.Perm entries') :
    (∃ x, a.ofJson text = .ok x ∧ a.ofJson text' = .ok x) ∨
    (∃ e, a.ofJson text = .error e ∧ a.ofJson text' = .error e) ∨
    ∃ key ∈ keys entries, ∃ key' ∈ keys entries,
      a.fieldIndex? key = none ∧ a.fieldIndex? key' = none ∧
      a.ofJson text = .error (.conversion (.unknownField a.name key)) ∧
      a.ofJson text' = .error (.conversion (.unknownField a.name key')) := by
  obtain ⟨hnd, -⟩ := Value.exists_members_of_fromJson? h
  cases hkey : a.unknownKey? entries with
  | none =>
    have hsame : a.ofJson text' = a.ofJson text := by
      rw [ofJson_of_known h hkey, ofJson_of_known h' (unknownKey?_eq_none_of_perm hperm hkey),
        Builder.ofEntries_eq_of_perm hperm hnd]
    rw [hsame]
    cases a.ofJson text with
    | ok x => exact .inl ⟨x, rfl, rfl⟩
    | error e => exact .inr (.inl ⟨e, rfl, rfl⟩)
  | some key =>
    cases hkey' : a.unknownKey? entries' with
    | none => cases hkey.symm.trans (unknownKey?_eq_none_of_perm hperm.symm hkey')
    | some key' =>
      obtain ⟨hmem, hnone⟩ := fieldIndex?_of_unknownKey? hkey
      obtain ⟨hmem', hnone'⟩ := fieldIndex?_of_unknownKey? hkey'
      exact .inr (.inr ⟨key, hmem, key', (hperm.map _).mem_iff.2 hmem', hnone, hnone',
        ofJson_of_unknownKey? h hkey, ofJson_of_unknownKey? h' hkey'⟩)

/-- A document of members is an archetype exactly when every key names a field and every value that
is not null converts for it; the instance is then that of the strict build. Else the first unknown
key in the document is the error, and where all keys are known the first field that fails as they
are declared. Any other order of the entries comes to the same, up to the unknown key named. -/
theorem ofJson_exact {text : String} {entries : List (String × Value)}
    (h : Value.fromJson? text = some (.map entries)) :
    ((keys entries).Nodup ∧ ∃ members, Json.parse? text = some (.map members) ∧
      ((members.map (·.1)).Nodup → Value.ofJsonMembers? members = some entries)) ∧
    ((∃ x, a.ofJson text = .ok x) ↔ ∀ e ∈ entries, a.Accepts e) ∧
    (∀ x, a.ofJson text = .ok x → Own.tryBuild (.ofEntries entries) = .ok x ∧
      ∀ i : a.FieldIndex,
        FieldDescriptor.isUnset (Value.entry? entries (a.fields.get i).name) = true →
        Own.get? x (a.fields.get i).name = none) ∧
    (∀ key, a.unknownKey? entries = some key →
      a.ofJson text = .error (.conversion (.unknownField a.name key))) ∧
    (a.unknownKey? entries = none → ∀ e, a.ofJson text = .error e ↔
      ∃ (i : a.FieldIndex) (cause : ConversionError),
        (a.fields.get i).Fails (Value.entry? entries (a.fields.get i).name) cause ∧
        (∀ j < i, ∀ cause,
          ¬ (a.fields.get j).Fails (Value.entry? entries (a.fields.get j).name) cause) ∧
        e = .conversion (.inField (a.fields.get i).name cause)) ∧
    ∀ {text' : String} {entries' : List (String × Value)},
      Value.fromJson? text' = some (.map entries') → entries.Perm entries' →
      (∃ x, a.ofJson text = .ok x ∧ a.ofJson text' = .ok x) ∨
      (∃ e, a.ofJson text = .error e ∧ a.ofJson text' = .error e) ∨
      ∃ key ∈ keys entries, ∃ key' ∈ keys entries,
        a.fieldIndex? key = none ∧ a.fieldIndex? key' = none ∧
        a.ofJson text = .error (.conversion (.unknownField a.name key)) ∧
        a.ofJson text' = .error (.conversion (.unknownField a.name key')) := by
  refine ⟨Value.exists_members_of_fromJson? h, exists_ofJson_eq_ok_iff h,
    fun x hx => tryBuild_of_ofJson h hx, fun key hkey => ofJson_of_unknownKey? h hkey,
    fun hknown e => ?_, fun h' hperm => ofJson_of_perm h h' hperm⟩
  rw [ofJson_of_known h hknown, mapError_eq_error_iff]
  constructor
  · rintro ⟨cause, hcause, rfl⟩
    obtain ⟨i, cause, hfails, hbefore, rfl⟩ := tryBuild_ofEntries_eq_error_iff.1 hcause
    exact ⟨i, cause, hfails, hbefore, rfl⟩
  · rintro ⟨i, cause, hfails, hbefore, rfl⟩
    exact ⟨_, tryBuild_ofEntries_eq_error_iff.2 ⟨i, cause, hfails, hbefore, rfl⟩, rfl⟩

/-- A range that is no list between two keys that name no field. -/
def twoUnknown : List (String × Value) :=
  [("zoom", .int 1), ("range", .str "wide"), ("axis", .null)]

def twoUnknownText : String := "\x7b\"zoom\":1,\"range\":\"wide\",\"axis\":null\x7d"

def twoUnknownReversed : String := "\x7b\"axis\":null,\"range\":\"wide\",\"zoom\":1\x7d"

theorem fromJson?_twoUnknownText : Value.fromJson? twoUnknownText = some (.map twoUnknown) := by
  have hscan : Token.scan twoUnknownText.toList =
      some [.openMap, .str (some "zoom"), .colon, .number ⟨false, 1, 0, true⟩, .comma,
        .str (some "range"), .colon, .str (some "wide"), .comma,
        .str (some "axis"), .colon, .null, .closeMap] := by decide +kernel
  unfold Value.fromJson? Json.parse?
  rw [hscan]
  simp only [Option.bind_eq_bind, Option.bind_some, Json.value?, Json.members?]
  rfl

theorem fromJson?_twoUnknownReversed :
    Value.fromJson? twoUnknownReversed = some (.map twoUnknown.reverse) := by
  have hscan : Token.scan twoUnknownReversed.toList =
      some [.openMap, .str (some "axis"), .colon, .null, .comma,
        .str (some "range"), .colon, .str (some "wide"), .comma,
        .str (some "zoom"), .colon, .number ⟨false, 1, 0, true⟩, .closeMap] := by decide +kernel
  unfold Value.fromJson? Json.parse?
  rw [hscan]
  simp only [Option.bind_eq_bind, Option.bind_some, Json.value?, Json.members?]
  rfl

theorem ofJson_exact_twoUnknown :
    Value.fromJson? twoUnknownText = some (.map twoUnknown) ∧
    Value.fromJson? twoUnknownReversed = some (.map twoUnknown.reverse) ∧
    ofJson .scalarAxis twoUnknownText =
      .error (.conversion (.unknownField "rerun.blueprint.archetypes.ScalarAxis" "zoom")) ∧
    ofJson .scalarAxis twoUnknownReversed =
      .error (.conversion (.unknownField "rerun.blueprint.archetypes.ScalarAxis" "axis")) := by
  have h := fromJson?_twoUnknownText
  have h' := fromJson?_twoUnknownReversed
  obtain ⟨-, -, -, hunknown, -⟩ := ofJson_exact (a := .scalarAxis) h
  obtain ⟨-, -, -, hunknown', -⟩ := ofJson_exact (a := .scalarAxis) h'
  exact ⟨h, h', hunknown _ rfl, hunknown' _ rfl⟩

end Archetype

end ComponentLog
