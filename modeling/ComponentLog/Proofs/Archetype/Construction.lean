import ComponentLog.Archetype.Instance
import ComponentLog.Proofs.Traversal

/-!
# Ways to build an instance

A builder holds the last input of each field, whatever calls it was made by
(`Builder.inputs_of_calls`). What a field comes to depends on that input alone
(`FieldDescriptor.outcome?`); converting all fields and converting each on its own agree field by
field, and differ only in what a failing field does to the others (`Builder.flavours_agree`).
-/

namespace ComponentLog

open Columnar

theorem vectorGet_eq_getElem {α : Type} {n : Nat} (xs : Vector α n) (i : Fin n) :
    xs.get i = xs[i.val] := rfl

/-! ## One field -/

namespace FieldDescriptor

/-- What the input of a field comes to: nothing where it is missing or null, else its batch or its
failure. -/
def outcome? (f : FieldDescriptor) (input : Option Value) :
    Option (Except ConversionError ComponentBatch) :=
  (input.filter (!·.isNull)).map (ComponentBatch.ofInput f.descriptor f.componentType)

/-- The input of the field is given and does not convert. -/
def Fails (f : FieldDescriptor) (input : Option Value) (cause : ConversionError) : Prop :=
  f.outcome? input = some (.error cause)

variable {f : FieldDescriptor} {input : Option Value}

theorem outcome?_of_isUnset (h : isUnset input = true) : f.outcome? input = none := by
  cases input with
  | none => rfl
  | some v =>
    have hnull : v.isNull = true := h
    simp [outcome?, hnull]

theorem outcome?_of_not_isNull {v : Value} (h : v.isNull = false) :
    f.outcome? (some v) = some (ComponentBatch.ofInput f.descriptor f.componentType v) := by
  simp [outcome?, h]

/-- An input is unset, or is a value that converts or fails. -/
theorem input_cases (f : FieldDescriptor) (input : Option Value) :
    (isUnset input = true ∧ f.outcome? input = none) ∨
      ∃ v, input = some v ∧ v.isNull = false ∧
        f.outcome? input = some (ComponentBatch.ofInput f.descriptor f.componentType v) := by
  cases hunset : isUnset input with
  | true => exact .inl ⟨rfl, outcome?_of_isUnset hunset⟩
  | false =>
    cases input with
    | none => cases hunset
    | some v => exact .inr ⟨v, rfl, hunset, outcome?_of_not_isNull hunset⟩

theorem convertPartial_eq (f : FieldDescriptor) (clearUnset : Bool) (input : Option Value) :
    (f.convertPartial clearUnset input).1 = match f.outcome? input with
      | none => if clearUnset then some f.clear else none
      | some (.ok b) => some b
      | some (.error _) => none := by
  unfold convertPartial
  rcases f.input_cases input with ⟨hunset, houtcome⟩ | ⟨v, rfl, hnull, houtcome⟩
  · rw [if_pos hunset, houtcome]
  · rw [houtcome, if_neg (by simp [isUnset, hnull])]
    unfold convertLenient convert
    rw [Option.getD_some, if_neg (by simp [hnull])]
    cases ComponentBatch.ofInput f.descriptor f.componentType v <;> rfl

theorem convertInput_eq (f : FieldDescriptor) (input : Option Value) :
    f.convertInput input = match f.outcome? input with
      | none => .ok none
      | some (.ok b) => .ok (some b)
      | some (.error cause) => .error (.inField f.name cause) := by
  rcases f.input_cases input with ⟨hunset, houtcome⟩ | ⟨v, rfl, hnull, houtcome⟩
  · rw [houtcome]
    cases input with
    | none => rfl
    | some v => exact if_pos hunset
  · rw [houtcome]
    unfold convertInput convert
    simp only [hnull, Bool.false_eq_true, if_false]
    cases ComponentBatch.ofInput f.descriptor f.componentType v <;> rfl

theorem convertInput_eq_error_iff {e : ConversionError} :
    f.convertInput input = .error e ↔ ∃ cause, f.Fails input cause ∧ e = .inField f.name cause := by
  rw [convertInput_eq]
  unfold Fails
  cases f.outcome? input with
  | none => simp
  | some r =>
    cases r with
    | ok b => simp
    | error cause => simp [eq_comm]

/-- Where nothing fails, both ways to convert give the same. -/
theorem convertInput_eq_ok_iff {b? : Option ComponentBatch} :
    f.convertInput input = .ok b? ↔
      (∀ cause, ¬ f.Fails input cause) ∧ b? = (f.convertPartial false input).1 := by
  rw [convertInput_eq, convertPartial_eq]
  unfold Fails
  cases f.outcome? input with
  | none => simp [eq_comm]
  | some r =>
    cases r with
    | ok b => simp [eq_comm]
    | error cause => simp

end FieldDescriptor

/-! ## Calls -/

namespace Archetype.Builder

variable {a : Archetype}

/-- A call on a builder, which gives an input to a field by its place or by its name. -/
inductive Call (a : Archetype) where
  | typed (i : a.FieldIndex) (v : Value)
  | named (name : String) (v : Value)

namespace Call

/-- The field of a call, unless the name is unknown. -/
def field? : Call a → Option a.FieldIndex
  | typed i _ => some i
  | named name _ => a.fieldIndex? name

def input : Call a → Value
  | typed _ v => v
  | named _ v => v

end Call

def call (b : Builder a) : Call a → Except ConversionError (Builder a)
  | .typed i v => .ok (b.set i v)
  | .named name v => b.withField name v

theorem withFields_cons (b : Builder a) (e : String × Value) (rest : List (String × Value)) :
    b.withFields (e :: rest) = b.withField e.1 e.2 >>= (·.withFields rest) := rfl

/-- The builder that calls make, in order. -/
def ofCalls (calls : List (Call a)) : Except ConversionError (Builder a) := calls.foldlM call new

/-- The input of the last call on a field. -/
def lastInput? (calls : List (Call a)) (i : a.FieldIndex) : Option Value :=
  (calls.reverse.find? (·.field? = some i)).map Call.input

theorem lastInput?_cons (c : Call a) (calls : List (Call a)) (i : a.FieldIndex) :
    lastInput? (c :: calls) i =
      (lastInput? calls i).or (if c.field? = some i then some c.input else none) := by
  unfold lastInput?
  rw [List.reverse_cons, List.find?_append, List.find?_singleton]
  cases calls.reverse.find? (·.field? = some i) with
  | some c' => simp
  | none => by_cases h : c.field? = some i <;> simp [h]

theorem call_eq_ok_iff {b b' : Builder a} {c : Call a} :
    b.call c = .ok b' ↔ ∃ i, c.field? = some i ∧ b' = b.set i c.input := by
  cases c with
  | typed i v => simp [call, Call.field?, Call.input, eq_comm]
  | named name v =>
    simp only [call, withField, Call.field?, Call.input]
    cases a.fieldIndex? name with
    | none => simp
    | some i => simp [eq_comm]

theorem get_set (b : Builder a) (i j : a.FieldIndex) (v : Value) :
    (b.set i v).inputs.get j = if i = j then some v else b.inputs.get j := by
  simp only [set, vectorGet_eq_getElem, Vector.getElem_set, Fin.ext_iff]

/-- Each call replaces the input of its field and keeps the others. -/
theorem get_of_foldlM {b b' : Builder a} {calls : List (Call a)}
    (h : calls.foldlM call b = .ok b') (i : a.FieldIndex) :
    b'.inputs.get i = (lastInput? calls i).or (b.inputs.get i) := by
  induction calls generalizing b with
  | nil =>
    obtain rfl : b = b' := Except.ok.inj h
    rfl
  | cons c calls ih =>
    rw [List.foldlM_cons] at h
    obtain ⟨b₁, hcall, h⟩ := bind_eq_ok_iff.1 h
    obtain ⟨j, hfield, rfl⟩ := call_eq_ok_iff.1 hcall
    rw [ih h, lastInput?_cons, get_set, hfield, Option.or_assoc]
    by_cases hij : j = i
    · simp [hij]
    · simp [hij]

/-- Calls on declared fields make a builder. -/
theorem exists_foldlM {calls : List (Call a)} (h : ∀ c ∈ calls, c.field?.isSome)
    (b : Builder a) : ∃ b', calls.foldlM call b = .ok b' := by
  induction calls generalizing b with
  | nil => exact ⟨b, rfl⟩
  | cons c calls ih =>
    obtain ⟨i, hi⟩ := Option.isSome_iff_exists.1 (h c List.mem_cons_self)
    obtain ⟨b', hb'⟩ := ih (fun c hc => h c (List.mem_cons_of_mem _ hc)) (b.set i c.input)
    exact ⟨b', bind_eq_ok_iff.2 ⟨_, call_eq_ok_iff.2 ⟨i, hi, rfl⟩, hb'⟩⟩

theorem inputs_of_calls {b : Builder a} {calls : List (Call a)} (h : ofCalls calls = .ok b)
    (i : a.FieldIndex) : b.inputs.get i = lastInput? calls i := by
  rw [get_of_foldlM h i]
  have hnew : (new : Builder a).inputs.get i = none := by simp [new, vectorGet_eq_getElem]
  rw [hnew, Option.or_none]

/-! ## Conversion of the fields -/

theorem checkFieldCount_inputs (b : Builder a) : a.checkFieldCount b.inputs.toList = .ok () := by
  unfold checkFieldCount
  rw [if_pos (by simp)]

/-- The fields next to their inputs. -/
def pairs (b : Builder a) : List (FieldDescriptor × Option Value) := a.fields.zip b.inputs.toList

theorem length_pairs (b : Builder a) : b.pairs.length = a.fields.length := by
  simp [pairs]

theorem getElem_pairs (b : Builder a) {i : Nat} (hi : i < b.pairs.length) :
    b.pairs[i] = (a.fields.get ⟨i, b.length_pairs ▸ hi⟩, b.inputs.get ⟨i, b.length_pairs ▸ hi⟩) := by
  simp [pairs, vectorGet_eq_getElem]

theorem forall_mem_pairs {b : Builder a} {P : FieldDescriptor → Option Value → Prop} :
    (∀ p ∈ b.pairs, P p.1 p.2) ↔ ∀ i : a.FieldIndex, P (a.fields.get i) (b.inputs.get i) := by
  constructor
  · intro h i
    have hi : i.val < b.pairs.length := b.length_pairs.symm ▸ i.isLt
    have := h _ (List.getElem_mem hi)
    rwa [getElem_pairs] at this
  · intro h p hp
    obtain ⟨i, hi, rfl⟩ := List.mem_iff_getElem.1 hp
    rw [getElem_pairs]
    exact h _

theorem tryBuild_eq (b : Builder a) :
    b.tryBuild = (b.pairs.mapM fun (p : FieldDescriptor × Option Value) =>
      p.1.convertInput p.2).map Instance.ofBatches := by
  unfold tryBuild convertAll
  rw [checkFieldCount_inputs]
  rfl

theorem buildFields_eq (b : Builder a) (clearUnset : Bool) :
    (b.buildFields clearUnset).1 =
      .ofBatches (b.pairs.map fun (p : FieldDescriptor × Option Value) =>
        (p.1.convertPartial clearUnset p.2).1) := by
  unfold buildFields convertEach
  rw [checkFieldCount_inputs]
  show Instance.ofBatches (List.map _ (a.fields.zipWith _ b.inputs.toList)) = _
  rw [List.map_zipWith, pairs, List.zip, List.map_zipWith]

theorem get_buildFields (b : Builder a) (clearUnset : Bool) (i : a.FieldIndex) :
    (b.buildFields clearUnset).1.batches.get i =
      ((a.fields.get i).convertPartial clearUnset (b.inputs.get i)).1 := by
  have hi : i.val < b.pairs.length := b.length_pairs.symm ▸ i.isLt
  rw [buildFields_eq]
  simp [Instance.ofBatches, vectorGet_eq_getElem, hi, getElem_pairs]

theorem tryBuild_eq_error_iff {b : Builder a} {e : ConversionError} :
    b.tryBuild = .error e ↔ ∃ (i : a.FieldIndex) (cause : ConversionError),
      (a.fields.get i).Fails (b.inputs.get i) cause ∧
      (∀ j < i, ∀ cause, ¬ (a.fields.get j).Fails (b.inputs.get j) cause) ∧
      e = .inField (a.fields.get i).name cause := by
  rw [tryBuild_eq, map_eq_error_iff, mapM_eq_error_iff]
  constructor
  · rintro ⟨i, hi, hfail, hbefore⟩
    rw [getElem_pairs] at hfail
    obtain ⟨cause, hfails, rfl⟩ := FieldDescriptor.convertInput_eq_error_iff.1 hfail
    refine ⟨⟨i, b.length_pairs ▸ hi⟩, cause, hfails, fun j hj => ?_, rfl⟩
    obtain ⟨b?, hb⟩ := hbefore j hj
    rw [getElem_pairs] at hb
    exact (FieldDescriptor.convertInput_eq_ok_iff.1 hb).1
  · rintro ⟨i, cause, hfails, hbefore, rfl⟩
    refine ⟨i, b.length_pairs.symm ▸ i.isLt, ?_, fun j hj => ?_⟩
    · rw [getElem_pairs]
      exact FieldDescriptor.convertInput_eq_error_iff.2 ⟨cause, hfails, rfl⟩
    · rw [getElem_pairs]
      exact ⟨_, FieldDescriptor.convertInput_eq_ok_iff.2 ⟨hbefore ⟨j, _⟩ hj, rfl⟩⟩

theorem mapM_pairs_eq_ok_iff {b : Builder a} {batches : List (Option ComponentBatch)} :
    (b.pairs.mapM fun (p : FieldDescriptor × Option Value) => p.1.convertInput p.2) = .ok batches ↔
      (∀ i cause, ¬ (a.fields.get i).Fails (b.inputs.get i) cause) ∧
      batches = b.pairs.map fun (p : FieldDescriptor × Option Value) =>
        (p.1.convertPartial false p.2).1 := by
  rw [← forall_mem_pairs (P := fun f input => ∀ cause, ¬ f.Fails input cause)]
  exact mapM_eq_ok_map_iff fun p _ => p.1.convertInput_eq_ok_iff

/-- Where no field fails, the fields are those of a partial update. -/
theorem tryBuild_eq_ok_iff {b : Builder a} {x : Instance a} :
    b.tryBuild = .ok x ↔
      (∀ i cause, ¬ (a.fields.get i).Fails (b.inputs.get i) cause) ∧ x = (b.buildFields false).1 := by
  rw [tryBuild_eq, map_eq_ok_iff, buildFields_eq]
  constructor
  · rintro ⟨batches, hbatches, rfl⟩
    obtain ⟨hfails, rfl⟩ := mapM_pairs_eq_ok_iff.1 hbatches
    exact ⟨hfails, rfl⟩
  · rintro ⟨hfails, rfl⟩
    exact ⟨_, mapM_pairs_eq_ok_iff.2 ⟨hfails, rfl⟩, rfl⟩

theorem isEmpty_clear (f : FieldDescriptor) : f.clear.isEmpty = true := by
  unfold FieldDescriptor.clear ComponentBatch.isEmpty Series.isEmpty
  exact decide_eq_true (Series.length_empty _)

/-- The flavours of building agree. Each field of a partial update comes from the last input of the
field alone; a failing field is absent and never cleared. Building all fields gives the partial
update that clears nothing, unless some field fails; then the first such field in declaration order
gives the error, and the lenient build leaves all fields absent. -/
theorem flavours_agree (calls : List (Call a)) (hknown : ∀ c ∈ calls, c.field?.isSome) :
    ∃ b, ofCalls calls = .ok b ∧
      (∀ clearUnset i, (b.buildFields clearUnset).1.batches.get i =
        match (a.fields.get i).outcome? (lastInput? calls i) with
        | none => if clearUnset then some (a.fields.get i).clear else none
        | some (.ok batch) => some batch
        | some (.error _) => none) ∧
      (∀ i : a.FieldIndex, (a.fields.get i).clear.isEmpty = true) ∧
      (∀ x, b.tryBuild = .ok x ↔
        (∀ i cause, ¬ (a.fields.get i).Fails (lastInput? calls i) cause) ∧
        x = (b.buildFields false).1) ∧
      (∀ e, b.tryBuild = .error e ↔ ∃ (i : a.FieldIndex) (cause : ConversionError),
        (a.fields.get i).Fails (lastInput? calls i) cause ∧
        (∀ j < i, ∀ cause, ¬ (a.fields.get j).Fails (lastInput? calls j) cause) ∧
        e = .inField (a.fields.get i).name cause) ∧
      (∀ x, b.tryBuild = .ok x → b.build.1 = x) ∧
      ∀ e, b.tryBuild = .error e → ∀ i, b.build.1.batches.get i = none := by
  obtain ⟨b, hb⟩ := exists_foldlM hknown new
  have hinputs := inputs_of_calls hb
  refine ⟨b, hb, fun clearUnset i => ?_, fun i => isEmpty_clear _, fun x => ?_, fun e => ?_,
    fun x hx => ?_, fun e he i => ?_⟩
  · rw [get_buildFields, FieldDescriptor.convertPartial_eq, hinputs]
  · simp only [← hinputs]
    exact tryBuild_eq_ok_iff
  · simp only [← hinputs]
    exact tryBuild_eq_error_iff
  · unfold build
    rw [hx]
  · unfold build
    rw [he]
    simp [Instance.absent, vectorGet_eq_getElem]

def rangeField : FieldIndex .scalarAxis := ⟨0, by decide⟩

def zoomLockField : FieldIndex .scalarAxis := ⟨1, by decide⟩

/-- A range that is replaced by a text, and a flag that is replaced by null. -/
def wideRange : List (Call .scalarAxis) :=
  [.typed zoomLockField (.bool true), .named "range" (.list []), .named "zoom_lock" .null,
    .typed rangeField (.str "wide")]

theorem flavours_agree_wideRange : (∀ c ∈ wideRange, c.field?.isSome) ∧
    ∃ b, ofCalls wideRange = .ok b ∧ (b.buildFields true).1.batches.get rangeField = none ∧
      (∃ batch, (b.buildFields true).1.batches.get zoomLockField = some batch ∧
        batch.isEmpty = true) ∧
      b.tryBuild = .error (.inField "range" (.invalidType "Range1D" "list" "string")) := by
  have hknown : ∀ c ∈ wideRange, c.field?.isSome := by decide
  obtain ⟨b, hb, hfields, hclear, -, herror, -⟩ := flavours_agree wideRange hknown
  refine ⟨hknown, b, hb, hfields true rangeField,
    ⟨_, hfields true zoomLockField, hclear zoomLockField⟩, ?_⟩
  exact (herror _).2 ⟨rangeField, _, rfl, fun j hj => absurd hj (Nat.not_lt_zero j), rfl⟩

end Archetype.Builder

end ComponentLog
