import ComponentLog.Archetype.Instance
import ComponentLog.Proofs.Chunk.Serialization
import ComponentLog.Proofs.Recording.Handover

/-!
# Chunks handed over and record batches

Every chunk that a recording hands over is written out in full
(`Recording.serializes_of_hands`). The record batch that comes of it can also be had without
a recording: over a sink that takes all, static data and columns reach the sink as that
batch, and columns that cannot be sent are those without one (`Recording.writes_of_accepts`).
-/

namespace ComponentLog

/-! ## Every chunk is written out -/

namespace Recording

variable {σ : Type}

theorem serializes_of_hands {r : Recording σ} {c : Command} {chunk : Chunk} (h : r.Hands c chunk) :
    chunk.Serializes := by
  cases c with
  | setTime | setMoment | disableTimeline | resetTime | flush => cases h.carriesData
  | log path batches now =>
    obtain ⟨-, p, -, -, hchunk⟩ := hands_log_iff.mp h
    exact Chunk.serializes_of_ofBatches hchunk
  | logStatic path batches =>
    obtain ⟨-, p, -, -, hchunk⟩ := hands_logStatic_iff.mp h
    exact Chunk.serializes_of_ofBatches hchunk
  | sendColumns path timelines columns =>
    obtain ⟨-, p, -, hchunk⟩ := hands_sendColumns_iff.mp h
    exact Chunk.serializes_of_ofParts hchunk

end Recording

/-- Columns make up a chunk exactly if they have one number of rows, and every chunk, made of
columns, of batches or by a recording in any run over any sink, has as many rows as each of
its columns and is written out in full. -/
theorem Chunk.serializes :
    (∀ path timelines components chunk, ofParts path timelines components = .ok chunk ↔
      (∃ n, (∀ t ∈ timelines, t.length = n) ∧ ∀ c ∈ components, c.rowCount = n) ∧
        chunk = ⟨path, timelines, components⟩) ∧
    (∀ path timelines components chunk, ofParts path timelines components = .ok chunk →
      chunk.Serializes) ∧
    (∀ path timelines batches chunk, ofBatches path timelines batches = .ok chunk →
      chunk.Serializes) ∧
    ∀ (σ : Type) [Sink σ] (sink : σ) (config : RecordingConfig) (cs : List Command),
      ∀ chunk ∈ (({ sink := { inner := sink }, config } : Recording (WatchedSink σ)).run
        cs).sink.sent, chunk.Serializes := by
  refine ⟨?_, fun _ _ _ _ => serializes_of_ofParts, fun _ _ _ _ => serializes_of_ofBatches, ?_⟩
  · intro path timelines components chunk
    rw [ofParts_eq_ok_iff]
    refine and_congr_left' ⟨fun hrect => ?_, ?_⟩
    · have heven := even_of_rectangular path hrect
      exact ⟨_, heven.times, heven.rows⟩
    · rintro ⟨n, htimes, hrows⟩
      exact rectangular_of_forall htimes hrows
  · intro σ _ sink config cs chunk hsent
    rcases (Recording.mem_sent_run_iff _ cs).mp hsent with hbefore | ⟨past, c, rest, -, hhands⟩
    · cases hbefore
    · exact Recording.serializes_of_hands hhands

/-- Two rows, of one value and of two, with their times. -/
def Chunk.twoRows : Chunk :=
  ⟨⟨["world"]⟩, [⟨"frame", .sequence, [10, 20]⟩],
    [ComponentBatch.inRows ⟨.ofType "Scale", .int64 [some 7, some 8, some 9], .primitive⟩ [1, 2]]⟩

theorem Chunk.serializes_twoRows :
    ofParts twoRows.path twoRows.timelines twoRows.components = .ok twoRows ∧
    twoRows.rowCount = 2 ∧ twoRows.Serializes := by
  obtain ⟨hparts, hserializes, -⟩ := Chunk.serializes
  have hmade : ofParts twoRows.path twoRows.timelines twoRows.components = .ok twoRows :=
    (hparts _ _ _ _).mpr ⟨⟨2, by decide, by decide⟩, rfl⟩
  exact ⟨hmade, rfl, hserializes _ _ _ _ hmade⟩

/-! ## Record batches without a recording -/

/-- A chunk written out, as an error of the library where it cannot be. -/
def Chunk.written (c : Chunk) : Except Error RecordBatch :=
  c.toRecordBatch.mapError fun e => .transport (.columnar e)

theorem recordBatchOf_eq_ok_iff {path : String} {batches : List ComponentBatch}
    {b : RecordBatch} :
    recordBatchOf path batches = .ok b ↔ ∃ p, EntityPath.parse path = .ok p ∧
      (∀ x ∈ batches, x.length ≤ ComponentColumn.maxOffset) ∧
        (⟨p, [], batches.map (·.row)⟩ : Chunk).toRecordBatch = .ok b := by
  unfold recordBatchOf
  simp only [bind_eq_ok_iff, mapError_eq_ok_iff, Chunk.ofBatches_eq_ok_iff (List.forall_mem_nil _)]
  constructor
  · rintro ⟨p, hp, chunk, ⟨hfit, rfl⟩, hb⟩
    exact ⟨p, hp, hfit, hb⟩
  · rintro ⟨p, hp, hfit, hb⟩
    exact ⟨p, hp, _, ⟨hfit, rfl⟩, hb⟩

theorem holdsRow_of_recordBatchOf {path : String} {batches : List ComponentBatch}
    {b : RecordBatch} (h : recordBatchOf path batches = .ok b) : b.HoldsRow batches := by
  obtain ⟨p, -, hfit, hb⟩ := recordBatchOf_eq_ok_iff.mp h
  have hserializes := Chunk.serializes_of_ofBatches (Chunk.ofBatches_static p hfit)
  obtain ⟨b', hb', hshows⟩ := hserializes.written
  obtain rfl : b' = b := Except.ok.inj (hb'.symm.trans hb)
  exact hshows.holdsRow

theorem recordBatchOfColumns_eq (path : String) (timelines : List TimeColumn)
    (columns : ComponentColumnList) :
    recordBatchOfColumns path timelines columns =
      assembleColumns path timelines columns >>= Chunk.written := by
  rw [recordBatchOfColumns, assembleColumns]
  cases EntityPath.parse path <;> rfl

/-! ## Sinks that take all -/

namespace Recording

variable {σ : Type} [Sink σ] {r : Recording σ} {c : Command} {chunk : Chunk} {b : RecordBatch}

/-- A call hands over a chunk of this record batch, and the sink takes it. -/
def Writes (r : Recording σ) (c : Command) (b : RecordBatch) : Prop :=
  ∃ chunk, chunk.toRecordBatch = .ok b ∧
    r.perform c = (.ok (), { r with sink := (Sink.send r.sink chunk).2 })

theorem writes_of_hands (haccepts : ∀ chunk, (Sink.send r.sink chunk).1 = .ok ())
    (hrow : c.logsRow = false) (h : r.Hands c chunk) (hb : chunk.toRecordBatch = .ok b) :
    r.Writes c b := by
  refine ⟨chunk, hb, ?_⟩
  have hsend : r.send chunk = ((Sink.send r.sink chunk).1.mapError .transport,
    { r with sink := (Sink.send r.sink chunk).2 }) := rfl
  rw [h.perform_eq, counted_of_not_logsRow r hrow, hsend, haccepts]
  rfl

/-- Static data reaches the sink as the record batch that can be had without a recording. -/
theorem exists_writes_logStatic {path : String} {p : EntityPath} {batches : List ComponentBatch}
    (henabled : r.config.enabled = true)
    (haccepts : ∀ chunk, (Sink.send r.sink chunk).1 = .ok ())
    (hpath : EntityPath.parse path = .ok p) (hsome : batches ≠ [])
    (hfit : ∀ x ∈ batches, x.length ≤ ComponentColumn.maxOffset) :
    ∃ b, recordBatchOf path batches = .ok b ∧ r.Writes (.logStatic path batches) b := by
  have hhands : r.Hands (.logStatic path batches) ⟨p, [], batches.map (·.row)⟩ :=
    hands_logStatic_iff.mpr
      ⟨henabled, p, hpath, by simpa using hsome, Chunk.ofBatches_static p hfit⟩
  obtain ⟨b, hb, -⟩ := (serializes_of_hands hhands).written
  exact ⟨b, recordBatchOf_eq_ok_iff.mpr ⟨p, hpath, hfit, hb⟩,
    writes_of_hands haccepts rfl hhands hb⟩

theorem writes_sendColumns {path : String} {timelines : List TimeColumn}
    {columns : ComponentColumnList} (henabled : r.config.enabled = true)
    (haccepts : ∀ chunk, (Sink.send r.sink chunk).1 = .ok ())
    (h : recordBatchOfColumns path timelines columns = .ok b) :
    r.Writes (.sendColumns path timelines columns) b := by
  rw [recordBatchOfColumns_eq, bind_eq_ok_iff] at h
  obtain ⟨chunk, hchunk, hb⟩ := h
  have hhands : r.Hands (.sendColumns path timelines columns) chunk :=
    hands_sendColumns_iff.mpr ⟨henabled, assembleColumns_eq_ok_iff.mp hchunk⟩
  exact writes_of_hands haccepts rfl hhands (mapError_eq_ok_iff.mp hb)

theorem sendColumns_of_error {path : String} {timelines : List TimeColumn}
    {columns : ComponentColumnList} {e : Error} (henabled : r.config.enabled = true)
    (h : recordBatchOfColumns path timelines columns = .error e) :
    (r.sendColumns path timelines columns).1 = .error e := by
  have hassemble : r.assemble? (.sendColumns path timelines columns) =
      some (assembleColumns path timelines columns) := by
    simp [assemble?, henabled]
  rw [recordBatchOfColumns_eq, bind_eq_error_iff] at h
  rcases h with hmade | ⟨chunk, hmade, hwritten⟩
  · have hperform := r.perform_eq (c := .sendColumns path timelines columns) rfl
    rw [hassemble, hmade] at hperform
    exact congrArg Prod.fst hperform
  · -- A chunk that was made is written out.
    have hhands : r.Hands (.sendColumns path timelines columns) chunk := by
      rw [Hands, hassemble, hmade]
    obtain ⟨b, hb, -⟩ := (serializes_of_hands hhands).written
    cases (mapError_eq_ok_iff.mpr hb).symm.trans hwritten

/-- A call on a recording whose sink takes all hands over the record batch that can be had without
a recording. Static data becomes one row of one column for each batch, which lists the
batch's values, be they none; an absent field becomes no column. Columns fail alike. -/
theorem writes_of_accepts (henabled : r.config.enabled = true)
    (haccepts : ∀ chunk, (Sink.send r.sink chunk).1 = .ok ()) :
    (∀ path p batches, EntityPath.parse path = .ok p → batches ≠ [] →
      (∀ x ∈ batches, x.length ≤ ComponentColumn.maxOffset) →
      ∃ b, recordBatchOf path batches = .ok b ∧ r.Writes (.logStatic path batches) b ∧
        b.rowCount = 1 ∧ b.HoldsRow batches ∧
        ∀ (i : Nat) (hi : i < batches.length), batches[i].isEmpty = true →
          b.columns[i]?.map (·.cells) = some [.list []]) ∧
    (∀ (a : Archetype) (x : a.Instance) path b, recordBatchOf path x.present = .ok b →
      b.columns.map (·.cells) =
        x.batches.toList.filterMap (Option.map fun x => [.list x.array.cells])) ∧
    (∀ path timelines columns b, recordBatchOfColumns path timelines columns = .ok b →
      r.Writes (.sendColumns path timelines columns) b) ∧
    ∀ path timelines columns e, recordBatchOfColumns path timelines columns = .error e ↔
      (r.sendColumns path timelines columns).1 = .error e := by
  refine ⟨?_, ?_, fun _ _ _ _ => writes_sendColumns henabled haccepts, ?_⟩
  · intro path p batches hpath hsome hfit
    obtain ⟨b, hb, hwrites⟩ := exists_writes_logStatic henabled haccepts hpath hsome hfit
    have hholds := holdsRow_of_recordBatchOf hb
    refine ⟨b, hb, hwrites, ?_, hholds, fun i hi => hholds.cells_of_isEmpty hi⟩
    rw [hholds.rowCount_eq, if_neg (by simpa using hsome)]
  · intro a x path b hb
    rw [(holdsRow_of_recordBatchOf hb).cells_eq, Archetype.Instance.present, List.map_filterMap]
    rfl
  · intro path timelines columns e
    refine ⟨sendColumns_of_error henabled, fun hfail => ?_⟩
    cases hb : recordBatchOfColumns path timelines columns with
    | error e' =>
      rw [sendColumns_of_error henabled hb] at hfail
      exact congrArg _ (Except.error.inj hfail)
    | ok b =>
      obtain ⟨chunk, -, hperform⟩ := writes_sendColumns henabled haccepts hb
      cases (congrArg Prod.fst hperform).symm.trans hfail

/-- A batch of two values, and one that clears. -/
def valuesAndClear : List ComponentBatch :=
  [⟨.ofType "Scale", .int64 [some 7, some 8], .primitive⟩, ⟨.ofType "Name", .utf8 [], .primitive⟩]

theorem writes_of_accepts_valuesAndClear :
    let fresh : Recording MemorySink := { sink := {}, config := {} }
    ∃ b, recordBatchOf "world" valuesAndClear = .ok b ∧
      fresh.Writes (.logStatic "world" valuesAndClear) b ∧ b.rowCount = 1 ∧
      b.columns.map (·.cells) = [[.list [.int64 7, .int64 8]], [.list []]] := by
  intro fresh
  obtain ⟨hstatic, -⟩ := writes_of_accepts (r := fresh) rfl fun _ => rfl
  obtain ⟨b, hb, hwrites, hcount, hholds, -⟩ :=
    hstatic "world" ⟨["world"]⟩ valuesAndClear (by rfl) (by simp [valuesAndClear]) (by decide)
  exact ⟨b, hb, hwrites, hcount, hholds.cells_eq⟩

end Recording

end ComponentLog
