import ComponentLog.Proofs.Chunk.Assembly
import ComponentLog.Proofs.Recording.History

/-!
# Chunks of a run

Which calls of a history hand a chunk to the sink, and which chunk it is, told from the
calls before it alone: the stamp of a row has the present times, the number of the rows
stamped before it, and the time of day.

`run_deliveries` says that a run hands over these chunks, in the order of the calls. A
row beyond the offsets is the one call that faults (`perform_of_long`).
-/

namespace ComponentLog

namespace Command

/-- Whether a call hands over a chunk: a row needs a path and a batch, and columns a path and one
number of rows. -/
def delivers : Command → Bool
  | .log path batches _ | .logStatic path batches => loggable path batches
  | .sendColumns path timelines columns =>
    (EntityPath.parse path).isOk && decide (Chunk.Rectangular timelines columns)
  | _ => false

/-- The values of each batch end within the offsets of a row; more of them are a fault
(`Recording.perform_of_long`). -/
def RowsFit : Command → Prop
  | .log _ batches _ | .logStatic _ batches =>
    ∀ b ∈ batches, b.length ≤ ComponentColumn.maxOffset
  | _ => True

instance : DecidablePred RowsFit
  | .log _ batches _ | .logStatic _ batches =>
    inferInstanceAs (Decidable (∀ b ∈ batches, b.length ≤ ComponentColumn.maxOffset))
  | .setTime .. | .setMoment .. | .disableTimeline .. | .resetTime | .sendColumns .. | .flush =>
    inferInstanceAs (Decidable True)

theorem logsRow_eq (c : Command) : c.logsRow = (c.isLog && c.delivers) := by
  cases c <;> rfl

end Command

namespace History

variable {config : RecordingConfig} {past : List Command} {c : Command}

/-! ## The chunk of a call -/

/-- The stamp of the row with the number `k`, logged at the time of day `now`. -/
def rowStamp (config : RecordingConfig) (past : List Command) (k : Nat) (now : Int64) :
    List TimeColumn :=
  (presentTimes past).map (fun e => ⟨e.timeline, e.kind, [e.time]⟩) ++
    (if config.logTick then [⟨Recording.logTickTimeline, .sequence, [Int64.ofNat k]⟩] else []) ++
    (if config.logTime then [⟨Recording.logTimeTimeline, .timestampNanos, [now]⟩] else [])

/-- One row of batches, if there are any and the path is one. -/
def row? (path : String) (timelines : List TimeColumn) (batches : List ComponentBatch) :
    Option Chunk :=
  if batches.isEmpty then none
  else (EntityPath.parse path).toOption.map (⟨·, timelines, batches.map (·.row)⟩)

/-- The chunk that a call hands over after the commands `past`. -/
def chunk? (config : RecordingConfig) (past : List Command) : Command → Option Chunk
  | .log path batches now =>
    row? path (rowStamp config past (past.countP Command.logsRow) now) batches
  | .logStatic path batches => row? path [] batches
  | .sendColumns path timelines columns =>
    if Chunk.Rectangular timelines columns then
      (EntityPath.parse path).toOption.map (⟨·, timelines, columns⟩)
    else none
  | _ => none

/-- The calls among `cs` that hand over a chunk after the commands `past`, each with its chunk. -/
def deliveries (config : RecordingConfig) : (past cs : List Command) → List (Command × Chunk)
  | _, [] => []
  | past, c :: cs =>
    ((chunk? config past c).map (c, ·)).toList ++ deliveries config (past ++ [c]) cs

theorem length_of_mem_rowStamp {k : Nat} {now : Int64} {t : TimeColumn}
    (h : t ∈ rowStamp config past k now) : t.length = 1 := by
  simp only [rowStamp, List.mem_append, List.mem_map] at h
  rcases h with (⟨e, -, rfl⟩ | h) | h
  · rfl
  -- the counter and the time of day, where they are configured
  all_goals
    split at h
    · rw [List.mem_singleton.mp h]
      rfl
    · cases h

theorem isSome_row? (path : String) (timelines : List TimeColumn) (batches : List ComponentBatch) :
    (row? path timelines batches).isSome = loggable path batches := by
  unfold row? loggable
  cases batches.isEmpty with
  | true => simp
  | false => cases EntityPath.parse path <;> rfl

theorem isSome_chunk? (config : RecordingConfig) (past : List Command) (c : Command) :
    (chunk? config past c).isSome = c.delivers := by
  cases c with
  | setTime | setMoment | disableTimeline | resetTime | flush => rfl
  | log path batches now => exact isSome_row? ..
  | logStatic path batches => exact isSome_row? ..
  | sendColumns path timelines columns =>
    simp only [chunk?, Command.delivers]
    by_cases hrect : Chunk.Rectangular timelines columns
    · rw [if_pos hrect, decide_eq_true hrect]
      cases EntityPath.parse path <;> rfl
    · rw [if_neg hrect, decide_eq_false hrect, Bool.and_false]
      rfl

theorem timelines_of_row? {path : String} {timelines : List TimeColumn}
    {batches : List ComponentBatch} {chunk : Chunk}
    (h : row? path timelines batches = some chunk) : chunk.timelines = timelines := by
  unfold row? at h
  split at h
  · cases h
  · obtain ⟨p, -, rfl⟩ := Option.map_eq_some_iff.mp h
    rfl

/-- Batches that fit, with one time on each timeline, are assembled to the row they make. -/
theorem row?_eq {path : String} {timelines : List TimeColumn} {batches : List ComponentBatch}
    (htimes : ∀ t ∈ timelines, t.length = 1)
    (hfit : ∀ b ∈ batches, b.length ≤ ComponentColumn.maxOffset) :
    row? path timelines batches = (assembleRow? path timelines batches).bind Except.toOption := by
  unfold row? assembleRow?
  cases EntityPath.parse path with
  | error e => cases batches.isEmpty <;> rfl
  | ok p =>
    cases batches.isEmpty with
    | true => rfl
    | false =>
      simp only [(Chunk.ofBatches_eq_ok_iff htimes).mpr ⟨hfit, rfl⟩]
      rfl

/-- The history gives the chunk that a call makes up. -/
theorem chunk?_eq {σ : Type} {r : Recording σ} (henabled : r.config.enabled = true)
    (hcursor : r.cursor = presentTimes past)
    (htick : r.tick = Int64.ofNat (past.countP Command.logsRow)) (hfit : c.RowsFit) :
    chunk? r.config past c = (r.assemble? c).bind Except.toOption := by
  unfold Recording.assemble?
  rw [henabled]
  cases c with
  | setTime | setMoment | disableTimeline | resetTime | flush => rfl
  | log path batches now =>
    have hstamp : r.stamp now = rowStamp r.config past (past.countP Command.logsRow) now := by
      rw [Recording.stamp, rowStamp, hcursor, htick]
      rfl
    simp only [chunk?, hstamp]
    exact row?_eq (fun _ => length_of_mem_rowStamp) hfit
  | logStatic path batches => exact row?_eq (by simp) hfit
  | sendColumns path timelines columns =>
    simp only [chunk?, assembleColumns]
    by_cases hrect : Chunk.Rectangular timelines columns
    · rw [if_pos hrect]
      cases EntityPath.parse path with
      | error e => rfl
      | ok p =>
        simp only [bind, Except.bind, Chunk.ofParts_eq p hrect]
        rfl
    · rw [if_neg hrect]
      cases EntityPath.parse path with
      | error e => rfl
      | ok p =>
        cases hparts : Chunk.ofParts p timelines columns with
        | error e =>
          simp only [bind, Except.bind, hparts]
          rfl
        | ok chunk => exact absurd (Chunk.ofParts_eq_ok_iff.mp hparts).1 hrect

theorem assembleRow?_of_long {path : String} (timelines : List TimeColumn)
    {batches : List ComponentBatch} (hloggable : loggable path batches = true)
    (hlong : ¬ ∀ b ∈ batches, b.length ≤ ComponentColumn.maxOffset) :
    ∃ f, assembleRow? path timelines batches = some (.error (.partition (.fault f))) := by
  obtain ⟨p, hpath, hbatches⟩ := loggable_iff.1 hloggable
  push Not at hlong
  obtain ⟨f, hf⟩ := Chunk.ofBatches_of_long p timelines hlong
  refine ⟨f, ?_⟩
  simp only [assembleRow?, hpath, hbatches, hf]
  rfl

/-! ## The chunks of a history -/

theorem deliveries_concat (config : RecordingConfig) (past cs : List Command) (c : Command) :
    deliveries config past (cs ++ [c]) =
      deliveries config past cs ++ ((chunk? config (past ++ cs) c).map (c, ·)).toList := by
  induction cs generalizing past with
  | nil => simp [deliveries]
  | cons d cs ih => simp [deliveries, ih]

/-- Exactly the calls that qualify hand over a chunk, one each and in their order. -/
theorem map_fst_deliveries (config : RecordingConfig) (past cs : List Command) :
    (deliveries config past cs).map Prod.fst = cs.filter Command.delivers := by
  induction cs generalizing past with
  | nil => rfl
  | cons c cs ih =>
    rw [deliveries, List.map_append, ih, List.filter_cons, ← isSome_chunk? config past c]
    cases chunk? config past c <;> rfl

theorem exists_of_mem_deliveries {past cs : List Command} {chunk : Chunk}
    (h : (c, chunk) ∈ deliveries config past cs) :
    ∃ before rest, cs = before ++ c :: rest ∧ chunk? config (past ++ before) c = some chunk := by
  induction cs generalizing past with
  | nil => cases h
  | cons d cs ih =>
    rw [deliveries, List.mem_append] at h
    rcases h with h | h
    · obtain ⟨last, hlast, heq⟩ := Option.map_eq_some_iff.mp (Option.mem_toList.mp h)
      cases heq
      exact ⟨[], cs, rfl, by rwa [List.append_nil]⟩
    · obtain ⟨before, rest, rfl, hchunk⟩ := ih h
      exact ⟨d :: before, rest, rfl, by rwa [List.append_cons]⟩

/-- As many rows were handed over as calls stamped one. -/
theorem countP_isLog_deliveries (config : RecordingConfig) (past cs : List Command) :
    ((deliveries config past cs).filter (·.1.isLog)).length = cs.countP Command.logsRow := by
  calc ((deliveries config past cs).filter (·.1.isLog)).length
      = ((deliveries config past cs).map Prod.fst).countP Command.isLog := by
        rw [List.countP_map, List.countP_eq_length_filter]
        rfl
    _ = cs.countP fun c => c.isLog && c.delivers := by
        rw [map_fst_deliveries, List.countP_filter]
    _ = cs.countP Command.logsRow := by
        rw [← funext Command.logsRow_eq]

/-- The row with the number `k` was logged after `k` other rows. -/
theorem exists_of_getElem?_logged {past cs : List Command} {k : Nat} {chunk : Chunk}
    (h : ((deliveries config past cs).filter (·.1.isLog))[k]? = some (c, chunk)) :
    ∃ before rest, cs = before ++ c :: rest ∧ before.countP Command.logsRow = k ∧
      chunk? config (past ++ before) c = some chunk := by
  induction cs using List.reverseRecOn with
  | nil => simp [deliveries] at h
  | append_singleton cs d ih =>
    rw [deliveries_concat, List.filter_append] at h
    rcases Nat.lt_or_ge k ((deliveries config past cs).filter (·.1.isLog)).length with hk | hk
    · rw [List.getElem?_append_left hk] at h
      obtain ⟨before, rest, rfl, hcount, hchunk⟩ := ih h
      exact ⟨before, rest ++ [d], by simp, hcount, hchunk⟩
    · rw [List.getElem?_append_right hk] at h
      cases hchunk : chunk? config (past ++ cs) d with
      | none => simp [hchunk] at h
      | some last =>
        cases hlog : d.isLog with
        | false => simp [hchunk, hlog] at h
        | true =>
          have hlast : [(d, last)].filter (·.1.isLog) = [(d, last)] := by simp [hlog]
          rw [hchunk, Option.map_some, Option.toList_some, hlast, List.getElem?_singleton] at h
          split at h
          · rename_i hzero
            cases h
            refine ⟨cs, [], rfl, ?_, hchunk⟩
            rw [countP_isLog_deliveries] at hk hzero
            omega
          · cases h

end History

/-! ## Recordings -/

/-- A sink that was sent chunks one after the other. -/
def Sink.sendAll {σ : Type} [Sink σ] (s : σ) (chunks : List Chunk) : σ :=
  chunks.foldl (fun s chunk => (Sink.send s chunk).2) s

theorem Sink.sendAll_append {σ : Type} [Sink σ] (s : σ) (chunks chunks' : List Chunk) :
    sendAll s (chunks ++ chunks') = sendAll (sendAll s chunks) chunks' := List.foldl_append

/-- A sink that keeps chunks has received them. -/
theorem MemorySink.sendAll_eq (s : MemorySink) (chunks : List Chunk) :
    Sink.sendAll s chunks = ⟨s.chunks ++ chunks⟩ := by
  induction chunks generalizing s with
  | nil => simp [Sink.sendAll]
  | cons chunk chunks ih =>
    rw [Sink.sendAll, List.foldl_cons, ← Sink.sendAll, ih]
    simp [Sink.send]

namespace Recording

open History

variable {σ : Type} [Sink σ] (r : Recording σ)

/-- The count of rows is that of the history. -/
theorem tick_run (henabled : r.config.enabled = true) (htick : r.tick = 0) (cs : List Command) :
    (r.run cs).tick = Int64.ofNat (cs.countP Command.logsRow) := by
  induction cs using List.reverseRecOn with
  | nil => exact htick
  | append_singleton cs c ih =>
    have henabled' : (r.run cs).config.enabled = true := by rw [run_config, henabled]
    rw [run_concat, perform_tick _ henabled', ih, List.countP_append, List.countP_singleton]
    cases c.logsRow with
    | true => exact (Int64.ofNat_add _ _).symm
    | false => rfl

/-- A row that does not fit is a fault, and nothing is handed over. -/
theorem perform_of_long {c : Command} (henabled : r.config.enabled = true)
    (hdelivers : c.delivers = true) (hlong : ¬ c.RowsFit) :
    ∃ f, (r.perform c).1 = .error (.partition (.fault f)) ∧ (r.perform c).2.sink = r.sink := by
  obtain ⟨hdata, f, hf⟩ : c.carriesData = true ∧
      ∃ f, r.assemble? c = some (.error (.partition (.fault f))) := by
    unfold assemble?
    rw [henabled]
    cases c with
    | setTime | setMoment | disableTimeline | resetTime | sendColumns | flush =>
      exact absurd trivial hlong
    | log path batches now => exact ⟨rfl, assembleRow?_of_long (r.stamp now) hdelivers hlong⟩
    | logStatic path batches => exact ⟨rfl, assembleRow?_of_long [] hdelivers hlong⟩
  rw [r.perform_eq hdata, hf]
  exact ⟨f, rfl, rfl⟩

/-- A call sends the chunk that the history gives, if there is one. -/
theorem perform_sink {past : List Command} {c : Command} (henabled : r.config.enabled = true)
    (hcursor : r.cursor = presentTimes past)
    (htick : r.tick = Int64.ofNat (past.countP Command.logsRow)) (hfit : c.RowsFit)
    (hflush : c ≠ .flush) :
    (r.perform c).2.sink = Sink.sendAll r.sink (chunk? r.config past c).toList := by
  by_cases hdata : c.carriesData = true
  · rw [r.perform_eq hdata, chunk?_eq henabled hcursor htick hfit]
    rcases r.assemble? c with _ | e | chunk <;> rfl
  · cases c with
    | setTime | setMoment | disableTimeline | resetTime => rfl
    | flush => exact absurd rfl hflush
    | log | logStatic | sendColumns => exact absurd rfl hdata

theorem sink_run (henabled : r.config.enabled = true) (hcursor : r.cursor = []) (htick : r.tick = 0)
    {cs : List Command} (hfit : ∀ c ∈ cs, c.RowsFit) (hflush : Command.flush ∉ cs) :
    (r.run cs).sink = Sink.sendAll r.sink ((deliveries r.config [] cs).map Prod.snd) := by
  induction cs using List.reverseRecOn with
  | nil => rfl
  | append_singleton cs c ih =>
    rw [List.forall_mem_append, List.forall_mem_singleton] at hfit
    rw [List.mem_append, List.mem_singleton, not_or] at hflush
    have hstep := (r.run cs).perform_sink (by rw [run_config, henabled]) (r.cursor_run hcursor cs)
      (r.tick_run henabled htick cs) hfit.2 (Ne.symm hflush.2)
    rw [run_concat, hstep, ih hfit.1 hflush.1, run_config, deliveries_concat, List.nil_append,
      List.map_append, Sink.sendAll_append]
    cases chunk? r.config cs c <;> rfl

/-- A run hands over one chunk for each call that qualifies, in the order of the calls, and
nothing else reaches the sink, whatever the sink makes of it. The row with the number `k` is
stamped with the present times and with `k`, static data has no times. Only a row that is stamped
counts, and a call that carries data leaves the cursor as it is. -/
theorem run_deliveries (sink : σ) {config : RecordingConfig} (henabled : config.enabled = true)
    {cs : List Command} (hfit : ∀ c ∈ cs, c.RowsFit) (hflush : Command.flush ∉ cs) :
    let fresh : Recording σ := { sink, config }
    (fresh.run cs).sink = Sink.sendAll sink ((deliveries config [] cs).map Prod.snd) ∧
    (deliveries config [] cs).map Prod.fst = cs.filter Command.delivers ∧
    (∀ k c chunk, ((deliveries config [] cs).filter (·.1.isLog))[k]? = some (c, chunk) →
      ∃ past rest path batches now, cs = past ++ c :: rest ∧ past.countP Command.logsRow = k ∧
        c = .log path batches now ∧ chunk.timelines = rowStamp config past k now) ∧
    (∀ path batches chunk, (.logStatic path batches, chunk) ∈ deliveries config [] cs →
      chunk.timelines = []) ∧
    ∀ past c rest, cs = past ++ c :: rest →
      (c.logsRow = false → (fresh.run (past ++ [c])).tick = (fresh.run past).tick) ∧
      (c.carriesData = true → (fresh.run (past ++ [c])).cursor = (fresh.run past).cursor) := by
  intro fresh
  refine ⟨fresh.sink_run henabled rfl rfl hfit hflush, map_fst_deliveries config [] cs, ?_, ?_, ?_⟩
  · intro k c chunk hk
    obtain ⟨past, rest, hcs, rfl, hchunk⟩ := exists_of_getElem?_logged hk
    have hlog : c.isLog = true := (List.mem_filter.mp (List.mem_of_getElem? hk)).2
    cases c with
    | log path batches now =>
      exact ⟨past, rest, path, batches, now, hcs, rfl, rfl, timelines_of_row? hchunk⟩
    | setTime | setMoment | disableTimeline | resetTime | logStatic | sendColumns | flush =>
      cases hlog
  · intro path batches chunk hmem
    obtain ⟨before, rest, -, hchunk⟩ := exists_of_mem_deliveries hmem
    exact timelines_of_row? hchunk
  · intro past c rest _
    rw [run_concat]
    constructor
    · intro hrow
      rw [perform_tick _ (by rw [run_config]; exact henabled), hrow]
      rfl
    · intro hdata
      exact perform_cursor_of_carriesData _ hdata

/-- One value logged on a frame, for all times, on the frame again and on no frame, with one bad
path in between. -/
def threeRows : List Command :=
  let batches : List ComponentBatch := [⟨.ofType "Scale", .int64 [some 7], .primitive⟩]
  [.setTime "frame" .sequence 41, .setTime "frame" .sequence 42, .log "world" batches 0,
    .logStatic "world" batches, .log "world//x" batches 0, .log "world" batches 0,
    .disableTimeline "frame", .log "world" batches 0]

theorem run_deliveries_threeRows :
    (∀ c ∈ threeRows, c.RowsFit) ∧ Command.flush ∉ threeRows ∧
    (({ sink := {}, config := { logTime := false } } : Recording MemorySink).run
      threeRows).sink.chunks.map (·.timelines) =
      [[⟨"frame", .sequence, [42]⟩, ⟨"log_tick", .sequence, [0]⟩], [],
        [⟨"frame", .sequence, [42]⟩, ⟨"log_tick", .sequence, [1]⟩],
        [⟨"log_tick", .sequence, [2]⟩]] := by
  have hfit : ∀ c ∈ threeRows, c.RowsFit := by decide
  have hflush : Command.flush ∉ threeRows := by simp [threeRows]
  obtain ⟨hsink, -⟩ := @run_deliveries MemorySink _ {} { logTime := false } rfl _ hfit hflush
  refine ⟨hfit, hflush, ?_⟩
  rw [hsink, MemorySink.sendAll_eq]
  decide

end Recording

end ComponentLog
