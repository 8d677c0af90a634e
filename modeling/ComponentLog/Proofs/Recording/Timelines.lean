import ComponentLog.Proofs.Recording.Handover
import ComponentLog.Proofs.Recording.History

/-!
# Distinct timelines

The cursor has each timeline once, whatever its history (`nodup_cursor_run`). The
timelines that a recording keeps by itself are put after those of the cursor and are not
looked for among them: a row has two columns of one timeline exactly where the name of
such a timeline was set by hand (`nodup_stamp_iff`).
-/

namespace ComponentLog

/-! ## The cursor -/

namespace TimeCursor

def timelines (c : TimeCursor) : List String := c.map (·.timeline)

theorem timelines_map_set (c : TimeCursor) (e : TimeEntry) :
    timelines (c.map fun old => if old.timeline = e.timeline then e else old) = c.timelines := by
  unfold timelines
  rw [List.map_map]
  refine List.map_congr_left fun old _ => ?_
  by_cases h : old.timeline = e.timeline <;> simp [h]

/-- Setting a timeline puts it into the cursor once. -/
theorem nodup_timelines_set {c : TimeCursor} (h : c.timelines.Nodup) (e : TimeEntry) :
    (c.set e).timelines.Nodup := by
  unfold set
  split
  · rwa [timelines_map_set]
  · rename_i hnew
    have hfresh : e.timeline ∉ c.timelines := by
      simpa [timelines] using hnew
    rw [timelines, List.map_append, List.map_singleton, ← timelines]
    refine List.nodup_append.mpr ⟨h, by simp, fun t ht s hs => ?_⟩
    rw [List.mem_singleton.mp hs]
    exact fun heq => hfresh (heq ▸ ht)

theorem nodup_timelines_filter {c : TimeCursor} (h : c.timelines.Nodup) (p : TimeEntry → Bool) :
    (timelines (c.filter p)).Nodup :=
  h.sublist (List.filter_sublist.map _)

end TimeCursor

namespace History

/-- A timeline is present while it has a latest time. -/
theorem mem_timelines_presentTimes_iff {timeline : String} {past : List Command} :
    timeline ∈ (presentTimes past).timelines ↔ (latest? timeline past).isSome = true := by
  rw [TimeCursor.timelines, List.mem_map, Option.isSome_iff_exists]
  constructor
  · rintro ⟨e, hmem, rfl⟩
    exact ⟨e, mem_presentTimes_iff.mp hmem⟩
  · rintro ⟨e, hlatest⟩
    obtain rfl := timeline_of_latest? hlatest
    exact ⟨e, mem_presentTimes_iff.mpr hlatest, rfl⟩

end History

/-! ## Rows -/

/-- The timelines that a recording keeps by itself. -/
def RecordingConfig.ownTimelines (config : RecordingConfig) : List String :=
  (if config.logTick then [Recording.logTickTimeline] else []) ++
    (if config.logTime then [Recording.logTimeTimeline] else [])

theorem RecordingConfig.nodup_ownTimelines (config : RecordingConfig) :
    config.ownTimelines.Nodup := by
  unfold ownTimelines
  cases config.logTick <;> cases config.logTime <;> decide

namespace Recording

open History

variable {σ : Type}

/-- The columns of the timelines that the recording keeps by itself. -/
def ownColumns (r : Recording σ) (now : Int64) : List TimeColumn :=
  (if r.config.logTick then [⟨logTickTimeline, .sequence, [r.tick]⟩] else []) ++
    (if r.config.logTime then [⟨logTimeTimeline, .timestampNanos, [now]⟩] else [])

theorem stamp_eq (r : Recording σ) (now : Int64) :
    r.stamp now = r.cursor.columns ++ r.ownColumns now := List.append_assoc _ _ _

theorem map_timeline_ownColumns (r : Recording σ) (now : Int64) :
    (r.ownColumns now).map (·.timeline) = r.config.ownTimelines := by
  unfold ownColumns RecordingConfig.ownTimelines
  cases r.config.logTick <;> cases r.config.logTime <;> rfl

theorem map_timeline_stamp (r : Recording σ) (now : Int64) :
    (r.stamp now).map (·.timeline) = r.cursor.timelines ++ r.config.ownTimelines := by
  rw [stamp_eq, List.map_append, map_timeline_ownColumns, TimeCursor.columns, List.map_map]
  rfl

/-- A stamp has each timeline once unless the cursor has one of the recording's own. -/
theorem nodup_stamp_iff {r : Recording σ} (hcursor : r.cursor.timelines.Nodup) (now : Int64) :
    ((r.stamp now).map (·.timeline)).Nodup ↔
      ∀ timeline ∈ r.config.ownTimelines, timeline ∉ r.cursor.timelines := by
  rw [map_timeline_stamp, List.nodup_append]
  constructor
  · rintro ⟨-, -, hother⟩ timeline hown hset
    exact hother timeline hset timeline hown rfl
  · intro hother
    refine ⟨hcursor, r.config.nodup_ownTimelines, fun s hs t ht heq => ?_⟩
    exact hother t ht (heq ▸ hs)

/-- The chunk of a row or of static data has each timeline once unless the cursor has one of the
recording's own as the row is logged. -/
theorem nodup_timelines_of_hands {r : Recording σ} {c : Command} {chunk : Chunk}
    (hcursor : r.cursor.timelines.Nodup) (h : r.Hands c chunk)
    (hcolumns : ∀ path timelines columns, c ≠ .sendColumns path timelines columns) :
    (chunk.timelines.map (·.timeline)).Nodup ↔
      (c.isLog = true → ∀ timeline ∈ r.config.ownTimelines, timeline ∉ r.cursor.timelines) := by
  cases c with
  | setTime | setMoment | disableTimeline | resetTime | flush => cases h.carriesData
  | sendColumns path timelines columns => exact absurd rfl (hcolumns path timelines columns)
  | log path batches now =>
    obtain ⟨-, p, -, -, hchunk⟩ := hands_log_iff.mp h
    rw [Chunk.timelines_of_ofBatches hchunk, nodup_stamp_iff hcursor]
    exact ⟨fun hother _ => hother, fun hother => hother rfl⟩
  | logStatic path batches =>
    obtain ⟨-, p, -, -, hchunk⟩ := hands_logStatic_iff.mp h
    rw [Chunk.timelines_of_ofBatches hchunk]
    exact ⟨fun _ hlog => Bool.noConfusion hlog, fun _ => List.nodup_nil⟩

variable [Sink σ] (r : Recording σ)

theorem nodup_cursor_run (h : r.cursor.timelines.Nodup) (cs : List Command) :
    (r.run cs).cursor.timelines.Nodup := by
  induction cs generalizing r with
  | nil => exact h
  | cons c cs ih =>
    refine ih _ ?_
    cases hset : c.setting? with
    | some e =>
      rw [perform_cursor_of_setting? _ hset]
      exact TimeCursor.nodup_timelines_set h e
    | none =>
      rw [perform_cursor_of_none _ hset]
      exact TimeCursor.nodup_timelines_filter h _

/-- A run without columns sent hands over chunks with each timeline once, exactly if no row is
handed over while one of the recording's own timelines is set by hand. -/
theorem nodup_timelines_run_iff (sink : σ) (config : RecordingConfig) {cs : List Command}
    (hcolumns : ∀ path timelines columns, .sendColumns path timelines columns ∉ cs) :
    let fresh : Recording (WatchedSink σ) := { sink := { inner := sink }, config }
    (∀ chunk ∈ (fresh.run cs).sink.sent, (chunk.timelines.map (·.timeline)).Nodup) ↔
      ∀ past path batches now rest chunk, cs = past ++ .log path batches now :: rest →
        (fresh.run past).Hands (.log path batches now) chunk →
        ∀ timeline ∈ config.ownTimelines, latest? timeline past = none := by
  intro fresh
  have hcursor : ∀ past, (fresh.run past).cursor.timelines.Nodup :=
    nodup_cursor_run fresh List.nodup_nil
  have hpresent : ∀ past timeline, timeline ∉ (fresh.run past).cursor.timelines ↔
      latest? timeline past = none := by
    intro past timeline
    rw [fresh.cursor_run rfl, mem_timelines_presentTimes_iff, Option.not_isSome_iff_eq_none]
  constructor
  · intro hdistinct past path batches now rest chunk hcs hhands timeline hown
    have hsent : chunk ∈ (fresh.run cs).sink.sent :=
      (fresh.mem_sent_run_iff cs).mpr (.inr ⟨past, _, rest, hcs, hhands⟩)
    rw [← hpresent]
    refine (nodup_timelines_of_hands (hcursor past) hhands (by simp)).mp (hdistinct chunk hsent)
      rfl timeline ?_
    rwa [run_config]
  · intro hown chunk hsent
    rcases (fresh.mem_sent_run_iff cs).mp hsent with hbefore | ⟨past, c, rest, hcs, hhands⟩
    · cases hbefore
    rw [nodup_timelines_of_hands (hcursor past) hhands]
    · intro hlog timeline hmem
      rw [run_config] at hmem
      rw [hpresent]
      cases c with
      | log path batches now => exact hown past path batches now rest chunk hcs hhands timeline hmem
      | setTime | setMoment | disableTimeline | resetTime | logStatic | sendColumns | flush =>
        cases hlog
    · rintro path timelines columns rfl
      exact hcolumns path timelines columns (by simp [hcs])

/-- A row logged while the timeline of the row count is set by hand. -/
def shadowedCount : List Command :=
  [.setTime logTickTimeline .sequence 5,
    .log "world" [⟨.ofType "Scale", .int64 [some 7], .primitive⟩] 0]

theorem nodup_timelines_run_iff_shadowedCount :
    (∀ path timelines columns, .sendColumns path timelines columns ∉ shadowedCount) ∧
    ¬ ∀ chunk ∈ (({ sink := { inner := {} }, config := {} } :
        Recording (WatchedSink MemorySink)).run shadowedCount).sink.sent,
      (chunk.timelines.map (·.timeline)).Nodup := by
  have hcolumns : ∀ path timelines columns,
      .sendColumns path timelines columns ∉ shadowedCount := by
    simp [shadowedCount]
  refine ⟨hcolumns, fun hdistinct => ?_⟩
  have hnone := (nodup_timelines_run_iff ({} : MemorySink) {} hcolumns).mp hdistinct
    [.setTime logTickTimeline .sequence 5] "world" _ 0 [] _ rfl rfl logTickTimeline (by decide)
  exact absurd hnone (by decide)

/-- That row goes to the sink with two columns of one timeline. -/
theorem timelines_run_shadowedCount :
    (({ sink := {}, config := { logTime := false } } : Recording MemorySink).run
      shadowedCount).sink.chunks.map (·.timelines) =
        [[⟨"log_tick", .sequence, [5]⟩, ⟨"log_tick", .sequence, [0]⟩]] ∧
    ¬ ∀ chunk ∈ (({ sink := {}, config := { logTime := false } } : Recording MemorySink).run
        shadowedCount).sink.chunks, (chunk.timelines.map (·.timeline)).Nodup := by
  decide

end Recording

end ComponentLog
