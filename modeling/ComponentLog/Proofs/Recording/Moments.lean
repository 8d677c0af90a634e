import ComponentLog.Proofs.Recording.Timelines

/-!
# Moments set and logged

A timeline keeps the time it was set to while commands leave it alone (`shows_run`), and a row that
is logged meanwhile has this time on it (`tellsTime_of_hands`). A moment is set as its number of
nanoseconds, or as zero where 64 bits do not hold that number. So rows logged at two moments have
times in the order of the moments as long as both are held, and of a moment that is not held the
row says that it was the start of 1970 (`RowAt.time_lt_iff`).
-/

namespace ComponentLog

/-! ## Moments as times -/

namespace Moment

variable {m₁ m₂ : Moment}

/-- One moment before another. A leap second is the second before it, with more nanoseconds than a
second has. -/
def Before (m₁ m₂ : Moment) : Prop :=
  m₁.seconds < m₂.seconds ∨ m₁.seconds = m₂.seconds ∧ m₁.nanoseconds < m₂.nanoseconds

/-- Nanoseconds since the start of 1970, negative before. -/
def count (m : Moment) : Int := m.seconds * 1000000000 + m.nanoseconds

/-- The count fits 64 bits with sign. -/
def Held (m : Moment) : Prop := -9223372036854775808 ≤ m.count ∧ m.count ≤ 9223372036854775807

/-- The time that a timeline is set to for a moment. -/
def time (m : Moment) : Int64 := m.nanos?.getD 0

/-- Two moments that are set as ascending times: by their counts, as long as they are held. -/
def Ascending (m₁ m₂ : Moment) : Prop :=
  m₁.Held ∧ m₂.Held ∧ m₁.count < m₂.count ∨
  m₁.Held ∧ ¬ m₂.Held ∧ m₁.count < 0 ∨
  ¬ m₁.Held ∧ m₂.Held ∧ 0 < m₂.count

/-- The count ascends from any moment that is not in a leap second. -/
theorem Before.count_lt (h : m₁.Before m₂) (hleap : m₁.nanoseconds < 1000000000) :
    m₁.count < m₂.count := by
  unfold count
  rcases h with h | ⟨h, hnanos⟩
  · omega
  · omega

theorem Held.toInt_time {m : Moment} (h : m.Held) : m.time.toInt = m.count := by
  have hnanos : m.nanos? = some (.ofInt m.count) := if_pos h
  rw [time, hnanos, Option.getD_some]
  exact Int64.toInt_ofInt_of_le h.1 (Int.lt_of_le_sub_one h.2)

theorem toInt_time_of_not_held {m : Moment} (h : ¬ m.Held) : m.time.toInt = 0 := by
  have hnanos : m.nanos? = none := if_neg h
  rw [time, hnanos, Option.getD_none, Int64.toInt_zero]

theorem time_lt_time_iff : m₁.time < m₂.time ↔ m₁.Ascending m₂ := by
  rw [Int64.lt_iff_toInt_lt, Ascending]
  by_cases h₁ : m₁.Held <;> by_cases h₂ : m₂.Held
  · rw [h₁.toInt_time, h₂.toInt_time]
    simp [h₁, h₂]
  · rw [h₁.toInt_time, toInt_time_of_not_held h₂]
    simp [h₁, h₂]
  · rw [toInt_time_of_not_held h₁, h₂.toInt_time]
    simp [h₁, h₂]
  · rw [toInt_time_of_not_held h₁, toInt_time_of_not_held h₂]
    simp [h₁, h₂]

end Moment

/-! ## The entry of a timeline -/

namespace TimeCursor

variable {cursor : TimeCursor} {e other : TimeEntry}

/-- The cursor has the entry, and no other on its timeline. -/
def Shows (cursor : TimeCursor) (e : TimeEntry) : Prop :=
  e ∈ cursor ∧ ∀ old ∈ cursor, old.timeline = e.timeline → old = e

/-- Setting an entry puts it in the place of all entries on its timeline. -/
theorem mem_set_iff {new : TimeEntry} :
    new ∈ cursor.set e ↔ new = e ∨ new ∈ cursor ∧ new.timeline ≠ e.timeline := by
  unfold set
  split
  · rename_i hany
    obtain ⟨old, hold, htimeline⟩ := List.any_eq_true.mp hany
    rw [List.mem_map]
    constructor
    · rintro ⟨kept, hkept, rfl⟩
      by_cases hsame : kept.timeline = e.timeline
      · exact .inl (if_pos hsame)
      · rw [if_neg hsame]
        exact .inr ⟨hkept, hsame⟩
    · rintro (rfl | ⟨hnew, hother⟩)
      · exact ⟨old, hold, if_pos (of_decide_eq_true htimeline)⟩
      · exact ⟨new, hnew, if_neg hother⟩
  · rename_i hnone
    have hother : ∀ old ∈ cursor, old.timeline ≠ e.timeline := by simpa using hnone
    rw [List.mem_append, List.mem_singleton, or_comm]
    exact or_congr_right ⟨fun hnew => ⟨hnew, hother new hnew⟩, And.left⟩

theorem shows_set (cursor : TimeCursor) (e : TimeEntry) : (cursor.set e).Shows e := by
  refine ⟨mem_set_iff.mpr (.inl rfl), fun old hold htimeline => ?_⟩
  rcases mem_set_iff.mp hold with rfl | ⟨-, hother⟩
  · rfl
  · exact absurd htimeline hother

theorem Shows.set (h : cursor.Shows e) (hother : other.timeline ≠ e.timeline) :
    (cursor.set other).Shows e := by
  refine ⟨mem_set_iff.mpr (.inr ⟨h.1, Ne.symm hother⟩), fun old hold htimeline => ?_⟩
  rcases mem_set_iff.mp hold with rfl | ⟨hold, -⟩
  · exact absurd htimeline hother
  · exact h.2 old hold htimeline

theorem Shows.filter (h : cursor.Shows e) {p : TimeEntry → Bool} (hp : p e = true) :
    Shows (cursor.filter p) e :=
  ⟨List.mem_filter.mpr ⟨h.1, hp⟩, fun old hold => h.2 old (List.mem_filter.mp hold).1⟩

theorem Shows.find?_eq (h : cursor.Shows e) : cursor.find? (·.timeline = e.timeline) = some e := by
  cases hfind : cursor.find? (·.timeline = e.timeline) with
  | none => exact absurd (decide_eq_true rfl) (List.find?_eq_none.mp hfind e h.1)
  | some old =>
    have htimeline := List.find?_some hfind
    rw [h.2 old (List.mem_of_find?_eq_some hfind) (of_decide_eq_true htimeline)]

end TimeCursor

/-- The command neither sets the timeline nor removes it. -/
def Command.Spares (c : Command) (timeline : String) : Prop :=
  c.settingOn? timeline = none ∧ c.removes timeline = false

namespace Recording

variable {σ : Type} {r : Recording σ} {e : TimeEntry}

/-! ## The time of a row -/

/-- A column of the chunk that comes before all others on its timeline, and is the only one there
unless the recording keeps a timeline of that name by itself. -/
structure TellsTime (config : RecordingConfig) (chunk : Chunk) (t : TimeColumn) : Prop where
  first : chunk.timelines.find? (·.timeline = t.timeline) = some t
  only : t.timeline ∉ config.ownTimelines → ∀ s ∈ chunk.timelines, s.timeline = t.timeline → s = t

theorem find?_stamp (h : r.cursor.Shows e) (now : Int64) :
    (r.stamp now).find? (·.timeline = e.timeline) = some ⟨e.timeline, e.kind, [e.time]⟩ := by
  have hcolumns : r.cursor.columns.find? (·.timeline = e.timeline) =
      some ⟨e.timeline, e.kind, [e.time]⟩ := by
    rw [TimeCursor.columns, List.find?_map]
    exact congrArg (Option.map _) h.find?_eq
  rw [stamp_eq, List.find?_append, hcolumns]
  rfl

theorem eq_of_mem_stamp (h : r.cursor.Shows e) (hown : e.timeline ∉ r.config.ownTimelines)
    {now : Int64} {t : TimeColumn} (ht : t ∈ r.stamp now) (htimeline : t.timeline = e.timeline) :
    t = ⟨e.timeline, e.kind, [e.time]⟩ := by
  rw [stamp_eq, List.mem_append] at ht
  rcases ht with ht | ht
  · obtain ⟨old, hold, rfl⟩ := List.mem_map.mp ht
    rw [h.2 old hold htimeline]
  · refine absurd ?_ hown
    rw [← htimeline, ← map_timeline_ownColumns r now]
    exact List.mem_map_of_mem ht

/-- A row that is handed over has the present time of the timeline. -/
theorem tellsTime_of_hands (h : r.cursor.Shows e) {path : String} {batches : List ComponentBatch}
    {now : Int64} {chunk : Chunk} (hhands : r.Hands (.log path batches now) chunk) :
    TellsTime r.config chunk ⟨e.timeline, e.kind, [e.time]⟩ := by
  obtain ⟨-, p, -, -, hchunk⟩ := hands_log_iff.mp hhands
  have htimelines := Chunk.timelines_of_ofBatches hchunk
  constructor
  · rw [htimelines]
    exact find?_stamp h now
  · rw [htimelines]
    exact fun hown t => eq_of_mem_stamp h hown

/-! ## A timeline left alone -/

variable [Sink σ]

/-- The time of a timeline outlives a command that leaves the timeline alone. -/
theorem shows_perform (h : r.cursor.Shows e) {c : Command} (hc : c.Spares e.timeline) :
    (r.perform c).2.cursor.Shows e := by
  cases hset : c.setting? with
  | some other =>
    rw [perform_cursor_of_setting? r hset]
    refine h.set fun heq => ?_
    -- a setting of this timeline is what the command was not to be
    have hsetting := Command.settingOn?_eq_some_iff.mpr ⟨hset, heq⟩
    rw [hc.1] at hsetting
    cases hsetting
  | none =>
    rw [perform_cursor_of_none r hset]
    exact h.filter (by rw [hc.2]; rfl)

theorem shows_run (h : r.cursor.Shows e) {cs : List Command}
    (hcs : ∀ c ∈ cs, c.Spares e.timeline) : (r.run cs).cursor.Shows e := by
  induction cs generalizing r with
  | nil => exact h
  | cons c cs ih =>
    rw [List.forall_mem_cons] at hcs
    exact ih (shows_perform h hcs.1) hcs.2

/-! ## Rows at moments -/

/-- A row logged at a moment: a timeline is set to the moment and left alone until a row is logged
with success. -/
structure RowAt (σ : Type) [Sink σ] (timeline : String) (m : Moment) where
  /-- the recording as the timeline is set -/
  start : Recording σ
  /-- the commands between the setting and the row -/
  quiet : List Command
  path : String
  batches : List ComponentBatch
  /-- the time of day -/
  now : Int64
  enabled : start.config.enabled = true
  spares : ∀ c ∈ quiet, c.Spares timeline
  batches_ne_nil : batches ≠ []
  ok : ((start.run (.setMoment timeline m :: quiet)).perform (.log path batches now)).1 = .ok ()

namespace RowAt

variable {timeline : String} {m m₁ m₂ : Moment}

/-- The recording as the row is logged. -/
def state (x : RowAt σ timeline m) : Recording σ := x.start.run (.setMoment timeline m :: x.quiet)

def call (x : RowAt σ timeline m) : Command := .log x.path x.batches x.now

theorem shows_state (x : RowAt σ timeline m) :
    x.state.cursor.Shows ⟨timeline, .timestampNanos, m.time⟩ := by
  have hset : (x.start.setMoment timeline m).cursor.Shows ⟨timeline, .timestampNanos, m.time⟩ :=
    TimeCursor.shows_set x.start.cursor _
  exact shows_run hset x.spares

/-- The row goes to the sink with the time of the moment on the timeline. -/
theorem exists_chunk (x : RowAt σ timeline m) :
    ∃ chunk, x.state.Hands x.call chunk ∧
      TellsTime x.start.config chunk ⟨timeline, .timestampNanos, [m.time]⟩ := by
  have hconfig : x.state.config = x.start.config := run_config x.start _
  obtain ⟨chunk, hhands⟩ := exists_hands_of_ok (hconfig ▸ x.enabled) x.batches_ne_nil x.ok
  have htells := tellsTime_of_hands x.shows_state hhands
  rw [hconfig] at htells
  exact ⟨chunk, hhands, htells⟩

/-- Of two rows logged at moments, in whatever states of a recording, the second has the greater
time exactly where the moments are set as ascending times. It has if they come in this order, are
both held in 64 bits, and the first is not in a leap second. -/
theorem time_lt_iff (x : RowAt σ timeline m₁) (y : RowAt σ timeline m₂) :
    ∃ chunk₁ chunk₂ t₁ t₂, x.state.Hands x.call chunk₁ ∧ y.state.Hands y.call chunk₂ ∧
      TellsTime x.start.config chunk₁ ⟨timeline, .timestampNanos, [t₁]⟩ ∧
      TellsTime y.start.config chunk₂ ⟨timeline, .timestampNanos, [t₂]⟩ ∧
      (t₁ < t₂ ↔ m₁.Ascending m₂) ∧
      (m₁.Before m₂ → m₁.nanoseconds < 1000000000 → m₁.Held → m₂.Held → t₁ < t₂) := by
  obtain ⟨chunk₁, hhands₁, htells₁⟩ := x.exists_chunk
  obtain ⟨chunk₂, hhands₂, htells₂⟩ := y.exists_chunk
  refine ⟨chunk₁, chunk₂, m₁.time, m₂.time, hhands₁, hhands₂, htells₁, htells₂,
    Moment.time_lt_time_iff, fun hbefore hleap hheld₁ hheld₂ => ?_⟩
  exact Moment.time_lt_time_iff.mpr (.inl ⟨hheld₁, hheld₂, hbefore.count_lt hleap⟩)

/-- A batch to log. -/
def oneValue : ComponentBatch := ⟨.ofType "Scale", .int64 [some 7], .primitive⟩

/-- A row logged at the start of 1999, with another timeline set in between. -/
def of1999 : RowAt MemorySink "t" ⟨915148800, 0⟩ where
  start := { sink := {}, config := {} }
  quiet := [.setTime "frame" .sequence 3]
  path := "world"
  batches := [oneValue]
  now := 0
  enabled := rfl
  spares := by simp [Command.Spares, Command.settingOn?, Command.setting?, Command.removes]
  batches_ne_nil := nofun
  ok := by decide

/-- The next row, logged at the start of 2000. -/
def of2000 : RowAt MemorySink "t" ⟨946684800, 0⟩ where
  start := (of1999.state.perform of1999.call).2
  quiet := []
  path := "world"
  batches := [oneValue]
  now := 0
  enabled := by decide
  spares := nofun
  batches_ne_nil := nofun
  ok := by decide

theorem time_lt_iff_newYears :
    ∃ chunk₁ chunk₂ t₁ t₂, of1999.state.Hands of1999.call chunk₁ ∧
      of2000.state.Hands of2000.call chunk₂ ∧
      TellsTime {} chunk₁ ⟨"t", .timestampNanos, [t₁]⟩ ∧
      TellsTime {} chunk₂ ⟨"t", .timestampNanos, [t₂]⟩ ∧ t₁ < t₂ := by
  obtain ⟨chunk₁, chunk₂, t₁, t₂, hhands₁, hhands₂, htells₁, htells₂, -, hlt⟩ :=
    time_lt_iff of1999 of2000
  refine ⟨chunk₁, chunk₂, t₁, t₂, hhands₁, hhands₂, htells₁, htells₂, ?_⟩
  exact hlt (.inl (by decide)) (by decide) ⟨by decide, by decide⟩ ⟨by decide, by decide⟩

end RowAt

/-- The starts of 2000 and of 2300, each set and then logged. -/
def farFuture : List Command :=
  [.setMoment "t" ⟨946684800, 0⟩, .log "world" [RowAt.oneValue] 0,
    .setMoment "t" ⟨10413792000, 0⟩, .log "world" [RowAt.oneValue] 0]

/-- The later of these rows goes to the sink with the smaller time. -/
theorem times_run_farFuture :
    Moment.Before ⟨946684800, 0⟩ ⟨10413792000, 0⟩ ∧
    (({ sink := {}, config := { logTick := false, logTime := false } } :
        Recording MemorySink).run farFuture).sink.chunks.map (·.timelines) =
      [[⟨"t", .timestampNanos, [946684800000000000]⟩], [⟨"t", .timestampNanos, [0]⟩]] ∧
    ¬ (946684800000000000 : Int64) < 0 := by
  exact ⟨.inl (by decide), by decide, by decide⟩

end Recording

end ComponentLog
