import ComponentLog.Recording.Command

/-!
# What one call does

A call that carries data makes up a chunk and hands it to the sink, unless the chunk
cannot be made or there is nothing to hand over: `perform_eq` says all that such a call
does, and what it leaves alone follows from it. The cursor and the configuration stay as
they are, whether the call fails or not, and a row that is stamped counts.
-/

namespace ComponentLog

/-- Whether batches go to a path as a row: there must be a batch, and the path must be one. -/
def loggable (path : String) (batches : List ComponentBatch) : Bool :=
  (EntityPath.parse path).isOk && !batches.isEmpty

theorem loggable_of_error {path : String} {e : Error} (h : EntityPath.parse path = .error e)
    (batches : List ComponentBatch) : loggable path batches = false := by
  rw [loggable, h]
  rfl

theorem loggable_of_ok {path : String} {p : EntityPath} (h : EntityPath.parse path = .ok p)
    (batches : List ComponentBatch) : loggable path batches = !batches.isEmpty := by
  rw [loggable, h]
  rfl

theorem loggable_iff {path : String} {batches : List ComponentBatch} :
    loggable path batches = true ↔
      ∃ p, EntityPath.parse path = .ok p ∧ batches.isEmpty = false := by
  cases hpath : EntityPath.parse path with
  | error e => simp [loggable_of_error hpath]
  | ok p => simp [loggable_of_ok hpath]

namespace Command

/-- Whether a command stamps a row. -/
def logsRow : Command → Bool
  | .log path batches _ => loggable path batches
  | _ => false

/-- A call that logs one stamped row, if it has one. -/
def isLog : Command → Bool
  | .log .. => true
  | _ => false

/-- Whether a call carries data, whatever becomes of it. -/
def carriesData : Command → Bool
  | .log .. | .logStatic .. | .sendColumns .. => true
  | _ => false

end Command

/-! ## What a call makes of its data -/

/-- The chunk of one row of batches, or why it cannot be made; nothing without a batch. -/
def assembleRow? (path : String) (timelines : List TimeColumn) (batches : List ComponentBatch) :
    Option (Except Error Chunk) :=
  match EntityPath.parse path with
  | .error e => some (.error e)
  | .ok path =>
    if batches.isEmpty then none
    else some ((Chunk.ofBatches path timelines batches).mapError .partition)

/-- The chunk of columns with their times, or why it cannot be made. -/
def assembleColumns (path : String) (timelines : List TimeColumn)
    (columns : ComponentColumnList) : Except Error Chunk := do
  let path ← EntityPath.parse path
  (Chunk.ofParts path timelines columns).mapError .partition

namespace Recording

variable {σ : Type}

/-- The chunk that a call makes up for the sink, or why it cannot; nothing where there is nothing
to hand over. -/
def assemble? (r : Recording σ) (c : Command) : Option (Except Error Chunk) :=
  if !r.config.enabled then none
  else match c with
    | .log path batches now => assembleRow? path (r.stamp now) batches
    | .logStatic path batches => assembleRow? path [] batches
    | .sendColumns path timelines columns => some (assembleColumns path timelines columns)
    | _ => none

/-- The recording once the row of a call is counted, if the call stamps one. -/
def counted (r : Recording σ) (c : Command) : Recording σ :=
  { r with tick := if r.config.enabled && c.logsRow then r.tick + 1 else r.tick }

theorem counted_of_not_logsRow (r : Recording σ) {c : Command} (h : c.logsRow = false) :
    r.counted c = r := by
  rw [counted, h, Bool.and_false]
  rfl

variable [Sink σ] (r : Recording σ) {c : Command}

/-- All that a call with data does: the chunk it makes up goes to the sink. -/
theorem perform_eq (hdata : c.carriesData = true) :
    r.perform c =
      match r.assemble? c with
      | none => (.ok (), r.counted c)
      | some (.error e) => (.error e, r.counted c)
      | some (.ok chunk) => (r.counted c).send chunk := by
  cases c with
  | setTime | setMoment | disableTimeline | resetTime | flush => cases hdata
  | log path batches now =>
    simp only [perform, log, assemble?, counted, Command.logsRow]
    cases r.config.enabled with
    | false => rfl
    | true =>
      cases hpath : EntityPath.parse path with
      | error e => simp [assembleRow?, hpath, loggable_of_error hpath]
      | ok p =>
        cases hbatches : batches.isEmpty with
        | true => simp [assembleRow?, hpath, hbatches, loggable_of_ok hpath]
        | false =>
          simp only [assembleRow?, hpath, hbatches, loggable_of_ok hpath, sendRow]
          cases Chunk.ofBatches p (r.stamp now) batches <;> rfl
  | logStatic path batches =>
    simp only [perform, logStatic, assemble?, counted, Command.logsRow, Bool.and_false]
    cases r.config.enabled with
    | false => rfl
    | true =>
      cases hpath : EntityPath.parse path with
      | error e => simp [assembleRow?, hpath]
      | ok p =>
        cases hbatches : batches.isEmpty with
        | true => simp [assembleRow?, hpath, hbatches]
        | false =>
          simp only [assembleRow?, hpath, hbatches, sendRow]
          cases Chunk.ofBatches p [] batches <;> rfl
  | sendColumns path timelines columns =>
    simp only [perform, sendColumns, assemble?, assembleColumns, counted, Command.logsRow,
      Bool.and_false]
    cases r.config.enabled with
    | false => rfl
    | true =>
      cases EntityPath.parse path with
      | error e => rfl
      | ok p =>
        simp only [bind, Except.bind]
        cases Chunk.ofParts p timelines columns <;> rfl

/-! ## Cursor, count and configuration -/

/-- A call with data changes the sink and the count. -/
theorem perform_state (hdata : c.carriesData = true) :
    ∃ sink, (r.perform c).2 = { r.counted c with sink } := by
  rw [r.perform_eq hdata]
  split
  · exact ⟨r.sink, rfl⟩
  · exact ⟨r.sink, rfl⟩
  · exact ⟨_, rfl⟩

theorem perform_cursor_of_carriesData (hdata : c.carriesData = true) :
    (r.perform c).2.cursor = r.cursor := by
  obtain ⟨sink, h⟩ := r.perform_state hdata
  rw [h]
  rfl

theorem perform_config (c : Command) : (r.perform c).2.config = r.config := by
  by_cases hdata : c.carriesData = true
  · obtain ⟨sink, h⟩ := r.perform_state hdata
    rw [h]
    rfl
  · cases c with
    | setTime | setMoment | disableTimeline | resetTime | flush => rfl
    | log | logStatic | sendColumns => exact absurd rfl hdata

theorem run_config (cs : List Command) : (r.run cs).config = r.config := by
  induction cs generalizing r with
  | nil => rfl
  | cons c cs ih => rw [run_cons, ih, perform_config]

/-- A row that is stamped counts, nothing else does. -/
theorem perform_tick_eq (c : Command) : (r.perform c).2.tick = (r.counted c).tick := by
  by_cases hdata : c.carriesData = true
  · obtain ⟨sink, h⟩ := r.perform_state hdata
    rw [h]
  · cases c with
    | setTime | setMoment | disableTimeline | resetTime | flush =>
      rw [counted_of_not_logsRow r rfl]
      rfl
    | log | logStatic | sendColumns => exact absurd rfl hdata

theorem perform_tick (henabled : r.config.enabled = true) (c : Command) :
    (r.perform c).2.tick = if c.logsRow then r.tick + 1 else r.tick := by
  rw [perform_tick_eq, counted, henabled, Bool.true_and]

/-- A run with one more command at its end. -/
theorem run_concat (cs : List Command) (c : Command) :
    r.run (cs ++ [c]) = ((r.run cs).perform c).2 := run_append r cs [c]

end Recording

end ComponentLog
