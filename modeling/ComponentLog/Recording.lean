import ComponentLog.Config
import ComponentLog.Sink.Basic

/-!
# Recordings

A recording hands chunks to its sink. It has a time cursor, which gives each timeline
that is set its present time; a row that is logged is stamped with the cursor, with
the number of rows logged before it and with the time of day, as configured. Columns
come with times of their own, and static data with none.

Every step leaves a new recording, also where it fails.
-/

namespace ComponentLog

/-! ## Time -/

/-- The present time on one timeline. -/
structure TimeEntry where
  timeline : String
  kind : TimeKind
  time : Int64
  deriving DecidableEq, Repr

/-- The present times, in the order in which their timelines were first set. -/
abbrev TimeCursor := List TimeEntry

namespace TimeCursor

/-- Sets a timeline, which keeps its place if it has one. -/
def set (c : TimeCursor) (e : TimeEntry) : TimeCursor :=
  if c.any (·.timeline = e.timeline) then
    c.map fun old => if old.timeline = e.timeline then e else old
  else c ++ [e]

def remove (c : TimeCursor) (timeline : String) : TimeCursor :=
  c.filter (·.timeline ≠ timeline)

/-- One time column of one row for each timeline. -/
def columns (c : TimeCursor) : List TimeColumn :=
  c.map fun e => ⟨e.timeline, e.kind, [e.time]⟩

end TimeCursor

/-- A moment after or before the start of 1970. -/
structure Moment where
  seconds : Int
  nanoseconds : Nat
  deriving DecidableEq, Repr

/-- Nanoseconds since the start of 1970, where they fit 64 bits with sign. -/
def Moment.nanos? (m : Moment) : Option Int64 :=
  Numeric.int64? (m.seconds * 1000000000 + m.nanoseconds)

/-! ## Recordings -/

structure Recording (σ : Type) where
  sink : σ
  config : RecordingConfig
  cursor : TimeCursor := []
  /-- rows stamped so far -/
  tick : Int64 := 0

namespace Recording

variable {σ : Type}

/-- The timeline that counts rows. -/
def logTickTimeline : String := "log_tick"

/-- The timeline of the time of day. -/
def logTimeTimeline : String := "log_time"

def setTime (r : Recording σ) (timeline : String) (kind : TimeKind) (time : Int64) :
    Recording σ :=
  { r with cursor := r.cursor.set ⟨timeline, kind, time⟩ }

/-- Sets a timeline to a moment; one beyond 64 bits of nanoseconds becomes zero. -/
def setMoment (r : Recording σ) (timeline : String) (m : Moment) : Recording σ :=
  r.setTime timeline .timestampNanos (m.nanos?.getD 0)

def disableTimeline (r : Recording σ) (timeline : String) : Recording σ :=
  { r with cursor := r.cursor.remove timeline }

/-- Forgets all times. -/
def resetTime (r : Recording σ) : Recording σ := { r with cursor := [] }

/-- The stamp of a row logged at the time of day `now`. -/
def stamp (r : Recording σ) (now : Int64) : List TimeColumn :=
  r.cursor.columns ++
    (if r.config.logTick then [⟨logTickTimeline, .sequence, [r.tick]⟩] else []) ++
    (if r.config.logTime then [⟨logTimeTimeline, .timestampNanos, [now]⟩] else [])

/-- Hands a chunk to the sink. -/
def send [Sink σ] (r : Recording σ) (chunk : Chunk) : Except Error Unit × Recording σ :=
  let (result, sink) := Sink.send r.sink chunk
  (result.mapError .transport, { r with sink })

/-- Sends one row holding all values of the batches. -/
def sendRow [Sink σ] (r : Recording σ) (path : EntityPath) (timelines : List TimeColumn)
    (batches : List ComponentBatch) : Except Error Unit × Recording σ :=
  match Chunk.ofBatches path timelines batches with
  | .error e => (.error (.partition e), r)
  | .ok chunk => r.send chunk

/-- Logs batches as one row stamped with the present time. -/
def log [Sink σ] (r : Recording σ) (path : String) (batches : List ComponentBatch) (now : Int64) :
    Except Error Unit × Recording σ :=
  if !r.config.enabled then (.ok (), r)
  else match EntityPath.parse path with
    | .error e => (.error e, r)
    | .ok path =>
      if batches.isEmpty then (.ok (), r)
      else { r with tick := r.tick + 1 }.sendRow path (r.stamp now) batches

/-- Logs batches that hold for all times. -/
def logStatic [Sink σ] (r : Recording σ) (path : String) (batches : List ComponentBatch) :
    Except Error Unit × Recording σ :=
  if !r.config.enabled then (.ok (), r)
  else match EntityPath.parse path with
    | .error e => (.error e, r)
    | .ok path =>
      if batches.isEmpty then (.ok (), r) else r.sendRow path [] batches

/-- Sends many rows with their times. -/
def sendColumns [Sink σ] (r : Recording σ) (path : String) (timelines : List TimeColumn)
    (columns : ComponentColumnList) : Except Error Unit × Recording σ :=
  if !r.config.enabled then (.ok (), r)
  else match EntityPath.parse path with
    | .error e => (.error e, r)
    | .ok path =>
      match Chunk.ofParts path timelines columns with
      | .error e => (.error (.partition e), r)
      | .ok chunk => r.send chunk

def flush [Sink σ] (r : Recording σ) : Except Error Unit × Recording σ :=
  let (result, sink) := Sink.flush r.sink
  (result.mapError .transport, { r with sink })

end Recording

end ComponentLog
