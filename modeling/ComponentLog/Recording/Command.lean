import ComponentLog.Recording

/-!
# Runs of a recording

The operations on a recording as data, so that a history of a recording is a list of
them. A command that fails does not end a run.
-/

namespace ComponentLog

inductive Command where
  | setTime (timeline : String) (kind : TimeKind) (time : Int64)
  | setMoment (timeline : String) (moment : Moment)
  | disableTimeline (timeline : String)
  | resetTime
  /-- one row, logged at the time of day `now` -/
  | log (path : String) (batches : List ComponentBatch) (now : Int64)
  | logStatic (path : String) (batches : List ComponentBatch)
  | sendColumns (path : String) (timelines : List TimeColumn) (columns : ComponentColumnList)
  | flush

namespace Recording

variable {σ : Type} [Sink σ]

/-- Carries out one command. -/
def perform (r : Recording σ) : Command → Except Error Unit × Recording σ
  | .setTime timeline kind time => (.ok (), r.setTime timeline kind time)
  | .setMoment timeline moment => (.ok (), r.setMoment timeline moment)
  | .disableTimeline timeline => (.ok (), r.disableTimeline timeline)
  | .resetTime => (.ok (), r.resetTime)
  | .log path batches now => r.log path batches now
  | .logStatic path batches => r.logStatic path batches
  | .sendColumns path timelines columns => r.sendColumns path timelines columns
  | .flush => r.flush

/-- Carries out commands in order. -/
def run (r : Recording σ) (commands : List Command) : Recording σ :=
  commands.foldl (fun r c => (r.perform c).2) r

@[simp] theorem run_nil (r : Recording σ) : r.run [] = r := rfl

@[simp] theorem run_cons (r : Recording σ) (c : Command) (cs : List Command) :
    r.run (c :: cs) = (r.perform c).2.run cs := rfl

theorem run_append (r : Recording σ) (cs ds : List Command) :
    r.run (cs ++ ds) = (r.run cs).run ds := List.foldl_append

end Recording

end ComponentLog
