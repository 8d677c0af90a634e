import ComponentLog.Input.Json
import ComponentLog.Text.Blank

/-!
# Recording configuration

Three flags, all on by default. From the environment a flag is a word, and words that
are not understood keep the default. From a document they are the members of an
object, of which others are passed over, or the items of a list in the order of the
structure; here only booleans will do.
-/

namespace ComponentLog

structure RecordingConfig where
  /-- whether data reaches the sink at all -/
  enabled : Bool := true
  /-- whether rows are stamped with a count of the rows logged -/
  logTick : Bool := true
  /-- whether rows are stamped with the time of day -/
  logTime : Bool := true
  deriving DecidableEq, Repr

namespace RecordingConfig

inductive Flag where
  | enabled
  | logTick
  | logTime
  deriving DecidableEq, Repr

def Flag.all : List Flag := [enabled, logTick, logTime]

/-- The key in a document. -/
def Flag.key : Flag → String
  | enabled => "enabled"
  | logTick => "log_tick"
  | logTime => "log_time"

/-- The variable in the environment. -/
def Flag.variableName : Flag → String
  | enabled => "ARCHETYPE2ARROW_ENABLED"
  | logTick => "ARCHETYPE2ARROW_LOG_TICK"
  | logTime => "ARCHETYPE2ARROW_LOG_TIME"

def Flag.ofKey? (key : String) : Option Flag := all.find? (·.key = key)

def set (c : RecordingConfig) (flag : Flag) (b : Bool) : RecordingConfig :=
  match flag with
  | .enabled => { c with enabled := b }
  | .logTick => { c with logTick := b }
  | .logTime => { c with logTime := b }

/-- Sets flags in order. -/
def setAll (c : RecordingConfig) (settings : List (Flag × Bool)) : RecordingConfig :=
  settings.foldl (fun c (flag, b) => c.set flag b) c

/-! ## Environment -/

/-- The flag a word stands for, whatever its case and the blanks around it. -/
def parseFlag? (text : String) : Option Bool :=
  match String.ofList ((Text.trim text.toList).map Char.toLower) with
  | "true" => some true
  | "1" => some true
  | "false" => some false
  | "0" => some false
  | _ => none

/-- The flags that the environment gives. -/
def ofEnvironment (lookup : String → Option String) : RecordingConfig :=
  setAll {} (Flag.all.filterMap fun flag =>
    ((lookup flag.variableName).bind parseFlag?).map (flag, ·))

/-! ## Documents -/

def boolean? : Json → Option Bool
  | .bool b => some b
  | _ => none

/-- The settings of the members of an object. A known key must not come twice; the value of an
unknown one may be anything. -/
def memberSettings? (seen : List Flag) : List (Option String × Json) → Option (List (Flag × Bool))
  | [] => some []
  | (key?, v) :: rest => do
    let key ← key?
    match Flag.ofKey? key with
    | none => memberSettings? seen rest
    | some flag =>
      if flag ∈ seen then none
      else do
        let b ← boolean? v
        let settings ← memberSettings? (flag :: seen) rest
        return (flag, b) :: settings

/-- The configuration a JSON text gives. -/
def ofJson? (text : String) : Option RecordingConfig := do
  let settings ← match ← Json.parse? text with
    | .map members => memberSettings? [] members
    | .list items =>
      if Flag.all.length < items.length then none
      else (items.mapM boolean?).map (Flag.all.zip ·)
    | _ => none
  return setAll {} settings

end RecordingConfig

end ComponentLog
