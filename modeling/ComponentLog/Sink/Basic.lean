import ComponentLog.Chunk

/-!
# Sinks

Where chunks go. A sink is a state with two operations, each of which may fail and
leaves a new state either way. `MemorySink` keeps every chunk; `SelectiveSink` keeps
those it does not refuse.
-/

namespace ComponentLog

class Sink (σ : Type) where
  send : σ → Chunk → Except TransportError Unit × σ
  /-- pushes out what is buffered -/
  flush : σ → Except TransportError Unit × σ

/-- Keeps chunks until they are taken. -/
structure MemorySink where
  chunks : List Chunk := []

namespace MemorySink

/-- Every chunk kept, and the sink without them. -/
def take (s : MemorySink) : List Chunk × MemorySink := (s.chunks, {})

instance : Sink MemorySink where
  send s chunk := (.ok (), ⟨s.chunks ++ [chunk]⟩)
  flush s := (.ok (), s)

end MemorySink

/-- Refuses some of the chunks sent, by their number from zero, and keeps the others. -/
structure SelectiveSink where
  refusal? : Nat → Option TransportError
  /-- how many chunks were sent -/
  sends : Nat := 0
  kept : MemorySink := {}

namespace SelectiveSink

instance : Sink SelectiveSink where
  send s chunk :=
    let s' := { s with sends := s.sends + 1 }
    match s.refusal? s.sends with
    | some e => (.error e, s')
    | none => (.ok (), { s' with kept := (Sink.send s.kept chunk).2 })
  flush s := (.ok (), s)

end SelectiveSink

end ComponentLog
