import ComponentLog.Proofs.Chunk.Assembly
import ComponentLog.Proofs.Recording.Calls

/-!
# Chunks handed over

What reaches the sink of a recording, in any state and whatever the sink makes of it: a
call hands over the chunk that it makes up (`Hands`), and else the sink stays as it is,
unless it is flushed.

A watched sink keeps all it is sent and otherwise is the sink inside it (`unwatch_run`).
The chunks that it has kept are those that the calls of the run handed over
(`mem_sent_run_iff`).
-/

namespace ComponentLog

/-! ## Chunks made up -/

theorem assembleRow?_eq_ok_iff {path : String} {timelines : List TimeColumn}
    {batches : List ComponentBatch} {chunk : Chunk} :
    assembleRow? path timelines batches = some (.ok chunk) ↔
      ∃ p, EntityPath.parse path = .ok p ∧ batches.isEmpty = false ∧
        Chunk.ofBatches p timelines batches = .ok chunk := by
  unfold assembleRow?
  cases EntityPath.parse path with
  | error e => simp
  | ok p =>
    cases batches.isEmpty with
    | true => simp
    | false => simp [mapError_eq_ok_iff]

theorem assembleColumns_eq_ok_iff {path : String} {timelines : List TimeColumn}
    {columns : ComponentColumnList} {chunk : Chunk} :
    assembleColumns path timelines columns = .ok chunk ↔
      ∃ p, EntityPath.parse path = .ok p ∧ Chunk.ofParts p timelines columns = .ok chunk := by
  unfold assembleColumns
  simp only [bind_eq_ok_iff, mapError_eq_ok_iff]

namespace Recording

variable {σ : Type} {r : Recording σ} {c : Command} {chunk : Chunk}

/-- A call hands a chunk to the sink. -/
def Hands (r : Recording σ) (c : Command) (chunk : Chunk) : Prop :=
  r.assemble? c = some (.ok chunk)

theorem Hands.enabled (h : r.Hands c chunk) : r.config.enabled = true := by
  cases henabled : r.config.enabled with
  | true => rfl
  | false => simp [Hands, assemble?, henabled] at h

theorem Hands.carriesData (h : r.Hands c chunk) : c.carriesData = true := by
  cases c with
  | setTime | setMoment | disableTimeline | resetTime | flush => simp [Hands, assemble?] at h
  | log | logStatic | sendColumns => rfl

theorem hands_log_iff {path : String} {batches : List ComponentBatch} {now : Int64} :
    r.Hands (.log path batches now) chunk ↔ r.config.enabled = true ∧
      ∃ p, EntityPath.parse path = .ok p ∧ batches.isEmpty = false ∧
        Chunk.ofBatches p (r.stamp now) batches = .ok chunk := by
  rw [← assembleRow?_eq_ok_iff]
  cases henabled : r.config.enabled <;> simp [Hands, assemble?, henabled]

theorem hands_logStatic_iff {path : String} {batches : List ComponentBatch} :
    r.Hands (.logStatic path batches) chunk ↔ r.config.enabled = true ∧
      ∃ p, EntityPath.parse path = .ok p ∧ batches.isEmpty = false ∧
        Chunk.ofBatches p [] batches = .ok chunk := by
  rw [← assembleRow?_eq_ok_iff]
  cases henabled : r.config.enabled <;> simp [Hands, assemble?, henabled]

theorem hands_sendColumns_iff {path : String} {timelines : List TimeColumn}
    {columns : ComponentColumnList} :
    r.Hands (.sendColumns path timelines columns) chunk ↔ r.config.enabled = true ∧
      ∃ p, EntityPath.parse path = .ok p ∧ Chunk.ofParts p timelines columns = .ok chunk := by
  rw [← assembleColumns_eq_ok_iff]
  cases henabled : r.config.enabled <;> simp [Hands, assemble?, henabled]

/-- A call hands over one chunk at most. -/
theorem Hands.hands_iff {other : Chunk} (h : r.Hands c chunk) :
    r.Hands c other ↔ other = chunk := by
  rw [Hands, h, Option.some_inj, Except.ok.injEq, eq_comm]

variable [Sink σ]

/-- A call that hands over a chunk ends as the sink does. -/
theorem Hands.perform_eq (h : r.Hands c chunk) : r.perform c = (r.counted c).send chunk := by
  rw [Recording.perform_eq r h.carriesData, h]

theorem Hands.sink_perform (h : r.Hands c chunk) :
    (r.perform c).2.sink = (Sink.send r.sink chunk).2 := by
  rw [h.perform_eq]
  rfl

/-- A row of some batches that is logged with success was handed over. -/
theorem exists_hands_of_ok (henabled : r.config.enabled = true) {path : String}
    {batches : List ComponentBatch} (hbatches : batches ≠ []) {now : Int64}
    (hok : (r.perform (.log path batches now)).1 = .ok ()) :
    ∃ chunk, r.Hands (.log path batches now) chunk := by
  rw [r.perform_eq rfl] at hok
  cases hmade : r.assemble? (.log path batches now) with
  | none =>
    simp only [assemble?, henabled, assembleRow?] at hmade
    cases hpath : EntityPath.parse path <;> simp [hpath, hbatches] at hmade
  | some made =>
    rw [hmade] at hok
    cases made with
    | error e => cases hok
    | ok chunk => exact ⟨chunk, hmade⟩

/-- Without a chunk to hand over, only a flush reaches the sink. -/
theorem sink_perform_of_not_hands (h : ∀ chunk, ¬ r.Hands c chunk) :
    c = .flush ∨ (r.perform c).2.sink = r.sink := by
  by_cases hdata : c.carriesData = true
  · rw [r.perform_eq hdata]
    cases hmade : r.assemble? c with
    | none => exact .inr rfl
    | some made =>
      cases made with
      | error e => exact .inr rfl
      | ok chunk => exact absurd hmade (h chunk)
  · cases c with
    | setTime | setMoment | disableTimeline | resetTime => exact .inr rfl
    | flush => exact .inl rfl
    | log | logStatic | sendColumns => exact absurd rfl hdata

end Recording

/-! ## Watched sinks -/

/-- A sink that keeps all it is sent, taken or refused, and otherwise is the sink inside. -/
structure WatchedSink (σ : Type) where
  inner : σ
  sent : List Chunk := []

instance {σ : Type} [Sink σ] : Sink (WatchedSink σ) where
  send s chunk :=
    let (result, inner) := Sink.send s.inner chunk
    (result, ⟨inner, s.sent ++ [chunk]⟩)
  flush s :=
    let (result, inner) := Sink.flush s.inner
    (result, { s with inner })

namespace Recording

variable {σ : Type} [Sink σ] {r : Recording (WatchedSink σ)} {chunk : Chunk}

/-- The recording over the sink inside. -/
def unwatch (r : Recording (WatchedSink σ)) : Recording σ := { r with sink := r.sink.inner }

/-- Watching changes neither the result of a call nor what it leaves. -/
theorem perform_unwatch (r : Recording (WatchedSink σ)) (c : Command) :
    r.unwatch.perform c = (r.perform c).map id unwatch := by
  by_cases hdata : c.carriesData = true
  · have hassemble : r.unwatch.assemble? c = r.assemble? c := rfl
    rw [perform_eq _ hdata, perform_eq _ hdata, hassemble]
    rcases r.assemble? c with _ | e | chunk <;> rfl
  · cases c with
    | setTime | setMoment | disableTimeline | resetTime | flush => rfl
    | log | logStatic | sendColumns => exact absurd rfl hdata

theorem unwatch_run (r : Recording (WatchedSink σ)) (cs : List Command) :
    (r.run cs).unwatch = r.unwatch.run cs := by
  induction cs generalizing r with
  | nil => rfl
  | cons c cs ih => rw [run_cons, run_cons, ih, perform_unwatch, Prod.map_snd]

/-- A call sends the chunk that it hands over, and no other. -/
theorem mem_sent_perform_iff (r : Recording (WatchedSink σ)) (c : Command) :
    chunk ∈ (r.perform c).2.sink.sent ↔ chunk ∈ r.sink.sent ∨ r.Hands c chunk := by
  by_cases hhands : ∃ last, r.Hands c last
  · obtain ⟨last, hlast⟩ := hhands
    have hsent : (r.perform c).2.sink.sent = r.sink.sent ++ [last] := by
      rw [hlast.sink_perform]
      rfl
    rw [hsent, List.mem_append, List.mem_singleton, hlast.hands_iff]
  · have hsent : (r.perform c).2.sink.sent = r.sink.sent := by
      rcases sink_perform_of_not_hands fun last hlast => hhands ⟨last, hlast⟩ with rfl | hsink
      · rfl
      · rw [hsink]
    rw [hsent]
    exact ⟨.inl, fun h => h.resolve_right fun hlast => hhands ⟨chunk, hlast⟩⟩

/-- A run sends the chunks that its calls hand over, each in the state that the calls before it
left. -/
theorem mem_sent_run_iff (r : Recording (WatchedSink σ)) (cs : List Command) :
    chunk ∈ (r.run cs).sink.sent ↔ chunk ∈ r.sink.sent ∨
      ∃ past c rest, cs = past ++ c :: rest ∧ (r.run past).Hands c chunk := by
  induction cs generalizing r with
  | nil => simp
  | cons d ds ih =>
    rw [run_cons, ih, mem_sent_perform_iff, or_assoc]
    refine or_congr_right ?_
    constructor
    · rintro (hd | ⟨past, c, rest, rfl, hc⟩)
      · exact ⟨[], d, ds, rfl, hd⟩
      · exact ⟨d :: past, c, rest, rfl, hc⟩
    · rintro ⟨past, c, rest, hcs, hc⟩
      cases past with
      | nil =>
        cases hcs
        exact .inl hc
      | cons e past =>
        cases hcs
        exact .inr ⟨past, c, rest, rfl, hc⟩

end Recording

end ComponentLog
