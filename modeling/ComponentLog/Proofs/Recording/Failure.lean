import ComponentLog.Proofs.Recording.Handover
import ComponentLog.Proofs.Recording.History

/-!
# Calls that fail

A call that fails leaves the cursor as it was. The count of rows is as it was too, unless
a row had been stamped: a row is counted before the sink is asked, and the count stays
when the sink refuses it. The error tells the two apart, since a row is stamped once its
path is read (`logsRow_iff_of_error`).
-/

namespace ComponentLog

theorem EntityPath.exists_flaw_of_parse {text : String} {e : Error} (h : parse text = .error e) :
    ∃ flaw, e = .invalidEntityPath text flaw := by
  unfold parse at h
  simp only at h
  split at h
  · exact ⟨_, (Except.error.inj h).symm⟩
  split at h
  · cases h
  split at h
  · exact ⟨_, (Except.error.inj h).symm⟩
  · cases h

namespace Recording

variable {σ : Type} [Sink σ] {r : Recording σ} {c : Command} {e : Error}

/-! ## What fails, and when -/

/-- A call fails as its chunk is made up, or with the sink. -/
theorem assemble?_of_error (hdata : c.carriesData = true) (hfail : (r.perform c).1 = .error e) :
    r.assemble? c = some (.error e) ∨
      ∃ chunk cause, r.Hands c chunk ∧ e = .transport cause := by
  rw [r.perform_eq hdata] at hfail
  cases hmade : r.assemble? c with
  | none =>
    rw [hmade] at hfail
    cases hfail
  | some made =>
    rw [hmade] at hfail
    cases made with
    | error e' =>
      cases hfail
      exact .inl rfl
    | ok chunk =>
      obtain ⟨cause, -, hcause⟩ := mapError_eq_error_iff.mp hfail
      exact .inr ⟨chunk, cause, hmade, hcause.symm⟩

theorem enabled_of_error (hdata : c.carriesData = true) (hfail : (r.perform c).1 = .error e) :
    r.config.enabled = true := by
  rcases assemble?_of_error hdata hfail with hmade | ⟨chunk, -, hhands, -⟩
  · cases henabled : r.config.enabled with
    | true => rfl
    | false => simp [assemble?, henabled] at hmade
  · exact hhands.enabled

/-- A row cannot be made for its path, or for a batch that is too long. -/
theorem assembleRow?_eq_error {path : String} {timelines : List TimeColumn}
    {batches : List ComponentBatch} (h : assembleRow? path timelines batches = some (.error e)) :
    (∃ flaw, e = .invalidEntityPath path flaw ∧ loggable path batches = false) ∨
      ∃ cause, e = .partition cause ∧ loggable path batches = true := by
  unfold assembleRow? at h
  cases hpath : EntityPath.parse path with
  | error e' =>
    rw [hpath] at h
    cases h
    obtain ⟨flaw, rfl⟩ := EntityPath.exists_flaw_of_parse hpath
    exact .inl ⟨flaw, rfl, loggable_of_error hpath batches⟩
  | ok p =>
    cases hbatches : batches.isEmpty with
    | true => simp [hpath, hbatches] at h
    | false =>
      simp only [hpath, hbatches, Bool.false_eq_true, if_false, Option.some_inj] at h
      obtain ⟨cause, -, rfl⟩ := mapError_eq_error_iff.mp h
      exact .inr ⟨cause, rfl, by rw [loggable_of_ok hpath, hbatches]; rfl⟩

/-- A call that failed had stamped a row if it was to log one and its path was not at fault. -/
theorem logsRow_iff_of_error (hdata : c.carriesData = true)
    (hfail : (r.perform c).1 = .error e) :
    c.logsRow = true ↔ c.isLog = true ∧ ∀ path flaw, e ≠ .invalidEntityPath path flaw := by
  cases c with
  | setTime | setMoment | disableTimeline | resetTime | flush => cases hdata
  | logStatic | sendColumns => simp [Command.logsRow, Command.isLog]
  | log path batches now =>
    have henabled := enabled_of_error hdata hfail
    rcases assemble?_of_error hdata hfail with hmade | ⟨chunk, cause, hhands, rfl⟩
    · have hrow : assembleRow? path (r.stamp now) batches = some (.error e) := by
        simpa [assemble?, henabled] using hmade
      rcases assembleRow?_eq_error hrow with ⟨flaw, rfl, hloggable⟩ | ⟨cause, rfl, hloggable⟩
      · simp [Command.logsRow, hloggable]
      · simp [Command.logsRow, Command.isLog, hloggable]
    · obtain ⟨-, p, hpath, hbatches, -⟩ := hands_log_iff.mp hhands
      have hloggable : loggable path batches = true := loggable_iff.mpr ⟨p, hpath, hbatches⟩
      simp [Command.logsRow, Command.isLog, hloggable]

/-! ## What the next row carries -/

/-- The cursor of a run depends on the cursor before it alone. -/
theorem cursor_run_congr {s : Recording σ} (h : r.cursor = s.cursor) (cs : List Command) :
    (r.run cs).cursor = (s.run cs).cursor := by
  induction cs generalizing r s with
  | nil => exact h
  | cons c cs ih =>
    refine ih ?_
    cases hset : c.setting? with
    | some e => rw [perform_cursor_of_setting? _ hset, perform_cursor_of_setting? _ hset, h]
    | none => rw [perform_cursor_of_none _ hset, perform_cursor_of_none _ hset, h]

/-- A count that is ahead stays ahead, whatever the sinks make of the rows. -/
theorem tick_run_add {s : Recording σ} {ahead : Int64} (hrenabled : r.config.enabled = true)
    (hsenabled : s.config.enabled = true) (h : r.tick = s.tick + ahead) (cs : List Command) :
    (r.run cs).tick = (s.run cs).tick + ahead := by
  induction cs generalizing r s with
  | nil => exact h
  | cons c cs ih =>
    refine ih (by rwa [perform_config]) (by rwa [perform_config]) ?_
    rw [perform_tick _ hrenabled, perform_tick _ hsenabled, h]
    cases c.logsRow with
    | false => rfl
    | true => rw [if_pos rfl, if_pos rfl, Int64.add_assoc, Int64.add_comm ahead, Int64.add_assoc]

/-- A call that fails, in any state and for any reason, leaves the cursor alone. It counts one row
if it was to log one and its path was not at fault, and none otherwise; and the next row carries
what it would have carried without the call, with the count as far ahead. -/
theorem perform_of_error (hdata : c.carriesData = true) (hfail : (r.perform c).1 = .error e) :
    let after := (r.perform c).2
    let rows : Int64 := if c.logsRow then 1 else 0
    after.cursor = r.cursor ∧ after.tick = r.tick + rows ∧
    (c.logsRow = true ↔ c.isLog = true ∧ ∀ path flaw, e ≠ .invalidEntityPath path flaw) ∧
    ∀ between path batches now chunk, (after.run between).Hands (.log path batches now) chunk →
      chunk.timelines =
        { r.run between with tick := (r.run between).tick + rows }.stamp now := by
  intro after rows
  have henabled : r.config.enabled = true := enabled_of_error hdata hfail
  have hconfig : after.config = r.config := r.perform_config c
  have hcursor : after.cursor = r.cursor := r.perform_cursor_of_carriesData hdata
  have htick : after.tick = r.tick + rows := by
    rw [r.perform_tick henabled]
    cases hrow : c.logsRow <;> simp [rows, hrow]
  refine ⟨hcursor, htick, logsRow_iff_of_error hdata hfail, ?_⟩
  intro between path batches now chunk hhands
  obtain ⟨-, p, -, -, hchunk⟩ := hands_log_iff.mp hhands
  rw [Chunk.timelines_of_ofBatches hchunk, stamp, stamp, run_config, run_config, hconfig,
    cursor_run_congr hcursor between,
    tick_run_add (by rw [hconfig, henabled]) henabled htick between]

/-- A recording whose sink refuses the first chunk. -/
def refusedOnce : Recording SelectiveSink :=
  { sink := { refusal? := fun n => if n = 0 then some (.rejected "closed") else none }
    config := { logTime := false } }

/-- One value to log. -/
def oneRow : Command := .log "world" [⟨.ofType "Scale", .int64 [some 7], .primitive⟩] 0

theorem perform_of_error_refusedOnce :
    (refusedOnce.perform oneRow).1 = .error (.transport (.rejected "closed")) ∧
    (refusedOnce.perform oneRow).2.cursor = refusedOnce.cursor ∧
    (refusedOnce.perform oneRow).2.tick = refusedOnce.tick + 1 := by
  have hfail : (refusedOnce.perform oneRow).1 = .error (.transport (.rejected "closed")) := by rfl
  obtain ⟨hcursor, htick, -⟩ := perform_of_error rfl hfail
  exact ⟨hfail, hcursor, htick⟩

/-- The row after a row that was refused carries the count 1, though it is the first one kept. -/
theorem tick_perform_refusedOnce :
    (refusedOnce.perform oneRow).1 = .error (.transport (.rejected "closed")) ∧
    (refusedOnce.perform oneRow).2.tick ≠ refusedOnce.tick ∧
    (refusedOnce.run [oneRow, oneRow]).sink.kept.chunks.map (·.timelines) =
      [[⟨"log_tick", .sequence, [1]⟩]] := by
  refine ⟨rfl, ?_, ?_⟩ <;> decide

end Recording

end ComponentLog
