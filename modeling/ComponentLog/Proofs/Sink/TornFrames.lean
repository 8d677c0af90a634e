import ComponentLog.Proofs.Sink.Framing

/-!
# Frames that a failed write left

A write that fails may have kept some of its bytes, so that a send leaves nothing, a part of
its frame, or all of it. `Attempt.Possible` lists all that can come of a send.

While no part of a frame was left, reading gives the payloads of the frames that were kept
whole, among them those of all sends that succeeded. What a torn frame does to the frames
after it is said by its length prefix: so many of the bytes that follow are read as
its payload (`FramedSink.read_sendAll_of_failures`). A send that succeeds after it can be
lost (`FramedSink.lost_endMarks`).
-/

namespace ComponentLog

/-! ## What can come of a send -/

/-- A chunk that was sent: its payload, how the send ended, and what the device kept. -/
structure Attempt where
  payload : Except TransportError (List UInt8)
  result : Except TransportError Unit
  kept : List UInt8

namespace Attempt

/-- The payload, if the device kept its frame whole. -/
def whole? (a : Attempt) : Option (List UInt8) :=
  a.payload.toOption.filter fun p => a.kept = Frame.ofPayload p

/-- The payload, if the send succeeded. -/
def accepted? (a : Attempt) : Option (List UInt8) :=
  if a.result.isOk then a.payload.toOption else none

/-- The device kept a part of the frame. -/
def Torn (a : Attempt) : Prop := a.kept ≠ [] ∧ a.whole? = none

instance (a : Attempt) : Decidable a.Torn := inferInstanceAs (Decidable (_ ∧ _))

/-- Without a payload nothing is written; a send that succeeds leaves the whole frame, and one that
fails any part of it. -/
inductive Possible : Attempt → Prop where
  | unencoded (e : TransportError) : Possible ⟨.error e, .error e, []⟩
  | written {p : List UInt8} (hfits : Frame.Fits p) : Possible ⟨.ok p, .ok (), Frame.ofPayload p⟩
  | interrupted {p kept : List UInt8} (e : TransportError) (hfits : Frame.Fits p)
      (hkept : kept <+: Frame.ofPayload p) : Possible ⟨.ok p, .error e, kept⟩

variable {a : Attempt} {as : List Attempt}

theorem whole?_eq_some_iff {p : List UInt8} :
    a.whole? = some p ↔ a.payload = .ok p ∧ a.kept = Frame.ofPayload p := by
  rw [whole?, Option.filter_eq_some_iff, toOption_eq_some_iff, decide_eq_true_iff]

/-- What is kept, unless a part only, is the frame or nothing. -/
theorem kept_of_not_torn (h : ¬ a.Torn) : a.kept = a.whole?.toList.flatMap Frame.ofPayload := by
  cases hwhole : a.whole? with
  | none =>
    by_contra hkept
    exact h ⟨hkept, hwhole⟩
  | some p =>
    rw [(whole?_eq_some_iff.mp hwhole).2, Option.toList_some, List.flatMap_singleton]

theorem flatMap_kept (h : ∀ a ∈ as, ¬ a.Torn) :
    as.flatMap (·.kept) = (as.filterMap whole?).flatMap Frame.ofPayload := by
  induction as with
  | nil => rfl
  | cons a as ih =>
    rw [List.forall_mem_cons] at h
    rw [List.flatMap_cons, ih h.2, kept_of_not_torn h.1, List.filterMap_cons]
    cases a.whole? with
    | none => rfl
    | some p => rw [Option.toList_some, List.flatMap_singleton, List.flatMap_cons]

theorem Possible.fits (h : a.Possible) {p : List UInt8} (hwhole : a.whole? = some p) :
    Frame.Fits p := by
  have hpayload := (whole?_eq_some_iff.mp hwhole).1
  cases h with
  | unencoded e => cases hpayload
  | written hfits =>
    cases hpayload
    exact hfits
  | interrupted e hfits hkept =>
    cases hpayload
    exact hfits

/-- The frame of a send that succeeded is whole. -/
theorem Possible.whole?_of_accepted? (h : a.Possible) {p : List UInt8}
    (haccepted : a.accepted? = some p) : a.whole? = some p := by
  cases h with
  | unencoded e => cases haccepted
  | written hfits =>
    cases haccepted
    exact whole?_eq_some_iff.mpr ⟨rfl, rfl⟩
  | interrupted e hfits hkept => cases haccepted

theorem accepted_sublist_whole (h : ∀ a ∈ as, a.Possible) :
    (as.filterMap accepted?).Sublist (as.filterMap whole?) := by
  induction as with
  | nil => exact .slnil
  | cons a as ih =>
    rw [List.forall_mem_cons] at h
    cases haccepted : a.accepted? with
    | none =>
      rw [List.filterMap_cons_none haccepted]
      exact (ih h.2).trans ((List.sublist_cons_self a as).filterMap whole?)
    | some p =>
      rw [List.filterMap_cons_some haccepted,
        List.filterMap_cons_some (h.1.whole?_of_accepted? haccepted)]
      exact (ih h.2).cons_cons p

/-- Frames that were kept whole are read, whatever follows them. -/
theorem read_flatMap_kept (hpossible : ∀ a ∈ as, a.Possible) (hwhole : ∀ a ∈ as, ¬ a.Torn)
    (rest : List UInt8) :
    Frame.read (as.flatMap (·.kept) ++ rest) =
      (as.filterMap whole? ++ (Frame.read rest).1, (Frame.read rest).2) := by
  rw [flatMap_kept hwhole]
  refine Frame.read_flatMap_append (fun p hp => ?_) rest
  obtain ⟨a, ha, hp⟩ := List.mem_filterMap.mp hp
  exact (hpossible a ha).fits hp

end Attempt

/-! ## Sends over any device -/

/-- A write keeps all of its data, or fails and keeps the data's first bytes. -/
theorem Device.write_cases (d : Device) (data : List UInt8) :
    d.write data = (.ok (), d.keep data) ∨
      ∃ e n, d.write data = (.error e, d.keep (data.take n)) := by
  unfold write
  cases d.failure? d.calls with
  | none => exact .inl rfl
  | some failure => exact .inr ⟨_, _, rfl⟩

namespace FramedSink

variable {s : FramedSink}

def attempt (s : FramedSink) (chunk : Chunk) : Attempt where
  payload := s.payload chunk
  result := (Sink.send s chunk).1
  kept := (Sink.send s chunk).2.device.bytes.drop s.device.bytes.length

/-- What came of each chunk that was sent, one after the other. -/
def attempts (s : FramedSink) : List Chunk → List Attempt
  | [] => []
  | chunk :: chunks => s.attempt chunk :: (Sink.send s chunk).2.attempts chunks

/-- All that a send does: it adds to the device what it keeps, which is one of the things
possible. -/
theorem send_cases (hshort : s.Short) (chunk : Chunk) :
    (s.attempt chunk).Possible ∧
      (Sink.send s chunk).2.device.bytes = s.device.bytes ++ (s.attempt chunk).kept ∧
      (Sink.send s chunk).2.encode = s.encode := by
  obtain ⟨kept, hpossible, hbytes, hencode⟩ : ∃ kept,
      Attempt.Possible ⟨s.payload chunk, (Sink.send s chunk).1, kept⟩ ∧
      (Sink.send s chunk).2.device.bytes = s.device.bytes ++ kept ∧
      (Sink.send s chunk).2.encode = s.encode := by
    rw [send_eq]
    cases hpayload : s.payload chunk with
    | error e => exact ⟨[], .unencoded e, (List.append_nil _).symm, rfl⟩
    | ok p =>
      have hfits := hshort.fits hpayload
      rcases s.device.write_cases (Frame.lengthPrefix p) with hfirst | ⟨e, n, hfirst⟩
      · rcases (s.device.keep (Frame.lengthPrefix p)).write_cases p with hsecond | ⟨e, n, hsecond⟩
        · simp only [hfirst, hsecond]
          exact ⟨_, .written hfits, bytes_wrote s p, trivial⟩
        · simp only [hfirst, hsecond]
          refine ⟨Frame.lengthPrefix p ++ p.take n, .interrupted e hfits ?_, ?_, trivial⟩
          · exact (List.prefix_append_right_inj _).mpr (List.take_prefix n p)
          · rw [Device.bytes_keep, Device.bytes_keep, List.append_assoc]
      · simp only [hfirst]
        refine ⟨(Frame.lengthPrefix p).take n, .interrupted e hfits ?_, Device.bytes_keep _ _,
          trivial⟩
        exact (List.take_prefix n _).trans (List.prefix_append _ p)
  have hattempt : s.attempt chunk = ⟨s.payload chunk, (Sink.send s chunk).1, kept⟩ := by
    rw [attempt, hbytes, List.drop_left]
  rw [hattempt]
  exact ⟨hpossible, hbytes, hencode⟩

theorem short_send (hshort : s.Short) (chunk : Chunk) : (Sink.send s chunk).2.Short := by
  unfold Short
  rw [(send_cases hshort chunk).2.2]
  exact hshort

/-- A run of sends adds what each of them keeps. -/
theorem sendAll_cases (hshort : s.Short) (chunks : List Chunk) :
    (∀ a ∈ s.attempts chunks, a.Possible) ∧
      (Sink.sendAll s chunks).device.bytes =
        s.device.bytes ++ (s.attempts chunks).flatMap (·.kept) ∧
      (Sink.sendAll s chunks).Short := by
  induction chunks generalizing s with
  | nil => exact ⟨List.forall_mem_nil _, (List.append_nil _).symm, hshort⟩
  | cons chunk chunks ih =>
    obtain ⟨hpossible, hbytes, -⟩ := send_cases hshort chunk
    obtain ⟨hrest, hbytes', hshort'⟩ := ih (short_send hshort chunk)
    refine ⟨List.forall_mem_cons.mpr ⟨hpossible, hrest⟩, ?_, hshort'⟩
    rw [attempts, List.flatMap_cons, ← List.append_assoc, ← hbytes]
    exact hbytes'

/-- Whatever writes fail: reading gives first, in order, the payloads of the frames kept whole before
any part of a frame was left, among them those of all sends that had succeeded by then; with
no more sends nothing is left over. Where a send had its length prefix kept, so many of the bytes
that follow are read as its payload, whichever send wrote them. -/
theorem read_sendAll_of_failures (hshort : s.Short) (hempty : s.device.bytes = [])
    {before : List Chunk} (hbefore : ∀ a ∈ s.attempts before, ¬ a.Torn) (after : List Chunk) :
    let whole := (s.attempts before).filterMap Attempt.whole?
    let bytes := (Sink.sendAll s (before ++ after)).device.bytes
    ((s.attempts before).filterMap Attempt.accepted?).Sublist whole ∧
    whole <+: (Frame.read bytes).1 ∧
    (after = [] → Frame.read bytes = (whole, [])) ∧
    ∀ chunk rest p part, after = chunk :: rest →
      let between := Sink.sendAll s before
      between.payload chunk = .ok p →
      (between.attempt chunk).kept = Frame.lengthPrefix p ++ part →
      let following := part ++ ((Sink.send between chunk).2.attempts rest).flatMap (·.kept)
      Frame.read bytes =
        if p.length ≤ following.length then
          (whole ++ following.take p.length :: (Frame.read (following.drop p.length)).1,
            (Frame.read (following.drop p.length)).2)
        else (whole, Frame.lengthPrefix p ++ following) := by
  intro whole bytes
  obtain ⟨hpossible, hbytes, hshort'⟩ := sendAll_cases hshort before
  have hread : ∀ chunks, Frame.read (Sink.sendAll s (before ++ chunks)).device.bytes =
      (whole ++ (Frame.read (((Sink.sendAll s before).attempts chunks).flatMap (·.kept))).1,
        (Frame.read (((Sink.sendAll s before).attempts chunks).flatMap (·.kept))).2) := by
    intro chunks
    rw [Sink.sendAll_append, (sendAll_cases hshort' chunks).2.1, hbytes, hempty, List.nil_append]
    exact Attempt.read_flatMap_kept hpossible hbefore _
  refine ⟨Attempt.accepted_sublist_whole hpossible, ?_, ?_, ?_⟩
  · rw [hread]
    exact List.prefix_append _ _
  · rintro rfl
    rw [hread, attempts, List.flatMap_nil, Frame.read_of_not_begins (by decide), List.append_nil]
  · intro chunk rest p part hafter between hpayload hkept following
    have hsplit : (between.attempts after).flatMap (·.kept) =
        Frame.lengthPrefix p ++ following := by
      rw [hafter, attempts, List.flatMap_cons, hkept, List.append_assoc]
    rw [hread, hsplit, Frame.read_lengthPrefix_append (hshort'.fits hpayload)]
    by_cases henough : p.length ≤ following.length
    · rw [if_pos henough, if_pos henough]
    · rw [if_neg henough, if_neg henough, List.append_nil]

/-- A device on which the writes of the given numbers fail, with some bytes kept of each. -/
def failingDevice (failures : List (Nat × Nat)) : Device where
  failure? n := (failures.lookup n).map fun kept => ⟨kept, "disk full"⟩

/-- A sink of end marks over such a device. -/
def endMarks (failures : List (Nat × Nat)) : FramedSink where
  encode _ := .ok endMark
  device := failingDevice failures

theorem short_endMarks (failures : List (Nat × Nat)) : (endMarks failures).Short := by
  rintro batch payload ⟨⟩
  decide

/-- A first send leaves nothing, a second one succeeds, a third one leaves three bytes of its payload,
to which five bytes of the fourth frame are read. -/
theorem read_sendAll_of_failures_endMarks :
    let s := endMarks [(0, 0), (4, 3)]
    let chunk := timesOnly [5]
    (∀ a ∈ s.attempts [chunk, chunk], ¬ a.Torn) ∧
    [endMark] <+: (Frame.read (Sink.sendAll s [chunk, chunk, chunk, chunk]).device.bytes).1 ∧
    Frame.read (Sink.sendAll s [chunk, chunk, chunk, chunk]).device.bytes =
      ([endMark, [255, 255, 255, 8, 0, 0, 0, 0]], [0, 0, 0, 255, 255, 255, 255, 0, 0, 0, 0]) := by
  intro s chunk
  have hbefore : ∀ a ∈ s.attempts [chunk, chunk], ¬ a.Torn := by decide
  obtain ⟨-, hwhole, -, htorn⟩ :=
    read_sendAll_of_failures (s := s) (short_endMarks _) rfl hbefore [chunk, chunk]
  have hfirst : (s.attempts [chunk, chunk]).filterMap Attempt.whole? = [endMark] := by decide
  have hlater : ((Sink.send (Sink.sendAll s [chunk, chunk]) chunk).2.attempts [chunk]).flatMap
      (·.kept) = Frame.ofPayload endMark := by decide
  have hrest : Frame.read (([255, 255, 255] ++ Frame.ofPayload endMark).drop endMark.length) =
      ([], [0, 0, 0, 255, 255, 255, 255, 0, 0, 0, 0]) := Frame.read_of_not_begins (by decide)
  have hread := htorn chunk [chunk] endMark [255, 255, 255] rfl rfl (by decide)
  simp only [hfirst, hlater] at hwhole hread
  rw [if_pos (by decide)] at hread
  rw [hrest] at hread
  exact ⟨hbefore, hwhole, hread⟩

/-- The second send succeeds, and its payload is not read: what the first one left takes the second
length prefix for its payload. -/
theorem lost_endMarks :
    let s := endMarks [(1, 0)]
    let sent := [timesOnly [5], timesOnly [6]]
    (s.attempts sent).map (·.result) = [.error (.io "disk full"), .ok ()] ∧
    (s.attempts sent).filterMap Attempt.accepted? = [endMark] ∧
    Frame.read (Sink.sendAll s sent).device.bytes = ([[8, 0, 0, 0, 0, 0, 0, 0]], endMark) ∧
    ¬ ((s.attempts sent).filterMap Attempt.accepted?).Sublist
      (Frame.read (Sink.sendAll s sent).device.bytes).1 := by
  intro s sent
  have hread : Frame.read (Sink.sendAll s sent).device.bytes =
      ([[8, 0, 0, 0, 0, 0, 0, 0]], endMark) := by
    rw [Frame.read_eq_iff]
    decide
  refine ⟨by decide, by decide, hread, ?_⟩
  rw [hread]
  decide

end FramedSink

end ComponentLog
