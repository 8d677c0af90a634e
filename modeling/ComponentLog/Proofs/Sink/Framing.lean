import ComponentLog.Proofs.Recording.Run
import ComponentLog.Proofs.Traversal
import ComponentLog.Sink.Framed

/-!
# Frames read back

Reading takes frames off the front of the bytes as long as there is a whole one; it gives
the one way to cut the bytes into frames and a rest that begins with none
(`Frame.read_eq_iff`).

`FramedSink.send_eq` says all that one send does to the device. Over a device on which no
write fails, the bytes are the frames of the payloads, one for each chunk that has a
payload, in order, and reading gives these payloads with nothing left (`FramedSink.read_sendAll`).
-/

namespace ComponentLog

namespace Frame

/-! ## The frame of a payload -/

/-- A payload with its length in front. -/
def ofPayload (payload : List UInt8) : List UInt8 := lengthPrefix payload ++ payload

/-- The length of the payload fits its prefix. -/
def Fits (payload : List UInt8) : Prop := payload.length < UInt64.size

instance (payload : List UInt8) : Decidable (Fits payload) :=
  inferInstanceAs (Decidable (payload.length < UInt64.size))

@[simp] theorem length_lengthPrefix (payload : List UInt8) : (lengthPrefix payload).length = 8 :=
  length_littleEndian 8 _

theorem length_ofPayload (payload : List UInt8) :
    (ofPayload payload).length = 8 + payload.length := by
  rw [ofPayload, List.length_append, length_lengthPrefix]

theorem ofLittleEndian_lengthPrefix {payload : List UInt8} (h : Fits payload) :
    ofLittleEndian (lengthPrefix payload) = payload.length := by
  rw [lengthPrefix, ofLittleEndian_littleEndian]
  exact Nat.mod_eq_of_lt h

/-! ## Reading -/

/-- The bytes begin with a whole frame. -/
def Begins (bytes : List UInt8) : Prop :=
  8 ≤ bytes.length ∧ ofLittleEndian (bytes.take 8) ≤ (bytes.drop 8).length

instance (bytes : List UInt8) : Decidable (Begins bytes) :=
  inferInstanceAs (Decidable (_ ∧ _))

theorem read_of_not_begins {bytes : List UInt8} (h : ¬ Begins bytes) : read bytes = ([], bytes) := by
  rw [read]
  exact dif_neg h

/-- The length in front of bytes decides how many of them are a payload, whoever wrote them. -/
theorem read_lengthPrefix_append {payload : List UInt8} (h : Fits payload) (bytes : List UInt8) :
    read (lengthPrefix payload ++ bytes) =
      if payload.length ≤ bytes.length then
        (bytes.take payload.length :: (read (bytes.drop payload.length)).1,
          (read (bytes.drop payload.length)).2)
      else ([], lengthPrefix payload ++ bytes) := by
  have htake : (lengthPrefix payload ++ bytes).take 8 = lengthPrefix payload :=
    List.take_left' (length_lengthPrefix payload)
  have hdrop : (lengthPrefix payload ++ bytes).drop 8 = bytes :=
    List.drop_left' (length_lengthPrefix payload)
  have hlength : 8 ≤ (lengthPrefix payload ++ bytes).length := by
    rw [List.length_append, length_lengthPrefix]
    exact Nat.le_add_right 8 _
  rw [read]
  simp only [htake, hdrop, ofLittleEndian_lengthPrefix h, hlength, true_and]
  split <;> rfl

/-- Reading takes the first frame off. -/
theorem read_ofPayload_append {payload : List UInt8} (h : Fits payload) (rest : List UInt8) :
    read (ofPayload payload ++ rest) = (payload :: (read rest).1, (read rest).2) := by
  have hle : payload.length ≤ (payload ++ rest).length := by
    rw [List.length_append]
    exact Nat.le_add_right _ _
  rw [ofPayload, List.append_assoc, read_lengthPrefix_append h, if_pos hle, List.take_left,
    List.drop_left]

theorem read_flatMap_append {payloads : List (List UInt8)} (h : ∀ p ∈ payloads, Fits p)
    (rest : List UInt8) :
    read (payloads.flatMap ofPayload ++ rest) = (payloads ++ (read rest).1, (read rest).2) := by
  induction payloads with
  | nil => rfl
  | cons p payloads ih =>
    rw [List.forall_mem_cons] at h
    rw [List.flatMap_cons, List.append_assoc, read_ofPayload_append h.1, ih h.2]
    rfl

/-- Bytes that begin with a frame are that frame and what follows it. -/
theorem exists_payload_of_begins {bytes : List UInt8} (h : Begins bytes) :
    ∃ payload rest, bytes = ofPayload payload ++ rest ∧ Fits payload := by
  obtain ⟨hlength, hsize⟩ := h
  have htake : (bytes.take 8).length = 8 := by rw [List.length_take, Nat.min_eq_left hlength]
  refine ⟨(bytes.drop 8).take (ofLittleEndian (bytes.take 8)),
    (bytes.drop 8).drop (ofLittleEndian (bytes.take 8)), ?_, ?_⟩
  · have hprefix := littleEndian_ofLittleEndian (bytes.take 8)
    rw [htake] at hprefix
    rw [ofPayload, lengthPrefix, List.length_take, Nat.min_eq_left hsize, hprefix,
      List.append_assoc, List.take_append_drop, List.take_append_drop]
  · have hlt := ofLittleEndian_lt (bytes.take 8)
    rw [Fits, List.length_take, Nat.min_eq_left hsize]
    rwa [htake] at hlt

/-- Reading gives the one way to cut the bytes into frames and a rest that begins with none. -/
theorem read_eq_iff {bytes left : List UInt8} {payloads : List (List UInt8)} :
    read bytes = (payloads, left) ↔
      bytes = payloads.flatMap ofPayload ++ left ∧ (∀ p ∈ payloads, Fits p) ∧ ¬ Begins left := by
  constructor
  · induction hn : bytes.length using Nat.strongRecOn generalizing bytes payloads with
    | ind n ih =>
      intro h
      by_cases hbegins : Begins bytes
      · obtain ⟨payload, rest, rfl, hfits⟩ := exists_payload_of_begins hbegins
        rw [read_ofPayload_append hfits] at h
        obtain ⟨rfl, rfl⟩ := Prod.mk.inj h
        have hshort : rest.length < n := by
          rw [← hn, List.length_append, length_ofPayload]
          omega
        obtain ⟨hrest, hall, hleft⟩ := ih rest.length hshort rfl rfl
        refine ⟨?_, List.forall_mem_cons.mpr ⟨hfits, hall⟩, hleft⟩
        rw [List.flatMap_cons, List.append_assoc, ← hrest]
      · rw [read_of_not_begins hbegins] at h
        obtain ⟨rfl, rfl⟩ := Prod.mk.inj h
        exact ⟨rfl, List.forall_mem_nil _, hbegins⟩
  · rintro ⟨rfl, hall, hleft⟩
    rw [read_flatMap_append hall, read_of_not_begins hleft, List.append_nil]

end Frame

/-! ## Sends over a device that never fails -/

namespace FramedSink

variable {s : FramedSink} {chunk : Chunk}

/-- The payload of a chunk, or why there is none. -/
def payload (s : FramedSink) (chunk : Chunk) : Except TransportError (List UInt8) :=
  chunk.toRecordBatch.mapError .columnar >>= s.encode

/-- The payloads of the chunks that have one, in order. -/
def payloads (s : FramedSink) (chunks : List Chunk) : List (List UInt8) :=
  chunks.filterMap fun chunk => (s.payload chunk).toOption

theorem payloads_cons (s : FramedSink) (chunk : Chunk) (chunks : List Chunk) :
    s.payloads (chunk :: chunks) = (s.payload chunk).toOption.toList ++ s.payloads chunks := by
  rw [payloads, List.filterMap_cons, payloads]
  cases (s.payload chunk).toOption <;> rfl

/-- Every payload is short enough for the length in front of it. -/
def Short (s : FramedSink) : Prop :=
  ∀ batch payload, s.encode batch = .ok payload → Frame.Fits payload

theorem Short.fits {payload : List UInt8} (hshort : s.Short) (h : s.payload chunk = .ok payload) :
    Frame.Fits payload := by
  obtain ⟨batch, -, hencode⟩ := bind_eq_ok_iff.mp h
  exact hshort batch payload hencode

theorem Short.forall_payloads (hshort : s.Short) (chunks : List Chunk) :
    ∀ p ∈ s.payloads chunks, Frame.Fits p := by
  intro p hp
  obtain ⟨chunk, -, hchunk⟩ := List.mem_filterMap.mp hp
  exact hshort.fits (toOption_eq_some_iff.mp hchunk)

/-- All that a send does once the chunk has a payload or not. -/
theorem send_eq (s : FramedSink) (chunk : Chunk) :
    Sink.send s chunk = match s.payload chunk with
      | .error e => (.error e, s)
      | .ok payload =>
        match s.device.write (Frame.lengthPrefix payload) with
        | (.error e, device) => (.error e, { s with device })
        | (.ok (), device) =>
          match device.write payload with
          | (.error e, device) => (.error e, { s with device })
          | (.ok (), device) =>
            (.ok (), { s with device, chunksWritten := s.chunksWritten + 1 }) := by
  show s.send chunk = _
  unfold send payload
  cases chunk.toRecordBatch with
  | error e => rfl
  | ok batch => cases s.encode batch <;> rfl

/-- A chunk without a payload leaves all as it was. -/
theorem send_of_payload_error {e : TransportError} (h : s.payload chunk = .error e) :
    Sink.send s chunk = (.error e, s) := by
  rw [send_eq, h]

/-- The sink with one more frame on its device. -/
def wrote (s : FramedSink) (payload : List UInt8) : FramedSink :=
  { s with
    device := (s.device.keep (Frame.lengthPrefix payload)).keep payload
    chunksWritten := s.chunksWritten + 1 }

theorem bytes_wrote (s : FramedSink) (payload : List UInt8) :
    (s.wrote payload).device.bytes = s.device.bytes ++ Frame.ofPayload payload := by
  simp only [wrote, Device.bytes_keep, Frame.ofPayload, List.append_assoc]

theorem send_of_accepts {payload : List UInt8} (haccepts : ∀ n, s.device.failure? n = none)
    (h : s.payload chunk = .ok payload) : Sink.send s chunk = (.ok (), s.wrote payload) := by
  have hwrite : ∀ (d : Device) (data : List UInt8), d.failure? d.calls = none →
      d.write data = (.ok (), d.keep data) := by
    intro d data hnone
    rw [Device.write, hnone]
  rw [send_eq, h]
  simp only [hwrite s.device _ (haccepts _), hwrite (s.device.keep _) _ (haccepts _)]
  rfl

/-- The chunks that have a payload are written as frames, one after the other. -/
theorem sendAll_of_accepts (haccepts : ∀ n, s.device.failure? n = none) (chunks : List Chunk) :
    let after := Sink.sendAll s chunks
    after.device.bytes = s.device.bytes ++ (s.payloads chunks).flatMap Frame.ofPayload ∧
      after.chunksWritten = s.chunksWritten + (s.payloads chunks).length ∧
      after.encode = s.encode ∧ after.device.failure? = s.device.failure? := by
  induction chunks generalizing s with
  | nil => simp [Sink.sendAll, payloads]
  | cons chunk chunks ih =>
    simp only [Sink.sendAll, List.foldl_cons] at ih ⊢
    rw [payloads_cons]
    cases hpayload : s.payload chunk with
    | error e =>
      rw [send_of_payload_error hpayload]
      exact ih haccepts
    | ok p =>
      rw [send_of_accepts haccepts hpayload]
      obtain ⟨hbytes, hcount, hencode, hfailure⟩ := ih (s := s.wrote p) haccepts
      have hpayloads : (s.wrote p).payloads chunks = s.payloads chunks := rfl
      have hwritten : (s.wrote p).chunksWritten = s.chunksWritten + 1 := rfl
      refine ⟨?_, ?_, hencode, hfailure⟩
      · rw [hbytes, bytes_wrote, List.append_assoc, hpayloads]
        rfl
      · rw [hcount, hwritten, hpayloads, Nat.add_assoc, Nat.add_comm 1]
        rfl

theorem send_result_of_accepts (haccepts : ∀ n, s.device.failure? n = none) (chunk : Chunk) :
    (Sink.send s chunk).1 = (s.payload chunk).map fun _ => () := by
  cases hpayload : s.payload chunk with
  | error e => rw [send_of_payload_error hpayload]; rfl
  | ok p => rw [send_of_accepts haccepts hpayload]; rfl

theorem forall₂_payloads (s : FramedSink) (chunks : List Chunk) :
    List.Forall₂ (fun chunk payload => s.payload chunk = .ok payload)
      (chunks.filter fun chunk => (s.payload chunk).isOk) (s.payloads chunks) := by
  induction chunks with
  | nil => exact .nil
  | cons chunk chunks ih =>
    cases hpayload : s.payload chunk with
    | error e => simpa [payloads, hpayload, Except.toOption, Except.isOk, Except.toBool] using ih
    | ok p => simpa [payloads, hpayload, Except.toOption, Except.isOk, Except.toBool] using ih

/-- Over a device on which no write fails, whatever chunks are sent and whatever the encoder makes
of them: the bytes are frames from end to end, and reading gives as many payloads as chunks were
counted, the payload of each chunk that has one, in order. A send fails exactly if the chunk has
no payload; it then leaves the device and the count as they were, over any device. -/
theorem read_sendAll (hshort : s.Short) (haccepts : ∀ n, s.device.failure? n = none)
    (hempty : s.device.bytes = []) (hnone : s.chunksWritten = 0) (chunks : List Chunk) :
    Frame.read (Sink.sendAll s chunks).device.bytes = (s.payloads chunks, []) ∧
    (Sink.sendAll s chunks).chunksWritten = (s.payloads chunks).length ∧
    List.Forall₂ (fun chunk payload => s.payload chunk = .ok payload)
      (chunks.filter fun chunk => (s.payload chunk).isOk) (s.payloads chunks) ∧
    (∀ before chunk rest, chunks = before ++ chunk :: rest →
      (Sink.send (Sink.sendAll s before) chunk).1 = (s.payload chunk).map fun _ => ()) ∧
    ∀ (t : FramedSink) chunk e, t.payload chunk = .error e → Sink.send t chunk = (.error e, t) := by
  obtain ⟨hbytes, hcount, -, -⟩ := sendAll_of_accepts haccepts chunks
  refine ⟨?_, ?_, s.forall₂_payloads chunks, ?_, fun _ _ _ => send_of_payload_error⟩
  · refine Frame.read_eq_iff.mpr ⟨?_, hshort.forall_payloads chunks, by decide⟩
    rw [hbytes, hempty, List.nil_append, List.append_nil]
  · rw [hcount, hnone, Nat.zero_add]
  · intro before chunk rest _
    obtain ⟨-, -, hencode, hfailure⟩ := sendAll_of_accepts haccepts before
    have hpayload : (Sink.sendAll s before).payload chunk = s.payload chunk := by
      rw [payload, hencode, payload]
    rw [send_result_of_accepts (hfailure ▸ haccepts), hpayload]

/-- The mark at the end of an encoded stream. -/
def endMark : List UInt8 := [255, 255, 255, 255, 0, 0, 0, 0]

/-- Encodes the number of rows in front of the end mark, and refuses a batch without rows. -/
def rowCounter : FramedSink where
  encode batch :=
    if batch.rowCount = 0 then .error (.columnar (.compute "no rows"))
    else .ok (Frame.littleEndian 8 batch.rowCount ++ endMark)
  device := { failure? := fun _ => none }

/-- Times only. -/
def timesOnly (times : List Int64) : Chunk := ⟨.root, [⟨"frame", .sequence, times⟩], []⟩

theorem short_rowCounter : rowCounter.Short := by
  intro batch payload h
  simp only [rowCounter] at h
  split at h
  · cases h
  · cases h
    simp only [Frame.Fits, List.length_append, Frame.length_littleEndian]
    decide

theorem read_sendAll_rowCounter :
    let chunks := [timesOnly [5], timesOnly [], timesOnly [6, 7]]
    rowCounter.Short ∧ (∀ n, rowCounter.device.failure? n = none) ∧
    Frame.read (Sink.sendAll rowCounter chunks).device.bytes =
      ([[1, 0, 0, 0, 0, 0, 0, 0] ++ endMark, [2, 0, 0, 0, 0, 0, 0, 0] ++ endMark], []) ∧
    (Sink.sendAll rowCounter chunks).chunksWritten = 2 := by
  intro chunks
  obtain ⟨hread, hcount, -⟩ :=
    read_sendAll short_rowCounter (fun _ => rfl) rfl rfl chunks
  exact ⟨short_rowCounter, fun _ => rfl, hread, hcount⟩

end FramedSink

end ComponentLog
