import ComponentLog.Sink.Basic

/-!
# Framed output

A framed sink writes each chunk to a device as one frame: the number of payload
bytes as eight little-endian bytes, then the payload, in two writes. How a record
batch becomes bytes is a parameter.

A device keeps what is written to it. A write may be made to fail after a number of
its bytes were kept, and so may every flush.
-/

namespace ComponentLog

/-! ## Devices -/

/-- How a write fails. -/
structure WriteFailure where
  /-- how many bytes of the write are kept all the same -/
  kept : Nat
  reason : String
  deriving DecidableEq, Repr

structure Device where
  /-- the failure of a write, by its number from zero -/
  failure? : Nat → Option WriteFailure
  flushFailure? : Option String := none
  /-- how many writes were tried -/
  calls : Nat := 0
  /-- what was kept of each write, in order, without those that left nothing -/
  writes : List (List UInt8) := []

namespace Device

/-- All bytes kept. -/
def bytes (d : Device) : List UInt8 := d.writes.flatten

def keep (d : Device) (data : List UInt8) : Device :=
  { d with
    calls := d.calls + 1
    writes := if data.isEmpty then d.writes else d.writes ++ [data] }

/-- Writes all of the data or fails. -/
def write (d : Device) (data : List UInt8) : Except TransportError Unit × Device :=
  match d.failure? d.calls with
  | none => (.ok (), d.keep data)
  | some failure => (.error (.io failure.reason), d.keep (data.take failure.kept))

def flush (d : Device) : Except TransportError Unit × Device :=
  match d.flushFailure? with
  | none => (.ok (), d)
  | some reason => (.error (.io reason), d)

theorem bytes_keep (d : Device) (data : List UInt8) :
    (d.keep data).bytes = d.bytes ++ data := by
  unfold keep bytes
  by_cases h : data.isEmpty = true
  · rw [if_pos h]
    simp_all
  · rw [if_neg h]
    simp

end Device

/-! ## Frames -/

namespace Frame

/-- Little-endian bytes of a number. -/
def littleEndian : (count n : Nat) → List UInt8
  | 0, _ => []
  | count + 1, n => .ofNat (n % 256) :: littleEndian count (n / 256)

/-- The number of little-endian bytes. -/
def ofLittleEndian : List UInt8 → Nat
  | [] => 0
  | b :: bs => b.toNat + 256 * ofLittleEndian bs

/-- What stands in front of a payload. -/
def lengthPrefix (payload : List UInt8) : List UInt8 := littleEndian 8 payload.length

@[simp] theorem length_littleEndian (count n : Nat) : (littleEndian count n).length = count := by
  induction count generalizing n with
  | zero => rfl
  | succ count ih => simp [littleEndian, ih]

theorem shiftLeft_byte (count : Nat) : 1 <<< (8 * (count + 1)) = 256 * 1 <<< (8 * count) := by
  rw [Nat.mul_add, Nat.add_comm, Nat.shiftLeft_add, Nat.shiftLeft_eq _ (8 * count),
    Nat.shiftLeft_eq 1 (8 * count), Nat.one_mul]
  rfl

theorem ofLittleEndian_littleEndian (count n : Nat) :
    ofLittleEndian (littleEndian count n) = n % (1 <<< (8 * count)) := by
  induction count generalizing n with
  | zero => simp [littleEndian, ofLittleEndian, Nat.mod_one]
  | succ count ih =>
    simp only [littleEndian, ofLittleEndian, ih]
    rw [shiftLeft_byte, Nat.mod_mul]
    congr 1
    simp

theorem ofLittleEndian_lt (bs : List UInt8) : ofLittleEndian bs < 1 <<< (8 * bs.length) := by
  induction bs with
  | nil => exact Nat.one_pos
  | cons b bs ih =>
    have hb : b.toNat < 256 := b.toNat_lt
    rw [ofLittleEndian, List.length_cons, shiftLeft_byte]
    omega

theorem littleEndian_ofLittleEndian (bs : List UInt8) :
    littleEndian bs.length (ofLittleEndian bs) = bs := by
  induction bs with
  | nil => rfl
  | cons b bs ih =>
    have hb : b.toNat < 256 := b.toNat_lt
    have hmod : (b.toNat + 256 * ofLittleEndian bs) % 256 = b.toNat := by omega
    have hdiv : (b.toNat + 256 * ofLittleEndian bs) / 256 = ofLittleEndian bs := by omega
    rw [List.length_cons, littleEndian, ofLittleEndian, hmod, hdiv, ih, UInt8.ofNat_toNat]

/-- The payloads of the frames that the bytes begin with, and the bytes after the last whole
frame. -/
def read (bytes : List UInt8) : List (List UInt8) × List UInt8 :=
  let header := bytes.take 8
  let rest := bytes.drop 8
  let size := ofLittleEndian header
  if _h : 8 ≤ bytes.length ∧ size ≤ rest.length then
    let (payloads, left) := read (rest.drop size)
    (rest.take size :: payloads, left)
  else ([], bytes)
termination_by bytes.length
decreasing_by simp; omega

end Frame

/-! ## The sink -/

structure FramedSink where
  encode : RecordBatch → Except TransportError (List UInt8)
  device : Device
  chunksWritten : Nat := 0

namespace FramedSink

def send (s : FramedSink) (chunk : Chunk) : Except TransportError Unit × FramedSink :=
  match chunk.toRecordBatch with
  | .error e => (.error (.columnar e), s)
  | .ok batch =>
    match s.encode batch with
    | .error e => (.error e, s)
    | .ok payload =>
      match s.device.write (Frame.lengthPrefix payload) with
      | (.error e, device) => (.error e, { s with device })
      | (.ok (), device) =>
        match device.write payload with
        | (.error e, device) => (.error e, { s with device })
        | (.ok (), device) =>
          (.ok (), { s with device, chunksWritten := s.chunksWritten + 1 })

def flush (s : FramedSink) : Except TransportError Unit × FramedSink :=
  let (result, device) := s.device.flush
  (result, { s with device })

instance : Sink FramedSink where
  send := send
  flush := flush

end FramedSink

end ComponentLog
