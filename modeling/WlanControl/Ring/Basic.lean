import WlanControl.Octets
import WlanControl.Sync.Doorbell

namespace WlanControl

open Sync (Doorbell)

/-!
# Rings of records

A ring carries records of octets from one producer to one consumer.  Each record has a header of
four octets with its length and a sequence number.  Only the producer moves the write offset and
only the consumer the read offset, so neither needs a lock.

A record is never split.  If it does not fit in front of the end of the buffer, the producer leaves
a wrap marker there and puts the record at the start.  There is always room for that marker, because
the write offset stays a header's size away from the end.  One octet at least stays unused, so that
a full ring can be told from an empty one.

* `Ring` — the ring, with the buffer, both offsets and the counters of the producer;
* `Ring.reserve`, `Ring.fill`, `Ring.commit` — the steps of the producer, of which `Ring.publish` is
  the part of a commit before its signal;
* `Ring.pop`, `Ring.payload`, `Ring.release` — the steps of the consumer;
* `Ring.push`, `Ring.pushWith`, `Ring.take` — all steps of one side at once;
* `Ring.poll` — one attempt of a task that waits for a record.
-/

/-- Why a ring refuses an operation. -/
inductive RingError
  /-- There is not enough space now. -/
  | full
  /-- The record never fits. -/
  | tooLarge
  /-- Somebody is attached to the ring. -/
  | inUse
deriving DecidableEq, Repr

/-- What the producer counts. -/
structure RingCounters where
  packets : UInt32
  bytes : UInt32
  droppedPackets : UInt32
  droppedBytes : UInt32
deriving DecidableEq, Repr

/-- Nothing was counted yet. -/
def RingCounters.zero : RingCounters := ⟨0, 0, 0, 0⟩

/-- A ring with a buffer of `size` octets. -/
structure Ring (size : Nat) where
  storage : Vector UInt8 size
  writeOffset : Nat
  readOffset : Nat
  producerAttached : Bool
  consumerAttached : Bool
  counters : RingCounters
  bell : Doorbell
deriving DecidableEq, Repr

/-- What the producer keeps to itself: the sequence number of its next record. -/
structure Producer where
  sequence : UInt8
deriving DecidableEq, Repr

/-- Space for one record that the producer has set aside. -/
structure Reservation where
  /-- Where the header of the record goes. -/
  offset : Nat
  /-- The number of octets of the payload. -/
  length : Nat
  /-- Where a wrap marker goes, if the record does not follow the one before it. -/
  wrapAt : Option Nat
deriving DecidableEq, Repr

/-- A record that the consumer has taken and not given back yet. -/
structure Delivery where
  /-- Where the header of the record is. -/
  offset : Nat
  /-- The number of octets of the payload. -/
  length : Nat
  sequence : UInt8
deriving DecidableEq, Repr

namespace Ring

variable {size : Nat}

/-- The number of octets in front of each payload. -/
def headerSize : Nat := 4

/-- The sizes that a ring may have: room for four headers, and records whose length fits into
sixteen bits. -/
def Admits (size : Nat) : Prop := 4 * headerSize ≤ size ∧ size ≤ 65535

/-- The greatest payload that fits into an empty ring. -/
def maxPayload (size : Nat) : Nat := size - 2 * headerSize - 1

/-- A ring in which nothing was written yet. -/
def empty (size : Nat) : Ring size where
  storage := Vector.replicate size 0
  writeOffset := 0
  readOffset := 0
  producerAttached := false
  consumerAttached := false
  counters := .zero
  bell := .silent

instance : Inhabited (Ring size) := ⟨empty size⟩

/-! ### The buffer -/

/-- A buffer after octets were written to it from an offset on. -/
def writeOctets : List UInt8 → Nat → Vector UInt8 size → Vector UInt8 size
  | [], _, storage => storage
  | octet :: rest, offset, storage =>
    writeOctets rest (offset + 1) (storage.setIfInBounds offset octet)

/-- The octets of a buffer from an offset on. -/
def readOctets (storage : Vector UInt8 size) (offset length : Nat) : List UInt8 :=
  (List.range length).map fun i => (storage[offset + i]?).getD 0

/-- The header of a record. -/
def header (length : Nat) (sequence : UInt8) : List UInt8 :=
  littleEndian16 (UInt16.ofNat length) ++ [sequence, 0]

/-- What stands in place of a header where the next record is at the start of the buffer.  No record
has this header, since the last octet of a header is zero. -/
def wrapMarker : List UInt8 := [0xff, 0xff, 0xff, 0xff]

/-! ### Attaching -/

/-- Attaches a producer, unless there is one.  Its records are numbered from zero. -/
def attachProducer (r : Ring size) : Ring size × Option Producer :=
  ({ r with producerAttached := true }, if r.producerAttached then none else some ⟨0⟩)

/-- Attaches a consumer, unless there is one, and tells whether it did. -/
def attachConsumer (r : Ring size) : Ring size × Bool :=
  ({ r with consumerAttached := true }, !r.consumerAttached)

/-- Makes room for another producer. -/
def detachProducer (r : Ring size) : Ring size := { r with producerAttached := false }

/-- Makes room for another consumer. -/
def detachConsumer (r : Ring size) : Ring size := { r with consumerAttached := false }

/-- Empties the ring and clears its counters, unless somebody is attached to it. -/
def reset (r : Ring size) : Ring size × Except RingError Unit :=
  if r.producerAttached || r.consumerAttached then (r, .error .inUse)
  else
    ({ r with writeOffset := 0, readOffset := 0, counters := .zero, bell := r.bell.reset }, .ok ())

/-! ### Filling -/

/-- The number of octets between both offsets, with those skipped at the end of the buffer. -/
def bytesUsed (r : Ring size) : Nat := (r.writeOffset + size - r.readOffset) % size

/-- Whether the consumer has caught up with the producer. -/
def isEmpty (r : Ring size) : Bool := r.bytesUsed == 0

/-- Sets space aside for a record with a payload of `length` octets.  The consumer sees nothing of
it before it is committed. -/
def reserve (length : Nat) (r : Ring size) : Except RingError Reservation :=
  if maxPayload size < length then .error .tooLarge
  else
    let total := headerSize + length
    if r.readOffset ≤ r.writeOffset then
      if r.writeOffset + total + headerSize ≤ size then .ok ⟨r.writeOffset, length, none⟩
      else if total < r.readOffset then .ok ⟨0, length, some r.writeOffset⟩
      else .error .full
    else if r.writeOffset + total < r.readOffset then .ok ⟨r.writeOffset, length, none⟩
    else .error .full

/-- Writes the payload of a reserved record. -/
def fill (g : Reservation) (payload : List UInt8) (r : Ring size) : Ring size :=
  { r with storage := writeOctets (payload.take g.length) (g.offset + headerSize) r.storage }

/-- Puts a reserved record into the ring and counts it.  From then on the consumer sees it. -/
def publish (g : Reservation) (p : Producer) (r : Ring size) : Ring size × Producer :=
  let storage := match g.wrapAt with
    | some offset => writeOctets wrapMarker offset r.storage
    | none => r.storage
  ({ r with
      storage := writeOctets (header g.length p.sequence) g.offset storage
      writeOffset := g.offset + headerSize + g.length
      counters := { r.counters with
        packets := r.counters.packets + 1
        bytes := r.counters.bytes + UInt32.ofNat g.length } },
    ⟨p.sequence + 1⟩)

/-- Makes a reserved record visible to the consumer, and then gives the signal for it. -/
def commit (g : Reservation) (p : Producer) (r : Ring size) : Ring size × Producer :=
  let (r, p) := r.publish g p
  ({ r with bell := r.bell.ring }, p)

/-- Counts a record that was not written. -/
def recordDrop (length : Nat) (r : Ring size) : Ring size :=
  { r with counters := { r.counters with
      droppedPackets := r.counters.droppedPackets + 1
      droppedBytes := r.counters.droppedBytes + UInt32.ofNat length } }

/-- Writes one record, or counts it as dropped if there is no space for it. -/
def push (payload : List UInt8) (p : Producer) (r : Ring size) :
    Ring size × Producer × Except RingError Unit :=
  match r.reserve payload.length with
  | .ok g =>
    let (r, p) := (r.fill g payload).commit g p
    (r, p, .ok ())
  | .error e => (r.recordDrop payload.length, p, .error e)

/-- Writes one record in place, or counts it as dropped if there is no space for it.  What the
octets of the payload are to be may depend on those that happen to be there. -/
def pushWith (length : Nat) (write : List UInt8 → List UInt8) (p : Producer) (r : Ring size) :
    Ring size × Producer × Except RingError Unit :=
  match r.reserve length with
  | .ok g =>
    let found := readOctets r.storage (g.offset + headerSize) g.length
    let (r, p) := (r.fill g (write found)).commit g p
    (r, p, .ok ())
  | .error e => (r.recordDrop length, p, .error e)

/-! ### Emptying -/

/-- The record whose header is at an offset. -/
def deliveryAt (offset : Nat) (r : Ring size) : Delivery :=
  let octet := fun i => (r.storage[offset + i]?).getD 0
  ⟨offset, (word16 (octet 0) (octet 1)).toNat, octet 2⟩

/-- Takes the oldest record, if there is one.  A wrap marker is passed on the way to it. -/
def pop (r : Ring size) : Ring size × Option Delivery :=
  if r.readOffset = r.writeOffset then (r, none)
  else if readOctets r.storage r.readOffset headerSize = wrapMarker then
    let r := { r with readOffset := 0 }
    if r.writeOffset = 0 then (r, none) else (r, some (r.deliveryAt 0))
  else (r, some (r.deliveryAt r.readOffset))

/-- The payload of a record that was taken. -/
def payload (d : Delivery) (r : Ring size) : List UInt8 :=
  readOctets r.storage (d.offset + headerSize) d.length

/-- Gives the space of a record back to the producer. -/
def release (d : Delivery) (r : Ring size) : Ring size :=
  { r with readOffset := d.offset + headerSize + d.length }

/-- Takes the payload of the oldest record out of the ring, if there is one. -/
def take (r : Ring size) : Ring size × Option (List UInt8) :=
  match r.pop with
  | (r, some d) => (r.release d, some (r.payload d))
  | (r, none) => (r, none)

/-- Throws away at most `most` records, the oldest ones first. -/
def discard : Nat → Ring size → Ring size
  | 0, r => r
  | most + 1, r =>
    match r.take with
    | (r, some _) => discard most r
    | (r, none) => r

/-- Throws all records away.  There are fewer of them than octets in the buffer. -/
def discardAll (r : Ring size) : Ring size := r.discard size

/-! ### Waiting -/

/-- One attempt of a task to find a record in the ring, and whether it found one.  The task takes
signals of the doorbell until there is a record, and leaves its number once there are none left.  A
task that is `resumed` stands at the doorbell and looks for a signal first. -/
def poll (task : Nat) (resumed : Bool) (r : Ring size) : Ring size × Bool :=
  if !resumed && !r.isEmpty then (r, true)
  else
    match _taken : r.bell.take? with
    | some bell => poll task false { r with bell }
    | none => ({ r with bell := r.bell.register task }, false)
termination_by r.bell.pending.toNat
decreasing_by exact Nat.lt_of_succ_le (Nat.le_of_eq (Doorbell.toNat_pending_of_take? _taken))

end Ring

end WlanControl
