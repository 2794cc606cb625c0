import WlanControl.Link.Mode

namespace WlanControl

open Link (AuthLevel LinkError Mode)

/-!
# What the radio publishes

* `Status` — the state of the link;
* `Statistics` — counters of the link layer, which wrap around.
-/

/-- The state of the link, as the radio publishes it. -/
structure Status where
  mode : Mode
  authLevel : AuthLevel
  channel : UInt8
  rssi : UInt8
  /-- The slot of the access point in the table of discovered ones. -/
  apSlot : Option Nat
  /-- How often the current attempt has sent again or started over. -/
  retries : UInt8
  /-- Why the last connection attempt failed. -/
  failure : Option LinkError
  /-- The association identifier that the access point assigned. -/
  aid : UInt16
  /-- The version of the last command that the radio acted upon. -/
  acknowledged : UInt32
deriving DecidableEq, Repr

/-- The state of a radio that was never used. -/
def Status.initial : Status where
  mode := .disabled
  authLevel := .disconnected
  channel := 0
  rssi := 0
  apSlot := none
  retries := 0
  failure := none
  aid := 0
  acknowledged := 0

/-- Counters of the link layer. -/
structure Statistics where
  rxPackets : UInt32
  rxBytes : UInt32
  txPackets : UInt32
  txBytes : UInt32
  /-- Frames that the radio had no room for. -/
  txQueueFull : UInt32
  /-- Operations that were dropped because the host used what they needed. -/
  lockBusy : UInt32
  /-- Frames of the handshake that were sent again. -/
  retransmissions : UInt32
deriving DecidableEq, Repr

namespace Statistics

/-- Nothing was counted yet. -/
def zero : Statistics := ⟨0, 0, 0, 0, 0, 0, 0⟩

/-- One more packet for the host, of `length` octets. -/
def countReceived (length : Nat) (s : Statistics) : Statistics :=
  { s with rxPackets := s.rxPackets + 1, rxBytes := s.rxBytes + UInt32.ofNat length }

/-- One more frame that was sent, of `length` octets. -/
def countSent (length : Nat) (s : Statistics) : Statistics :=
  { s with txPackets := s.txPackets + 1, txBytes := s.txBytes + UInt32.ofNat length }

/-- One more frame that the radio had no room for. -/
def countQueueFull (s : Statistics) : Statistics := { s with txQueueFull := s.txQueueFull + 1 }

/-- One more operation that was dropped. -/
def countLockBusy (s : Statistics) : Statistics := { s with lockBusy := s.lockBusy + 1 }

/-- One more frame that was sent again. -/
def countRetransmission (s : Statistics) : Statistics :=
  { s with retransmissions := s.retransmissions + 1 }

end Statistics

end WlanControl
