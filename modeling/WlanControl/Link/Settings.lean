namespace WlanControl.Link

/-!
# Settings of the link layer

Times are in microseconds.
-/

/-- The times and budgets of the link layer. -/
structure Settings where
  /-- How long an answer is waited for, before a frame of the handshake is sent again. -/
  resendInterval : Nat
  /-- How often one connection attempt may send again or start over. -/
  retryBudget : UInt8
  /-- How long nothing is sent, before the access point is told that the station is still there. -/
  keepaliveInterval : Nat
  /-- How long nothing is heard, before the link counts as lost. -/
  linkLossTimeout : Nat
  /-- How long a scan stays on a channel. -/
  scanDwell : Nat
  /-- The time between two beacons of a session, in units of 1024 µs. -/
  beaconInterval : UInt16
  /-- How many records of the host are sent in one tick at most. -/
  txBurst : Nat
deriving DecidableEq, Repr

namespace Settings

/-- The settings that apply where the application sets nothing else. -/
def standard : Settings where
  resendInterval := 250000
  retryBudget := 8
  keepaliveInterval := 20000000
  linkLossTimeout := 10000000
  scanDwell := 150000
  beaconInterval := 100
  txBurst := 4

instance : Inhabited Settings := ⟨standard⟩

/-- The time between two beacons of a session. -/
def beaconPeriod (s : Settings) : Nat := s.beaconInterval.toNat * 1024

end Settings

end WlanControl.Link
