import WlanControl.Discovery.Rssi
import WlanControl.Frame.Beacon
import WlanControl.Request.Channel

namespace WlanControl.Discovery

open WlanControl.Frame (Advertisement BeaconInfo SecurityInfo)

/-!
# What is known about access points

* `Observation` — what one beacon or probe response tells, as the radio heard it;
* `Record` — what is remembered of all observations of one access point;
* `Record.update` — a record after one more observation.

Main statement: `Record.bssid_update`, a record stays with its access point.
-/

/-- A beacon or probe response, together with how it was received. -/
structure Observation where
  bssid : MacAddress
  transmitter : MacAddress
  ssid : Option Ssid
  channel : UInt8
  /-- None if the frame was heard on another channel than that of the access point. -/
  rssi : Option UInt8
  security : SecurityInfo
  compatible : Bool
  interval : UInt16
  advertisement : Option Advertisement
deriving DecidableEq, Repr

/-- The observation of a frame that was heard with the given strength on the tuned channel.  A frame
that does not tell its channel is taken to come from the tuned one.  Frames are also heard from the
channels beside it, but their strength cannot be compared.  None for access points on channels that
the radio does not have. -/
def Observation.ofBeacon? (info : BeaconInfo) (rssi tuned : UInt8) : Option Observation :=
  match checkChannel (info.channel.getD tuned) with
  | .error _ => none
  | .ok channel =>
    some {
      bssid := info.bssid
      transmitter := info.transmitter
      ssid := info.ssid
      channel
      rssi := if channel = tuned then some rssi else none
      security := info.security
      compatible := info.compatible
      interval := info.interval
      advertisement := info.advertisement }

/-- What is remembered of an access point. -/
structure Record where
  bssid : MacAddress
  /-- The station that sent the last beacon of the network. -/
  transmitter : MacAddress
  ssid : Option Ssid
  channel : UInt8
  security : SecurityInfo
  /-- The radio supports all rates that stations of the network have to support. -/
  compatible : Bool
  rssi : RssiHistory
  /-- The number of ticks of the table since the last observation. -/
  age : Nat
  interval : UInt16
  /-- Present if the access point hosts a multiplayer session. -/
  advertisement : Option Advertisement
deriving DecidableEq, Repr

namespace Record

/-- The record of an access point of which nothing but its address is known. -/
def blank (bssid : MacAddress) : Record where
  bssid
  transmitter := .zero
  ssid := none
  channel := 0
  security := .plain
  compatible := false
  rssi := .empty
  age := 0
  interval := 0
  advertisement := none

/-- Whether the access point hosts a multiplayer session. -/
def isLocalHost (r : Record) : Bool := r.advertisement.isSome

/-- The name to remember after one was observed.  Hidden networks send an empty name in beacons and
their real one in probe responses, so a hidden name never replaces another one. -/
def mergeSsid (known observed : Option Ssid) : Option Ssid :=
  match observed with
  | some ssid => if ssid.isHidden then known.or observed else observed
  | none => known

/-- The record after one more observation of its access point. -/
def update (o : Observation) (r : Record) : Record where
  bssid := r.bssid
  transmitter := o.transmitter
  ssid := mergeSsid r.ssid o.ssid
  channel := o.channel
  security := o.security
  compatible := o.compatible
  rssi := match o.rssi with
    | some rssi => r.rssi.push rssi
    | none => r.rssi
  age := 0
  interval := o.interval
  advertisement := o.advertisement

/-- An observation does not change whose record it is. -/
@[simp] theorem bssid_update (o : Observation) (r : Record) : (r.update o).bssid = r.bssid := rfl

/-- A record is fresh after each observation. -/
@[simp] theorem age_update (o : Observation) (r : Record) : (r.update o).age = 0 := rfl

end Record

end WlanControl.Discovery
