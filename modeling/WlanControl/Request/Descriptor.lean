import WlanControl.Discovery.Matcher

namespace WlanControl

/-!
# The access point to connect to

`Descriptor` is how the application names the access point that it wants.
-/

/-- The access point that the application wants. -/
structure Descriptor where
  /-- The address, where zero stands for any. -/
  bssid : MacAddress
  ssid : Option Ssid
  /-- Where the access point was seen last.  It is looked for on all channels all the same. -/
  channel : Option UInt8
deriving DecidableEq, Repr

namespace Descriptor

/-- The descriptor with the given parts.  There has to be an address or a name, where an empty name
is none, and the channel has to be one of the radio.  The name is looked at first. -/
def make (bssid : MacAddress) (ssid : List UInt8) (channel : Option UInt8) :
    Except RequestError Descriptor :=
  match Ssid.ofOctets? ssid with
  | none => .error .invalidSsid
  | some name =>
    let ssid := if name.isEmpty then none else some name
    if bssid.isZero && ssid.isNone then .error .invalidSsid
    else
      match channel with
      | none => .ok { bssid, ssid, channel := none }
      | some channel =>
        match checkChannel channel with
        | .ok channel => .ok { bssid, ssid, channel := some channel }
        | .error e => .error e

/-- The descriptor of an access point that was discovered. -/
def ofRecord (r : Discovery.Record) : Descriptor where
  bssid := r.bssid
  ssid := r.ssid
  channel := some r.channel

/-- What tells the access point from others. -/
def matcher (d : Descriptor) : Discovery.Matcher := ⟨d.bssid, d.ssid⟩

/-- The descriptor of a discovered access point finds it again, unless it has no address. -/
theorem accepts_ofRecord (r : Discovery.Record) (h : r.bssid.isZero = false) :
    (ofRecord r).matcher.accepts r = true := by
  simp [ofRecord, matcher, Discovery.Matcher.accepts, h]

end Descriptor

end WlanControl
