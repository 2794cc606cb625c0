import WlanControl.Discovery.Matcher
import WlanControl.Request.Key

namespace WlanControl

/-!
# Stored connections

* `IpConfig` — how the network stack gets its address once the link is up;
* `Profile` — a stored connection;
* `loadProfiles` — the stored connections in use, in the order of their slots.
-/

/-- An address of four octets. -/
structure Ipv4 where
  o₁ : UInt8
  o₂ : UInt8
  o₃ : UInt8
  o₄ : UInt8
deriving DecidableEq, Repr

/-- How the network stack gets its address. -/
inductive IpConfig
  /-- The network assigns one. -/
  | dhcp
  /-- It is given, with two name servers. -/
  | static (address netmask gateway dns₁ dns₂ : Ipv4)
deriving DecidableEq, Repr

instance : Inhabited IpConfig := ⟨.dhcp⟩

/-- Whether there is no address before the network has assigned one. -/
def IpConfig.needsAddress : IpConfig → Bool
  | .dhcp => true
  | .static .. => false

/-- A stored connection. -/
structure Profile where
  ssid : Ssid
  /-- The address, where zero stands for any. -/
  bssid : MacAddress
  security : Frame.Security
  key : Option Key
  ip : IpConfig
deriving DecidableEq, Repr

/-- What tells the access points of a stored connection from others. -/
def Profile.matcher (p : Profile) : Discovery.Matcher := ⟨p.bssid, some p.ssid⟩

/-- The number of slots for stored connections. -/
def maxProfiles : Nat := 3

/-- The stored connections of the slots in use, in the order of the slots. -/
def loadProfiles (store : Nat → Option Profile) : List Profile :=
  (List.range maxProfiles).filterMap store

/-- There are at most as many connections as there are slots. -/
theorem length_loadProfiles_le (store : Nat → Option Profile) :
    (loadProfiles store).length ≤ maxProfiles := by
  have := List.length_filterMap_le store (List.range maxProfiles)
  simpa [loadProfiles] using this

end WlanControl
