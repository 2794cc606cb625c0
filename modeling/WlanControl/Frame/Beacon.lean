import WlanControl.Frame.Advertisement
import WlanControl.Frame.Header
import WlanControl.Frame.Rate
import WlanControl.Ssid

namespace WlanControl.Frame

/-!
# Beacons and probe responses

What an access point announces about its network.  The body of these frames has twelve octets of
fixed fields and then a chain of elements, which are taken in one after the other.

* `Announcement` — what the elements seen so far say, with `Announcement.absorb` for one more;
* `BeaconInfo` — all that a beacon or probe response says;
* `BeaconInfo.ofBody?` — reading the body of such a frame.

Main statement: `BeaconInfo.ofBody?_eq_none_iff`, only the fixed fields can be missing.
-/

/-! ### What the elements say -/

/-- What the elements of a beacon say, as far as they were read. -/
structure Announcement where
  ssid : Option Ssid
  channel : Option UInt8
  /-- A list of rates was seen. -/
  hasRates : Bool
  /-- No basic rate was seen that the radio lacks. -/
  ratesNative : Bool
  security : SecurityInfo
  advertisement : Option Advertisement
deriving DecidableEq, Repr

namespace Announcement

/-- What is known before any element was read: whether frames have to be encrypted. -/
def ofPrivacy (privacy : Bool) : Announcement where
  ssid := none
  channel := none
  hasRates := false
  ratesNative := true
  security := { SecurityInfo.plain with security := if privacy then .wep else .plain }
  advertisement := none

/-- Takes in a vendor element.  A WPA element is of no interest next to an RSN element. -/
def absorbVendor (a : Announcement) (contents : List UInt8) : Announcement :=
  match contents with
  | o₁ :: o₂ :: o₃ :: kind :: suites =>
    if (⟨o₁, o₂, o₃⟩ : Oui) = Oui.wpa ∧ kind = 1 then
      if a.security.security = .wpa2 then a
      else { a with security := (SecurityInfo.ofSuites? .wpa .wpa suites).getD a.security }
    else if (⟨o₁, o₂, o₃⟩ : Oui) = Oui.session ∧ kind = Advertisement.marker then
      { a with advertisement := Advertisement.ofContents? contents }
    else a
  | _ => a

/-- Takes in one more element.  A later element replaces what an earlier one of its kind said, but
for the rates, which add up, and for elements about security that cannot be read. -/
def absorb (a : Announcement) (element : Element) : Announcement :=
  if element.id = ssidId then { a with ssid := Ssid.ofOctets? element.contents }
  else if element.id = ratesId then
    { a with hasRates := true, ratesNative := a.ratesNative && basicRatesNative element.contents }
  else if element.id = channelId then { a with channel := element.contents.head? }
  else if element.id = rsnId then
    { a with security := (SecurityInfo.ofSuites? .rsn .wpa2 element.contents).getD a.security }
  else if element.id = vendorId then a.absorbVendor element.contents
  else a

end Announcement

/-! ### The whole frame -/

/-- What a beacon or probe response says about a network. -/
structure BeaconInfo where
  bssid : MacAddress
  transmitter : MacAddress
  capabilities : Capabilities
  /-- The time between two beacons, in units of 1024 µs. -/
  interval : UInt16
  ssid : Option Ssid
  channel : Option UInt8
  /-- The radio supports all rates that stations of the network have to support. -/
  compatible : Bool
  security : SecurityInfo
  advertisement : Option Advertisement
deriving DecidableEq, Repr

namespace BeaconInfo

/-- The number of octets in front of the elements: a timestamp, the interval, the capabilities. -/
def fixedSize : Nat := 12

/-- WEP networks do not announce their cipher. -/
def withWepCipher (security : SecurityInfo) : SecurityInfo :=
  if security.security = .wep then
    { security with groupCipher := .wep40, pairwiseCipher := .wep40 }
  else security

/-- What the frame with the given header and body says, if the fixed fields are complete. -/
def ofBody? (header : Header) (body : List UInt8) : Option BeaconInfo := do
  let interval ← word16At? body 8
  let capabilities := Capabilities.mk (← word16At? body 10)
  let announced := (elements (body.drop fixedSize)).foldl Announcement.absorb
    (.ofPrivacy (capabilities.has .privacy))
  some {
    bssid := header.address₃
    transmitter := header.address₂
    capabilities
    interval
    ssid := announced.ssid
    channel := announced.channel
    compatible := announced.ratesNative && announced.hasRates
    security := withWepCipher announced.security
    advertisement := announced.advertisement }

/-- Elements cannot make a beacon unreadable, only missing fixed fields can. -/
theorem ofBody?_eq_none_iff (header : Header) (body : List UInt8) :
    ofBody? header body = none ↔ body.length < fixedSize := by
  cases interval : word16At? body 8 with
  | none =>
    have short := (word16At?_eq_none_iff body 8).mp interval
    simp [ofBody?, interval, fixedSize]
    omega
  | some _ =>
    cases capabilities : word16At? body 10 with
    | none =>
      have short := (word16At?_eq_none_iff body 10).mp capabilities
      simp [ofBody?, interval, capabilities, fixedSize]
      omega
    | some _ =>
      have long := mt (word16At?_eq_none_iff body 10).mpr (by simp [capabilities])
      simp [ofBody?, interval, capabilities, fixedSize]
      omega

end BeaconInfo

end WlanControl.Frame
