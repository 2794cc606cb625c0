import WlanControl.Discovery.Record

namespace WlanControl.Discovery

/-!
# Choosing access points

* `Matcher` — what tells a wanted access point from others;
* `ScanFilter` — which access points are reported after a scan.
-/

/-- What tells a wanted access point from others. -/
structure Matcher where
  /-- The address, where zero stands for any. -/
  bssid : MacAddress
  ssid : Option Ssid
deriving DecidableEq, Repr

namespace Matcher

/-- The access point with the given address. -/
def byBssid (bssid : MacAddress) : Matcher := ⟨bssid, none⟩

/-- An access point of the network with the given name. -/
def bySsid (ssid : Ssid) : Matcher := ⟨.zero, some ssid⟩

/-- Matches nothing. -/
def nothing : Matcher := ⟨.zero, none⟩

instance : Inhabited Matcher := ⟨nothing⟩

/-- An address decides alone.  Without one the names have to be equal, and an empty name is equal to
none. -/
def accepts (m : Matcher) (r : Record) : Bool :=
  if m.bssid.isZero then
    match m.ssid, r.ssid with
    | some wanted, some advertised => !wanted.isEmpty && wanted = advertised
    | _, _ => false
  else r.bssid = m.bssid

end Matcher

/-- Which access points are reported. -/
inductive ScanFilter
  | all
  /-- Only those that the radio can join. -/
  | compatible
  /-- Only hosts of a multiplayer session, of one game if one is given. -/
  | localHosts (gameId : Option UInt32)
deriving DecidableEq, Repr

/-- Whether the filter lets a record through. -/
def ScanFilter.accepts (filter : ScanFilter) (r : Record) : Bool :=
  match filter with
  | .all => true
  | .compatible => r.compatible
  | .localHosts gameId =>
    match r.advertisement, gameId with
    | none, _ => false
    | some _, none => true
    | some advertisement, some gameId => gameId = advertisement.gameId

/-- The matcher without an address and a name matches nothing. -/
theorem Matcher.accepts_nothing (r : Record) : nothing.accepts r = false := by
  simp [nothing, accepts, MacAddress.isZero]

end WlanControl.Discovery
