import WlanControl.Frame.Element
import WlanControl.Frame.Security

namespace WlanControl.Frame

/-!
# Advertisements of multiplayer sessions

The host of a local multiplayer session puts a vendor element into its beacons, which tells the
other stations what is played and whether there is room for them.

* `Advertisement` — what the element says;
* `Advertisement.ofContents?`, `Advertisement.fields` — reading and writing the element.

Main statement: `Advertisement.ofContents?_payload`, an advertisement is read back from the contents
of the element that is written for it.
-/

/-- What the host of a session tells about it. -/
structure Advertisement where
  gameId : UInt32
  streamCode : UInt16
  maxPeers : UInt8
  currentPeers : UInt8
  /-- New peers are let in. -/
  accepting : Bool
  /-- The size of the packets from the host to the peers. -/
  hostPacketSize : UInt16
  /-- The size of the packets from the peers to the host. -/
  peerPacketSize : UInt16
deriving DecidableEq, Repr

namespace Advertisement

/-- The octet behind the owner that marks the vendor element as an advertisement. -/
def marker : UInt8 := 0

/-- The number of octets of the contents: owner, marker and thirteen octets of payload. -/
def contentsLength : UInt8 := 17

/-- What the contents of an advertisement's element say.  Its owner and marker are not looked at,
and octets behind the payload have no meaning. -/
def ofContents? (contents : List UInt8) : Option Advertisement :=
  match contents.drop 4 with
  | g₀ :: g₁ :: g₂ :: g₃ :: s₀ :: s₁ :: most :: current :: accepting :: h₀ :: h₁ :: p₀ :: p₁ :: _ =>
    some {
      gameId := word32 g₀ g₁ g₂ g₃
      streamCode := word16 s₀ s₁
      maxPeers := most
      currentPeers := current
      accepting := accepting != 0
      hostPacketSize := word16 h₀ h₁
      peerPacketSize := word16 p₀ p₁ }
  | _ => none

/-- The thirteen octets of payload, field by field. -/
def payload (a : Advertisement) : List (List UInt8) :=
  [littleEndian32 a.gameId, littleEndian16 a.streamCode, [a.maxPeers], [a.currentPeers],
    [if a.accepting then 1 else 0], littleEndian16 a.hostPacketSize,
    littleEndian16 a.peerPacketSize]

/-- The element, written field by field. -/
def fields (a : Advertisement) : List Field :=
  [.octets [vendorId], .octets [contentsLength], .octets Oui.session.octets, .octets [marker]]
    ++ a.payload.map .octets

/-- An advertisement is read back from the contents of its element. -/
theorem ofContents?_payload (a : Advertisement) :
    ofContents? (Oui.session.octets ++ [marker] ++ a.payload.flatten) = some a := by
  obtain ⟨gameId, streamCode, maxPeers, currentPeers, accepting, hostPacketSize,
    peerPacketSize⟩ := a
  cases accepting <;>
    simp [ofContents?, payload, Oui.octets, littleEndian32, littleEndian16]

end Advertisement

end WlanControl.Frame
