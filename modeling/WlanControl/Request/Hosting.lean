import WlanControl.Request.Channel
import WlanControl.Ssid

namespace WlanControl

/-!
# Parameters of a session

What the application asks for when it wants to host a local multiplayer session.

* `maxPeers`, `maxPacketSize` — the limits of a session;
* `HostParameters` — the parameters, with `HostParameters.validate` for the limits.
-/

/-- The greatest number of peers in a session. -/
def maxPeers : Nat := 15

/-- The greatest number of octets in a packet of a session. -/
def maxPacketSize : UInt16 := 512

/-- The parameters of a session. -/
structure HostParameters where
  ssid : Ssid
  channel : UInt8
  gameId : UInt32
  streamCode : UInt16
  maxPeers : UInt8
  /-- The size of the packets from the host to the peers. -/
  hostPacketSize : UInt16
  /-- The size of the packets from the peers to the host. -/
  peerPacketSize : UInt16
deriving DecidableEq, Repr

namespace HostParameters

/-- Refuses parameters that are out of their limits.  The channel is looked at first and the packets
last. -/
def validate (p : HostParameters) : Except RequestError Unit :=
  match checkChannel p.channel with
  | .error e => .error e
  | .ok _ =>
    if p.maxPeers.toNat < 1 ∨ WlanControl.maxPeers < p.maxPeers.toNat then
      .error .invalidPeerCount
    else if maxPacketSize < p.hostPacketSize ∨ maxPacketSize < p.peerPacketSize then
      .error .packetTooLarge
    else .ok ()

/-- Parameters within their limits and without a stream code. -/
def make (ssid : List UInt8) (channel : UInt8) (gameId : UInt32) (maxPeers : UInt8)
    (hostPacketSize peerPacketSize : UInt16) : Except RequestError HostParameters :=
  match Ssid.ofOctets? ssid with
  | none => .error .invalidSsid
  | some ssid =>
    let p : HostParameters :=
      { ssid, channel, gameId, streamCode := 0, maxPeers, hostPacketSize, peerPacketSize }
    match p.validate with
    | .ok () => .ok p
    | .error e => .error e

/-- Parameters that pass have between one and fifteen peers. -/
theorem maxPeers_of_validate {p : HostParameters} (h : p.validate = .ok ()) :
    1 ≤ p.maxPeers.toNat ∧ p.maxPeers.toNat ≤ WlanControl.maxPeers := by
  unfold validate at h
  split at h
  · cases h
  · split at h
    · cases h
    · omega

end HostParameters

end WlanControl
