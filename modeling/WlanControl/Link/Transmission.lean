import WlanControl.Link.Machine
import WlanControl.Ring.Packet

namespace WlanControl.Link

open WlanControl.Frame (Authentication Direction Field ReasonCode Security encode? maxFrameLength)

/-!
# Frames of the link layer

Every frame that the link layer starts to build takes the next number, whether it can be sent or
not.

* `Link.transmit` — hands a frame to the radio;
* `Link.send` — numbers a frame, builds it and hands it to the radio;
* `Handshake.frame?` — the frame that a step of the handshake asks for;
* `Link.sendHandshakeFrame`, `Link.sendDataToAp`, … — the frames that are sent.

Main statement: `Link.sequenceNumber_send`, the number of the next frame is one more modulo 4096.
-/

/-- The number after the given one. -/
def nextNumber (number : UInt16) : UInt16 := (number + 1) % 4096

/-- Numbers count up to 4095 and start over. -/
theorem toNat_nextNumber (number : UInt16) :
    (nextNumber number).toNat = (number.toNat + 1) % 4096 := by
  simp [nextNumber]

/-- The frame that the current step of the handshake asks for, up to its number.  The key exchange
is driven by the access point, so the station sends nothing by itself. -/
def Handshake.frame? (h : Handshake) (address : MacAddress) (target : ConnectTarget) :
    Option (UInt16 → List Field) :=
  let bssid := target.bssid
  let authentication := fun (sequence : UInt16) (challenge : Option (List UInt8)) encrypted =>
    fun number =>
      Frame.authentication bssid address bssid number
        { algorithm := h.algorithm, sequence, status := .success, challenge } encrypted
  match h.step with
  | .authenticate => some (authentication 1 none false)
  | .challenge => some (authentication 3 (some h.challenge) true)
  | .associate =>
    let ssid := target.record.ssid.getD .empty
    let privacy := decide (target.record.security.security ≠ .plain)
    some fun number => Frame.associationRequest bssid address number ssid privacy h.rateSet
  | .keyExchange | .done => none

variable {σ : Type} (env : Surroundings σ)

/-- Hands a frame to the radio. -/
def transmit (frame : List UInt8) (l : Link σ) : Link σ :=
  match env.send frame l.outside with
  | (outside, true) =>
    { l with outside, machine.lastSent := l.machine.now, log := .sent frame true :: l.log }.count
      (Statistics.countSent frame.length)
  | (outside, false) =>
    { l with outside, log := .sent frame false :: l.log }.count Statistics.countQueueFull

/-- Builds a frame with the next number and hands it to the radio, unless it would be too long. -/
def send (build : UInt16 → List Field) (l : Link σ) : Link σ :=
  let number := l.machine.sequenceNumber
  let l := { l with machine.sequenceNumber := nextNumber number }
  match encode? maxFrameLength (build number) with
  | some frame => l.transmit env frame
  | none => { l with log := .unsendable :: l.log }

/-- Every frame that is started takes a number, be it sent or not. -/
theorem sequenceNumber_send (build : UInt16 → List Field) (l : Link σ) :
    (l.send env build).machine.sequenceNumber = nextNumber l.machine.sequenceNumber := by
  unfold send
  simp only
  split
  · unfold transmit
    split <;> rfl
  · rfl

/-! ### Management frames -/

/-- Sends a station away, or tells it that the station leaves. -/
def sendDeauthentication (receiver bssid : MacAddress) (reason : ReasonCode) (l : Link σ) :
    Link σ :=
  l.send env fun number =>
    Frame.deauthentication .deauthentication receiver l.machine.address bssid number reason

/-- Tells the access point that the station leaves it, if the access point knows the station. -/
def leaveAp (l : Link σ) : Link σ :=
  if l.machine.authLevel = .disconnected then l
  else
    match l.machine.target with
    | some target => l.sendDeauthentication env target.bssid target.bssid .leaving
    | none => l

/-- Sends peers away from the session, one after the other. -/
def sendAway (peers : List MacAddress) (reason : ReasonCode) (l : Link σ) : Link σ :=
  peers.foldl (fun l peer => l.sendDeauthentication env peer l.machine.address reason) l

/-- Asks all networks for beacons. -/
def sendProbeRequest (l : Link σ) : Link σ :=
  l.send env (Frame.probeRequest l.machine.address none)

/-- Sends the frame that the current step of the handshake asks for, if there is one, and waits for
an answer from now on. -/
def sendHandshakeFrame (l : Link σ) : Link σ :=
  match l.machine.target with
  | none => l
  | some target =>
    let l := match l.machine.handshake.frame? l.machine.address target with
      | some build => l.send env build
      | none => l
    { l with machine.handshake.sentAt := l.machine.now }

/-! ### Data frames -/

/-- Sends a payload through the access point. -/
def sendDataToAp (destination : MacAddress) (type : UInt16) (payload : List UInt8) (l : Link σ) :
    Link σ :=
  match l.machine.target with
  | none => l
  | some target =>
    l.send env fun number =>
      Frame.data .toDs target.bssid destination l.machine.address number l.machine.encrypting type
        payload

/-- Shows the access point that the station is still there. -/
def sendNullData (l : Link σ) : Link σ :=
  match l.machine.target with
  | none => l
  | some target => l.send env (Frame.nullData target.bssid l.machine.address)

end WlanControl.Link
