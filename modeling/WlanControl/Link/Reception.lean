import WlanControl.Link.Attempt
import WlanControl.Link.Forwarding
import WlanControl.Link.Hosting

namespace WlanControl.Link

open Discovery (Observation)
open WlanControl.Frame (Authentication BeaconInfo Header Received Security StatusCode eapolType
  stripLlcSnap?)

/-!
# Received frames

* `Link.receiveBeacon` — beacons and probe responses fill the table of access points;
* `Link.receiveAuthentication`, `Link.receiveAssociationResponse` — the answers of the access point
  that the station connects to;
* `Link.receiveDeauthentication` — the access point or a peer goes;
* `Link.receiveData` — payloads for the host or the key exchange;
* `Link.receive` — a frame of any kind, and `Link.receiveAmid` for one during which the host is
  active too.

Main statement: `Link.receive_of_disabled`, a disabled radio hears nothing.
-/

/-- Whether an authentication frame of the access point with this number is waited for. -/
def HandshakeStep.awaits (step : HandshakeStep) (sequence : UInt16) : Bool :=
  match step with
  | .authenticate => sequence = 2
  | .challenge => sequence = 4
  | .associate | .keyExchange | .done => false

variable {σ : Type} (env : Surroundings σ)

/-- Whether a frame is from the access point that the station connects to, and for this station. -/
def isFromTarget (header : Header) (l : Link σ) : Bool :=
  match l.machine.target with
  | some target => header.address₁ = l.machine.address && header.address₂ = target.bssid
  | none => false

/-- The access point was heard. -/
def noteHeard (l : Link σ) : Link σ := { l with machine.lastHeard := l.machine.now }

/-! ### Beacons -/

/-- Notes that the station's own access point was observed, in a slot of the table if it is
known. -/
def noteTargetObserved (o : Observation) (slot : Option Nat) (l : Link σ) : Link σ :=
  let l := l.noteHeard
  let l := match o.rssi with
    | some rssi => l.setRssi rssi
    | none => l
  if slot.isSome then l.setApSlot slot else l

/-- A beacon or probe response.  `seized` are the slots of the table that the host gets hold of
while the observation is written to it. -/
def receiveBeacon (seized : Nat → Bool) (info : BeaconInfo) (rssi : UInt8) (l : Link σ) : Link σ :=
  match Observation.ofBeacon? info rssi l.machine.channel with
  | none => l
  | some o =>
    let (accessPoints, result) := l.shared.accessPoints.record o seized
    let l := { l with shared.accessPoints := accessPoints }
    let (l, slot) := match result with
      | .ok slot => (l, some slot)
      | .error _ => (l.count Statistics.countLockBusy, none)
    if l.machine.target.any (·.bssid = info.bssid) then l.noteTargetObserved o slot else l

/-! ### Connecting -/

/-- The access point believes who the station is. -/
def proceedToAssociation (l : Link σ) : Link σ :=
  let l := l.setAuthLevel .authenticated
  { l with machine.handshake.step := .associate }.sendHandshakeFrame env

/-- The access point agrees.  A shared key has to be proved by encrypting its challenge. -/
def acceptAuthentication (body : Authentication) (l : Link σ) : Link σ :=
  match l.machine.handshake.step, body.algorithm, body.challenge with
  | .authenticate, .sharedKey, some challenge =>
    { l with
      machine.handshake.challenge := challenge.take challengeCapacity
      machine.handshake.step := .challenge }.sendHandshakeFrame env
  | .authenticate, .sharedKey, none => l.retryRejected env .authenticationRejected
  | _, _, _ => l.proceedToAssociation env

/-- Whether the open system can be tried in place of the shared key that was refused. -/
def canFallBack (status : StatusCode) (l : Link σ) : Bool :=
  l.machine.handshake.step = .authenticate && status = .unsupportedAuthAlgorithm &&
    l.machine.handshake.algorithm = .sharedKey && !l.machine.handshake.openSystemTried

/-- An answer to an authentication frame. -/
def receiveAuthentication (header : Header) (body : Authentication) (l : Link σ) : Link σ :=
  if !l.isFromTarget header then l
  else
    let l := l.noteHeard
    if !l.machine.handshake.step.awaits body.sequence then l
    else if body.status = .success then l.acceptAuthentication env body
    else if l.canFallBack body.status then
      { l with
        machine.handshake.algorithm := .openSystem
        machine.handshake.openSystemTried := true }.sendHandshakeFrame env
    else
      { l with machine.handshake.step := .authenticate }.retryRejected env .authenticationRejected

/-- The link is up. -/
def establish (l : Link σ) : Link σ :=
  { l with
    machine.handshake.step := .done
    machine.lastSent := l.machine.now
    machine.lastHeard := l.machine.now }.setMode .connected

/-- The access point lets the station in.  For WPA networks the key exchange follows. -/
def acceptAssociation (target : ConnectTarget) (aid : UInt16) (l : Link σ) : Link σ :=
  let l := (l.setAid aid).setAuthLevel .associated
  let security := target.record.security
  if security.security.isWpa then
    match target.key with
    | none => l.fail env .keyExchangeFailed
    | some key =>
      { l with
        machine.handshake.step := .keyExchange
        machine.handshake.sentAt := l.machine.now }.beginExchange env target.bssid security key
  else { l with machine.encrypting := decide (security.security = Security.wep) }.establish

/-- The access point wants more rates than the station claimed to support.  It is asked once more
with the expanded set. -/
def refuseRates (l : Link σ) : Link σ :=
  if l.machine.handshake.expandedTried then l.fail env .associationRejected
  else
    { l with
      machine.handshake.rateSet := .expanded
      machine.handshake.expandedTried := true }.retryRejected env .associationRejected

/-- The answer to the request to join. -/
def receiveAssociationResponse (header : Header) (status : StatusCode) (aid : UInt16) (l : Link σ) :
    Link σ :=
  if !l.isFromTarget header || l.machine.handshake.step ≠ .associate then l
  else
    let l := l.noteHeard
    match l.machine.target with
    | none => l
    | some target =>
      match status with
      | .success => l.acceptAssociation env target aid
      | .unsupportedRates => l.refuseRates env
      | _ => l.retryRejected env .associationRejected

/-! ### Leaving -/

/-- The access point ended the association, but the station is still authenticated.  The handshake
starts over on the next tick. -/
def deassociate (l : Link σ) : Link σ :=
  let l := { l with machine.handshake.step := .authenticate, machine.encrypting := false }
  (l.setAuthLevel .deassociated).setMode .connecting

/-- A peer leaves the session. -/
def dismiss (peer : MacAddress) (l : Link σ) : Link σ :=
  match l.shared.sessions.disconnect peer with
  | (_, .error .busy) => l.count Statistics.countLockBusy
  | (sessions, _) => { l with shared.sessions := sessions }

/-- The access point or a peer ends the authentication, or the association if not `entirely`. -/
def receiveDeauthentication (header : Header) (entirely : Bool) (l : Link σ) : Link σ :=
  match l.machine.mode with
  | .connecting | .connected =>
    if !l.isFromTarget header then l
    else if entirely then l.restart env
    else l.deassociate
  | .accessPoint =>
    if header.address₁ = l.machine.address then l.dismiss header.address₂ else l
  | .disabled | .normal | .scanning | .cannotConnect => l

/-! ### Data -/

/-- A message for the key exchange. -/
def receiveEapol (payload : List UInt8) (l : Link σ) : Link σ :=
  match l.machine.target with
  | none => l
  | some target =>
    let (l, answer) := l.exchange env payload
    let l :=
      if answer.reply.isEmpty then l else l.sendDataToAp env target.bssid eapolType answer.reply
    match answer.state with
    | .inProgress => l
    | .complete =>
      let l := { l with machine.encrypting := true }
      if l.machine.handshake.step = .keyExchange then l.establish else l
    | .failed => l.fail env .keyExchangeFailed

/-- Whether a data frame comes from the access point and is for this station. -/
def isFromNetwork (target : ConnectTarget) (header : Header) (l : Link σ) : Bool :=
  header.control.has .fromDs && !header.control.has .toDs && header.network = target.bssid &&
    (header.destination = l.machine.address || header.destination.isGroup)

/-- A data frame of the access point. -/
def receiveFromNetwork (target : ConnectTarget) (header : Header) (body : List UInt8) (l : Link σ) :
    Link σ :=
  if !l.isFromNetwork target header then l
  else
    let l := l.noteHeard
    match stripLlcSnap? body with
    | none => l
    | some (type, payload) =>
      if type = eapolType then l.receiveEapol env payload
      else if l.machine.mode = .connected then
        l.deliver { destination := header.destination, source := header.source, type, payload }
      else l

/-- A data frame of a peer.  Stations that do not take part are told to start over. -/
def receiveFromPeer (header : Header) (body : List UInt8) (l : Link σ) : Link σ :=
  if !header.control.has .toDs || header.control.has .fromDs ||
      header.network ≠ l.machine.address then l
  else
    match l.shared.sessions.stateOf header.source with
    | .ok .associated =>
      match stripLlcSnap? body with
      | none => l
      | some (type, payload) =>
        l.deliver { destination := header.destination, source := header.source, type, payload }
    | .error .busy => l.count Statistics.countLockBusy
    | _ => l.sendAway env [header.source] .notAssociated

/-- A data frame. -/
def receiveData (header : Header) (body : List UInt8) (l : Link σ) : Link σ :=
  match l.machine.mode with
  | .connecting | .connected =>
    match l.machine.target with
    | none => l
    | some target => l.receiveFromNetwork env target header body
  | .accessPoint => l.receiveFromPeer env header body
  | .disabled | .normal | .scanning | .cannotConnect => l

/-! ### Frames of all kinds -/

/-- What a frame does. -/
def handle (seized : Nat → Bool) (frame : Received) (rssi : UInt8) (l : Link σ) : Link σ :=
  match frame with
  | .beacon info | .probeResponse info => l.receiveBeacon seized info rssi
  | .authentication header body =>
    match l.machine.mode with
    | .connecting => l.receiveAuthentication env header body
    | .accessPoint => l.receivePeerAuthentication env header body
    | _ => l
  | .associationResponse header status aid =>
    if l.machine.mode = .connecting then l.receiveAssociationResponse env header status aid else l
  | .associationRequest header _ _ =>
    if l.machine.mode = .accessPoint then l.receivePeerAssociation env header else l
  | .deauthentication header _ => l.receiveDeauthentication env header true
  | .disassociation header _ => l.receiveDeauthentication env header false
  | .data header body => l.receiveData env header body
  | .probeRequest _ _ | .other => l

/-- A frame that was heard with the strength `rssi`, while the host seizes some slots of the table
of access points.  Frames that cannot be read are dropped. -/
def receiveAmid (seized : Nat → Bool) (octets : List UInt8) (rssi : UInt8) (now : Nat)
    (l : Link σ) : Link σ :=
  let l := l.atTime now
  if l.machine.mode = .disabled then l
  else
    match Received.ofOctets octets with
    | .ok frame => l.handle env seized frame rssi
    | .error _ => l

/-- A frame that was heard with the strength `rssi`. -/
def receive (octets : List UInt8) (rssi : UInt8) (now : Nat) (l : Link σ) : Link σ :=
  l.receiveAmid env (fun _ => false) octets rssi now

/-- A disabled radio hears nothing. -/
theorem receive_of_disabled {l : Link σ} (disabled : l.machine.mode = .disabled)
    (octets : List UInt8) (rssi : UInt8) (now : Nat) :
    l.receive env octets rssi now = l.atTime now := by
  have mode : (l.atTime now).machine.mode = .disabled := disabled
  simp [receive, receiveAmid, mode]

end WlanControl.Link
