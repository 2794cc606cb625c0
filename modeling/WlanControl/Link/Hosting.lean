import WlanControl.Link.Transmission

namespace WlanControl.Link

open WlanControl.Frame (Advertisement AuthAlgorithm Authentication Capabilities Header RateSet
  StatusCode)

/-!
# Hosting a session

* `Link.sendBeacon` — the session shows itself;
* `Link.receivePeerAuthentication`, `Link.receivePeerAssociation` — peers join;
* `Link.serveKicks` — peers that the host wants removed are sent away.

The host may use the roster at any time, also between two steps of one tick.  What cannot be done
then is put off to the next tick.

Main statement: `Link.kick_of_isHeld`, a peer is not removed while somebody uses the roster, and the
removal is put off.
-/

/-- What the host does to the shared memory while the radio is at work, by the number of the step
that follows. -/
abbrev Meanwhile := Nat → SharedState → SharedState

/-- The host does nothing. -/
def Meanwhile.idle : Meanwhile := fun _ s => s

/-- The identifiers whose bits are set in a request. -/
def requestedAids (kicks : UInt16) : List Nat :=
  (List.range' 1 maxPeers).filter fun aid => kicks &&& SharedState.kickBit aid ≠ 0

variable {σ : Type} (env : Surroundings σ) (meanwhile : Meanwhile)

/-- The host comes in between. -/
def pause (step : Nat) (l : Link σ) : Link σ := { l with shared := meanwhile step l.shared }

/-! ### Beacons -/

/-- What the beacons of a session tell about it. -/
def advertisement (parameters : HostParameters) (l : Link σ) : Advertisement where
  gameId := parameters.gameId
  streamCode := parameters.streamCode
  maxPeers := parameters.maxPeers
  currentPeers := l.machine.currentPeers
  accepting := l.shared.sessions.accepting
  hostPacketSize := parameters.hostPacketSize
  peerPacketSize := parameters.peerPacketSize

/-- Sends a beacon of the session. -/
def sendBeacon (l : Link σ) : Link σ :=
  match l.machine.host with
  | none => l
  | some parameters =>
    l.send env (Frame.beacon {
      bssid := l.machine.address
      interval := l.machine.settings.beaconInterval
      capabilities := (Capabilities.none.set .ess true).set .shortPreamble true
      ssid := parameters.ssid
      channel := parameters.channel
      rates := RateSet.native.octets
      advertisement := some (l.advertisement parameters)
      extraElements := [] })

/-! ### Peers that join -/

/-- Answers the authentication of a peer. -/
def answerAuthentication (peer : MacAddress) (algorithm : AuthAlgorithm) (status : StatusCode)
    (l : Link σ) : Link σ :=
  let address := l.machine.address
  l.send env fun number =>
    Frame.authentication peer address address number
      { algorithm, sequence := 2, status, challenge := none } false

/-- A peer authenticates itself.  While somebody uses the roster there is no answer, and the peer
will try again. -/
def receivePeerAuthentication (header : Header) (body : Authentication) (l : Link σ) : Link σ :=
  if header.address₁ ≠ l.machine.address ∨ body.sequence ≠ 1 then l
  else
    let peer := header.address₂
    if body.algorithm ≠ .openSystem then
      l.answerAuthentication env peer body.algorithm .unsupportedAuthAlgorithm
    else
      let (sessions, result) := l.shared.sessions.authenticate peer
      let l := { l with shared.sessions := sessions }
      match result with
      | .ok _ => l.answerAuthentication env peer body.algorithm .success
      | .error .busy => l.count Statistics.countLockBusy
      | .error .full => l.answerAuthentication env peer body.algorithm .apFull
      | .error _ => l.answerAuthentication env peer body.algorithm .unspecifiedFailure

/-- Answers the request of a peer to take part. -/
def answerAssociation (peer : MacAddress) (status : StatusCode) (aid : UInt16) (l : Link σ) :
    Link σ :=
  l.send env fun number => Frame.associationResponse peer l.machine.address number status aid

/-- A peer asks to take part.  While somebody uses the roster there is no answer. -/
def receivePeerAssociation (header : Header) (l : Link σ) : Link σ :=
  if header.address₁ ≠ l.machine.address then l
  else
    let peer := header.address₂
    let (sessions, result) := l.shared.sessions.associate peer
    let l := { l with shared.sessions := sessions }
    match result with
    | .ok aid => l.answerAssociation env peer .success aid
    | .error .busy => l.count Statistics.countLockBusy
    | .error _ => l.answerAssociation env peer .unspecifiedFailure 0

/-! ### Peers that are removed -/

/-- Sends the associated peer with an identifier away and removes it, and tells whether this has to
be put off. -/
def kick (aid : Nat) (l : Link σ) : Link σ × Bool :=
  match l.shared.sessions.kick (UInt16.ofNat aid) with
  | (_, _, .error .busy) => (l, true)
  | (sessions, told, _) =>
    ({ l.sendAway env told .unspecified with shared.sessions := sessions }, false)

/-- Sends several peers away, and collects the identifiers that have to be put off. -/
def kickEach : List Nat → UInt16 → Link σ → Link σ × UInt16
  | [], deferred, l => (l, deferred)
  | aid :: rest, deferred, l =>
    match (l.pause meanwhile aid).kick env aid with
    | (l, true) => kickEach rest (deferred ||| SharedState.kickBit aid) l
    | (l, false) => kickEach rest deferred l

/-- Sends the peers with the requested identifiers away. -/
def serveKicksByAid (l : Link σ) : Link σ :=
  let (shared, kicks) := l.shared.takeKicks
  let (l, deferred) := kickEach env meanwhile (requestedAids kicks) 0 { l with shared }
  if deferred = 0 then l
  else
    let l := l.pause meanwhile (maxPeers + 1)
    { l with shared := l.shared.deferKicks deferred }.count Statistics.countLockBusy

/-- Sends the peers that were not associated away, if that was requested. -/
def serveKickUnassociated (l : Link σ) : Link σ :=
  match l.shared.takeKickUnassociated with
  | (_, false) => l
  | (shared, true) =>
    let l := { l with shared }.pause meanwhile (maxPeers + 3)
    match l.shared.sessions.kickUnassociated with
    | (sessions, told, .ok _) =>
      { l.sendAway env told .notAssociated with shared.sessions := sessions }
    | (_, _, .error _) =>
      { l with shared := l.shared.requestKickUnassociated }.count Statistics.countLockBusy

/-- Sends all peers away that the host wants removed. -/
def serveKicks (l : Link σ) : Link σ :=
  ((l.serveKicksByAid env meanwhile).pause meanwhile (maxPeers + 2)).serveKickUnassociated env
    meanwhile

/-- A peer is not removed while somebody uses the roster, and the removal is put off. -/
theorem kick_of_isHeld {l : Link σ} (held : l.shared.sessions.roster.isHeld = true) (aid : Nat) :
    l.kick env aid = (l, true) := by
  simp [kick, Session.Table.kick, Session.Table.updateTelling, Sync.Lock.tryWith, held]

end WlanControl.Link
