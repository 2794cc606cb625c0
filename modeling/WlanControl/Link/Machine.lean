import WlanControl.Frame.Outgoing
import WlanControl.Link.Settings
import WlanControl.Link.Surroundings
import WlanControl.Shared.State

namespace WlanControl

open WlanControl.Frame (AuthAlgorithm RateSet Security SecurityInfo)

/-!
# The link layer and its memory

The link layer runs on the radio.  It is driven by ticks and by received frames, never waits, and
takes the commands of the host at the start of a tick.  Connecting goes through authentication,
association and, for WPA networks, a key exchange.  Each frame that asks for an answer is sent again
if none comes, and an attempt may do so, be turned down or start over only so many times.  Hosting,
it sends beacons and answers the peers.

* `Handshake` — how far one connection attempt has come;
* `Machine` — what the link layer keeps to itself;
* `Event` — what it does;
* `Link` — the link layer with all that it works on: its own memory, the shared memory, the state of
  the radio and the key exchange, and the log of what it did;
* `Link.setMode`, `Link.setAuthLevel`, … — changes that are published at once.

Main statement: `Link.authLevel_setMode`, a mode without a link is never published next to an
association.
-/

namespace Link

/-! ### Connection attempts -/

/-- What a connection attempt waits for. -/
inductive HandshakeStep
  /-- The answer to the first authentication frame. -/
  | authenticate
  /-- The answer to the encrypted challenge. -/
  | challenge
  /-- The answer to the association request. -/
  | associate
  /-- The end of the key exchange. -/
  | keyExchange
  | done
deriving DecidableEq, Repr

/-- The number of octets of a challenge that are kept. -/
def challengeCapacity : Nat := 253

/-- How far a connection attempt has come. -/
structure Handshake where
  step : HandshakeStep
  algorithm : AuthAlgorithm
  rateSet : RateSet
  /-- The association was already tried with the expanded set of rates. -/
  expandedTried : Bool
  /-- The shared key was refused and the open system was tried instead. -/
  openSystemTried : Bool
  /-- The challenge of the access point. -/
  challenge : List UInt8
  /-- When the last frame of the handshake was sent. -/
  sentAt : Nat
deriving DecidableEq, Repr

/-- A new attempt.  Only WEP networks are asked for a shared key. -/
def Handshake.start (security : Security) (now : Nat) : Handshake where
  step := .authenticate
  algorithm := if security = .wep then .sharedKey else .openSystem
  rateSet := .native
  expandedTried := false
  openSystemTried := false
  challenge := []
  sentAt := now

/-! ### The memory of the link layer -/

/-- What the link layer keeps to itself.  Times are in microseconds. -/
structure Machine where
  settings : Settings
  /-- The address of the station. -/
  address : MacAddress
  /-- The time of the last tick or frame. -/
  now : Nat
  mode : Mode
  authLevel : AuthLevel
  channel : UInt8
  /-- The number of the next frame, below 4096. -/
  sequenceNumber : UInt16
  retries : UInt8
  /-- Where in the order of channels a scan is. -/
  scanPosition : Nat
  switchedAt : Nat
  target : Option ConnectTarget
  handshake : Handshake
  /-- Data frames are marked as encrypted. -/
  encrypting : Bool
  lastSent : Nat
  /-- When the access point was heard last. -/
  lastHeard : Nat
  host : Option HostParameters
  nextBeacon : Nat
  /-- The number of peers that beacons tell. -/
  currentPeers : UInt8
  /-- The producer of the ring with received data. -/
  producer : Producer
deriving DecidableEq, Repr

/-- The memory at the beginning. -/
def Machine.start (settings : Settings) (address : MacAddress) (producer : Producer) : Machine where
  settings
  address
  now := 0
  mode := .disabled
  authLevel := .disconnected
  channel := 0
  sequenceNumber := 0
  retries := 0
  scanPosition := 0
  switchedAt := 0
  target := none
  handshake := .start .plain 0
  encrypting := false
  lastSent := 0
  lastHeard := 0
  host := none
  nextBeacon := 0
  currentPeers := 0
  producer

/-- What the link layer does. -/
inductive Event
  /-- A command was taken, and is acted upon next. -/
  | commanded (version : UInt32) (command : Command)
  /-- A record of the host was taken, and a frame is made of it next. -/
  | taken (record : List UInt8)
  /-- A frame was handed to the radio, which had room for it or not. -/
  | sent (frame : List UInt8) (accepted : Bool)
  /-- A frame was given up, since it would be too long.  Its number is used up. -/
  | unsendable
  | tuned (channel : UInt8)
  | keyInstalled (key : Option Key)
  | exchangeBegun (authenticator : MacAddress) (security : SecurityInfo) (key : Key)
  /-- The key exchange was handed a message and answered it. -/
  | exchanged (payload : List UInt8) (answer : ExchangeStep)
  | exchangeReset
  /-- A mode or a level was stored in the shared memory, which then held this pair. -/
  | published (mode : Mode) (authLevel : AuthLevel)
deriving DecidableEq, Repr

end Link

/-- The link layer with all that it works on. -/
structure Link (σ : Type) where
  machine : Link.Machine
  shared : SharedState
  /-- The state of the radio and the key exchange. -/
  outside : σ
  /-- What the link layer did, latest first. -/
  log : List Link.Event

namespace Link

variable {σ : Type}

/-! ### Attaching -/

/-- Attaches the link layer to shared memory, as the producer of one ring and the consumer of the
other.  Refused if another link layer is attached. -/
def attach (settings : Settings) (address : MacAddress) (outside : σ) (s : SharedState) :
    SharedState × Except RingError (Link σ) :=
  match s.rx.attachProducer with
  | (rx, none) => ({ s with rx }, .error .inUse)
  | (rx, some producer) =>
    match s.tx.attachConsumer with
    | (tx, false) => ({ s with tx, rx := rx.detachProducer }, .error .inUse)
    | (tx, true) =>
      let s := { s with rx, tx, address, status.mode := .disabled }
      (s, .ok {
        machine := .start settings address producer
        shared := s
        outside
        log := [.published s.status.mode s.status.authLevel] })

/-- Leaves both rings to another link layer. -/
def detach (s : SharedState) : SharedState :=
  { s with rx := s.rx.detachProducer, tx := s.tx.detachConsumer }

/-- Moves on to the time of a call. -/
def atTime (now : Nat) (l : Link σ) : Link σ := { l with machine.now := now }

/-! ### Changes that are published at once -/

/-- Notes what the host can now read. -/
def notePublished (l : Link σ) : Link σ :=
  { l with log := .published l.shared.status.mode l.shared.status.authLevel :: l.log }

/-- Changes the level. -/
def setAuthLevel (authLevel : AuthLevel) (l : Link σ) : Link σ :=
  { l with machine.authLevel := authLevel, shared.status.authLevel := authLevel }.notePublished

/-- Changes the mode.  In a mode without a link there is no association, and the level is stored
first, so that the host never reads one. -/
def setMode (mode : Mode) (l : Link σ) : Link σ :=
  let l :=
    if !mode.hasLink && l.machine.authLevel = .associated then l.setAuthLevel .disconnected else l
  { l with machine.mode := mode, shared.status.mode := mode }.notePublished

/-- Changes the count of retries. -/
def setRetries (retries : UInt8) (l : Link σ) : Link σ :=
  { l with machine.retries := retries, shared.status.retries := retries }

/-- Tells why the last connection attempt failed, if it did. -/
def setFailure (failure : Option LinkError) (l : Link σ) : Link σ :=
  { l with shared.status.failure := failure }

/-- Tells the slot of the access point in the table of discovered ones. -/
def setApSlot (slot : Option Nat) (l : Link σ) : Link σ := { l with shared.status.apSlot := slot }

/-- Tells the identifier that the access point assigned. -/
def setAid (aid : UInt16) (l : Link σ) : Link σ := { l with shared.status.aid := aid }

/-- Tells how strongly the access point was heard. -/
def setRssi (rssi : UInt8) (l : Link σ) : Link σ := { l with shared.status.rssi := rssi }

/-- Counts something in the statistics. -/
def count (f : Statistics → Statistics) (l : Link σ) : Link σ :=
  { l with shared.statistics := f l.shared.statistics }

/-- A mode without a link is never published next to an association. -/
theorem authLevel_setMode {mode : Mode} (h : mode.hasLink = false) (l : Link σ) :
    (l.setMode mode).machine.authLevel ≠ .associated := by
  unfold setMode
  by_cases associated : l.machine.authLevel = .associated
  · simp [h, associated, setAuthLevel, notePublished]
  · simp [associated, notePublished]

/-! ### Radio and key exchange -/

/-- Tunes to a channel. -/
def tune (env : Surroundings σ) (channel : UInt8) (l : Link σ) : Link σ :=
  { l with
    machine.channel := channel
    shared.status.channel := channel
    outside := env.tune channel l.outside
    log := .tuned channel :: l.log }

/-- Installs a key or removes it. -/
def installKey (env : Surroundings σ) (key : Option Key) (l : Link σ) : Link σ :=
  { l with outside := env.installKey key l.outside, log := .keyInstalled key :: l.log }

/-- Starts a key exchange. -/
def beginExchange (env : Surroundings σ) (authenticator : MacAddress) (security : SecurityInfo)
    (key : Key) (l : Link σ) : Link σ :=
  { l with
    outside := env.beginExchange authenticator security key l.outside
    log := .exchangeBegun authenticator security key :: l.log }

/-- Hands a message to the key exchange. -/
def exchange (env : Surroundings σ) (payload : List UInt8) (l : Link σ) : Link σ × ExchangeStep :=
  let (outside, answer) := env.exchange payload l.outside
  ({ l with outside, log := .exchanged payload answer :: l.log }, answer)

/-- Makes the key exchange forget all. -/
def resetExchange (env : Surroundings σ) (l : Link σ) : Link σ :=
  { l with outside := env.resetExchange l.outside, log := .exchangeReset :: l.log }

end Link

end WlanControl
