import WlanControl.Link.Commands
import WlanControl.Link.Forwarding

namespace WlanControl.Link

/-!
# Periodic work

The link layer is ticked at short intervals.  A tick takes the command of the host and then does
what is due in the current mode.

* `Link.scanTick`, `Link.connectingTick`, `Link.connectedTick`, `Link.accessPointTick` — the work of
  each mode;
* `Link.tick` — one tick, and `Link.tickAmid` for one during which the host is active too.

Main statement: `Link.tick_of_disabled`, a disabled radio without a command only throws the records
of the host away.
-/

/-- Whether something is due that is to happen `interval` after `since`.  A time that lies ahead was
just now. -/
def isDue (interval since now : Nat) : Bool := interval ≤ now - since

variable {σ : Type} (env : Surroundings σ) (meanwhile : Meanwhile)

/-- Goes on to the next channel of a scan, once the time on the current one is over. -/
def scanTick (l : Link σ) : Link σ :=
  if isDue l.machine.settings.scanDwell l.machine.switchedAt l.machine.now then
    let position := (l.machine.scanPosition + 1) % scanOrder.length
    let l := { l with machine.scanPosition := position }.tune env (scanChannel position)
    let l := { l with
      shared.accessPoints := l.shared.accessPoints.tick.1
      machine.switchedAt := l.machine.now }
    l.sendProbeRequest env
  else l

/-- Sends the last frame of the handshake again, once an answer is overdue.  The key exchange is
driven by the access point, so there is nothing to send in that step, but waiting for it costs
retries as well. -/
def connectingTick (l : Link σ) : Link σ :=
  if l.machine.authLevel = .deassociated then l.restart env
  else if isDue l.machine.settings.resendInterval l.machine.handshake.sentAt l.machine.now then
    if l.machine.handshake.step = .keyExchange then
      match l.spendRetry env .keyExchangeFailed with
      | (l, false) => l
      | (l, true) => { l with machine.handshake.sentAt := l.machine.now }
    else
      match l.spendRetry env .retryBudgetExhausted with
      | (l, false) => l
      | (l, true) => (l.count Statistics.countRetransmission).sendHandshakeFrame env
  else l

/-- Sends what the host wants to send, and shows the access point that the station is still there if
nothing was sent for long.  Starts over if nothing was heard for too long. -/
def connectedTick (l : Link σ) : Link σ :=
  if isDue l.machine.settings.linkLossTimeout l.machine.lastHeard l.machine.now then l.restart env
  else
    let l := l.drainBurst env
    if isDue l.machine.settings.keepaliveInterval l.machine.lastSent l.machine.now then
      l.sendNullData env
    else l

/-- Counts the peers that take part, unless somebody uses the roster. -/
def countPeers (l : Link σ) : Link σ :=
  match l.shared.sessions.associatedCount with
  | .ok count => { l with machine.currentPeers := UInt8.ofNat count }
  | .error _ => l

/-- Sends a beacon, once one is due. -/
def beaconTick (l : Link σ) : Link σ :=
  if l.machine.nextBeacon ≤ l.machine.now then
    let l := l.sendBeacon env
    { l with machine.nextBeacon := l.machine.now + l.machine.settings.beaconPeriod }
  else l

/-- Removes peers, sends beacons and sends what the host wants to send. -/
def accessPointTick (l : Link σ) : Link σ :=
  let l := (l.serveKicks env meanwhile).pause meanwhile (maxPeers + 4)
  ((l.countPeers).beaconTick env).drainBurst env

/-- One tick, during which the host may do something to the shared memory. -/
def tickAmid (now : Nat) (l : Link σ) : Link σ :=
  let l := (l.atTime now).serveCommand env meanwhile
  match l.machine.mode with
  | .scanning => l.scanTick env
  | .connecting => l.connectingTick env
  | .connected => l.connectedTick env
  | .accessPoint => l.accessPointTick env meanwhile
  | .disabled | .normal | .cannotConnect => l.discard

/-- One tick. -/
def tick (now : Nat) (l : Link σ) : Link σ := l.tickAmid env .idle now

/-- A disabled radio without a command only throws the records of the host away. -/
theorem tick_of_disabled {l : Link σ} (now : Nat) (disabled : l.machine.mode = .disabled)
    (none : l.shared.commands.take.2 = none) :
    l.tick env now = (l.atTime now).discard := by
  have idle : (l.atTime now).serveCommand env .idle = l.atTime now :=
    serveCommand_of_none env .idle none
  have mode : (l.atTime now).machine.mode = .disabled := disabled
  simp only [tick, tickAmid, idle, mode]

end WlanControl.Link
