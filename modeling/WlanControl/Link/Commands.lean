import WlanControl.Link.Attempt
import WlanControl.Link.Hosting

namespace WlanControl.Link

/-!
# Acting upon commands

A disabled radio only listens to the command that enables it.  Every other command first leaves the
current mode.  A command is acknowledged whether it was followed or not.

Who hosts a session empties the roster twice, when the old mode is left and when the session starts,
and the host may come in between.

* `Link.leaveMode` — back to the mode without a task;
* `Link.startScan`, `Link.startConnecting`, `Link.startHosting` — the tasks;
* `Link.obey`, `Link.serveCommand` — what a command does.

Main statement: `Link.mode_leaveMode`, a mode that was left has no task.
-/

/-- The order of channels in a scan.  Most access points are on 1, 6 or 11, which come up three
times. -/
def scanOrder : List UInt8 := [1, 6, 11, 2, 7, 12, 1, 6, 11, 3, 8, 13, 1, 6, 11, 4, 9, 5, 10]

/-- The channel at a position of the order. -/
def scanChannel (position : Nat) : UInt8 := (scanOrder[position]?).getD 1

/-- A scan comes by every channel that the radio has. -/
theorem mem_scanOrder_iff (channel : UInt8) :
    channel ∈ scanOrder ↔ checkChannel channel = .ok channel := by
  have all : ∀ n : Fin 256,
      UInt8.ofNat n ∈ scanOrder ↔ 1 ≤ UInt8.ofNat n ∧ UInt8.ofNat n ≤ maxChannel := by
    decide +kernel
  simpa [checkChannel_eq_ok_iff] using all ⟨channel.toNat, channel.toNat_lt⟩

variable {σ : Type} (env : Surroundings σ) (meanwhile : Meanwhile)

/-! ### Leaving a mode -/

/-- Forgets the access point. -/
def endLink (l : Link σ) : Link σ :=
  let l := (l.resetExchange env).installKey env none
  ({ l with machine.encrypting := false, machine.target := none }.setApSlot none).setAid 0

/-- Ends the session.  While somebody uses the roster nobody is known by name, so all stations are
sent away at once. -/
def endSession (l : Link σ) : Link σ :=
  let l := match l.shared.sessions.kickAll with
    | (sessions, told, .ok ()) =>
      { l.sendAway env told .leavingBss with shared.sessions := sessions }
    | (_, _, .error _) =>
      (l.count Statistics.countLockBusy).sendAway env [.broadcast] .leavingBss
  { l with machine.host := none, machine.currentPeers := 0 }

/-- Leaves the current mode. -/
def leaveMode (l : Link σ) : Link σ :=
  let l := match l.machine.mode with
    | .connecting | .connected => (l.leaveAp env).endLink env
    | .cannotConnect => l.endLink env
    | .accessPoint => l.endSession env
    | .disabled | .normal | .scanning => l
  (l.setAuthLevel .disconnected).setMode .normal

/-! ### Taking up a task -/

/-- Looks for access points, from the first channel on. -/
def startScan (l : Link σ) : Link σ :=
  let l := { l with shared.accessPoints := l.shared.accessPoints.clear, machine.scanPosition := 0 }
  let l := l.tune env (scanChannel 0)
  let l := { l with machine.switchedAt := l.machine.now }
  (l.setMode .scanning).sendProbeRequest env

/-- Connects to an access point.  A WEP key is installed at once, since it is needed to answer a
challenge. -/
def startConnecting (target : ConnectTarget) (l : Link σ) : Link σ :=
  let l := l.setApSlot ((l.shared.accessPoints.findBssid? target.bssid).map Prod.fst)
  let l := ((l.setFailure none).setAid 0).setRetries 0
  let security := target.record.security.security
  let l := { l with
    machine.target := some target
    machine.handshake := .start security l.machine.now
    machine.encrypting := false }
  let l := if security = .wep then l.installKey env target.key else l
  let l := l.tune env target.record.channel
  let l := { l with machine.lastHeard := l.machine.now }
  ((l.setAuthLevel .disconnected).setMode .connecting).sendHandshakeFrame env

/-- Hosts a session.  While somebody uses the roster the peers of the last session stay in it. -/
def startHosting (parameters : HostParameters) (l : Link σ) : Link σ :=
  let l := match l.shared.sessions.reset parameters.maxPeers.toNat with
    | (sessions, .ok ()) => { l with shared.sessions := sessions }
    | (_, .error _) => l.count Statistics.countLockBusy
  let l := { l with machine.host := some parameters, machine.currentPeers := 0 }
  let l := l.tune env parameters.channel
  let l := { l with machine.nextBeacon := l.machine.now }
  (l.setAuthLevel .disconnected).setMode .accessPoint

/-! ### Commands -/

/-- Does what a command says. -/
def obey (command : Command) (l : Link σ) : Link σ :=
  if l.machine.mode = .disabled then
    match command with
    | .enable => l.setMode .normal
    | _ => l
  else
    match command with
    | .enable => l
    | .powerOff => (l.leaveMode env).setMode .disabled
    | .stop => l.leaveMode env
    | .scan => (l.leaveMode env).startScan env
    | .connect target => (l.leaveMode env).startConnecting env target
    | .host parameters => ((l.leaveMode env).pause meanwhile 0).startHosting env parameters

/-- Tells the host that a command was acted upon. -/
def acknowledge (version : UInt32) (l : Link σ) : Link σ :=
  { l with shared.status.acknowledged := version }

/-- Takes the command of the host, if there is one, and acts upon it. -/
def serveCommand (l : Link σ) : Link σ :=
  match l.shared.commands.take with
  | (commands, some (version, command)) =>
    let l := { l with shared.commands := commands, log := .commanded version command :: l.log }
    (l.obey env meanwhile command).acknowledge version
  | (_, none) => l

/-- Without a command there is nothing to serve. -/
theorem serveCommand_of_none {l : Link σ} (none : l.shared.commands.take.2 = none) :
    l.serveCommand env meanwhile = l := by
  unfold serveCommand
  split
  · rename_i taken
    rw [taken] at none
    cases none
  · rfl

/-- A mode that was left has no task, and there is no association. -/
theorem mode_leaveMode (l : Link σ) :
    (l.leaveMode env).machine.mode = .normal ∧
      (l.leaveMode env).machine.authLevel = .disconnected := by
  simp [leaveMode, setMode, setAuthLevel, notePublished]

end WlanControl.Link
