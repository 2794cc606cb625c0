import WlanControl.Discovery.Table
import WlanControl.Request.Error
import WlanControl.Ring.Basic
import WlanControl.Session.Table
import WlanControl.Shared.Command
import WlanControl.Shared.Mailbox
import WlanControl.Shared.Status

namespace WlanControl

/-!
# What both processors share

Both tables apart, every part of the shared memory is written by one side alone.  The host posts
commands into a mailbox.  The radio publishes its status together with the version of the last
command that it acted upon, so the host can tell whether it was heard.

* `SharedState` — all that is shared;
* `SharedState.reset` — everything as it was in the beginning;
* `SharedState.requestKick`, `SharedState.takeKicks` — peers that the host wants removed.

Main statement: `SharedState.acknowledged_reset`, a reset leaves no command open.
-/

/-- The size of either ring. -/
def ringSize : Nat := 8192

/-- All that both processors share. -/
structure SharedState where
  commands : Mailbox Command
  status : Status
  statistics : Statistics
  accessPoints : Discovery.Table
  sessions : Session.Table
  /-- From the radio to the host. -/
  rx : Ring ringSize
  /-- From the host to the radio. -/
  tx : Ring ringSize
  /-- The address of the station. -/
  address : MacAddress
  /-- The identifiers of the peers to be removed, one bit each. -/
  kicks : UInt16
  /-- The peers that were not associated are to be removed. -/
  kickUnassociated : Bool
deriving DecidableEq, Repr

namespace SharedState

/-- Shared memory that was never used. -/
def fresh : SharedState where
  commands := .empty
  status := .initial
  statistics := .zero
  accessPoints := .empty
  sessions := .empty
  rx := .empty ringSize
  tx := .empty ringSize
  address := .zero
  kicks := 0
  kickUnassociated := false

instance : Inhabited SharedState := ⟨fresh⟩

/-- Brings everything back to the beginning, but for the address of the station and the versions of
commands, the last of which counts as acted upon.  Refused while somebody is attached to a ring or
uses the roster.  Nothing but the rings is touched before that is certain, so it can be tried
again. -/
def reset (s : SharedState) : SharedState × Except RequestError Unit :=
  match s.rx.reset with
  | (rx, .error _) => ({ s with rx }, .error .busy)
  | (rx, .ok ()) =>
    match s.tx.reset with
    | (tx, .error _) => ({ s with rx, tx }, .error .busy)
    | (tx, .ok ()) =>
      match s.sessions.reset maxPeers with
      | (sessions, .error _) => ({ s with rx, tx, sessions }, .error .busy)
      | (sessions, .ok ()) =>
        ({ s with
            rx, tx
            commands := s.commands.clear
            status := { Status.initial with acknowledged := s.commands.version }
            statistics := .zero
            accessPoints := s.accessPoints.clear
            sessions := sessions.setAccepting false
            kicks := 0
            kickUnassociated := false },
          .ok ())

/-- Posts a command for the radio, and tells its version. -/
def postCommand (command : Command) (s : SharedState) : SharedState × Except RequestError UInt32 :=
  match s.commands.post command with
  | (commands, some version) => ({ s with commands }, .ok version)
  | (commands, none) => ({ s with commands }, .error .busy)

/-- Posting a command does nothing to the roster. -/
theorem sessions_postCommand (command : Command) (s : SharedState) :
    (s.postCommand command).1.sessions = s.sessions := by
  unfold postCommand
  split <;> rfl

/-! ### Peers to be removed -/

/-- The bit that stands for an identifier. -/
def kickBit (aid : Nat) : UInt16 := UInt16.ofNat (1 <<< aid)

/-- Asks the radio to remove the peer with an identifier. -/
def requestKick (aid : UInt16) (s : SharedState) : SharedState × Except RequestError Unit :=
  if aid.toNat < 1 ∨ maxPeers < aid.toNat then (s, .error .invalidPeerCount)
  else ({ s with kicks := s.kicks ||| kickBit aid.toNat }, .ok ())

/-- Takes the identifiers of the peers to be removed. -/
def takeKicks (s : SharedState) : SharedState × UInt16 := ({ s with kicks := 0 }, s.kicks)

/-- Puts back the identifiers of peers that could not be removed. -/
def deferKicks (kicks : UInt16) (s : SharedState) : SharedState :=
  { s with kicks := s.kicks ||| kicks }

/-- Asks the radio to remove the peers that were not associated. -/
def requestKickUnassociated (s : SharedState) : SharedState := { s with kickUnassociated := true }

/-- Takes the request to remove the peers that were not associated. -/
def takeKickUnassociated (s : SharedState) : SharedState × Bool :=
  ({ s with kickUnassociated := false }, s.kickUnassociated)

/-- A reset leaves no command open. -/
theorem acknowledged_reset {s t : SharedState} (h : s.reset = (t, .ok ())) :
    t.status.acknowledged = t.commands.version := by
  unfold reset at h
  split at h
  · cases h
  · split at h
    · cases h
    · split at h
      · cases h
      · cases h
        rfl

end SharedState

end WlanControl
