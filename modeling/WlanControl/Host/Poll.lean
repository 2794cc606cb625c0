import WlanControl.Host.Basic
import WlanControl.Host.Status

namespace WlanControl.Host

open Link (LinkError)
open Discovery (Record TableError)

/-!
# What became of a request

The application polls the host, which is when a search goes on to the connection.

* `Host.poll` — the current status, after the next step of the request was taken;
* `Host.accessPoints`, `Host.connectedAccessPoint?`, … — what else can be asked.

Main statement: `Host.poll_of_open`, nothing is done while a command is open.
-/

/-- The status while the radio has not acted upon the request yet. -/
def Request.openStatus : Request → ConnectionStatus
  | .idle => .disconnected
  | .scan => .scanning
  | .search => .searching
  | .connect => .authenticating
  | .host => .hosting

/-- Has the radio connect to a candidate, if one was found.  If the command cannot be posted, this
is tried again on the next poll. -/
def resolveTarget (h : Host) : Host × ConnectionStatus :=
  let matchers := (h.controller.candidates.take h.controller.candidateCount).map (·.matcher)
  match h.shared.accessPoints.findMatching? matchers (·.compatible) with
  | none => (h, .searching)
  | some found =>
    let candidate := (h.controller.candidates[found.candidate]?).getD .none
    match h.post (.connect { record := found.record, key := candidate.key }) with
    | (h, .error _) => (h, .searching)
    | (h, .ok ()) =>
      ({ h with controller.request := .connect, controller.selected := some found.candidate },
        .authenticating)

/-- Whether the link is of no use before the network stack has an address. -/
def awaitsAddress (h : Host) : Bool :=
  let selected := h.controller.selected.bind (h.controller.candidates[·]?)
  selected.any (·.ip.needsAddress) && !h.controller.addressAcquired

/-- How far the connection has come. -/
def connectionStatus (h : Host) : ConnectionStatus :=
  match h.shared.status.mode, h.shared.status.authLevel with
  | .connecting, .authenticated | .connecting, .associated => .associating
  | .connecting, _ => .authenticating
  | .connected, _ => if h.awaitsAddress then .acquiringAddress else .associated
  | .cannotConnect, _ => .cannotConnect
  | _, _ => .disconnected

/-- The current status, after the next step of the request was taken. -/
def poll (h : Host) : Host × ConnectionStatus :=
  if !h.isAcknowledged then (h, h.controller.request.openStatus)
  else
    match h.controller.request with
    | .idle => (h, .disconnected)
    | .scan => (h, if h.shared.status.mode = .scanning then .scanning else .disconnected)
    | .host => (h, if h.shared.status.mode = .accessPoint then .hosting else .disconnected)
    | .search => h.resolveTarget
    | .connect => (h, h.connectionStatus)

/-! ### What else can be asked -/

/-- Why the last connection attempt failed. -/
def failure (h : Host) : Option LinkError := h.shared.status.failure

/-- All discovered access points that pass the filter, with their slots. -/
def accessPoints (h : Host) : List (Nat × Record) :=
  h.shared.accessPoints.entries.filter fun entry => h.controller.filter.accepts entry.2

/-- The access point in a slot. -/
def accessPoint (slot : Nat) (h : Host) : Except TableError Record := h.shared.accessPoints.get slot

/-- The access point that the station is connected to. -/
def connectedAccessPoint? (h : Host) : Option Record :=
  if h.shared.status.mode = .connected then
    match h.shared.status.apSlot with
    | some slot => (h.accessPoint slot).toOption
    | none => none
  else none

/-- The peers that take part in the session, in the order of their identifiers, but no more than
`most`. -/
def peers (most : Nat) (h : Host) : Except Session.Error (List Session.Peer) :=
  h.shared.sessions.peers most

/-- Nothing is done while a command is open. -/
theorem poll_of_open {h : Host} (isOpen : h.isAcknowledged = false) :
    h.poll = (h, h.controller.request.openStatus) := by
  simp [poll, isOpen]

end WlanControl.Host
