import WlanControl.Host.Basic

namespace WlanControl.Host

open Discovery (ScanFilter)

/-!
# Requests of the application

* `Host.connect`, `Host.autoConnect` — look for an access point to connect to;
* `Host.scan`, `Host.host`, `Host.disconnect` — the other tasks of the radio;
* `Host.setAdmission`, `Host.kick`, `Host.kickUnassociated` — the peers of a session.

Main statement: `Host.host_of_invalid`, parameters out of their limits change nothing.
-/

/-- Starts to look for the candidates. -/
def search (h : Host) : Host × Except RequestError Unit :=
  match h.post .scan with
  | (h, .error e) => (h, .error e)
  | (h, .ok ()) =>
    ({ h with
        controller.request := .search
        controller.filter := .compatible
        controller.selected := none
        controller.addressAcquired := false },
      .ok ())

/-- Puts candidates in the first places. -/
def setCandidates (candidates : List Candidate) (h : Host) : Host :=
  { h with
    controller.candidates := candidates ++ h.controller.candidates.drop candidates.length
    controller.candidateCount := candidates.length }

/-- Connects to one access point. -/
def connect (descriptor : Descriptor) (key : Option Key) (ip : IpConfig) (h : Host) :
    Host × Except RequestError Unit :=
  (h.setCandidates [⟨descriptor.matcher, key, ip⟩]).search

/-- Connects to an access point of a stored connection.  Earlier ones are preferred. -/
def autoConnect (h : Host) : Host × Except RequestError Unit :=
  if h.controller.profiles.isEmpty then (h, .error .noProfiles)
  else (h.setCandidates (h.controller.profiles.map .ofProfile)).search

/-- Looks for access points to show to the application. -/
def scan (filter : ScanFilter) (h : Host) : Host × Except RequestError Unit :=
  match h.post .scan with
  | (h, .error e) => (h, .error e)
  | (h, .ok ()) => ({ h with controller.request := .scan, controller.filter := filter }, .ok ())

/-- Lets new peers into the session or not. -/
def setAccepting (accepting : Bool) (h : Host) : Host :=
  { h with shared.sessions := h.shared.sessions.setAccepting accepting }

/-- Hosts a session, which lets peers in. -/
def host (parameters : HostParameters) (h : Host) : Host × Except RequestError Unit :=
  match parameters.validate with
  | .error e => (h, .error e)
  | .ok () =>
    match (h.setAccepting true).post (.host parameters) with
    | (h, .error e) => (h.setAccepting false, .error e)
    | (h, .ok ()) => ({ h with controller.request := .host }, .ok ())

/-- Leaves whatever the radio does. -/
def disconnect (h : Host) : Host × Except RequestError Unit :=
  match h.post .stop with
  | (h, .error e) => (h, .error e)
  | (h, .ok ()) =>
    ({ h.setAccepting false with controller.request := .idle, controller.selected := none }, .ok ())

/-! ### The peers of a session -/

/-- Lets new peers into the session or not, if there is one. -/
def setAdmission (accepting : Bool) (h : Host) : Host × Except RequestError Unit :=
  if h.controller.request = .host then (h.setAccepting accepting, .ok ())
  else (h, .error .invalidState)

/-- Has the peer with an identifier removed. -/
def kick (aid : UInt16) (h : Host) : Host × Except RequestError Unit :=
  if h.controller.request = .host then
    let (shared, result) := h.shared.requestKick aid
    ({ h with shared }, result)
  else (h, .error .invalidState)

/-- Has the peers removed that were not associated. -/
def kickUnassociated (h : Host) : Host × Except RequestError Unit :=
  if h.controller.request = .host then
    ({ h with shared := h.shared.requestKickUnassociated }, .ok ())
  else (h, .error .invalidState)

/-- The network stack has got an address. -/
def notifyAddressAcquired (h : Host) : Host := { h with controller.addressAcquired := true }

/-- Parameters out of their limits change nothing. -/
theorem host_of_invalid {parameters : HostParameters} {e : RequestError}
    (invalid : parameters.validate = .error e) (h : Host) :
    h.host parameters = (h, .error e) := by
  simp [host, invalid]

end WlanControl.Host
