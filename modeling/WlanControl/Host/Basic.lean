import WlanControl.Request.Descriptor
import WlanControl.Request.Profile
import WlanControl.Shared.Region

namespace WlanControl

open Discovery (Matcher ScanFilter)

/-!
# The host side of the link

The host turns requests of the application into commands for the radio.  A command is posted only
once the radio has acted upon the one before it, so that none is lost.  Connecting takes two of
them: the radio looks for access points until one of the candidates is found, and then connects to
it.

* `Request` — what the application asked for last;
* `Candidate` — an access point that the host would connect to;
* `Controller` — what the host keeps to itself;
* `Host` — the host with all that it works on: its own memory and the shared memory;
* `Controller.start`, `Controller.stop` — its life;
* `Host.post` — a command for the radio, unless the last one is still open.

Main statement: `Host.commands_post_of_open`, an open command is never replaced.
-/

namespace Host

/-- What the application asked for last. -/
inductive Request
  | idle
  | scan
  /-- To find one of the candidates. -/
  | search
  /-- To connect to the candidate that was found. -/
  | connect
  | host
deriving DecidableEq, Repr

/-- An access point that the host would connect to, with all that is needed once it is found. -/
structure Candidate where
  matcher : Matcher
  key : Option Key
  ip : IpConfig
deriving DecidableEq, Repr

namespace Candidate

/-- A candidate that is never found. -/
def none : Candidate := ⟨.nothing, .none, .dhcp⟩

instance : Inhabited Candidate := ⟨none⟩

/-- The candidate that a stored connection describes. -/
def ofProfile (p : Profile) : Candidate := ⟨p.matcher, p.key, p.ip⟩

end Candidate

/-- What the host keeps to itself. -/
structure Controller where
  profiles : List Profile
  request : Request
  /-- Which access points are shown to the application. -/
  filter : ScanFilter
  /-- Places for candidates.  Those that are not looked for keep what was in them. -/
  candidates : List Candidate
  /-- How many of the candidates are looked for. -/
  candidateCount : Nat
  /-- The place of the candidate that the current connection attempt is for. -/
  selected : Option Nat
  /-- The version of the last command that was posted. -/
  posted : UInt32
  /-- The network stack has an address. -/
  addressAcquired : Bool
deriving DecidableEq, Repr

namespace Controller

/-- The memory at the beginning, when the command with the given version was posted. -/
def afterPost (profiles : List Profile) (posted : UInt32) : Controller where
  profiles
  request := .idle
  filter := .all
  candidates := List.replicate maxProfiles .none
  candidateCount := 0
  selected := none
  posted
  addressAcquired := false

/-- Initializes the shared memory, loads the stored connections and enables the radio. -/
def start (store : Nat → Option Profile) (r : Region) : Region × Except RequestError Controller :=
  match r.init with
  | (r, .error e) => (r, .error e)
  | (r, .ok ()) =>
    match (r.memory.getD .fresh).postCommand .enable with
    | (s, .ok version) =>
      ({ r with memory := some s }, .ok (afterPost (loadProfiles store) version))
    | (s, .error e) => ({ r with memory := some s }, .error e)

/-- Powers the radio off, as far as this is possible, and withdraws the shared memory. -/
def stop (r : Region) : Region :=
  let memory := r.memory.map fun s =>
    let s := (s.postCommand .powerOff).1
    { s with sessions := s.sessions.setAccepting false }
  { r with memory }.deinit

end Controller

end Host

/-- The host with all that it works on. -/
structure Host where
  controller : Host.Controller
  shared : SharedState
deriving DecidableEq, Repr

namespace Host

/-- Whether one version of a command is the same as another or newer.  Versions wrap around, so the
newer one is at most half of all versions ahead. -/
def isReached (posted acknowledged : UInt32) : Bool := acknowledged - posted < 0x80000000

/-- Whether the radio acted upon the last command. -/
def isAcknowledged (h : Host) : Bool :=
  isReached h.controller.posted h.shared.status.acknowledged

/-- Posts a command for the radio, unless the last one is still open. -/
def post (command : Command) (h : Host) : Host × Except RequestError Unit :=
  if h.isAcknowledged then
    match h.shared.postCommand command with
    | (shared, .ok version) =>
      ({ h with shared, controller.posted := version }, .ok ())
    | (shared, .error e) => ({ h with shared }, .error e)
  else (h, .error .busy)

/-- An open command is never replaced. -/
theorem commands_post_of_open {h : Host} (isOpen : h.isAcknowledged = false) (command : Command) :
    h.post command = (h, .error .busy) := by
  simp [post, isOpen]

end Host

end WlanControl
