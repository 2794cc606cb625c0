import WlanControl.Proofs.FrameReading
import WlanControl.Proofs.LinkRelay

namespace WlanControl

open WlanControl.Frame (BeaconInfo Header Received)

/-!
# The link layer — strangers

A station that connects, or is connected, has to do with one access point.  Each kind of frame has a
check of its own for where it comes from, and data frames carry the address of their network in a
place that their flags tell.

* `Link.handle_of_stranger` — every check fails for frames of other stations;
* `Link.Overhears` — what beacons of other access points may change;
* `Link.run_atTime` — the time is kept only until the next tick or frame;
* `Link.ComesFromOther`, `Link.TellsOfOther`, `Link.PassesBy` — what is transmitted by others passes
  a link layer by.

Main statement: `Link.passesBy_run`, in every run frames of other stations pass an attempt and a
link by.
-/

namespace Link

variable {σ : Type} (env : Surroundings σ) {l : Link σ} {header : Header} {target : ConnectTarget}

/-! ### Frames of other stations -/

theorem isFromTarget_of_stranger (htarget : l.machine.target = some target)
    (hother : header.address₂ ≠ target.bssid) : l.isFromTarget header = false := by
  simp [isFromTarget, htarget, hother]

/-- A data frame that comes from the network was transmitted by its access point. -/
theorem isFromNetwork_of_stranger (hother : header.address₂ ≠ target.bssid) (l : Link σ) :
    l.isFromNetwork target header = false := by
  unfold isFromNetwork
  cases hfrom : header.control.has .fromDs with
  | false => rfl
  | true =>
    cases hto : header.control.has .toDs with
    | true => rfl
    | false => simp [Header.network, hfrom, hto, hother]

/-- Frames of other stations than the access point are not acted upon, but for what they tell of
access points. -/
theorem handle_of_stranger {frame : Received} (hmode : l.machine.mode.hasLink = true)
    (htarget : l.machine.target = some target) (hframe : observed? frame = none)
    (hother : ∀ header, frame.header? = some header → header.address₂ ≠ target.bssid)
    (seized : Nat → Bool) (rssi : UInt8) : l.handle env seized frame rssi = l := by
  have hstranger {header : Header} (h : header.address₂ ≠ target.bssid) :
      l.isFromTarget header = false := isFromTarget_of_stranger htarget h
  have hlink : l.machine.mode = .connecting ∨ l.machine.mode = .connected := by
    cases h : l.machine.mode <;> simp_all [Mode.hasLink]
  have hended (header : Header) (entirely : Bool) (h : header.address₂ ≠ target.bssid) :
      l.receiveDeauthentication env header entirely = l := by
    rcases hlink with hlink | hlink <;>
      simp [receiveDeauthentication, hlink, hstranger h]
  cases frame with
  | beacon | probeResponse => cases hframe
  | authentication header body =>
    rcases hlink with hlink | hlink <;>
      simp [handle, hlink, receiveAuthentication, hstranger (hother header rfl)]
  | associationResponse header status aid =>
    rcases hlink with hlink | hlink <;>
      simp [handle, hlink, receiveAssociationResponse, hstranger (hother header rfl)]
  | associationRequest header capabilities ssid =>
    rcases hlink with hlink | hlink <;> simp [handle, hlink]
  | deauthentication header reason => exact hended header true (hother header rfl)
  | disassociation header reason => exact hended header false (hother header rfl)
  | data header body =>
    rcases hlink with hlink | hlink <;>
      simp [handle, receiveData, hlink, htarget, receiveFromNetwork,
        isFromNetwork_of_stranger (hother header rfl)]
  | probeRequest transmitter ssid => rfl
  | other => rfl

/-! ### Beacons of other access points -/

/-- From one link to the other nothing but the table of access points may have changed, and the
count of the slots of it that the host was just using. -/
def Overhears (l l' : Link σ) : Prop :=
  l' = { l with
    shared.accessPoints := l'.shared.accessPoints
    shared.statistics.lockBusy := l'.shared.statistics.lockBusy }

theorem overhears_receiveBeacon {info : BeaconInfo} (htarget : l.machine.target = some target)
    (hother : info.bssid ≠ target.bssid) (seized : Nat → Bool) (rssi : UInt8) :
    Overhears l (l.receiveBeacon seized info rssi) := by
  have hstranger : ¬ l.machine.target.any (·.bssid = info.bssid) = true := by
    simpa [htarget] using Ne.symm hother
  unfold receiveBeacon
  split
  · rfl
  · simp only
    -- The slot matters only to the station's own access point.
    split
    · exact (congrArg (Overhears l) (if_neg hstranger)).mpr rfl
    · exact (congrArg (Overhears l) (if_neg hstranger)).mpr rfl

/-! ### Time -/

/-- The time is only kept until the next tick or frame, which tells it anew. -/
theorem run_atTime (actions : List Action) (now later : Nat) (l : Link σ) :
    (run env actions (l.atTime now)).atTime later = (run env actions l).atTime later := by
  induction actions generalizing l with
  | nil => rfl
  | cons action rest ih =>
    cases action with
    | post command => exact ih (l.step env (.post command))
    | host move => exact ih (l.step env (.host move))
    | tick => rfl
    | receive => rfl

/-! ### All runs -/

/-- A frame of another station than `bssid`, which tells of no access point. -/
def ComesFromOther (bssid : MacAddress) (octets : List UInt8) : Prop :=
  ∃ frame header body, Received.ofOctets octets = .ok frame ∧ observed? frame = none ∧
    Header.ofOctets? octets = some (header, body) ∧ header.address₂ ≠ bssid

/-- A beacon or probe response of another access point than `bssid`. -/
def TellsOfOther (bssid : MacAddress) (octets : List UInt8) : Prop :=
  ∃ frame info, Received.ofOctets octets = .ok frame ∧ observed? frame = some info ∧
    info.bssid ≠ bssid

/-- What is transmitted by others than `bssid` passes the link layer by. -/
structure PassesBy (bssid : MacAddress) (l : Link σ) : Prop where
  /-- Frames of other stations do nothing at all. -/
  unmoved : ∀ octets, ComesFromOther bssid octets → ∀ seized rssi now,
    l.receiveAmid env seized octets rssi now = l.atTime now
  /-- Whatever happens later is the same as without the frame. -/
  traceless : ∀ octets, ComesFromOther bssid octets → ∀ seized rssi now rest later,
    (run env (.receive octets rssi now seized :: rest) l).atTime later =
      (run env rest l).atTime later
  /-- Beacons of other access points are noted down at most. -/
  overheard : ∀ octets, TellsOfOther bssid octets → ∀ seized rssi now,
    Overhears (l.atTime now) (l.receiveAmid env seized octets rssi now)

theorem passesBy_of_hasLink (hmode : l.machine.mode.hasLink = true)
    (htarget : l.machine.target = some target) : PassesBy env target.bssid l := by
  have henabled : l.machine.mode ≠ .disabled := by
    intro h
    rw [h] at hmode
    cases hmode
  have hunmoved : ∀ octets, ComesFromOther target.bssid octets → ∀ seized rssi now,
      l.receiveAmid env seized octets rssi now = l.atTime now := by
    rintro octets ⟨frame, header, body, hread, hframe, hheader, hother⟩ seized rssi now
    rw [receiveAmid_of_ok env henabled hread]
    refine handle_of_stranger env (l := l.atTime now) hmode htarget hframe ?_ seized rssi
    intro kept hkept
    rw [Received.header?_ofOctets hread hheader hkept]
    exact hother
  exact {
    unmoved := hunmoved
    traceless := by
      intro octets hother seized rssi now rest later
      show (run env rest (l.receiveAmid env seized octets rssi now)).atTime later = _
      rw [hunmoved octets hother]
      exact run_atTime env rest now later l
    overheard := by
      rintro octets ⟨frame, info, hread, hframe, hother⟩ seized rssi now
      rw [receiveAmid_of_ok env henabled hread, handle_of_observed env hframe]
      exact overhears_receiveBeacon (l := l.atTime now) htarget hother seized rssi }

/-- In every run an attempt and a link have a target, the one that the host wants, and whatever
others transmit passes them by. -/
theorem passesBy_run {settings : Settings} {address : MacAddress} {outside : σ}
    {s s' : SharedState} (h : attach settings address outside s = (s', .ok l))
    (actions : List Action) (hmode : (run env actions l).machine.mode.hasLink = true) :
    ∃ target, (run env actions l).machine.target = some target ∧
      wanted? (run env actions l).log = some target ∧
      PassesBy env target.bssid (run env actions l) := by
  obtain ⟨target, htarget, hwanted⟩ := (sound_run env (sound_attach h) actions).wanted hmode
  exact ⟨target, htarget, hwanted, passesBy_of_hasLink env hmode htarget⟩

/-- A third station ends the association in the name of the network. -/
def strangersEnd : List UInt8 :=
  (Frame.encode? Frame.maxFrameLength (Frame.deauthentication .deauthentication stationAddress
    ⟨0x02, 0, 0, 0, 0, 0x03⟩ networkAddress 0 .unspecified)).getD []

theorem passesBy_run_joiningActions :
    ∃ s l, attach .standard stationAddress () .fresh = (s, .ok l) ∧
      let joined := run (.answering .refused) joiningActions l
      joined.machine.mode = .connected ∧ ComesFromOther networkAddress strangersEnd ∧
        joined.machine.target = some (network .plain) ∧
        PassesBy (.answering .refused) networkAddress joined := by
  have hattached : attach .standard stationAddress () .fresh = (_, .ok _) := rfl
  have hmode : (run (.answering .refused) joiningActions (fresh stationAddress)).machine.mode =
      .connected := by decide +kernel
  have hjoined : (run (.answering .refused) joiningActions (fresh stationAddress)).machine.target =
      some (network .plain) := by decide +kernel
  have hstranger : ComesFromOther networkAddress strangersEnd :=
    ⟨_, _, _, rfl, rfl, rfl, by decide⟩
  obtain ⟨target, htarget, -, hpasses⟩ := passesBy_run (.answering .refused) hattached
    joiningActions (congrArg Mode.hasLink hmode)
  cases hjoined.symm.trans htarget
  exact ⟨_, _, hattached, hmode, hstranger, hjoined, hpasses⟩

end Link

end WlanControl
