import WlanControl.Proofs.FrameKinds
import WlanControl.Proofs.LinkUtterances

namespace WlanControl

open WlanControl.Frame (AuthAlgorithm Authentication Draft Field Header ReasonCode StatusCode
  encode? isData maxFrameLength)

/-!
# The link layer — what the radio is handed

Most frames of the link layer only keep a link or a session going.  Who looks for something in the
frames that the radio was handed, such as data or a request to join, need not look at these.

* `Link.offered` — what is found in the frames that the radio was handed, be it that it took them or
  not;
* `Link.Hides` — a frame in which nothing is found, whatever number it gets;
* `Link.IgnoresUpkeep` — nothing is found in the frames that keep a link or a session going, with
  `ignoresUpkeep_data` and `ignoresUpkeep_claims` for data and for requests;
* `IgnoresUpkeep.leaveMode`, `IgnoresUpkeep.hosting`, … — the operations that send only such frames.

Main statements: `IgnoresUpkeep.serveCommand`, to follow a command nothing else is sent at once, and
`IgnoresUpkeep.receivePeerAssociation`, nor to let a peer in.
-/

namespace Link

variable {σ : Type} {g : List UInt8 → Option (List UInt8)} (env : Surroundings σ)

/-! ### Frames that were handed to the radio -/

/-- What is found in the frame that the radio was handed, if that is what is logged. -/
def Event.offered? (g : List UInt8 → Option (List UInt8)) : Event → Option (List UInt8)
  | .sent frame _ => g frame
  | _ => none

/-- What is found in the frames that the radio was handed, be it that it took them or not, oldest
first. -/
def offered (g : List UInt8 → Option (List UInt8)) (log : List Event) : List (List UInt8) :=
  picked (Event.offered? g) log

theorem offered_cons {e : Event} (h : e.offered? g = none) (log : List Event) :
    offered g (e :: log) = offered g log := by
  rw [offered, picked_cons, h]
  exact List.append_nil _

theorem offered_append {events : List Event} (h : ∀ e ∈ events, e.offered? g = none)
    (log : List Event) : offered g (events ++ log) = offered g log := by
  rw [offered, picked, List.filterMap_append, List.filterMap_eq_nil_iff.mpr h, List.nil_append]
  rfl

/-- Whatever number the frame gets, nothing is found in it. -/
def Hides (g : List UInt8 → Option (List UInt8)) (build : UInt16 → List Field) : Prop :=
  ∀ number frame, encode? maxFrameLength (build number) = some frame → g frame = none

/-- Nothing is found in the frames that keep a link or a session going. -/
structure IgnoresUpkeep (g : List UInt8 → Option (List UInt8)) : Prop where
  management : ∀ draft : Draft, draft.subtype?.isSome = true → draft.rates? = none →
    Hides g fun number => draft.fields number
  nullData : ∀ bssid transmitter, Hides g (Frame.nullData bssid transmitter)

/-- The frame, if it is a data frame with a body. -/
def dataFrame? (frame : List UInt8) : Option (List UInt8) :=
  if isData frame then some frame else none

theorem ignoresUpkeep_data : IgnoresUpkeep dataFrame? where
  management := by
    intro draft hsubtype _ number frame hframe
    have hother : isData frame = false := by
      rw [draft.isData_eq hframe]
      cases hkind : draft.subtype? <;> simp_all
    simp [dataFrame?, hother]
  nullData := by
    intro bssid transmitter number frame hframe
    simp [dataFrame?, Frame.isData_nullData hframe]

/-- Only a request claims rates. -/
theorem hides_claims (draft : Draft) (h : draft.rates? = none) :
    Hides Frame.claimedRates? fun number => draft.fields number := by
  intro number frame hframe
  rw [draft.claimedRates?_eq hframe, h]

theorem ignoresUpkeep_claims : IgnoresUpkeep Frame.claimedRates? where
  management draft _ hrates := hides_claims draft hrates
  nullData _ _ _ _ hframe := Frame.claimedRates?_nullData hframe

theorem offered_send {build : UInt16 → List Field} (h : Hides g build) (l : Link σ) :
    offered g (l.send env build).log = offered g l.log := by
  rcases log_send env build l with hlog | ⟨frame, accepted, hframe, hlog⟩
  · rw [hlog, offered_cons rfl]
  · have hother : (Event.sent frame accepted).offered? g = none := h _ _ hframe
    rw [hlog, offered_cons hother]

theorem offered_setMode (mode : Mode) (l : Link σ) :
    offered g (l.setMode mode).log = offered g l.log := by
  unfold setMode
  simp only
  split <;> rfl

theorem offered_startHosting (parameters : HostParameters) (l : Link σ) :
    offered g (l.startHosting env parameters).log = offered g l.log := by
  unfold startHosting
  refine (offered_setMode .accessPoint _).trans ?_
  split <;> rfl

namespace IgnoresUpkeep

variable (h : IgnoresUpkeep g)
include h

/-! ### Farewells and handshakes -/

theorem sendDeauthentication (receiver bssid : MacAddress) (reason : ReasonCode) (l : Link σ) :
    offered g (l.sendDeauthentication env receiver bssid reason).log = offered g l.log :=
  offered_send env (h.management (.deauthentication _ _ _ _) rfl rfl) l

theorem sendAway (peers : List MacAddress) (reason : ReasonCode) (l : Link σ) :
    offered g (l.sendAway env peers reason).log = offered g l.log := by
  induction peers generalizing l with
  | nil => rfl
  | cons peer rest ih => exact (ih _).trans (h.sendDeauthentication env _ _ _ l)

theorem leaveAp (l : Link σ) : offered g (l.leaveAp env).log = offered g l.log := by
  unfold Link.leaveAp
  split
  · rfl
  · split
    · exact h.sendDeauthentication env _ _ _ l
    · rfl

theorem sendNullData (l : Link σ) : offered g (l.sendNullData env).log = offered g l.log := by
  unfold Link.sendNullData
  split
  · rfl
  · exact offered_send env (h.nullData _ _) l

/-- The handshake sends nothing but authentication frames before it asks the access point to let the
station in. -/
theorem sendHandshakeFrame {l : Link σ} (hstep : l.machine.handshake.step ≠ .associate) :
    offered g (l.sendHandshakeFrame env).log = offered g l.log := by
  unfold Link.sendHandshakeFrame
  split
  · rfl
  · rename_i target _
    simp only
    rw [Handshake.frame?_eq]
    cases hdraft : l.machine.handshake.draft? l.machine.address target with
    | none => rfl
    | some draft =>
      have hauthentication : draft.subtype?.isSome = true ∧ draft.rates? = none := by
        unfold Handshake.draft? at hdraft
        cases hwaits : l.machine.handshake.step with
        | associate => exact absurd hwaits hstep
        | authenticate | challenge | keyExchange | done =>
          rw [hwaits] at hdraft
          cases hdraft <;> exact ⟨rfl, rfl⟩
      exact offered_send env (h.management draft hauthentication.1 hauthentication.2) l

/-! ### Commands -/

theorem leaveMode (l : Link σ) : offered g (l.leaveMode env).log = offered g l.log := by
  have hended : offered g (l.endSession env).log = offered g l.log := by
    unfold Link.endSession
    simp only
    split
    · exact h.sendAway env _ _ l
    · exact h.sendAway env _ _ (l.count Statistics.countLockBusy)
  unfold Link.leaveMode
  rw [offered_setMode]
  split
  · exact h.leaveAp env l
  · exact h.leaveAp env l
  · rfl
  · exact hended
  · rfl
  · rfl
  · rfl

theorem sendProbeRequest (l : Link σ) :
    offered g (l.sendProbeRequest env).log = offered g l.log :=
  offered_send env (h.management (.probeRequest _ none) rfl rfl) l

theorem startScan (l : Link σ) : offered g (l.startScan env).log = offered g l.log := by
  unfold Link.startScan
  exact (h.sendProbeRequest env _).trans (offered_setMode .scanning _)

theorem startConnecting (target : ConnectTarget) (l : Link σ) :
    offered g (l.startConnecting env target).log = offered g l.log := by
  unfold Link.startConnecting
  refine (h.sendHandshakeFrame env ?_).trans ((offered_setMode .connecting _).trans ?_)
  · rw [setMode_of_hasLink rfl]
    split <;> simp [setAuthLevel, notePublished, tune, installKey, Handshake.start]
  · split <;> rfl

theorem obey (meanwhile : Meanwhile) (command : Command) (l : Link σ) :
    offered g (l.obey env meanwhile command).log = offered g l.log := by
  have hleft := h.leaveMode env l
  unfold Link.obey
  split
  · cases command with
    | enable => exact offered_setMode .normal l
    | powerOff | stop | scan | connect | host => rfl
  · cases command with
    | enable => rfl
    | powerOff => exact (offered_setMode .disabled _).trans hleft
    | stop => exact hleft
    | scan => exact (h.startScan env _).trans hleft
    | connect target => exact (h.startConnecting env target _).trans hleft
    | host parameters => exact (offered_startHosting env parameters _).trans hleft

/-- To follow a command only frames are sent at once that keep a link or a session going. -/
theorem serveCommand (meanwhile : Meanwhile) (l : Link σ) :
    offered g (l.serveCommand env meanwhile).log = offered g l.log := by
  cases htake : l.shared.commands.take.2 with
  | none => rw [serveCommand_of_none env meanwhile htake]
  | some taken =>
    rw [serveCommand_of_some env meanwhile htake]
    exact h.obey env meanwhile taken.2 (l.taken taken.1 taken.2)

/-! ### Sessions -/

theorem sendBeacon (l : Link σ) : offered g (l.sendBeacon env).log = offered g l.log := by
  unfold Link.sendBeacon
  split
  · rfl
  · exact offered_send env (h.management (.beacon _) rfl rfl) l

theorem beaconTick (l : Link σ) : offered g (l.beaconTick env).log = offered g l.log := by
  unfold Link.beaconTick
  split
  · exact h.sendBeacon env l
  · rfl

/-- All that a tick does for a session before it sends what its host wants to send. -/
theorem hosting (meanwhile : Meanwhile) (l : Link σ) :
    offered g ((((l.serveKicks env meanwhile).pause meanwhile (maxPeers + 4)).countPeers).beaconTick
      env).log = offered g l.log := by
  have hkept : KeptByKicks env meanwhile fun m : Link σ => offered g m.log = offered g l.log := {
    pause := fun _ hm => hm
    kick := by
      intro m aid hm
      unfold Link.kick
      split
      · exact hm
      · exact (h.sendAway env _ _ m).trans hm
    kickUnassociated := fun _ hm => (h.sendAway env _ _ _).trans hm
    requests := fun _ _ _ hm => hm }
  have hcounted (m : Link σ) : offered g m.countPeers.log = offered g m.log := by
    unfold countPeers
    split <;> rfl
  have hkicked : offered g (l.serveKicks env meanwhile).log = offered g l.log :=
    hkept.serveKicks rfl
  exact ((h.beaconTick env _).trans (hcounted _)).trans hkicked

/-! ### Other tasks -/

theorem scanTick (l : Link σ) : offered g (l.scanTick env).log = offered g l.log := by
  unfold Link.scanTick
  split
  · exact h.sendProbeRequest env _
  · rfl

theorem answerAuthentication (peer : MacAddress) (algorithm : AuthAlgorithm) (status : StatusCode)
    (l : Link σ) :
    offered g (l.answerAuthentication env peer algorithm status).log = offered g l.log :=
  offered_send env (h.management (.authentication _ _ _ _ _) rfl rfl) l

theorem answerAssociation (peer : MacAddress) (status : StatusCode) (aid : UInt16) (l : Link σ) :
    offered g (l.answerAssociation env peer status aid).log = offered g l.log :=
  offered_send env (h.management (.associationResponse _ _ _ _) rfl rfl) l

theorem receivePeerAuthentication (header : Header) (body : Authentication) (l : Link σ) :
    offered g (l.receivePeerAuthentication env header body).log = offered g l.log := by
  unfold Link.receivePeerAuthentication
  split
  · rfl
  · simp only
    split
    · exact h.answerAuthentication env _ _ _ l
    · split
      · exact h.answerAuthentication env _ _ _ _
      · rfl
      · exact h.answerAuthentication env _ _ _ _
      · exact h.answerAuthentication env _ _ _ _

theorem receivePeerAssociation (header : Header) (l : Link σ) :
    offered g (l.receivePeerAssociation env header).log = offered g l.log := by
  unfold Link.receivePeerAssociation
  split
  · rfl
  · simp only
    split
    · exact h.answerAssociation env _ _ _ _
    · rfl
    · exact h.answerAssociation env _ _ _ _

theorem receiveFromPeer (header : Header) (body : List UInt8) (l : Link σ) :
    offered g (l.receiveFromPeer env header body).log = offered g l.log := by
  unfold Link.receiveFromPeer
  split
  · rfl
  · split
    · split
      · rfl
      · exact congrArg (offered g) (handsOver_deliver _ l).log_eq
    · rfl
    · exact h.sendAway env _ _ l

end IgnoresUpkeep

end Link

end WlanControl
