import WlanControl.Proofs.FrameWriting
import WlanControl.Proofs.LinkUtterances
import WlanControl.Proofs.LinkWire

namespace WlanControl.Link

/-!
# The link layer — what all handlers are made of

Commands, frames and ticks arrange the affairs of the link layer itself, send frames, hand packets
to the host and take records from it.  What these building blocks keep, all handlers keep.

* `Arranges` — a link before and after its own affairs were arranged;
* `KeptByHandlers` — what such arrangements and frames keep, with `keptByHandlers_of_eq` for a part
  of a link that they leave alone;
* `KeptByHandlers.receiveBeacon`, `KeptByHandlers.leaveMode`, … — the handlers;
* `KeptByHandlers.keptByKicks`, `KeptByHandlers.hosting_keeps` — the work of a session, while the
  host may come in between.

Main statements: `KeptByHandlers.handle`, for frames of all kinds, and
`KeptByHandlers.serveCommand_keeps`, for all commands.
-/

open WlanControl.Frame (AuthAlgorithm Authentication BeaconInfo Composition Direction Header
  ReasonCode Received StatusCode)

variable {σ : Type} {l l' : Link σ} (env : Surroundings σ)

/-! ### Building blocks -/

/-- What is logged besides frames and records of the host. -/
def Event.isArrangement : Event → Bool
  | .sent _ _ | .unsendable | .taken _ => false
  | _ => true

/-- From one link to the other nothing happened to frames, to the rings and to what the host wants
of a session. -/
structure Arranges (l l' : Link σ) : Prop where
  sequenceNumber_eq : l'.machine.sequenceNumber = l.machine.sequenceNumber
  producer_eq : l'.machine.producer = l.machine.producer
  shared_eq : l'.shared = { l.shared with
    commands := l'.shared.commands
    status := l'.shared.status
    statistics.lockBusy := l'.shared.statistics.lockBusy
    statistics.retransmissions := l'.shared.statistics.retransmissions
    accessPoints := l'.shared.accessPoints
    sessions.roster := l'.shared.sessions.roster }
  log_eq : ∃ events, l'.log = events ++ l.log ∧ ∀ e ∈ events, e.isArrangement = true

theorem Notes.arranges (h : Notes l l') : Arranges l l' where
  sequenceNumber_eq := by
    rw [h.machine_eq]
  producer_eq := by
    rw [h.machine_eq]
  shared_eq := by
    rw [h.shared_eq]
  log_eq := by
    obtain ⟨events, hlog, hevents⟩ := h.log_eq
    refine ⟨events, hlog, ?_⟩
    intro e he
    have hexchange := hevents e he
    cases e with
    | exchangeBegun | exchanged | exchangeReset => rfl
    | commanded | taken | sent | unsendable | tuned | keyInstalled | published => cases hexchange

theorem arranges_setMode (mode : Mode) (l : Link σ) : Arranges l (l.setMode mode) := by
  unfold setMode
  simp only
  split
  · exact ⟨rfl, rfl, rfl, [.published _ _, .published _ _], rfl, by simp [Event.isArrangement]⟩
  · exact ⟨rfl, rfl, rfl, [.published _ _], rfl, by simp [Event.isArrangement]⟩

theorem arranges_setAuthLevel (authLevel : AuthLevel) (l : Link σ) :
    Arranges l (l.setAuthLevel authLevel) :=
  ⟨rfl, rfl, rfl, [.published _ _], rfl, by simp [Event.isArrangement]⟩

/-- The roster may change, as long as nobody touches the flag next to it. -/
theorem arranges_sessions {sessions : Session.Table}
    (h : sessions.accepting = l.shared.sessions.accepting) :
    Arranges l { l with shared.sessions := sessions } where
  sequenceNumber_eq := rfl
  producer_eq := rfl
  shared_eq := by
    obtain ⟨roster, accepting⟩ := sessions
    cases h
    rfl
  log_eq := ⟨[], rfl, by simp⟩

theorem arranges_countLockBusy (l : Link σ) : Arranges l (l.count Statistics.countLockBusy) :=
  ⟨rfl, rfl, rfl, [], rfl, by simp⟩

/-- What the building blocks of all handlers keep, from the link before to the one after. -/
structure KeptByHandlers (R : Link σ → Link σ → Prop) : Prop where
  refl : ∀ l, R l l
  trans : ∀ {l₁ l₂ l₃}, R l₁ l₂ → R l₂ l₃ → R l₁ l₃
  arranges : ∀ {l l'}, Arranges l l' → R l l'
  send : ∀ (composition : Composition) l, R l (l.send env fun number => composition.fields number)

/-- A part of a link is kept if neither arrangements nor frames have to do with it. -/
theorem keptByHandlers_of_eq {α : Type} {part : Link σ → α}
    (harranges : ∀ {l l'}, Arranges l l' → part l' = part l)
    (htransmits : ∀ {l l'}, Transmits l l' → part l' = part l) :
    KeptByHandlers env fun l l' => part l' = part l where
  refl _ := rfl
  trans h h' := h'.trans h
  arranges := harranges
  send _ l := htransmits (transmits_send env _ l)

namespace KeptByHandlers

variable {env} {R : Link σ → Link σ → Prop} (h : KeptByHandlers env R)
include h

theorem countLockBusy (l : Link σ) : R l (l.count Statistics.countLockBusy) :=
  h.arranges (arranges_countLockBusy l)

/-! ### Frames that are sent -/

theorem sendDeauthentication (receiver bssid : MacAddress) (reason : ReasonCode) (l : Link σ) :
    R l (l.sendDeauthentication env receiver bssid reason) :=
  h.send (.farewell .deauthentication receiver l.machine.address bssid reason) l

theorem leaveAp (l : Link σ) : R l (l.leaveAp env) := by
  unfold Link.leaveAp
  split
  · exact h.refl l
  · split
    · exact h.sendDeauthentication _ _ _ l
    · exact h.refl l

theorem sendAway (peers : List MacAddress) (reason : ReasonCode) (l : Link σ) :
    R l (l.sendAway env peers reason) := by
  induction peers generalizing l with
  | nil => exact h.refl l
  | cons peer rest ih => exact h.trans (h.sendDeauthentication peer _ reason l) (ih _)

/-- Peers are told before they lose their slots. -/
theorem sendAway_sessions {sessions : Session.Table}
    (hsame : sessions.accepting = l.shared.sessions.accepting) (peers : List MacAddress)
    (reason : ReasonCode) :
    R l { l.sendAway env peers reason with shared.sessions := sessions } := by
  refine h.trans (h.sendAway peers reason l) (h.arranges (arranges_sessions ?_))
  -- Sending frames has left the flag as it was.
  rw [(transmits_sendAway env peers reason l).shared_eq]
  exact hsame

theorem sendProbeRequest (l : Link σ) : R l (l.sendProbeRequest env) :=
  h.send (.drafted (.probeRequest _ none)) l

theorem sendHandshakeFrame (l : Link σ) : R l (l.sendHandshakeFrame env) := by
  have hnoted (m : Link σ) : R m { m with machine.handshake.sentAt := m.machine.now } :=
    h.arranges ⟨rfl, rfl, rfl, [], rfl, by simp⟩
  unfold Link.sendHandshakeFrame
  split
  · exact h.refl l
  · rename_i target _
    simp only
    rw [Handshake.frame?_eq]
    cases l.machine.handshake.draft? l.machine.address target with
    | none => exact hnoted l
    | some draft => exact h.trans (h.send (.drafted draft) l) (hnoted _)

theorem sendDataToAp (destination : MacAddress) (type : UInt16) (payload : List UInt8)
    (l : Link σ) : R l (l.sendDataToAp env destination type payload) := by
  unfold Link.sendDataToAp
  split
  · exact h.refl l
  · exact h.send (.drafted (.data _ _ _ _ _ _ _)) l

theorem sendNullData (l : Link σ) : R l (l.sendNullData env) := by
  unfold Link.sendNullData
  split
  · exact h.refl l
  · exact h.send (.nullData _ _) l

theorem sendBeacon (l : Link σ) : R l (l.sendBeacon env) := by
  unfold Link.sendBeacon
  split
  · exact h.refl l
  · exact h.send (.drafted (.beacon _)) l

theorem answerAuthentication (peer : MacAddress) (algorithm : AuthAlgorithm) (status : StatusCode)
    (l : Link σ) : R l (l.answerAuthentication env peer algorithm status) :=
  h.send (.drafted (.authentication peer l.machine.address l.machine.address
    { algorithm, sequence := 2, status, challenge := none } false)) l

theorem answerAssociation (peer : MacAddress) (status : StatusCode) (aid : UInt16) (l : Link σ) :
    R l (l.answerAssociation env peer status aid) :=
  h.send (.drafted (.associationResponse _ _ _ _)) l

/-- What handlers keep, attempts keep. -/
theorem keptByAttempts : KeptByAttempts env R where
  refl := h.refl
  trans := h.trans
  notes hnotes := h.arranges hnotes.arranges
  setAuthLevel authLevel l := h.arranges (arranges_setAuthLevel authLevel l)
  setMode mode l := h.arranges (arranges_setMode mode l)
  leaveAp := h.leaveAp
  sendHandshakeFrame := h.sendHandshakeFrame
  sendDataToAp := h.sendDataToAp

/-! ### Frames that are received -/

theorem receiveBeacon (seized : Nat → Bool) (info : BeaconInfo) (rssi : UInt8) (l : Link σ) :
    R l (l.receiveBeacon seized info rssi) := by
  have hnoted (o : Discovery.Observation) (slot : Option Nat) (m : Link σ) :
      R m (m.noteTargetObserved o slot) := by
    refine h.arranges ?_
    unfold noteTargetObserved
    split <;> split <;> exact ⟨rfl, rfl, rfl, [], rfl, by simp⟩
  have htable (accessPoints : Discovery.Table) :
      R l { l with shared.accessPoints := accessPoints } :=
    h.arranges ⟨rfl, rfl, rfl, [], rfl, by simp⟩
  unfold Link.receiveBeacon
  split
  · exact h.refl l
  · simp only
    split
    · split
      · exact h.trans (htable _) (hnoted _ _ _)
      · exact htable _
    · split
      · exact h.trans (h.trans (htable _) (h.countLockBusy _)) (hnoted _ _ _)
      · exact h.trans (htable _) (h.countLockBusy _)

theorem receivePeerAuthentication (header : Header) (body : Authentication) (l : Link σ) :
    R l (l.receivePeerAuthentication env header body) := by
  have hasked : R l { l with
      shared.sessions := (l.shared.sessions.authenticate header.address₂).1 } :=
    h.arranges (arranges_sessions (Session.Table.accepting_update _ _))
  unfold Link.receivePeerAuthentication
  split
  · exact h.refl l
  · simp only
    split
    · exact h.answerAuthentication _ _ _ l
    · split
      · exact h.trans hasked (h.answerAuthentication _ _ _ _)
      · exact h.trans hasked (h.countLockBusy _)
      · exact h.trans hasked (h.answerAuthentication _ _ _ _)
      · exact h.trans hasked (h.answerAuthentication _ _ _ _)

theorem receivePeerAssociation (header : Header) (l : Link σ) :
    R l (l.receivePeerAssociation env header) := by
  have hasked : R l { l with
      shared.sessions := (l.shared.sessions.associate header.address₂).1 } :=
    h.arranges (arranges_sessions (Session.Table.accepting_update _ _))
  unfold Link.receivePeerAssociation
  split
  · exact h.refl l
  · simp only
    split
    · exact h.trans hasked (h.answerAssociation _ _ _ _)
    · exact h.trans hasked (h.countLockBusy _)
    · exact h.trans hasked (h.answerAssociation _ _ _ _)

theorem dismiss (peer : MacAddress) (l : Link σ) : R l (l.dismiss peer) := by
  have hgone := Session.Table.accepting_update (Session.Roster.disconnect peer) l.shared.sessions
  unfold Link.dismiss Session.Table.disconnect
  split
  · exact h.countLockBusy l
  · rename_i hleft
    rw [hleft] at hgone
    exact h.arranges (arranges_sessions hgone)

theorem receiveDeauthentication (header : Header) (entirely : Bool) (l : Link σ) :
    R l (l.receiveDeauthentication env header entirely) := by
  have hended := h.keptByAttempts.dismissed header entirely l
  unfold Link.receiveDeauthentication
  split
  · exact hended
  · exact hended
  · split
    · exact h.dismiss _ l
    · exact h.refl l
  · exact h.refl l
  · exact h.refl l
  · exact h.refl l
  · exact h.refl l

theorem receiveFromPeer (hdeliver : ∀ packet l, R l (l.deliver packet)) (header : Header)
    (body : List UInt8) (l : Link σ) : R l (l.receiveFromPeer env header body) := by
  unfold Link.receiveFromPeer
  split
  · exact h.refl l
  · split
    · split
      · exact h.refl l
      · exact hdeliver _ l
    · exact h.countLockBusy l
    · exact h.sendAway _ _ l

theorem receiveData (hdeliver : ∀ packet l, R l (l.deliver packet)) (header : Header)
    (body : List UInt8) (l : Link σ) : R l (l.receiveData env header body) := by
  have hnetwork (target : ConnectTarget) : R l (l.receiveFromNetwork env target header body) :=
    h.keptByAttempts.receiveFromNetwork hdeliver target header body l
  unfold Link.receiveData
  split
  · split
    · exact h.refl l
    · exact hnetwork _
  · split
    · exact h.refl l
    · exact hnetwork _
  · exact h.receiveFromPeer hdeliver header body l
  · exact h.refl l
  · exact h.refl l
  · exact h.refl l
  · exact h.refl l

/-- Frames of all kinds, if it is known of data frames. -/
theorem handle {frame : Received}
    (hdata : ∀ header body, frame = .data header body → R l (l.receiveData env header body))
    (seized : Nat → Bool) (rssi : UInt8) : R l (l.handle env seized frame rssi) := by
  have hback (m : Link σ) : R m { m with
      machine.handshake.algorithm := .openSystem
      machine.handshake.openSystemTried := true } := h.arranges ⟨rfl, rfl, rfl, [], rfl, by simp⟩
  have hrates (m : Link σ) : R m { m with
      machine.handshake.rateSet := .expanded
      machine.handshake.expandedTried := true } := h.arranges ⟨rfl, rfl, rfl, [], rfl, by simp⟩
  unfold Link.handle
  split
  · exact h.receiveBeacon seized _ rssi l
  · exact h.receiveBeacon seized _ rssi l
  · split
    · exact h.keptByAttempts.receiveAuthentication hback _ _ l
    · exact h.receivePeerAuthentication _ _ l
    · exact h.refl l
  · split
    · exact h.keptByAttempts.receiveAssociationResponse hrates _ _ _ l
    · exact h.refl l
  · split
    · exact h.receivePeerAssociation _ l
    · exact h.refl l
  · exact h.receiveDeauthentication _ true l
  · exact h.receiveDeauthentication _ false l
  · exact hdata _ _ rfl
  · exact h.refl l
  · exact h.refl l

theorem atTime (now : Nat) (l : Link σ) : R l (l.atTime now) :=
  h.arranges ⟨rfl, rfl, rfl, [], rfl, by simp⟩

theorem receiveAmid (hdeliver : ∀ packet l, R l (l.deliver packet)) (seized : Nat → Bool)
    (octets : List UInt8) (rssi : UInt8) (now : Nat) (l : Link σ) :
    R l (l.receiveAmid env seized octets rssi now) := by
  rcases receiveAmid_cases env seized octets rssi now l with hidle | ⟨-, frame, -, hheard⟩
  · rw [hidle]
    exact h.atTime now l
  · rw [hheard]
    exact h.trans (h.atTime now l)
      (h.handle (fun header body _ => h.receiveData hdeliver header body _) seized rssi)

/-! ### Commands -/

theorem endLink (l : Link σ) : R l (l.endLink env) :=
  h.arranges ⟨rfl, rfl, rfl, [_, _], rfl, by simp [Event.isArrangement]⟩

theorem endSession (l : Link σ) : R l (l.endSession env) := by
  have hkicked := Session.Table.accepting_updateTelling Session.Roster.kickAll l.shared.sessions
  have hforgotten (m : Link σ) :
      R m { m with machine.host := none, machine.currentPeers := 0 } :=
    h.arranges ⟨rfl, rfl, rfl, [], rfl, by simp⟩
  unfold Link.endSession Session.Table.kickAll
  refine h.trans ?_ (hforgotten _)
  -- The peers are told one by one, or all at once while somebody uses the roster.
  split
  · rename_i hremoved
    rw [hremoved] at hkicked
    exact h.sendAway_sessions hkicked _ _
  · exact h.trans (h.countLockBusy l) (h.sendAway _ _ _)

theorem leaveMode (l : Link σ) : R l (l.leaveMode env) := by
  unfold Link.leaveMode
  refine h.trans ?_ (h.arranges (arranges_setMode .normal _))
  refine h.trans ?_ (h.arranges (arranges_setAuthLevel .disconnected _))
  split
  · exact h.trans (h.leaveAp l) (h.endLink _)
  · exact h.trans (h.leaveAp l) (h.endLink _)
  · exact h.endLink l
  · exact h.endSession l
  · exact h.refl l
  · exact h.refl l
  · exact h.refl l

theorem tune (channel : UInt8) (l : Link σ) : R l (l.tune env channel) :=
  h.arranges ⟨rfl, rfl, rfl, [_], rfl, by simp [Event.isArrangement]⟩

theorem startScan (l : Link σ) : R l (l.startScan env) := by
  have hcleared : R l { l with
      shared.accessPoints := l.shared.accessPoints.clear, machine.scanPosition := 0 } :=
    h.arranges ⟨rfl, rfl, rfl, [], rfl, by simp⟩
  have hswitched (m : Link σ) : R m { m with machine.switchedAt := m.machine.now } :=
    h.arranges ⟨rfl, rfl, rfl, [], rfl, by simp⟩
  unfold Link.startScan
  refine h.trans ?_ (h.sendProbeRequest _)
  refine h.trans ?_ (h.arranges (arranges_setMode .scanning _))
  exact h.trans (h.trans hcleared (h.tune _ _)) (hswitched _)

theorem startConnecting (target : ConnectTarget) (l : Link σ) :
    R l (l.startConnecting env target) := by
  have hchosen (slot : Option Nat) (handshake : Handshake) (m : Link σ) : R m
      { (((m.setApSlot slot).setFailure none).setAid 0).setRetries 0 with
        machine.target := some target
        machine.handshake := handshake
        machine.encrypting := false } := h.arranges ⟨rfl, rfl, rfl, [], rfl, by simp⟩
  have hinstalled (key : Option Key) (m : Link σ) : R m (m.installKey env key) :=
    h.arranges ⟨rfl, rfl, rfl, [_], rfl, by simp [Event.isArrangement]⟩
  have hheard (m : Link σ) : R m { m with machine.lastHeard := m.machine.now } :=
    h.arranges ⟨rfl, rfl, rfl, [], rfl, by simp⟩
  unfold Link.startConnecting
  -- From the frame that is sent last back to the choice of the target.
  refine h.trans ?_ (h.sendHandshakeFrame _)
  refine h.trans ?_ (h.arranges (arranges_setMode .connecting _))
  refine h.trans ?_ (h.arranges (arranges_setAuthLevel .disconnected _))
  refine h.trans ?_ (hheard _)
  refine h.trans ?_ (h.tune _ _)
  simp only
  split
  · exact h.trans (hchosen _ _ l) (hinstalled _ _)
  · exact hchosen _ _ l

theorem startHosting (parameters : HostParameters) (l : Link σ) :
    R l (l.startHosting env parameters) := by
  have hreset := Session.Table.accepting_update
    (fun _ =>
      (Session.Roster.empty parameters.maxPeers.toNat, (.ok () : Except Session.Error Unit)))
    l.shared.sessions
  have hopened (m : Link σ) : R m { m with
      machine.host := some parameters, machine.currentPeers := 0 } :=
    h.arranges ⟨rfl, rfl, rfl, [], rfl, by simp⟩
  have hscheduled (m : Link σ) : R m { m with machine.nextBeacon := m.machine.now } :=
    h.arranges ⟨rfl, rfl, rfl, [], rfl, by simp⟩
  unfold Link.startHosting Session.Table.reset
  refine h.trans ?_ (h.arranges (arranges_setMode .accessPoint _))
  refine h.trans ?_ (h.arranges (arranges_setAuthLevel .disconnected _))
  refine h.trans ?_ (hscheduled _)
  refine h.trans ?_ (h.tune _ _)
  refine h.trans ?_ (hopened _)
  split
  · rename_i hempty
    rw [hempty] at hreset
    exact h.arranges (arranges_sessions hreset)
  · exact h.countLockBusy l

section Commands

variable {meanwhile : Meanwhile} {P : Link σ → Prop} (hkept : ∀ {l l'}, R l l' → P l → P l')
  (hpause : ∀ {l} step, P l → P (l.pause meanwhile step))
include hkept hpause

theorem obey_keeps (command : Command) (hl : P l) : P (l.obey env meanwhile command) := by
  have hleft := hkept (h.leaveMode l) hl
  unfold Link.obey
  split
  · cases command with
    | enable => exact hkept (h.arranges (arranges_setMode .normal l)) hl
    | powerOff | stop | scan | connect | host => exact hl
  · cases command with
    | enable => exact hl
    | powerOff => exact hkept (h.arranges (arranges_setMode .disabled _)) hleft
    | stop => exact hleft
    | scan => exact hkept (h.startScan _) hleft
    | connect target => exact hkept (h.startConnecting target _) hleft
    | host parameters => exact hkept (h.startHosting parameters _) (hpause 0 hleft)

theorem serveCommand_keeps (hl : P l) : P (l.serveCommand env meanwhile) := by
  cases htake : l.shared.commands.take.2 with
  | none =>
    rw [serveCommand_of_none env meanwhile htake]
    exact hl
  | some posted =>
    have htaken : R l (l.taken posted.1 posted.2) :=
      h.arranges ⟨rfl, rfl, rfl, [_], rfl, by simp [Event.isArrangement]⟩
    have hobeyed := h.obey_keeps hkept hpause posted.2 (hkept htaken hl)
    have hacknowledged (m : Link σ) : R m (m.acknowledge posted.1) :=
      h.arranges ⟨rfl, rfl, rfl, [], rfl, by simp⟩
    rw [serveCommand_of_some env meanwhile htake]
    exact hkept (hacknowledged _) hobeyed

end Commands

/-! ### Ticks -/

theorem scanTick (l : Link σ) : R l (l.scanTick env) := by
  have hmoved (position : Nat) : R l { l with machine.scanPosition := position } :=
    h.arranges ⟨rfl, rfl, rfl, [], rfl, by simp⟩
  have haged (m : Link σ) : R m { m with
      shared.accessPoints := m.shared.accessPoints.tick.1
      machine.switchedAt := m.machine.now } := h.arranges ⟨rfl, rfl, rfl, [], rfl, by simp⟩
  unfold Link.scanTick
  split
  · refine h.trans ?_ (h.sendProbeRequest _)
    exact h.trans (h.trans (hmoved _) (h.tune _ _)) (haged _)
  · exact h.refl l

/-- Records that are sent are taken out of their ring before. -/
theorem drainBurst (hring : ∀ tx l, R l { l with shared.tx := tx })
    (htaken : ∀ record l, R l { l with log := .taken record :: l.log }) (l : Link σ) :
    R l (l.drainBurst env) := by
  refine drainBurst_keeps env (P := R l) (fun tx hm => h.trans hm (hring tx _)) ?_ (h.refl l)
  intro m bssid direction record hm
  unfold forward
  -- A record that is no packet was taken all the same.
  split
  · exact h.trans hm (htaken record m)
  · exact h.trans (h.trans hm (htaken record m)) (h.send (.drafted (.data _ _ _ _ _ _ _)) _)

theorem connectedTick (hdrain : ∀ l, R l (l.drainBurst env)) (l : Link σ) :
    R l (l.connectedTick env) := by
  unfold Link.connectedTick
  split
  · exact h.keptByAttempts.restart l
  · simp only
    split
    · exact h.trans (hdrain l) (h.sendNullData _)
    · exact hdrain l

theorem countPeers (l : Link σ) : R l l.countPeers := by
  unfold Link.countPeers
  split
  · exact h.arranges ⟨rfl, rfl, rfl, [], rfl, by simp⟩
  · exact h.refl l

theorem beaconTick (l : Link σ) : R l (l.beaconTick env) := by
  have hscheduled (nextBeacon : Nat) (m : Link σ) :
      R m { m with machine.nextBeacon := nextBeacon } :=
    h.arranges ⟨rfl, rfl, rfl, [], rfl, by simp⟩
  unfold Link.beaconTick
  split
  · exact h.trans (h.sendBeacon l) (hscheduled _ _)
  · exact h.refl l

theorem kick (aid : Nat) (l : Link σ) : R l (l.kick env aid).1 := by
  have hkicked := Session.Table.accepting_updateTelling (Session.Roster.kick (UInt16.ofNat aid))
    l.shared.sessions
  unfold Link.kick Session.Table.kick
  split
  · exact h.refl l
  · rename_i hremoved
    rw [hremoved] at hkicked
    exact h.sendAway_sessions hkicked _ _

section Session

variable {meanwhile : Meanwhile} {P : Link σ → Prop} (hkept : ∀ {l l'}, R l l' → P l → P l')
  (hpause : ∀ {l} step, P l → P (l.pause meanwhile step))
  (hrequests : ∀ {l} kicks requested, P l →
    P { l with shared.kicks := kicks, shared.kickUnassociated := requested })
include hkept hpause hrequests

/-- The host may come in between, and the requests of the host are taken and put back. -/
theorem keptByKicks : KeptByKicks env meanwhile P where
  pause := hpause
  kick aid hl := hkept (h.kick aid _) hl
  kickUnassociated := by
    intro l sessions told removed hremoved hl
    have hsame := Session.Table.accepting_updateTelling Session.Roster.kickUnassociated
      l.shared.sessions
    unfold Session.Table.kickUnassociated at hremoved
    rw [hremoved] at hsame
    exact hkept (h.sendAway_sessions hsame told .notAssociated) hl
  requests := by
    intro l kicks requested lockBusy hl
    have hcounted (m : Link σ) : R m { m with shared.statistics.lockBusy := lockBusy } :=
      h.arranges ⟨rfl, rfl, rfl, [], rfl, by simp⟩
    exact hkept (hcounted _) (hrequests kicks requested hl)

/-- All that a tick does for a session before it sends what the host wants to send. -/
theorem hosting_keeps (hl : P l) :
    P ((((l.serveKicks env meanwhile).pause meanwhile (maxPeers + 4)).countPeers).beaconTick
      env) := by
  have hkicked := hpause (maxPeers + 4) ((h.keptByKicks hkept hpause hrequests).serveKicks hl)
  exact hkept (h.trans (h.countPeers _) (h.beaconTick _)) hkicked

end Session

end KeptByHandlers

end WlanControl.Link
