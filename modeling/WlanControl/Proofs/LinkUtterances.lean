import WlanControl.Proofs.LinkRelay
import WlanControl.Proofs.SessionHistory

namespace WlanControl

open WlanControl.Frame (Authentication Draft Field ReasonCode Received StatusCode maxFrameLength)

/-!
# The link layer — what others read of it

A radio that has room for every frame sends what the link layer writes, and whoever hears it reads
what the link layer meant.

* `Frame.Draft.Reads` — a frame that is read as a draft, whatever its number;
* `Link.Utters` — a link before and after frames were sent that are read as given drafts;
* `Link.utters_send` — one frame;
* `Link.partings` — whom a link tells that it leaves its mode, with `Link.farewell` for what it
  tells them;
* `Command.opening` — what goes out at once to follow a command.

Main statements: `Link.utters_leaveMode`, everybody is told once, and `Link.utters_serveCommand`,
all that is sent while a command is acted upon.
-/

/-! ### Frames that are read as drafts -/

namespace Frame.Draft

/-- The frame is read as the draft, whatever its number. -/
def Reads (draft : Draft) (frame : List UInt8) : Prop :=
  ∃ number, Received.ofOctets frame = .ok (draft.received number)

/-- The draft can be written into one frame and read again. -/
structure IsSendable (draft : Draft) : Prop where
  canonical : draft.IsCanonical
  fits : ∀ number, ((draft.fields number).flatMap Field.encoding).length ≤ maxFrameLength

/-- The octets of a header and of what follows it. -/
theorem length_fields (header : Header) (fields : List Field) :
    ((header.fields ++ fields).flatMap Field.encoding).length =
      Header.size + (fields.flatMap Field.encoding).length := by
  rw [List.flatMap_append, List.length_append]
  rfl

theorem isSendable_probeRequest (transmitter : MacAddress) :
    (probeRequest transmitter none).IsSendable where
  canonical := trivial
  fits number := by
    unfold fields Frame.probeRequest
    rw [length_fields]
    decide

theorem isSendable_deauthentication (receiver transmitter bssid : MacAddress) {reason : ReasonCode}
    (hreason : ReasonCode.ofNumber reason.number = reason) :
    (deauthentication receiver transmitter bssid reason).IsSendable where
  canonical := hreason
  fits number := by
    unfold fields Frame.deauthentication
    rw [length_fields]
    simp [Field.encoding, Field.slices, Header.size, maxFrameLength]

/-- Every challenge that is kept can be answered. -/
theorem isSendable_authentication (receiver transmitter bssid : MacAddress) {body : Authentication}
    (halgorithm : AuthAlgorithm.ofNumber body.algorithm.number = body.algorithm)
    (hstatus : StatusCode.ofNumber body.status.number = body.status)
    (hchallenge : ∀ challenge, body.challenge = some challenge →
      challenge.length ≤ Link.challengeCapacity) (encrypted : Bool) :
    (authentication receiver transmitter bssid body encrypted).IsSendable where
  canonical :=
    ⟨halgorithm, hstatus, fun challenge hsome => (hchallenge challenge hsome).trans (by decide)⟩
  fits number := by
    have helement : ((body.challenge.map (Field.element challengeId ·)).toList.flatMap
        Field.encoding).length ≤ 2 + Link.challengeCapacity := by
      cases hbody : body.challenge with
      | none => simp
      | some challenge =>
        have hfits := hchallenge challenge hbody
        simp [Field.encoding, Field.slices]
        omega
    unfold Link.challengeCapacity at helement
    unfold fields Frame.authentication
    simp only [List.append_assoc]
    rw [length_fields, List.flatMap_append, List.length_append]
    refine (Nat.add_le_add_left (Nat.add_le_add_left helement _) _).trans ?_
    simp [Field.encoding, Field.slices, Header.size, maxFrameLength]

theorem isSendable_associationRequest (bssid transmitter : MacAddress) (ssid : Ssid)
    (privacy : Bool) (rateSet : RateSet) :
    (associationRequest bssid transmitter ssid privacy rateSet).IsSendable where
  canonical := trivial
  fits number := by
    have hssid := ssid.length_le
    have hrates : rateSet.octets.length ≤ 32 := by cases rateSet <;> decide
    unfold fields Frame.associationRequest
    rw [length_fields]
    simp [Field.encoding, Field.slices, Header.size, maxFrameLength]
    omega

theorem isSendable_associationResponse (receiver bssid : MacAddress) {status : StatusCode}
    (hstatus : StatusCode.ofNumber status.number = status) {aid : UInt16} (haid : aid < 0x4000) :
    (associationResponse receiver bssid status aid).IsSendable where
  canonical := ⟨hstatus, haid⟩
  fits number := by
    unfold fields Frame.associationResponse
    rw [length_fields]
    simp [Field.encoding, Field.slices, Header.size, maxFrameLength]
    decide

end Frame.Draft

/-- What goes out to follow a command, once the old mode was left. -/
def Command.opening (address : MacAddress) : Command → List Draft
  | .scan => [.probeRequest address none]
  | .connect target =>
    [.authentication target.bssid address target.bssid
      { algorithm := (Link.Handshake.start target.record.security.security 0).algorithm
        sequence := 1
        status := .success
        challenge := none } false]
  | .enable | .powerOff | .stop | .host _ => []

namespace Link

variable {σ : Type} {l l₁ l₂ l₃ : Link σ} {env : Surroundings σ}

/-! ### What is uttered -/

/-- From one link to the other frames were sent that are read as these drafts, in their order. -/
def Utters (drafts : List Draft) (l l' : Link σ) : Prop :=
  ∃ frames, transmitted l'.log = transmitted l.log ++ frames ∧
    List.Forall₂ Draft.Reads drafts frames

theorem utters_nil (h : transmitted l₂.log = transmitted l₁.log) : Utters [] l₁ l₂ :=
  ⟨[], by rw [h, List.append_nil], .nil⟩

theorem Utters.trans {drafts drafts' : List Draft} (h : Utters drafts l₁ l₂)
    (h' : Utters drafts' l₂ l₃) : Utters (drafts ++ drafts') l₁ l₃ := by
  obtain ⟨frames, hframes, hreads⟩ := h
  obtain ⟨frames', hframes', hreads'⟩ := h'
  refine ⟨frames ++ frames', ?_, List.rel_append hreads hreads'⟩
  rw [hframes', hframes, List.append_assoc]

/-- It does not matter how else the links differ. -/
theorem Utters.of_eq {drafts : List Draft} (h : Utters drafts l₁ l₂)
    (hlog : transmitted l₃.log = transmitted l₂.log) : Utters drafts l₁ l₃ := by
  obtain ⟨frames, hframes, hreads⟩ := h
  exact ⟨frames, hlog.trans hframes, hreads⟩

theorem utters_send (henv : env.Accepts) {draft : Draft} (h : draft.IsSendable) (l : Link σ) :
    Utters [draft] l (l.send env fun number => draft.fields number) := by
  have hwritten := Frame.encode?_of_fits (draft.isCountable_fields h.canonical
    l.machine.sequenceNumber) (h.fits l.machine.sequenceNumber)
  refine ⟨_, transmitted_send henv _ l, ?_⟩
  rw [hwritten]
  exact .cons ⟨_, draft.ofOctets_fields h.canonical _⟩ .nil

/-- Be there room for it or not, the radio is handed a frame that is read as the draft. -/
theorem log_send_of_isSendable (env : Surroundings σ) {draft : Draft} (h : draft.IsSendable)
    (l : Link σ) : ∃ frame accepted, draft.Reads frame ∧
      (l.send env fun number => draft.fields number).log = .sent frame accepted :: l.log := by
  have hwritten := Frame.encode?_of_fits (draft.isCountable_fields h.canonical
    l.machine.sequenceNumber) (h.fits l.machine.sequenceNumber)
  have hreads := draft.ofOctets_fields h.canonical l.machine.sequenceNumber
  unfold send
  simp only [hwritten]
  unfold transmit
  split
  · exact ⟨_, true, ⟨_, hreads⟩, rfl⟩
  · exact ⟨_, false, ⟨_, hreads⟩, rfl⟩

/-- A new mode changes nothing else that the link keeps to itself, but for the level. -/
theorem machine_setMode (mode : Mode) (l : Link σ) : (l.setMode mode).machine =
    { l.machine with mode, authLevel := (l.setMode mode).machine.authLevel } := by
  unfold setMode
  simp only
  split <;> rfl

/-- A mode with a link goes with every level. -/
theorem setMode_of_hasLink {mode : Mode} (h : mode.hasLink = true) (l : Link σ) :
    l.setMode mode =
      { l with machine.mode := mode, shared.status.mode := mode }.notePublished := by
  unfold setMode
  rw [h]
  rfl

theorem transmitted_setMode (mode : Mode) (l : Link σ) :
    transmitted (l.setMode mode).log = transmitted l.log := by
  unfold setMode
  simp only
  split <;> rfl

/-! ### Leaving a mode -/

/-- What a link tells another station when it leaves its mode. -/
def farewell (l : Link σ) (receiver : MacAddress) : Draft :=
  if l.machine.mode = .accessPoint then
    .deauthentication receiver l.machine.address l.machine.address .leavingBss
  else .deauthentication receiver l.machine.address receiver .leaving

/-- Whom a link tells that it leaves its mode.  An access point tells each of its peers, and all
stations at once while somebody uses the roster. -/
def partings (l : Link σ) : List MacAddress :=
  match l.machine.mode with
  | .connecting | .connected =>
    if l.machine.authLevel = .disconnected then []
    else (l.machine.target.map ConnectTarget.bssid).toList
  | .accessPoint =>
    if l.shared.sessions.roster.isHeld then [.broadcast]
    else l.shared.sessions.roster.value.slots.filterMap Session.Slot.address?
  | .disabled | .normal | .scanning | .cannotConnect => []

theorem utters_sendDeauthentication (henv : env.Accepts) (receiver bssid : MacAddress)
    {reason : ReasonCode} (hreason : ReasonCode.ofNumber reason.number = reason) (l : Link σ) :
    Utters [.deauthentication receiver l.machine.address bssid reason] l
      (l.sendDeauthentication env receiver bssid reason) :=
  utters_send henv (Draft.isSendable_deauthentication receiver l.machine.address bssid hreason) l

theorem utters_sendAway (henv : env.Accepts) (peers : List MacAddress) {reason : ReasonCode}
    (hreason : ReasonCode.ofNumber reason.number = reason) (l : Link σ) :
    Utters (peers.map fun peer =>
        .deauthentication peer l.machine.address l.machine.address reason) l
      (l.sendAway env peers reason) := by
  induction peers generalizing l with
  | nil => exact utters_nil rfl
  | cons peer rest ih =>
    have hfirst := utters_sendDeauthentication henv peer l.machine.address hreason l
    have hrest := ih (l.sendDeauthentication env peer l.machine.address reason)
    -- The station keeps its address while it sends.
    have haddress : (l.sendDeauthentication env peer l.machine.address reason).machine.address =
        l.machine.address := by
      rw [sendDeauthentication, (transmits_send env _ l).machine_eq]
    rw [haddress] at hrest
    exact hfirst.trans hrest

theorem utters_leaveAp (henv : env.Accepts)
    (hmode : l.machine.mode = .connecting ∨ l.machine.mode = .connected) :
    Utters (l.partings.map l.farewell) l (l.leaveAp env) := by
  have hpartings : l.partings = if l.machine.authLevel = .disconnected then []
      else (l.machine.target.map ConnectTarget.bssid).toList := by
    rcases hmode with hmode | hmode <;> rw [partings, hmode]
  have hfarewell (receiver : MacAddress) : l.farewell receiver =
      .deauthentication receiver l.machine.address receiver .leaving := by
    rcases hmode with hmode | hmode <;> exact if_neg (by rw [hmode]; decide)
  unfold leaveAp
  rw [hpartings]
  split
  · exact utters_nil rfl
  · cases l.machine.target with
    | none => exact utters_nil rfl
    | some target =>
      show Utters [l.farewell target.bssid] l _
      rw [hfarewell]
      exact utters_sendDeauthentication henv target.bssid target.bssid (by rfl) l

theorem utters_endSession (henv : env.Accepts) (hmode : l.machine.mode = .accessPoint) :
    Utters (l.partings.map l.farewell) l (l.endSession env) := by
  have hfarewell : l.farewell = fun receiver =>
      .deauthentication receiver l.machine.address l.machine.address .leavingBss := by
    funext receiver
    exact if_pos hmode
  unfold endSession partings
  rw [hfarewell, hmode]
  simp only
  unfold Session.Table.kickAll
  rcases Session.Table.updateTelling_cases Session.Roster.kickAll l.shared.sessions with
    ⟨hheld, hbusy⟩ | ⟨hfree, hkicked⟩
  -- While somebody uses the roster, its peers cannot be told one by one.
  · rw [hheld, hbusy]
    have hall := utters_sendAway henv [.broadcast] (by rfl : _ = ReasonCode.leavingBss)
      (l.count Statistics.countLockBusy)
    exact hall.of_eq rfl
  · rw [hfree, hkicked]
    exact utters_sendAway henv _ (by rfl) l

/-- Everybody whom a link tells that it leaves its mode is told once, and nobody else. -/
theorem utters_leaveMode (henv : env.Accepts) (l : Link σ) :
    Utters (l.partings.map l.farewell) l (l.leaveMode env) := by
  have hleft {m : Link σ} (h : Utters (l.partings.map l.farewell) l m) :
      Utters (l.partings.map l.farewell) l ((m.setAuthLevel .disconnected).setMode .normal) :=
    h.of_eq (transmitted_setMode .normal _)
  have hidle {m : Link σ} (hpartings : l.partings = [])
      (hlog : transmitted m.log = transmitted l.log) :
      Utters (l.partings.map l.farewell) l ((m.setAuthLevel .disconnected).setMode .normal) := by
    refine hleft ?_
    rw [hpartings]
    exact utters_nil hlog
  -- Only a link or a session has anybody to say goodbye to.
  unfold leaveMode
  split
  · rename_i hmode
    exact hleft ((utters_leaveAp henv (.inl hmode)).of_eq rfl)
  · rename_i hmode
    exact hleft ((utters_leaveAp henv (.inr hmode)).of_eq rfl)
  · rename_i hmode
    exact hidle (by rw [partings, hmode]) rfl
  · rename_i hmode
    exact hleft (utters_endSession henv hmode)
  · rename_i hmode
    exact hidle (by rw [partings, hmode]) rfl
  · rename_i hmode
    exact hidle (by rw [partings, hmode]) rfl
  · rename_i hmode
    exact hidle (by rw [partings, hmode]) rfl

/-! ### Handshakes -/

/-- What a step of the handshake has to say to the access point. -/
def Handshake.draft? (h : Handshake) (address : MacAddress) (target : ConnectTarget) :
    Option Draft :=
  let bssid := target.bssid
  let authentication := fun (sequence : UInt16) (challenge : Option (List UInt8)) encrypted =>
    Draft.authentication bssid address bssid
      { algorithm := h.algorithm, sequence, status := .success, challenge } encrypted
  match h.step with
  | .authenticate => some (authentication 1 none false)
  | .challenge => some (authentication 3 (some h.challenge) true)
  | .associate =>
    let ssid := target.record.ssid.getD .empty
    let privacy := decide (target.record.security.security ≠ .plain)
    some (.associationRequest bssid address ssid privacy h.rateSet)
  | .keyExchange | .done => none

theorem Handshake.frame?_eq (h : Handshake) (address : MacAddress) (target : ConnectTarget) :
    h.frame? address target = (h.draft? address target).map fun draft number =>
      draft.fields number := by
  unfold frame? draft?
  cases h.step <;> rfl

theorem utters_sendHandshakeFrame (henv : env.Accepts) (target : ConnectTarget)
    (htarget : l.machine.target = some target) {draft : Draft}
    (hdraft : l.machine.handshake.draft? l.machine.address target = some draft)
    (h : draft.IsSendable) : Utters [draft] l (l.sendHandshakeFrame env) := by
  unfold sendHandshakeFrame
  rw [htarget]
  simp only
  rw [Handshake.frame?_eq, hdraft]
  exact (utters_send henv h l).of_eq rfl

/-! ### Commands -/

theorem utters_sendProbeRequest (henv : env.Accepts) (l : Link σ) :
    Utters [.probeRequest l.machine.address none] l (l.sendProbeRequest env) :=
  utters_send henv (Draft.isSendable_probeRequest l.machine.address) l

theorem utters_startScan (henv : env.Accepts) (l : Link σ) :
    Utters (Command.scan.opening l.machine.address) l (l.startScan env) := by
  unfold startScan
  simp only
  -- The request goes out from the address that the link has all the time.
  generalize hscanning : setMode .scanning _ = scanning
  have hsilent : Utters [] l scanning := by
    rw [← hscanning]
    refine utters_nil ?_
    rw [transmitted_setMode]
    rfl
  have haddress : scanning.machine.address = l.machine.address := by
    rw [← hscanning, machine_setMode]
    rfl
  have hprobe := utters_sendProbeRequest henv scanning
  rw [haddress] at hprobe
  exact hsilent.trans hprobe

/-- A new attempt has nothing behind it when its first frame is sent. -/
structure IsReady (target : ConnectTarget) (l ready : Link σ) : Prop where
  machine_eq : ready.machine = { l.machine with
    mode := .connecting
    authLevel := .disconnected
    channel := target.record.channel
    retries := 0
    target := some target
    handshake := .start target.record.security.security l.machine.now
    encrypting := false
    lastHeard := l.machine.now }
  transmitted_eq : transmitted ready.log = transmitted l.log

theorem exists_isReady (env : Surroundings σ) (target : ConnectTarget) (l : Link σ) :
    ∃ ready, IsReady target l ready ∧
      l.startConnecting env target = ready.sendHandshakeFrame env := by
  unfold startConnecting
  refine ⟨_, ⟨?_, ?_⟩, rfl⟩
  · rw [setMode_of_hasLink rfl]
    split <;>
      simp only [setAuthLevel, notePublished, tune, installKey, setRetries, setAid, setFailure,
        setApSlot]
  · rw [transmitted_setMode]
    split <;> rfl

theorem utters_startConnecting (henv : env.Accepts) (target : ConnectTarget) (l : Link σ) :
    Utters ((Command.connect target).opening l.machine.address) l
      (l.startConnecting env target) := by
  obtain ⟨ready, hready, hstarted⟩ := exists_isReady env target l
  -- Both algorithms have numbers, so that whoever hears the frame can read it.
  have halgorithm : Frame.AuthAlgorithm.ofNumber
      (Handshake.start target.record.security.security 0).algorithm.number =
        (Handshake.start target.record.security.security 0).algorithm := by
    unfold Handshake.start
    simp only
    split <;> rfl
  have hsilent : Utters [] l ready := utters_nil hready.transmitted_eq
  rw [hstarted]
  refine hsilent.trans (utters_sendHandshakeFrame henv target ?_ ?_
    (Draft.isSendable_authentication target.bssid l.machine.address target.bssid halgorithm rfl
      (by simp) false))
  · rw [hready.machine_eq]
  · rw [hready.machine_eq]
    rfl

theorem utters_startHosting (parameters : HostParameters) (l : Link σ) :
    Utters [] l (l.startHosting env parameters) := by
  unfold startHosting
  refine utters_nil ?_
  rw [transmitted_setMode]
  simp only
  split <;> rfl

/-- Two machines are the same station at the same time. -/
structure Machine.IsSame (m m' : Machine) : Prop where
  address_eq : m'.address = m.address
  settings_eq : m'.settings = m.settings
  now_eq : m'.now = m.now

theorem Transmits.isSame {m m' : Link σ} (h : Transmits m m') : m.machine.IsSame m'.machine := by
  rw [h.machine_eq]
  exact ⟨rfl, rfl, rfl⟩

/-- A mode is left by the same station, and at once. -/
theorem isSame_leaveMode (env : Surroundings σ) (l : Link σ) :
    l.machine.IsSame (l.leaveMode env).machine := by
  have hleft {m : Link σ} (h : l.machine.IsSame m.machine) :
      l.machine.IsSame ((m.setAuthLevel .disconnected).setMode .normal).machine := by
    rw [machine_setMode]
    exact ⟨h.address_eq, h.settings_eq, h.now_eq⟩
  have hsame := (transmits_leaveAp env l).isSame
  unfold leaveMode
  refine hleft ?_
  split
  · exact ⟨hsame.address_eq, hsame.settings_eq, hsame.now_eq⟩
  · exact ⟨hsame.address_eq, hsame.settings_eq, hsame.now_eq⟩
  · exact ⟨rfl, rfl, rfl⟩
  · unfold endSession
    simp only
    split
    · rename_i told _
      have hsame := (transmits_sendAway env told .leavingBss l).isSame
      exact ⟨hsame.address_eq, hsame.settings_eq, hsame.now_eq⟩
    · have hsame := (transmits_sendAway env [.broadcast] .leavingBss
        (l.count Statistics.countLockBusy)).isSame
      exact ⟨hsame.address_eq, hsame.settings_eq, hsame.now_eq⟩
  · exact ⟨rfl, rfl, rfl⟩
  · exact ⟨rfl, rfl, rfl⟩
  · exact ⟨rfl, rfl, rfl⟩

theorem utters_obey (henv : env.Accepts) (meanwhile : Meanwhile)
    (henabled : l.machine.mode ≠ .disabled) {command : Command} (hcommand : command ≠ .enable) :
    Utters (l.partings.map l.farewell ++ command.opening l.machine.address) l
      (l.obey env meanwhile command) := by
  have hleft := utters_leaveMode henv l
  have haddress := (isSame_leaveMode env l).address_eq
  unfold obey
  rw [if_neg henabled]
  cases command with
  | enable => exact absurd rfl hcommand
  | powerOff => exact hleft.trans (utters_nil (transmitted_setMode .disabled _))
  | stop => exact hleft.trans (utters_nil rfl)
  | scan =>
    rw [← haddress]
    exact hleft.trans (utters_startScan henv _)
  | connect target =>
    rw [← haddress]
    exact hleft.trans (utters_startConnecting henv target _)
  | host parameters =>
    have hpaused : Utters [] (l.leaveMode env) ((l.leaveMode env).pause meanwhile 0) :=
      utters_nil rfl
    exact hleft.trans (hpaused.trans (utters_startHosting parameters _))

/-- While a command is acted upon everybody is told that the old mode is left, and then the new one
is opened. -/
theorem utters_serveCommand (henv : env.Accepts) (meanwhile : Meanwhile)
    (henabled : l.machine.mode ≠ .disabled) {version : UInt32} {command : Command}
    (htaken : l.shared.commands.take.2 = some (version, command)) (hcommand : command ≠ .enable) :
    Utters (l.partings.map l.farewell ++ command.opening l.machine.address) l
      (l.serveCommand env meanwhile) := by
  have hfirst : Utters [] l (l.taken version command) := utters_nil rfl
  have hobeyed := utters_obey henv meanwhile (l := l.taken version command) henabled hcommand
  rw [serveCommand_of_some env meanwhile htaken]
  exact hfirst.trans (hobeyed.of_eq rfl)

/-! ### What is heard -/

/-- Who hears the frame acts upon the draft. -/
theorem receiveAmid_of_reads (env : Surroundings σ) (henabled : l.machine.mode ≠ .disabled)
    {draft : Draft} {frame : List UInt8} (hreads : draft.Reads frame) :
    ∃ number, ∀ seized rssi now,
      l.receiveAmid env seized frame rssi now =
        (l.atTime now).handle env seized (draft.received number) rssi := by
  obtain ⟨number, hread⟩ := hreads
  exact ⟨number, receiveAmid_of_ok env henabled hread⟩

end Link

end WlanControl
