import WlanControl.Proofs.FrameReading
import WlanControl.Proofs.LinkUtterances

namespace WlanControl

open WlanControl.Frame (AuthAlgorithm Authentication BeaconInfo Direction Field Header ReasonCode
  Received StatusCode encode? maxFrameLength)

/-!
# The link layer — credentials

A station asks its access point to authenticate it, and proves that it has a shared key by the
answer to a challenge.  Both are authentication frames, and of all operations of the link layer only
one sends such frames to an access point.

* `Frame.Received.isManagement_of_authentication` — no other frame is read as one of these;
* `Link.Saying`, `Link.saying?` — what an authentication frame says to an access point;
* `Link.asked?`, `Link.Responded` — how far the station has come at the end of a log;
* `Link.Mute` — a link before and after nothing was said and no handshake got further;
* `Link.mute_fail`, `Link.mute_leaveMode`, … — the operations that are mute.

Main statement: `Link.mute_accessPointTick`, an access point asks nobody, whatever its host does.
-/

namespace Frame

variable {octets frame : List UInt8} {header : Header} {fields : List Field} {capacity : Nat}

/-- The header of a frame that was written is read back from it. -/
theorem Header.ofOctets?_of_encode? (h : encode? capacity (header.fields ++ fields) = some frame) :
    ∃ body, Header.ofOctets? frame = some (header, body) := by
  rw [eq_of_encode? h, List.flatMap_append]
  exact ⟨_, Header.ofOctets?_encoding _ _⟩

/-- Only frames of that kind are read as authentication frames. -/
theorem Received.isManagement_of_authentication {body : Authentication}
    (h : Received.ofOctets octets = .ok (.authentication header body)) : ∃ rest,
      Header.ofOctets? octets = some (header, rest) ∧
        header.control.IsManagement .authentication := by
  obtain ⟨found, rest, hheader, hbody⟩ := Received.exists_of_ofOctets h
  cases Received.header?_ofBody? hbody rfl
  refine ⟨rest, hheader, ?_⟩
  unfold Received.ofBody? at hbody
  split at hbody
  · rename_i htype
    refine ⟨htype, ?_⟩
    -- No other kind of management frame is read as this one.
    unfold Received.ofManagement? at hbody
    split at hbody
    all_goals
      simp only [bind, Option.bind_eq_some_iff, Option.some.injEq] at hbody
      grind [Header.managementSubtype]
  · split at hbody
    · cases hbody
    · cases hbody
  · cases hbody

end Frame

namespace Link

variable {σ : Type} {l l' l₁ l₂ l₃ : Link σ} (env : Surroundings σ)

/-! ### What is said -/

/-- What an authentication frame of a station says to an access point. -/
inductive Saying
  /-- It asks to be authenticated by an algorithm. -/
  | asks (algorithm : AuthAlgorithm)
  /-- It answers a challenge. -/
  | answers (header : Header) (body : Authentication)
deriving DecidableEq

/-- What a frame says to an access point.  The third frame of a handshake answers a challenge, and
so does every authentication frame that is marked as encrypted. -/
def saying? (frame : List UInt8) : Option Saying :=
  match Received.ofOctets frame with
  | .ok (.authentication header body) =>
    if body.sequence = 3 ∨ header.control.has .encrypted = true then some (.answers header body)
    else if body.sequence = 1 then some (.asks body.algorithm)
    else none
  | _ => none

/-- What is said with a frame that the radio was handed. -/
def Event.saying? : Event → Option Saying
  | .sent frame _ => Link.saying? frame
  | _ => none

/-- The algorithm of a request to be authenticated. -/
def Saying.asked? : Saying → Option AuthAlgorithm
  | .asks algorithm => some algorithm
  | .answers _ _ => none

/-- The algorithm of the last request to be authenticated. -/
def asked? (log : List Event) : Option AuthAlgorithm :=
  log.findSome? fun e => e.saying?.bind Saying.asked?

/-- A challenge was answered since the station asked to be authenticated. -/
def Responded (log : List Event) : Prop :=
  ∃ header body, log.findSome? Event.saying? = some (.answers header body)

/-- Nothing is said, and no other access point is wanted. -/
def Event.IsMute (e : Event) : Prop := e.saying? = none ∧ e.target? = none

section Logs

variable {events log : List Event}

theorem wanted?_of_mute (h : ∀ e ∈ events, e.IsMute) : wanted? (events ++ log) = wanted? log := by
  have hnone : events.findSome? Event.target? = none :=
    List.findSome?_eq_none_iff.mpr fun e he => (h e he).2
  rw [wanted?, List.findSome?_append, hnone]
  rfl

theorem asked?_of_mute (h : ∀ e ∈ events, e.IsMute) : asked? (events ++ log) = asked? log := by
  have hnone : events.findSome? (fun e => e.saying?.bind Saying.asked?) = none := by
    refine List.findSome?_eq_none_iff.mpr fun e he => ?_
    rw [(h e he).1]
    rfl
  rw [asked?, List.findSome?_append, hnone]
  rfl

theorem responded_of_mute (h : ∀ e ∈ events, e.IsMute) (hlog : Responded log) :
    Responded (events ++ log) := by
  have hnone : events.findSome? Event.saying? = none :=
    List.findSome?_eq_none_iff.mpr fun e he => (h e he).1
  obtain ⟨header, body, hsaying⟩ := hlog
  refine ⟨header, body, ?_⟩
  rw [List.findSome?_append, hnone]
  exact hsaying

end Logs

/-! ### Frames that say nothing -/

/-- Whatever number the frame gets, it says nothing. -/
def Wordless (build : UInt16 → List Field) : Prop :=
  ∀ number frame, encode? maxFrameLength (build number) = some frame → saying? frame = none

/-- What is no authentication frame says nothing. -/
theorem saying?_of_other {frame : List UInt8} {header : Header} {fields : List Field}
    (h : encode? maxFrameLength (header.fields ++ fields) = some frame)
    (hother : ¬ header.control.IsManagement .authentication) : saying? frame = none := by
  obtain ⟨body, hheader⟩ := Header.ofOctets?_of_encode? h
  unfold saying?
  split
  · rename_i found _ hread
    obtain ⟨rest, hfound, hkind⟩ := Received.isManagement_of_authentication hread
    cases hheader.symm.trans hfound
    exact absurd hkind hother
  · rfl

theorem not_isManagement_authentication : ∀ subtype ∈ [Frame.ManagementSubtype.probeRequest,
      .associationRequest, .associationResponse, .deauthentication, .beacon],
    ¬ (Frame.FrameControl.management subtype).IsManagement .authentication := by
  decide

theorem wordless_probeRequest (transmitter : MacAddress) (ssid : Option Ssid) :
    Wordless (Frame.probeRequest transmitter ssid) :=
  fun _ _ h => saying?_of_other h (not_isManagement_authentication .probeRequest (by simp))

theorem wordless_associationRequest (bssid transmitter : MacAddress) (ssid : Ssid) (privacy : Bool)
    (rateSet : Frame.RateSet) :
    Wordless fun number => Frame.associationRequest bssid transmitter number ssid privacy rateSet :=
  fun _ _ h => saying?_of_other h (not_isManagement_authentication .associationRequest (by simp))

theorem wordless_associationResponse (receiver bssid : MacAddress) (status : StatusCode)
    (aid : UInt16) :
    Wordless fun number => Frame.associationResponse receiver bssid number status aid :=
  fun _ _ h => saying?_of_other h (not_isManagement_authentication .associationResponse (by simp))

theorem wordless_deauthentication (receiver transmitter bssid : MacAddress) (reason : ReasonCode) :
    Wordless fun number =>
      Frame.deauthentication .deauthentication receiver transmitter bssid number reason :=
  fun _ _ h => saying?_of_other h (not_isManagement_authentication .deauthentication (by simp))

theorem wordless_beacon (template : Frame.BeaconTemplate) : Wordless (Frame.beacon template) := by
  intro number frame h
  unfold Frame.beacon at h
  rw [List.append_assoc, List.append_assoc] at h
  exact saying?_of_other h (not_isManagement_authentication .beacon (by simp))

theorem wordless_data (direction : Direction) (bssid destination source : MacAddress)
    (encrypted : Bool) (type : UInt16) (payload : List UInt8) :
    Wordless fun number =>
      Frame.data direction bssid destination source number encrypted type payload := by
  intro number frame h
  refine saying?_of_other h ?_
  cases direction <;> cases encrypted <;> simp only [Frame.dataHeader] <;> decide

theorem wordless_nullData (bssid transmitter : MacAddress) :
    Wordless (Frame.nullData bssid transmitter) := by
  intro number frame h
  unfold Frame.nullData at h
  rw [← List.append_nil (Header.fields _)] at h
  refine saying?_of_other h ?_
  simp only
  decide

/-- The second frame of a handshake says nothing, unless it is marked as encrypted. -/
theorem saying?_of_second {header : Header} (hkind : header.control.IsManagement .authentication)
    (hclear : header.control.has .encrypted = false) (algorithm status : UInt16) :
    saying? (header.encoding ++ (littleEndian16 algorithm ++
      (littleEndian16 2 ++ (littleEndian16 status ++ [])))) = none := by
  unfold saying?
  rw [Frame.ofOctets_encoding, Received.ofBody?_authentication hkind]
  simp [hclear]

/-- The answer of an access point says nothing to another one. -/
theorem wordless_reply (receiver transmitter bssid : MacAddress) (algorithm : AuthAlgorithm)
    (status : StatusCode) :
    Wordless fun number => Frame.authentication receiver transmitter bssid number
      { algorithm, sequence := 2, status, challenge := none } false := by
  intro number frame h
  have hkind := (Frame.isManagement_management .authentication (by simp)).2 false
  rw [Frame.eq_of_encode? h]
  unfold Frame.authentication
  simp only [Option.map_none, Option.toList_none, List.flatMap_append, List.flatMap_cons,
    List.flatMap_nil, Frame.Field.encoding_octets, List.append_assoc, List.nil_append]
  exact saying?_of_second hkind (by simp) algorithm.number status.number

/-! ### Operations that say nothing -/

/-- How far a link layer has come with an access point. -/
structure Footing where
  mode : Mode
  authLevel : AuthLevel
  target : Option ConnectTarget
  step : HandshakeStep
  algorithm : AuthAlgorithm
  challenge : List UInt8

/-- The footing that a link layer is on. -/
def footing (l : Link σ) : Footing where
  mode := l.machine.mode
  authLevel := l.machine.authLevel
  target := l.machine.target
  step := l.machine.handshake.step
  algorithm := l.machine.handshake.algorithm
  challenge := l.machine.handshake.challenge

/-- No handshake got further from one footing to the other. -/
structure Footing.Falls (f f' : Footing) : Prop where
  algorithm_eq : f'.algorithm = f.algorithm
  challenge_eq : f'.challenge = f.challenge
  authLevel_eq : f'.authLevel = .authenticated → f.authLevel = .authenticated
  /-- A link, be it up or not, was there before, and got no challenge since. -/
  linked : f'.mode.hasLink = true → f.mode.hasLink = true ∧ f'.target = f.target ∧
    (f'.step = .challenge → f.step = .challenge)

namespace Footing.Falls

variable {f f₁ f₂ f₃ : Footing}

theorem refl (f : Footing) : Falls f f := ⟨rfl, rfl, id, fun h => ⟨h, rfl, id⟩⟩

theorem trans (h : Falls f₁ f₂) (h' : Falls f₂ f₃) : Falls f₁ f₃ where
  algorithm_eq := h'.algorithm_eq.trans h.algorithm_eq
  challenge_eq := h'.challenge_eq.trans h.challenge_eq
  authLevel_eq := h.authLevel_eq ∘ h'.authLevel_eq
  linked := by
    intro hlink
    obtain ⟨hlink₂, htarget', hstep'⟩ := h'.linked hlink
    obtain ⟨hlink₁, htarget, hstep⟩ := h.linked hlink₂
    exact ⟨hlink₁, htarget'.trans htarget, hstep ∘ hstep'⟩

end Footing.Falls

/-- From one link to the other nothing was said to an access point, and no handshake got further. -/
structure Mute (l l' : Link σ) : Prop where
  falls : l.footing.Falls l'.footing
  log_eq : ∃ events, l'.log = events ++ l.log ∧ ∀ e ∈ events, e.IsMute

namespace Mute

theorem refl (l : Link σ) : Mute l l := ⟨.refl _, [], rfl, by simp⟩

theorem trans (h : Mute l₁ l₂) (h' : Mute l₂ l₃) : Mute l₁ l₃ where
  falls := h.falls.trans h'.falls
  log_eq := by
    obtain ⟨events, hlog, hevents⟩ := h.log_eq
    obtain ⟨events', hlog', hevents'⟩ := h'.log_eq
    refine ⟨events' ++ events, by rw [hlog', hlog, List.append_assoc], ?_⟩
    intro e he
    rcases List.mem_append.mp he with he | he
    · exact hevents' e he
    · exact hevents e he

/-- Nothing happened that matters. -/
theorem of_eq (hfooting : l'.footing = l.footing) (hlog : l'.log = l.log) : Mute l l' where
  falls := by
    rw [hfooting]
    exact .refl _
  log_eq := ⟨[], hlog, by simp⟩

/-- One event is logged that says nothing. -/
theorem of_cons {e : Event} (h : e.IsMute) (hfooting : l'.footing = l.footing)
    (hlog : l'.log = e :: l.log) : Mute l l' where
  falls := by
    rw [hfooting]
    exact .refl _
  log_eq := ⟨[e], hlog, by simpa using h⟩

end Mute

theorem Transmits.footing_eq (h : Transmits l l') : l'.footing = l.footing := by
  unfold footing
  rw [h.machine_eq]

theorem mute_send {build : UInt16 → List Field} (h : Wordless build) (l : Link σ) :
    Mute l (l.send env build) := by
  have hfooting := (transmits_send env build l).footing_eq
  rcases log_send env build l with hlog | ⟨frame, accepted, hframe, hlog⟩
  · exact .of_cons ⟨rfl, rfl⟩ hfooting hlog
  · have hsaying : (Event.sent frame accepted).saying? = none := h _ _ hframe
    exact .of_cons ⟨hsaying, rfl⟩ hfooting hlog

/-! ### Stores -/

/-- The handshake goes on without a challenge, or starts over. -/
theorem mute_withStep {step : HandshakeStep} (h : step ≠ .challenge) (l : Link σ) :
    Mute l { l with machine.handshake.step := step } :=
  ⟨⟨rfl, rfl, id, fun hlink => ⟨hlink, rfl, fun hchallenge => absurd hchallenge h⟩⟩, [], rfl,
    by simp⟩

theorem mute_setAuthLevel {authLevel : AuthLevel} (h : authLevel ≠ .authenticated) (l : Link σ) :
    Mute l (l.setAuthLevel authLevel) where
  falls := ⟨rfl, rfl, fun hlevel => absurd hlevel h, fun hlink => ⟨hlink, rfl, id⟩⟩
  log_eq := ⟨[_], rfl, by simp [Event.IsMute, Event.saying?, Event.target?]⟩

/-- A mode without a link is stored, or one with a link in place of another. -/
theorem mute_setMode {mode : Mode} (h : mode.hasLink = true → l.machine.mode.hasLink = true) :
    Mute l (l.setMode mode) := by
  unfold setMode
  simp only
  -- An association may be given up before.
  generalize hdropped : (if !mode.hasLink && l.machine.authLevel = .associated then
    l.setAuthLevel .disconnected else l) = dropped
  have hmute : Mute l dropped := by
    rw [← hdropped]
    split
    · exact mute_setAuthLevel (by simp) l
    · exact .refl l
  have hmode : dropped.machine.mode = l.machine.mode := by
    rw [← hdropped]
    split <;> rfl
  rw [← hmode] at h
  refine hmute.trans ⟨⟨rfl, rfl, id, fun hlink => ⟨h hlink, rfl, id⟩⟩, [_], rfl, ?_⟩
  simp [Event.IsMute, Event.saying?, Event.target?]

/-! ### Giving up and leaving -/

theorem mute_sendDeauthentication (receiver bssid : MacAddress) (reason : ReasonCode)
    (l : Link σ) : Mute l (l.sendDeauthentication env receiver bssid reason) :=
  mute_send env (wordless_deauthentication _ _ _ _) l

theorem mute_leaveAp (l : Link σ) : Mute l (l.leaveAp env) := by
  unfold leaveAp
  split
  · exact .refl l
  · split
    · exact mute_sendDeauthentication env _ _ _ l
    · exact .refl l

theorem mute_sendAway (peers : List MacAddress) (reason : ReasonCode) (l : Link σ) :
    Mute l (l.sendAway env peers reason) := by
  induction peers generalizing l with
  | nil => exact .refl l
  | cons peer rest ih => exact (mute_sendDeauthentication env _ _ _ l).trans (ih _)

theorem mute_resetExchange (l : Link σ) : Mute l (l.resetExchange env) :=
  .of_cons ⟨rfl, rfl⟩ rfl rfl

theorem mute_fail (failure : LinkError) (l : Link σ) : Mute l (l.fail env failure) := by
  have hreset := (mute_leaveAp env l).trans (mute_resetExchange env _)
  have hplain : Mute l { (l.leaveAp env).resetExchange env with machine.encrypting := false } :=
    hreset.trans (.of_eq rfl rfl)
  have hgivenUp := (hplain.trans (mute_setAuthLevel (by simp : AuthLevel.error ≠ .authenticated)
    _)).trans (mute_setMode (by simp [Mode.hasLink] : Mode.cannotConnect.hasLink = true → _))
  exact hgivenUp.trans (.of_eq rfl rfl)

/-- Whether there was a retry left or not. -/
theorem mute_of_spendRetry {failure : LinkError} {left : Bool}
    (hspent : l.spendRetry env failure = (l', left)) : Mute l l' := by
  have hcounted : Mute l (l.setRetries (spent l.machine.retries)) := .of_eq rfl rfl
  unfold spendRetry at hspent
  simp only at hspent
  split at hspent
  · cases hspent
    exact hcounted.trans (mute_fail env failure _)
  · cases hspent
    exact hcounted

theorem mute_endSession (l : Link σ) : Mute l (l.endSession env) := by
  have hforgotten (m : Link σ) :
      Mute m { m with machine.host := none, machine.currentPeers := 0 } := .of_eq rfl rfl
  have hbusy : Mute l (l.count Statistics.countLockBusy) := .of_eq rfl rfl
  unfold endSession
  refine Mute.trans ?_ (hforgotten _)
  split
  · exact (mute_sendAway env _ _ l).trans (.of_eq rfl rfl)
  · exact hbusy.trans (mute_sendAway env _ _ _)

/-- Once a mode is left there is no link, whatever became of the target. -/
theorem mute_leaveMode (l : Link σ) : Mute l (l.leaveMode env) := by
  have hidle {m : Link σ} (halgorithm : m.footing.algorithm = l.footing.algorithm)
      (hchallenge : m.footing.challenge = l.footing.challenge)
      (hlog : ∃ events, m.log = events ++ l.log ∧ ∀ e ∈ events, e.IsMute) :
      Mute l ((m.setAuthLevel .disconnected).setMode .normal) := by
    have hlowered := mute_setAuthLevel (by simp : AuthLevel.disconnected ≠ .authenticated) m
    have hstored : Mute (m.setAuthLevel .disconnected) ((m.setAuthLevel .disconnected).setMode
      .normal) := mute_setMode (by simp [Mode.hasLink])
    obtain ⟨events, hlog, hevents⟩ := hlog
    obtain ⟨stores, hstores, hmute⟩ := (hlowered.trans hstored).log_eq
    refine ⟨⟨?_, ?_, ?_, ?_⟩, stores ++ events, by rw [hstores, hlog, List.append_assoc], ?_⟩
    · exact (hlowered.trans hstored).falls.algorithm_eq.trans halgorithm
    · exact (hlowered.trans hstored).falls.challenge_eq.trans hchallenge
    · intro hlevel
      cases hstored.falls.authLevel_eq hlevel
    · intro hlink
      cases hlink
    · intro e he
      rcases List.mem_append.mp he with he | he
      · exact hmute e he
      · exact hevents e he
  have hended {m : Link σ} (h : Mute l m) :
      Mute l (((m.endLink env).setAuthLevel .disconnected).setMode .normal) := by
    obtain ⟨events, hlog, hevents⟩ := h.log_eq
    refine hidle h.falls.algorithm_eq h.falls.challenge_eq
      ⟨.keyInstalled none :: .exchangeReset :: events, ?_, ?_⟩
    · exact congrArg (.keyInstalled none :: .exchangeReset :: ·) hlog
    · simpa [Event.IsMute, Event.saying?, Event.target?] using hevents
  have hleft {m : Link σ} (h : Mute l m) :
      Mute l ((m.setAuthLevel .disconnected).setMode .normal) :=
    hidle h.falls.algorithm_eq h.falls.challenge_eq h.log_eq
  unfold leaveMode
  split
  · exact hended (mute_leaveAp env l)
  · exact hended (mute_leaveAp env l)
  · exact hended (.refl l)
  · exact hleft (mute_endSession env l)
  · exact hleft (.refl l)
  · exact hleft (.refl l)
  · exact hleft (.refl l)

/-! ### Other tasks -/

theorem mute_sendProbeRequest (l : Link σ) : Mute l (l.sendProbeRequest env) :=
  mute_send env (wordless_probeRequest _ _) l

theorem mute_startScan (l : Link σ) : Mute l (l.startScan env) := by
  unfold startScan
  simp only
  refine .trans ?_ (mute_sendProbeRequest env _)
  refine .trans ?_ (mute_setMode (by simp [Mode.hasLink]))
  exact .of_cons (e := .tuned (scanChannel 0)) ⟨rfl, rfl⟩ rfl rfl

theorem mute_startHosting (parameters : HostParameters) (l : Link σ) :
    Mute l (l.startHosting env parameters) := by
  unfold startHosting
  simp only
  refine .trans ?_ (mute_setMode (by simp [Mode.hasLink]))
  refine .trans ?_ (mute_setAuthLevel (by simp) _)
  split <;> exact .of_cons (e := .tuned _) ⟨rfl, rfl⟩ rfl rfl

theorem mute_scanTick (l : Link σ) : Mute l (l.scanTick env) := by
  unfold scanTick
  simp only
  split
  · refine .trans ?_ (mute_sendProbeRequest env _)
    exact .of_cons (e := .tuned _) ⟨rfl, rfl⟩ rfl rfl
  · exact .refl l

theorem mute_receiveBeacon (seized : Nat → Bool) (info : BeaconInfo) (rssi : UInt8)
    (l : Link σ) : Mute l (l.receiveBeacon seized info rssi) := by
  have hobserved (o : Discovery.Observation) (slot : Option Nat) (l : Link σ) :
      Mute l (l.noteTargetObserved o slot) := by
    unfold noteTargetObserved
    split <;> split <;> exact .of_eq rfl rfl
  unfold receiveBeacon
  split
  · exact .refl l
  · simp only
    split
    · split
      · refine .trans ?_ (hobserved _ _ _)
        exact .of_eq rfl rfl
      · exact .of_eq rfl rfl
    · split
      · refine .trans ?_ (hobserved _ _ _)
        exact .of_eq rfl rfl
      · exact .of_eq rfl rfl

/-! ### Packets -/

theorem mute_deliver (packet : Packet) (l : Link σ) : Mute l (l.deliver packet) := by
  unfold deliver
  split <;> exact .of_eq rfl rfl

theorem mute_sendDataToAp (destination : MacAddress) (type : UInt16) (payload : List UInt8)
    (l : Link σ) : Mute l (l.sendDataToAp env destination type payload) := by
  unfold sendDataToAp
  split
  · exact .refl l
  · exact mute_send env (wordless_data _ _ _ _ _ _ _) l

theorem mute_sendNullData (l : Link σ) : Mute l (l.sendNullData env) := by
  unfold sendNullData
  split
  · exact .refl l
  · exact mute_send env (wordless_nullData _ _) l

theorem mute_drainBurst (l : Link σ) : Mute l (l.drainBurst env) := by
  refine drainBurst_keeps env (P := Mute l) (fun _ h => h.trans (.of_eq rfl rfl)) ?_ (.refl l)
  intro m bssid direction record h
  have htaken : Mute l { m with log := .taken record :: m.log } :=
    h.trans (.of_cons ⟨rfl, rfl⟩ rfl rfl)
  unfold forward
  split
  · exact htaken
  · exact htaken.trans (mute_send env (wordless_data _ _ _ _ _ _ _) _)

/-! ### Peers -/

theorem mute_answerAuthentication (peer : MacAddress) (algorithm : AuthAlgorithm)
    (status : StatusCode) (l : Link σ) :
    Mute l (l.answerAuthentication env peer algorithm status) :=
  mute_send env (wordless_reply _ _ _ _ _) l

theorem mute_answerAssociation (peer : MacAddress) (status : StatusCode) (aid : UInt16)
    (l : Link σ) : Mute l (l.answerAssociation env peer status aid) :=
  mute_send env (wordless_associationResponse _ _ _ _) l

theorem mute_receivePeerAuthentication (header : Header) (body : Authentication) (l : Link σ) :
    Mute l (l.receivePeerAuthentication env header body) := by
  have hanswered (sessions : Session.Table) (status : StatusCode) : Mute l
      (answerAuthentication env header.address₂ body.algorithm status
        { l with shared.sessions := sessions }) := by
    refine .trans ?_ (mute_answerAuthentication env _ _ _ _)
    exact .of_eq rfl rfl
  unfold receivePeerAuthentication
  split
  · exact .refl l
  · simp only
    split
    · exact mute_answerAuthentication env _ _ _ l
    · split
      · exact hanswered _ _
      · exact .of_eq rfl rfl
      · exact hanswered _ _
      · exact hanswered _ _

theorem mute_receivePeerAssociation (header : Header) (l : Link σ) :
    Mute l (l.receivePeerAssociation env header) := by
  unfold receivePeerAssociation
  split
  · exact .refl l
  · simp only
    split
    · refine .trans ?_ (mute_answerAssociation env _ _ _ _)
      exact .of_eq rfl rfl
    · exact .of_eq rfl rfl
    · refine .trans ?_ (mute_answerAssociation env _ _ _ _)
      exact .of_eq rfl rfl

theorem mute_dismiss (peer : MacAddress) (l : Link σ) : Mute l (l.dismiss peer) := by
  unfold dismiss
  split <;> exact .of_eq rfl rfl

theorem mute_receiveFromPeer (header : Header) (body : List UInt8) (l : Link σ) :
    Mute l (l.receiveFromPeer env header body) := by
  unfold receiveFromPeer
  split
  · exact .refl l
  · split
    · split
      · exact .refl l
      · exact mute_deliver _ l
    · exact .of_eq rfl rfl
    · exact mute_sendAway env _ _ l

theorem mute_kick (aid : Nat) (l : Link σ) : Mute l (l.kick env aid).1 := by
  unfold kick
  split
  · exact .refl l
  · exact (mute_sendAway env _ _ l).trans (.of_eq rfl rfl)

theorem mute_showSession (l : Link σ) : Mute l ((l.countPeers).beaconTick env) := by
  have hcounted : Mute l l.countPeers := by
    unfold countPeers
    split
    · exact .of_eq rfl rfl
    · exact .refl l
  have hsent (l : Link σ) : Mute l (l.sendBeacon env) := by
    unfold sendBeacon
    split
    · exact .refl l
    · exact mute_send env (wordless_beacon _) l
  unfold beaconTick
  split
  · exact (hcounted.trans (hsent _)).trans (.of_eq rfl rfl)
  · exact hcounted

/-- An access point asks nobody to authenticate it, whatever its host does in the meantime. -/
theorem mute_accessPointTick (meanwhile : Meanwhile) (l : Link σ) :
    Mute l (l.accessPointTick env meanwhile) := by
  have hkicks : KeptByKicks env meanwhile (Mute l) := {
    pause := fun _ h => h.trans (.of_eq rfl rfl)
    kick := fun aid h => h.trans (mute_kick env aid _)
    kickUnassociated := fun _ h => h.trans ((mute_sendAway env _ _ _).trans (.of_eq rfl rfl))
    requests := fun _ _ _ h => h.trans (.of_eq rfl rfl) }
  -- What the host does meanwhile is logged nowhere.
  have hserved := hkicks.pause (maxPeers + 4) (hkicks.serveKicks (.refl l))
  unfold accessPointTick
  exact (hserved.trans (mute_showSession env _)).trans (mute_drainBurst env _)

end Link

end WlanControl
