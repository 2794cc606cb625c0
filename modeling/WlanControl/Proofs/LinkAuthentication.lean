import WlanControl.Proofs.LinkCredentials
import WlanControl.Proofs.LinkSecrecy

namespace WlanControl

open WlanControl.Frame (AuthAlgorithm Authentication Draft Header Received StatusCode)

/-!
# The link layer — authentication

The algorithm of an attempt is chosen by the security of its network, and given up once for the open
system.  What the access point answers names an algorithm as well, and the station goes by that one
alone: it answers every challenge, and takes every other answer that says so for a success.

* `RightlyAnswered` — what a challenge is answered with, and after what;
* `Fair` — what holds between two calls: the station stands by what it said, with `Poised` for the
  moment before the next frame of a handshake;
* `Poised.sendHandshakeFrame` — that frame is a right one;
* `Steady` — the operations by which a station that is fair stays so, and is not taken for
  authenticated;
* `accepted?`, `allAsAsked` — the answers by which an attempt gets further, and the runs in which
  all of them name the algorithm that was asked for.

Main statements: `vouched_run`, how a station becomes authenticated and to whom it proves a key, and
`answers_in_open_network`, a challenge is answered where there is no key to prove.
-/

namespace Link

variable {σ : Type} {l l' l₁ l₂ l₃ : Link σ} (env : Surroundings σ) {asAsked : Prop}

/-! ### Answers of the station -/

/-- What a challenge is answered with after the given log, and whom.  With access points that accept
a station `asAsked`, only shared keys are proved. -/
structure RightlyAnswered (asAsked : Prop) (log : List Event) (header : Header)
    (body : Authentication) : Prop where
  sequence_eq : body.sequence = 3
  encrypted : header.control.has .encrypted = true
  asked_eq : asked? log = some body.algorithm
  sharedKey : asAsked → body.algorithm = .sharedKey
  wanted : ∃ target, wanted? log = some target ∧ header.address₁ = target.bssid ∧
    (body.algorithm = .sharedKey → target.record.security.security = .wep)

/-- Every answer to a challenge is right, by the log up to it. -/
def AllRightlyAnswered (asAsked : Prop) (log : List Event) : Prop :=
  ∀ after e before header body, log = after ++ e :: before →
    e.saying? = some (.answers header body) → RightlyAnswered asAsked before header body

namespace AllRightlyAnswered

variable {events log : List Event}

theorem cons (h : AllRightlyAnswered asAsked log) {e : Event}
    (hlast : ∀ header body, e.saying? = some (.answers header body) →
      RightlyAnswered asAsked log header body) : AllRightlyAnswered asAsked (e :: log) := by
  intro after e' before header body hlog hsaying
  cases after with
  | nil =>
    obtain ⟨rfl, rfl⟩ := List.cons.inj hlog
    exact hlast header body hsaying
  | cons latest after => exact h after e' before header body (List.cons.inj hlog).2 hsaying

theorem append (h : AllRightlyAnswered asAsked log) (hmute : ∀ e ∈ events, e.IsMute) :
    AllRightlyAnswered asAsked (events ++ log) := by
  induction events with
  | nil => exact h
  | cons e rest ih =>
    refine (ih fun e' he => hmute e' (List.mem_cons_of_mem e he)).cons ?_
    intro header body hsaying
    rw [(hmute e List.mem_cons_self).1] at hsaying
    cases hsaying

end AllRightlyAnswered

/-! ### Handshakes that were not led astray -/

/-- All that was answered was right, and the next challenge can be answered. -/
structure Upright (asAsked : Prop) (l : Link σ) : Prop where
  answered : AllRightlyAnswered asAsked l.log
  algorithm_eq : l.footing.algorithm = .openSystem ∨ l.footing.algorithm = .sharedKey
  fits : l.footing.challenge.length ≤ challengeCapacity

/-- The frame that the handshake asks for next is a right one. -/
structure Poised (asAsked : Prop) (l : Link σ) : Prop extends Upright asAsked l where
  wanted : ∃ target, l.footing.target = some target ∧ wanted? l.log = some target ∧
    (l.footing.algorithm = .sharedKey → target.record.security.security = .wep)
  asked : l.footing.step ≠ .authenticate → asked? l.log = some l.footing.algorithm
  sharedKey : asAsked → l.footing.step = .challenge → l.footing.algorithm = .sharedKey

/-- The station stands by what it said to its access point. -/
structure Fair (asAsked : Prop) (l : Link σ) : Prop extends Upright asAsked l where
  poised : l.footing.mode.hasLink = true → Poised asAsked l
  asked : l.footing.mode.hasLink = true → asked? l.log = some l.footing.algorithm
  responded : l.footing.mode.hasLink = true → l.footing.step = .challenge → Responded l.log

theorem Upright.fair (h : Upright asAsked l) (hidle : l.footing.mode.hasLink = false) :
    Fair asAsked l where
  toUpright := h
  poised hlink := absurd hlink (by simp [hidle])
  asked hlink := absurd hlink (by simp [hidle])
  responded hlink := absurd hlink (by simp [hidle])

theorem Mute.upright (h : Mute l l') (hl : Upright asAsked l) : Upright asAsked l' where
  answered := by
    obtain ⟨events, hlog, hevents⟩ := h.log_eq
    rw [hlog]
    exact hl.answered.append hevents
  algorithm_eq := by
    rw [h.falls.algorithm_eq]
    exact hl.algorithm_eq
  fits := by
    rw [h.falls.challenge_eq]
    exact hl.fits

theorem Mute.fair (h : Mute l l') (hl : Fair asAsked l) : Fair asAsked l' := by
  obtain ⟨events, hlog, hevents⟩ := h.log_eq
  -- A link that is there now was there before, and nothing that was said since concerns it.
  have hasked (hlink : l'.footing.mode.hasLink = true) :
      asked? l'.log = some l'.footing.algorithm := by
    rw [hlog, asked?_of_mute hevents, h.falls.algorithm_eq]
    exact hl.asked (h.falls.linked hlink).1
  refine ⟨h.upright hl.toUpright, fun hlink => ?_, hasked, fun hlink hstep => ?_⟩
  · obtain ⟨hlink', htarget, hstep⟩ := h.falls.linked hlink
    have hpoised := hl.poised hlink'
    exact {
      toUpright := h.upright hl.toUpright
      wanted := by
        rw [hlog, wanted?_of_mute hevents, htarget, h.falls.algorithm_eq]
        exact hpoised.wanted
      asked := fun _ => hasked hlink
      sharedKey := by
        intro has hchallenge
        rw [h.falls.algorithm_eq]
        exact hpoised.sharedKey has (hstep hchallenge) }
  · obtain ⟨hlink', -, hstep'⟩ := h.falls.linked hlink
    rw [hlog]
    exact responded_of_mute hevents (hl.responded hlink' (hstep' hstep))

/-! ### The frames of a handshake -/

theorem saying?_of_reads {receiver transmitter bssid : MacAddress} {body : Authentication}
    {encrypted : Bool} {frame : List UInt8}
    (h : (Draft.authentication receiver transmitter bssid body encrypted).Reads frame) :
    ∃ header : Header, header.address₁ = receiver ∧
      header.control.has .encrypted = encrypted ∧ saying? frame =
        if body.sequence = 3 ∨ encrypted = true then some (.answers header body)
        else if body.sequence = 1 then some (.asks body.algorithm)
        else none := by
  obtain ⟨number, hread⟩ := h
  refine ⟨{ Header.management .authentication receiver transmitter bssid number with
    control := (Frame.FrameControl.management .authentication).set .encrypted encrypted }, rfl,
    by simp, ?_⟩
  unfold saying?
  rw [hread]
  simp [Draft.received, Header.management]

/-- What the handshake asks for is handed to the radio. -/
theorem log_sendHandshakeFrame {target : ConnectTarget} (htarget : l.machine.target = some target)
    {draft : Draft} (hdraft : l.machine.handshake.draft? l.machine.address target = some draft)
    (hsendable : draft.IsSendable) : ∃ frame accepted, draft.Reads frame ∧
      (l.sendHandshakeFrame env).log = .sent frame accepted :: l.log := by
  unfold sendHandshakeFrame
  rw [htarget]
  simp only
  rw [Handshake.frame?_eq, hdraft]
  exact log_send_of_isSendable env hsendable l

/-- Once the station is authenticated the handshake has nothing more to say of it. -/
theorem mute_sendHandshakeFrame (hasked : l.machine.handshake.step ≠ .authenticate)
    (hanswered : l.machine.handshake.step ≠ .challenge) : Mute l (l.sendHandshakeFrame env) := by
  unfold sendHandshakeFrame
  split
  · exact .refl l
  · rename_i target _
    cases hframe : l.machine.handshake.frame? l.machine.address target with
    | none => exact .of_eq rfl rfl
    | some build =>
      have hwordless : Wordless build := by
        unfold Handshake.frame? at hframe
        cases hstep : l.machine.handshake.step with
        | authenticate => exact absurd hstep hasked
        | challenge => exact absurd hstep hanswered
        | associate =>
          rw [hstep] at hframe
          cases hframe
          exact wordless_associationRequest _ _ _ _ _
        | keyExchange | done =>
          rw [hstep] at hframe
          cases hframe
      exact (mute_send env hwordless l).trans (.of_eq rfl rfl)

namespace Poised

theorem fair (h : Poised asAsked l) (hasked : asked? l.log = some l.footing.algorithm)
    (hresponded : l.footing.step = .challenge → Responded l.log) : Fair asAsked l :=
  ⟨h.toUpright, fun _ => h, fun _ => hasked, fun _ => hresponded⟩

/-- An authentication frame was sent. -/
theorem cons (h : Poised asAsked l) {e : Event} (hfooting : l'.footing = l.footing)
    (hlog : l'.log = e :: l.log) (htarget : e.target? = none)
    (hanswer : ∀ header body, e.saying? = some (.answers header body) →
      RightlyAnswered asAsked l.log header body)
    (hasked : asked? (e :: l.log) = some l.footing.algorithm) : Poised asAsked l' where
  answered := by
    rw [hlog]
    exact h.answered.cons hanswer
  algorithm_eq := by
    rw [hfooting]
    exact h.algorithm_eq
  fits := by
    rw [hfooting]
    exact h.fits
  wanted := by
    have hwanted : wanted? l'.log = wanted? l.log := by
      rw [hlog, wanted?, List.findSome?_cons, htarget]
      rfl
    rw [hfooting, hwanted]
    exact h.wanted
  asked := by
    rw [hfooting, hlog]
    exact fun _ => hasked
  sharedKey := by
    rw [hfooting]
    exact h.sharedKey

theorem isKnown (h : Poised asAsked l) :
    AuthAlgorithm.ofNumber l.machine.handshake.algorithm.number =
      l.machine.handshake.algorithm := by
  rcases h.algorithm_eq with hopen | hshared
  · rw [show l.machine.handshake.algorithm = .openSystem from hopen]
    rfl
  · rw [show l.machine.handshake.algorithm = .sharedKey from hshared]
    rfl

/-- The station asks its access point to authenticate it. -/
theorem request (h : Poised asAsked l) (hstep : l.machine.handshake.step = .authenticate) :
    Fair asAsked (l.sendHandshakeFrame env) := by
  obtain ⟨target, htarget, -⟩ := h.wanted
  have hdraft : l.machine.handshake.draft? l.machine.address target =
      some (.authentication target.bssid l.machine.address target.bssid
        { algorithm := l.machine.handshake.algorithm
          sequence := 1
          status := .success
          challenge := none } false) := by
    unfold Handshake.draft?
    rw [hstep]
  obtain ⟨frame, accepted, hreads, hlog⟩ := log_sendHandshakeFrame env htarget hdraft
    (Draft.isSendable_authentication _ _ _ h.isKnown rfl (by simp) false)
  obtain ⟨header, -, -, hsaying⟩ := saying?_of_reads hreads
  have hasks : (Event.sent frame accepted).saying? = some (.asks l.footing.algorithm) := by
    show saying? frame = some (.asks l.machine.handshake.algorithm)
    simpa using hsaying
  have hfooting := (transmits_sendHandshakeFrame env l).footing_eq
  have hasked : asked? (.sent frame accepted :: l.log) = some l.footing.algorithm := by
    simp [asked?, hasks, Saying.asked?]
  refine (h.cons hfooting hlog rfl ?_ hasked).fair ?_ ?_
  · intro header body hanswers
    rw [hasks] at hanswers
    cases hanswers
  · rw [hlog, hfooting]
    exact hasked
  · rw [hfooting]
    intro hchallenge
    cases hstep.symm.trans hchallenge

/-- The station answers the challenge of its access point. -/
theorem response (h : Poised asAsked l) (hstep : l.machine.handshake.step = .challenge) :
    Fair asAsked (l.sendHandshakeFrame env) := by
  obtain ⟨target, htarget, hwanted, hwep⟩ := h.wanted
  have hdraft : l.machine.handshake.draft? l.machine.address target =
      some (.authentication target.bssid l.machine.address target.bssid
        { algorithm := l.machine.handshake.algorithm
          sequence := 3
          status := .success
          challenge := some l.machine.handshake.challenge } true) := by
    unfold Handshake.draft?
    rw [hstep]
  have hfits (challenge : List UInt8) (h' : some l.machine.handshake.challenge = some challenge) :
      challenge.length ≤ challengeCapacity := by
    cases h'
    exact h.fits
  obtain ⟨frame, accepted, hreads, hlog⟩ := log_sendHandshakeFrame env htarget hdraft
    (Draft.isSendable_authentication _ _ _ h.isKnown rfl hfits true)
  obtain ⟨header, haddress, hmarked, hsaying⟩ := saying?_of_reads hreads
  have hanswers : (Event.sent frame accepted).saying? = some (.answers header
      { algorithm := l.machine.handshake.algorithm
        sequence := 3
        status := .success
        challenge := some l.machine.handshake.challenge }) := by
    show saying? frame = _
    simpa using hsaying
  have hfooting := (transmits_sendHandshakeFrame env l).footing_eq
  -- A challenge only comes after a request, and the answer to it is no new one.
  have hbefore : asked? l.log = some l.footing.algorithm :=
    h.asked (by rw [footing, hstep]; simp)
  have hasked : asked? (.sent frame accepted :: l.log) = some l.footing.algorithm := by
    rw [← hbefore]
    simp [asked?, hanswers, Saying.asked?]
  refine (h.cons hfooting hlog rfl ?_ hasked).fair ?_ ?_
  · intro header' body hsaid
    cases hanswers.symm.trans hsaid
    exact ⟨rfl, hmarked, hbefore, fun has => h.sharedKey has hstep,
      target, hwanted, haddress, hwep⟩
  · rw [hlog, hfooting]
    exact hasked
  · rw [hlog]
    intro _
    exact ⟨header, _, by rw [List.findSome?_cons, hanswers]⟩

/-- With the frame that the handshake asks for, the station stands by what it said. -/
theorem sendHandshakeFrame (h : Poised asAsked l) : Fair asAsked (l.sendHandshakeFrame env) := by
  by_cases hauthenticate : l.machine.handshake.step = .authenticate
  · exact h.request env hauthenticate
  · by_cases hchallenge : l.machine.handshake.step = .challenge
    · exact h.response env hchallenge
    · have hfair := h.fair (h.asked hauthenticate) (fun hstep => absurd hstep hchallenge)
      exact (mute_sendHandshakeFrame env hauthenticate hchallenge).fair hfair

end Poised

/-! ### Operations by which the station stands by what it said -/

/-- From one link to the other the station stood by what it said, and nobody believed it. -/
structure Steady (l l' : Link σ) : Prop where
  fair : ∀ {asAsked : Prop}, Fair asAsked l → Fair asAsked l'
  authLevel_eq : l'.machine.authLevel = .authenticated → l.machine.authLevel = .authenticated

theorem Steady.trans (h : Steady l₁ l₂) (h' : Steady l₂ l₃) : Steady l₁ l₃ :=
  ⟨h'.fair ∘ h.fair, h.authLevel_eq ∘ h'.authLevel_eq⟩

theorem Mute.authLevel_eq (h : Mute l l') (hlevel : l'.machine.authLevel = .authenticated) :
    l.machine.authLevel = .authenticated := h.falls.authLevel_eq hlevel

theorem Mute.steady (h : Mute l l') : Steady l l' := ⟨h.fair, h.authLevel_eq⟩

theorem steady_sendHandshakeFrame (hlink : l.machine.mode.hasLink = true) :
    Steady l (l.sendHandshakeFrame env) where
  fair h := (h.poised hlink).sendHandshakeFrame env
  authLevel_eq hlevel := by
    rw [(transmits_sendHandshakeFrame env l).machine_eq] at hlevel
    exact hlevel

/-- A retry that is left is counted, and nothing else happens. -/
theorem eq_of_spendRetry {failure : LinkError} (hspent : l.spendRetry env failure = (l', true)) :
    l' = l.setRetries (spent l.machine.retries) := by
  unfold spendRetry at hspent
  simp only at hspent
  split at hspent
  · cases hspent
  · cases hspent
    rfl

theorem steady_restart (hlink : l.machine.mode.hasLink = true) : Steady l (l.restart env) := by
  unfold restart
  split
  · rename_i failed hspent
    exact (mute_of_spendRetry env hspent).steady
  · rename_i left hspent
    have hreset := (mute_of_spendRetry env hspent).trans (mute_resetExchange env left)
    have hback := hreset.trans (mute_withStep (by simp : HandshakeStep.authenticate ≠ _) _)
    cases eq_of_spendRetry env hspent
    simp only
    -- Up to the new request nothing is said, and the challenge of the old one is forgotten.
    generalize hlowered : setAuthLevel .disconnected _ = lowered
    have hfalls : Mute l lowered := by
      rw [← hlowered]
      refine .trans ?_ (mute_setAuthLevel (by simp) _)
      exact hback.trans (.of_eq rfl rfl)
    have hlink' : lowered.machine.mode.hasLink = true := by
      rw [← hlowered]
      exact hlink
    exact (hfalls.trans (mute_setMode fun _ => hlink')).steady.trans
      (steady_sendHandshakeFrame env rfl)

theorem steady_retryRejected (hlink : l.machine.mode.hasLink = true) (failure : LinkError) :
    Steady l (l.retryRejected env failure) := by
  unfold retryRejected
  split
  · rename_i failed hspent
    exact (mute_of_spendRetry env hspent).steady
  · rename_i left hspent
    have hcounted := (mute_of_spendRetry env hspent).steady
    cases eq_of_spendRetry env hspent
    exact hcounted.trans (steady_sendHandshakeFrame env hlink)

theorem steady_connectingTick (hlink : l.machine.mode.hasLink = true) :
    Steady l (l.connectingTick env) := by
  unfold connectingTick
  -- The handshake starts over, or its last frame is sent once more.
  split
  · exact steady_restart env hlink
  · split
    · split
      · split
        · rename_i failed hspent
          exact (mute_of_spendRetry env hspent).steady
        · rename_i left hspent
          refine ((mute_of_spendRetry env hspent).trans ?_).steady
          exact .of_eq rfl rfl
      · split
        · rename_i failed hspent
          exact (mute_of_spendRetry env hspent).steady
        · rename_i left hspent
          have hcounted : Mute l (left.count Statistics.countRetransmission) :=
            (mute_of_spendRetry env hspent).trans (.of_eq rfl rfl)
          cases eq_of_spendRetry env hspent
          exact hcounted.steady.trans (steady_sendHandshakeFrame env hlink)
    · exact (Mute.refl l).steady

theorem steady_connectedTick (hlink : l.machine.mode.hasLink = true) :
    Steady l (l.connectedTick env) := by
  unfold connectedTick
  split
  · exact steady_restart env hlink
  · simp only
    split
    · exact ((mute_drainBurst env l).trans (mute_sendNullData env _)).steady
    · exact (mute_drainBurst env l).steady

theorem steady_work (meanwhile : Meanwhile) (l : Link σ) : Steady l (l.work env meanwhile) := by
  have hdiscarded : Mute l l.discard := .of_eq rfl rfl
  unfold work
  split
  · exact (mute_scanTick env l).steady
  · rename_i hmode
    exact steady_connectingTick env (by rw [hmode]; rfl)
  · rename_i hmode
    exact steady_connectedTick env (by rw [hmode]; rfl)
  · exact (mute_accessPointTick env meanwhile l).steady
  · exact hdiscarded.steady
  · exact hdiscarded.steady
  · exact hdiscarded.steady

/-! ### Frames that leave the station where it is or take it back -/

theorem mute_establish (hlink : l.machine.mode.hasLink = true) : Mute l l.establish := by
  have hdone : Mute l { l with
      machine.handshake.step := .done
      machine.lastSent := l.machine.now
      machine.lastHeard := l.machine.now } :=
    (mute_withStep (by simp : HandshakeStep.done ≠ .challenge) l).trans (.of_eq rfl rfl)
  exact hdone.trans (mute_setMode fun _ => hlink)

theorem mute_acceptAssociation (hlink : l.machine.mode.hasLink = true) (target : ConnectTarget)
    (aid : UInt16) : Mute l (l.acceptAssociation env target aid) := by
  unfold acceptAssociation
  simp only
  generalize hraised : (l.setAid aid).setAuthLevel .associated = raised
  have hmute : Mute l raised := by
    rw [← hraised]
    refine .trans ?_ (mute_setAuthLevel (by simp) _)
    exact .of_eq rfl rfl
  have hlink' : raised.machine.mode.hasLink = true := by
    rw [← hraised]
    exact hlink
  split
  · split
    · exact hmute.trans (mute_fail env _ _)
    · have hexchanging := mute_withStep (by simp : HandshakeStep.keyExchange ≠ .challenge) raised
      exact (hmute.trans hexchanging).trans
        (.of_cons (e := .exchangeBegun _ _ _) ⟨rfl, rfl⟩ rfl rfl)
  · refine hmute.trans (.trans ?_ (mute_establish ?_))
    · exact .of_eq rfl rfl
    · exact hlink'

theorem steady_refuseRates (hlink : l.machine.mode.hasLink = true) :
    Steady l (l.refuseRates env) := by
  unfold refuseRates
  split
  · exact (mute_fail env _ l).steady
  · have hexpanded : Mute l { l with
        machine.handshake.rateSet := .expanded
        machine.handshake.expandedTried := true } := .of_eq rfl rfl
    refine hexpanded.steady.trans (steady_retryRejected env ?_ _)
    exact hlink

theorem steady_receiveAssociationResponse (hlink : l.machine.mode.hasLink = true) (header : Header)
    (status : StatusCode) (aid : UInt16) :
    Steady l (l.receiveAssociationResponse env header status aid) := by
  have hheard : Mute l l.noteHeard := .of_eq rfl rfl
  unfold receiveAssociationResponse
  split
  · exact (Mute.refl l).steady
  · simp only
    split
    · exact hheard.steady
    · split
      · exact (hheard.trans (mute_acceptAssociation env (l := l.noteHeard) hlink _ _)).steady
      · exact hheard.steady.trans (steady_refuseRates env (l := l.noteHeard) hlink)
      · exact hheard.steady.trans (steady_retryRejected env (l := l.noteHeard) hlink _)

theorem mute_deassociate (hlink : l.machine.mode.hasLink = true) : Mute l l.deassociate := by
  have hback : Mute l { l with
      machine.handshake.step := .authenticate
      machine.encrypting := false } :=
    (mute_withStep (by simp : HandshakeStep.authenticate ≠ .challenge) l).trans (.of_eq rfl rfl)
  have hlowered := hback.trans (mute_setAuthLevel (by simp : AuthLevel.deassociated ≠ _) _)
  exact hlowered.trans (mute_setMode fun _ => hlink)

theorem steady_receiveDeauthentication (header : Header) (entirely : Bool) (l : Link σ) :
    Steady l (l.receiveDeauthentication env header entirely) := by
  have hdismissed (hlink : l.machine.mode.hasLink = true) : Steady l
      (if !l.isFromTarget header then l
        else if entirely then l.restart env else l.deassociate) := by
    split
    · exact (Mute.refl l).steady
    · split
      · exact steady_restart env hlink
      · exact (mute_deassociate hlink).steady
  unfold receiveDeauthentication
  split
  · rename_i hmode
    exact hdismissed (by rw [hmode]; rfl)
  · rename_i hmode
    exact hdismissed (by rw [hmode]; rfl)
  · split
    · exact (mute_dismiss _ l).steady
    · exact (Mute.refl l).steady
  · exact (Mute.refl l).steady
  · exact (Mute.refl l).steady
  · exact (Mute.refl l).steady
  · exact (Mute.refl l).steady

theorem mute_receiveEapol (hlink : l.machine.mode.hasLink = true) (payload : List UInt8) :
    Mute l (l.receiveEapol env payload) := by
  unfold receiveEapol
  split
  · exact .refl l
  · simp only
    -- The answer is sent before the outcome matters.
    generalize hreplied : (if (l.exchange env payload).2.reply.isEmpty then
      (l.exchange env payload).1 else _) = replied
    have hexchanged : Mute l (l.exchange env payload).1 := .of_cons ⟨rfl, rfl⟩ rfl rfl
    have hmute : Mute l replied := by
      rw [← hreplied]
      split
      · exact hexchanged
      · exact hexchanged.trans (mute_sendDataToAp env _ _ _ _)
    have hmode : replied.machine.mode = l.machine.mode := by
      rw [← hreplied]
      split
      · rfl
      · exact congrArg Footing.mode (transmits_sendDataToAp env _ _ _ _).footing_eq
    split
    · exact hmute
    · have hmarked : Mute l { replied with machine.encrypting := true } :=
        hmute.trans (.of_eq rfl rfl)
      split
      · refine hmarked.trans (mute_establish ?_)
        show replied.machine.mode.hasLink = true
        rw [hmode]
        exact hlink
      · exact hmarked
    · exact hmute.trans (mute_fail env _ _)

theorem mute_receiveFromNetwork (hlink : l.machine.mode.hasLink = true) (target : ConnectTarget)
    (header : Header) (body : List UInt8) :
    Mute l (l.receiveFromNetwork env target header body) := by
  have hheard : Mute l l.noteHeard := .of_eq rfl rfl
  unfold receiveFromNetwork
  split
  · exact .refl l
  · simp only
    split
    · exact hheard
    · split
      · exact hheard.trans (mute_receiveEapol env (l := l.noteHeard) hlink _)
      · split
        · exact hheard.trans (mute_deliver _ _)
        · exact hheard

theorem mute_receiveData (header : Header) (body : List UInt8) (l : Link σ) :
    Mute l (l.receiveData env header body) := by
  unfold receiveData
  split
  · rename_i hmode
    split
    · exact .refl l
    · exact mute_receiveFromNetwork env (by rw [hmode]; rfl) _ _ _
  · rename_i hmode
    split
    · exact .refl l
    · exact mute_receiveFromNetwork env (by rw [hmode]; rfl) _ _ _
  · exact mute_receiveFromPeer env _ _ l
  · exact .refl l
  · exact .refl l
  · exact .refl l
  · exact .refl l

/-! ### Answers of the access point -/

/-- The answer of its access point by which an attempt gets further. -/
def accepted? (l : Link σ) : Action → Option Authentication
  | .receive octets _ _ _ =>
    match Received.ofOctets octets with
    | .ok (.authentication header body) =>
      if l.machine.mode = .connecting ∧ l.isFromTarget header = true ∧
          l.machine.handshake.step.awaits body.sequence = true ∧ body.status = .success then
        some body
      else none
    | _ => none
  | .post _ | .host _ | .tick _ _ => none

/-- The station is accepted by the algorithm that it asked for, if it is. -/
def Action.isAsAsked (l : Link σ) (action : Action) : Bool :=
  match l.accepted? action with
  | some body => asked? l.log = some body.algorithm
  | none => true

/-- In the whole run access points only accept the algorithm that the station asked for. -/
def allAsAsked (env : Surroundings σ) : List Action → Link σ → Bool
  | [], _ => true
  | action :: rest, l => action.isAsAsked l && allAsAsked env rest (l.step env action)

theorem fair_acceptAuthentication (hmode : l.machine.mode = .connecting) (h : Fair asAsked l)
    {body : Authentication} (has : asAsked → asked? l.log = some body.algorithm) :
    Fair asAsked (l.acceptAuthentication env body) := by
  have hlink : l.machine.mode.hasLink = true := by rw [hmode]; rfl
  have hpoised := h.poised hlink
  unfold acceptAuthentication
  split
  · rename_i challenge _ halgorithm _
    refine Poised.sendHandshakeFrame env ⟨⟨?_, ?_, ?_⟩, ?_, ?_, ?_⟩
    · exact h.answered
    · exact h.algorithm_eq
    · exact List.length_take_le _ _
    · exact hpoised.wanted
    · exact fun _ => h.asked hlink
    · -- The challenge tells the algorithm of the access point, not the one of the attempt.
      intro hasAsked _
      have hasked := (h.asked hlink).symm.trans (has hasAsked)
      rw [halgorithm] at hasked
      exact Option.some.inj hasked
  · exact (steady_retryRejected env hlink _).fair h
  · refine Poised.sendHandshakeFrame env ⟨⟨?_, ?_, ?_⟩, ?_, ?_, ?_⟩
    · exact h.answered.cons (by simp [Event.saying?])
    · exact h.algorithm_eq
    · exact h.fits
    · exact hpoised.wanted
    · exact fun _ => h.asked hlink
    · intro _ hchallenge
      cases hchallenge

/-- The open system is asked for in place of a shared key. -/
theorem steady_fallBack (hlink : l.machine.mode.hasLink = true) {status : StatusCode}
    (hback : l.canFallBack status = true) : Steady l ({ l with
      machine.handshake.algorithm := .openSystem
      machine.handshake.openSystemTried := true }.sendHandshakeFrame env) where
  fair := by
    intro asAsked h
    have hstep : l.machine.handshake.step = .authenticate := by
      simp [canFallBack] at hback
      exact hback.1.1.1
    obtain ⟨target, htarget, hwanted, -⟩ := (h.poised hlink).wanted
    refine Poised.sendHandshakeFrame env ⟨⟨h.answered, .inl rfl, h.fits⟩, ?_, ?_, ?_⟩
    · refine ⟨target, htarget, hwanted, ?_⟩
      intro hshared
      cases hshared
    · intro hasked
      exact absurd hstep hasked
    · intro _ hchallenge
      cases hstep.symm.trans hchallenge
  authLevel_eq hlevel := by
    rw [(transmits_sendHandshakeFrame env _).machine_eq] at hlevel
    exact hlevel

/-- An answer is accepted, or it leaves the station where it is. -/
theorem receiveAuthentication_cases (hmode : l.machine.mode = .connecting) (header : Header)
    (body : Authentication) : Steady l (l.receiveAuthentication env header body) ∨
      l.isFromTarget header = true ∧ l.machine.handshake.step.awaits body.sequence = true ∧
        body.status = .success ∧ l.receiveAuthentication env header body =
          l.noteHeard.acceptAuthentication env body := by
  have hheard : Mute l l.noteHeard := .of_eq rfl rfl
  have hlink : l.noteHeard.machine.mode.hasLink = true := by
    rw [show l.noteHeard.machine.mode = .connecting from hmode]
    rfl
  unfold receiveAuthentication
  split
  · exact .inl (Mute.refl l).steady
  · rename_i hfrom
    simp only
    split
    · exact .inl hheard.steady
    · rename_i hawaited
      split
      · rename_i hsuccess
        exact .inr ⟨by simpa using hfrom, by simpa [noteHeard] using hawaited, hsuccess, rfl⟩
      · split
        · rename_i hback
          exact .inl (hheard.steady.trans (steady_fallBack env hlink hback))
        · have hback := mute_withStep (by simp : HandshakeStep.authenticate ≠ .challenge)
            l.noteHeard
          refine .inl ((hheard.trans hback).steady.trans (steady_retryRejected env ?_ _))
          exact hlink

/-- A station is only believed after a challenge, unless no shared key is named. -/
theorem convinced_acceptAuthentication (hlink : l.machine.mode.hasLink = true)
    (h : Fair asAsked l) {body : Authentication}
    (hawaits : l.machine.handshake.step.awaits body.sequence = true)
    (hafter : (l.acceptAuthentication env body).machine.authLevel = .authenticated)
    (hbefore : l.machine.authLevel ≠ .authenticated) :
    (body.algorithm = .sharedKey → body.sequence = 4) ∧
      (body.sequence = 4 → Responded l.log) := by
  unfold acceptAuthentication at hafter
  split at hafter
  · rw [(transmits_sendHandshakeFrame env _).machine_eq] at hafter
    exact absurd hafter hbefore
  · exact absurd ((steady_retryRejected env hlink _).authLevel_eq hafter) hbefore
  · rename_i hchallenged hunchallenged
    cases hstep : l.machine.handshake.step with
    | authenticate =>
      rw [hstep] at hawaits
      have hsecond : body.sequence = 2 := by simpa [HandshakeStep.awaits] using hawaits
      constructor
      · -- The second frame for a shared key is a challenge, or it is refused.
        intro hshared
        cases hchallenge : body.challenge with
        | none => exact (hunchallenged hstep hshared hchallenge).elim
        | some challenge => exact (hchallenged challenge hstep hshared hchallenge).elim
      · intro hfourth
        cases hsecond.symm.trans hfourth
    | challenge =>
      rw [hstep] at hawaits
      have hfourth : body.sequence = 4 := by simpa [HandshakeStep.awaits] using hawaits
      exact ⟨fun _ => hfourth, fun _ => h.responded hlink hstep⟩
    | associate | keyExchange | done =>
      rw [hstep] at hawaits
      cases hawaits

/-! ### Commands -/

/-- A new attempt begins with a request to be authenticated. -/
theorem exists_opening (target : ConnectTarget) (l : Link σ) : ∃ ready : Link σ,
    l.startConnecting env target = ready.sendHandshakeFrame env ∧
      ready.footing = {
        mode := .connecting
        authLevel := .disconnected
        target := some target
        step := .authenticate
        algorithm := (Handshake.start target.record.security.security 0).algorithm
        challenge := [] } ∧
      ∃ events, ready.log = events ++ l.log ∧ ∀ e ∈ events, e.IsMute := by
  unfold startConnecting
  refine ⟨_, rfl, ?_, ?_⟩
  · rw [setMode_of_hasLink rfl]
    split <;> rfl
  · rw [setMode_of_hasLink rfl]
    split
    · refine ⟨[_, _, .tuned target.record.channel, .keyInstalled target.key], rfl, ?_⟩
      simp [Event.IsMute, Event.saying?, Event.target?]
    · refine ⟨[_, _, .tuned target.record.channel], rfl, ?_⟩
      simp [Event.IsMute, Event.saying?, Event.target?]

theorem fair_startConnecting (h : Upright asAsked l) {target : ConnectTarget}
    (hwanted : wanted? l.log = some target) : Fair asAsked (l.startConnecting env target) := by
  obtain ⟨ready, hready, hfooting, events, hlog, hevents⟩ := exists_opening env target l
  have hwep : (Handshake.start target.record.security.security 0).algorithm = .sharedKey →
      target.record.security.security = .wep := by
    intro hshared
    by_contra hother
    simp [Handshake.start, hother] at hshared
  rw [hready]
  refine Poised.sendHandshakeFrame env ⟨⟨?_, ?_, ?_⟩, ⟨target, ?_, ?_, ?_⟩, ?_, ?_⟩
  · rw [hlog]
    exact h.answered.append hevents
  · rw [hfooting]
    unfold Handshake.start
    split
    · exact .inr rfl
    · exact .inl rfl
  · rw [hfooting]
    exact Nat.zero_le _
  · rw [hfooting]
  · rw [hlog, wanted?_of_mute hevents]
    exact hwanted
  · rw [hfooting]
    exact hwep
  · rw [hfooting]
    intro hasked
    exact absurd rfl hasked
  · rw [hfooting]
    intro _ hchallenge
    cases hchallenge

/-- What a command asks for the station does, and stands by what it says. -/
theorem fair_obey (meanwhile : Meanwhile) (h : Upright asAsked l) {command : Command}
    (hkept : command = .enable → Fair asAsked l)
    (hwanted : ∀ target, command = .connect target → wanted? l.log = some target) :
    Fair asAsked (l.obey env meanwhile command) := by
  have hleft := (mute_leaveMode env l).upright h
  have hidle : Fair asAsked (l.leaveMode env) := hleft.fair rfl
  unfold obey
  split
  · rename_i hdisabled
    have hoff : Fair asAsked l := h.fair (by rw [footing, hdisabled]; rfl)
    cases command with
    | enable => exact (mute_setMode (by simp [Mode.hasLink])).fair hoff
    | powerOff | stop | scan | connect | host => exact hoff
  · cases command with
    | enable => exact hkept rfl
    | powerOff => exact (mute_setMode (by simp [Mode.hasLink])).fair hidle
    | stop => exact hidle
    | scan => exact (mute_startScan env _).fair hidle
    | connect target =>
      refine fair_startConnecting env hleft ?_
      obtain ⟨events, hlog, hevents⟩ := (mute_leaveMode env l).log_eq
      rw [hlog, wanted?_of_mute hevents]
      exact hwanted target rfl
    | host parameters =>
      have hpaused : Mute (l.leaveMode env) ((l.leaveMode env).pause meanwhile 0) := .of_eq rfl rfl
      exact (hpaused.trans (mute_startHosting env parameters _)).fair hidle

theorem fair_serveCommand (meanwhile : Meanwhile) (h : Fair asAsked l) :
    Fair asAsked (l.serveCommand env meanwhile) := by
  cases htake : l.shared.commands.take.2 with
  | none =>
    rw [serveCommand_of_none env meanwhile htake]
    exact h
  | some taken =>
    obtain ⟨version, command⟩ := taken
    have hacknowledged (m : Link σ) : Mute m (m.acknowledge version) := .of_eq rfl rfl
    rw [serveCommand_of_some env meanwhile htake]
    -- The network that a command asks for is wanted before the old one is left.
    refine (hacknowledged _).fair (fair_obey env meanwhile (l := l.taken version command)
      ⟨?_, h.algorithm_eq, h.fits⟩ ?_ ?_)
    · exact h.answered.cons (by simp [Event.saying?])
    · rintro rfl
      have hcommanded : Mute l (l.taken version .enable) := .of_cons ⟨rfl, rfl⟩ rfl rfl
      exact hcommanded.fair h
    · rintro target rfl
      rfl

/-- No command makes an access point believe anything. -/
theorem authLevel_obey (meanwhile : Meanwhile) (command : Command) {l : Link σ}
    (h : (l.obey env meanwhile command).machine.authLevel = .authenticated) :
    l.machine.authLevel = .authenticated := by
  have hleft := mute_leaveMode env l
  unfold obey at h
  split at h
  · cases command with
    | enable => exact (mute_setMode (by simp [Mode.hasLink])).authLevel_eq h
    | powerOff | stop | scan | connect | host => exact h
  · cases command with
    | enable => exact h
    | powerOff =>
      have hoff : Mute l ((l.leaveMode env).setMode .disabled) :=
        hleft.trans (mute_setMode (by simp [Mode.hasLink]))
      exact hoff.authLevel_eq h
    | stop => exact hleft.authLevel_eq h
    | scan =>
      have hscanning := hleft.trans (mute_startScan env (l.leaveMode env))
      simp only at h
      exact hscanning.authLevel_eq h
    | connect target =>
      obtain ⟨ready, hready, hfooting, -⟩ := exists_opening env target (l.leaveMode env)
      have hsent := (transmits_sendHandshakeFrame env ready).footing_eq
      rw [← hready, hfooting] at hsent
      cases (congrArg Footing.authLevel hsent).symm.trans h
    | host parameters =>
      have hpaused : Mute l ((l.leaveMode env).pause meanwhile 0) := hleft.trans (.of_eq rfl rfl)
      exact (hpaused.trans (mute_startHosting env parameters _)).authLevel_eq h

theorem authLevel_serveCommand (meanwhile : Meanwhile)
    (h : (l.serveCommand env meanwhile).machine.authLevel = .authenticated) :
    l.machine.authLevel = .authenticated := by
  cases htake : l.shared.commands.take.2 with
  | none =>
    rw [serveCommand_of_none env meanwhile htake] at h
    exact h
  | some taken =>
    rw [serveCommand_of_some env meanwhile htake] at h
    exact authLevel_obey env meanwhile taken.2 (l := l.taken taken.1 taken.2) h

/-! ### All runs -/

/-- All frames but the answers of an access point leave the station where it is. -/
theorem steady_handle {frame : Received} (h : ∀ header body, frame = .authentication header body →
      l.machine.mode ≠ .connecting) (seized : Nat → Bool) (rssi : UInt8) :
    Steady l (l.handle env seized frame rssi) := by
  unfold handle
  split
  · exact (mute_receiveBeacon seized _ rssi l).steady
  · exact (mute_receiveBeacon seized _ rssi l).steady
  · split
    · rename_i hmode
      exact absurd hmode (h _ _ rfl)
    · exact (mute_receivePeerAuthentication env _ _ l).steady
    · exact (Mute.refl l).steady
  · split
    · rename_i hmode
      exact steady_receiveAssociationResponse env (by rw [hmode]; rfl) _ _ _
    · exact (Mute.refl l).steady
  · split
    · exact (mute_receivePeerAssociation env _ l).steady
    · exact (Mute.refl l).steady
  · exact steady_receiveDeauthentication env _ true l
  · exact steady_receiveDeauthentication env _ false l
  · exact (mute_receiveData env _ _ l).steady
  · exact (Mute.refl l).steady
  · exact (Mute.refl l).steady

theorem accepted?_of_answer {octets : List UInt8} {header : Header} {body : Authentication}
    (hread : Received.ofOctets octets = .ok (.authentication header body))
    (hmode : l.machine.mode = .connecting) (hfrom : l.isFromTarget header = true)
    (hawaits : l.machine.handshake.step.awaits body.sequence = true)
    (hsuccess : body.status = .success) (rssi : UInt8) (now : Nat) (seized : Nat → Bool) :
    l.accepted? (.receive octets rssi now seized) = some body := by
  unfold accepted?
  simp only [hread]
  exact if_pos ⟨hmode, hfrom, hawaits, hsuccess⟩

/-- What is received is an answer that is accepted, or it leaves the station where it is. -/
theorem receiveAmid_cases_accepted (seized : Nat → Bool) (octets : List UInt8) (rssi : UInt8)
    (now : Nat) (l : Link σ) : Steady l (l.receiveAmid env seized octets rssi now) ∨
      ∃ body, l.accepted? (.receive octets rssi now seized) = some body ∧
        l.machine.mode = .connecting ∧ l.machine.handshake.step.awaits body.sequence = true ∧
        l.receiveAmid env seized octets rssi now =
          (l.atTime now).noteHeard.acceptAuthentication env body := by
  have hnow : Steady l (l.atTime now) := (Mute.of_eq rfl rfl : Mute l (l.atTime now)).steady
  rcases receiveAmid_cases env seized octets rssi now l with hidle | ⟨-, frame, hread, hheard⟩
  · rw [hidle]
    exact .inl hnow
  · rw [hheard]
    by_cases hanswer : ∃ header body, frame = .authentication header body ∧
        l.machine.mode = .connecting
    · obtain ⟨header, body, rfl, hmode⟩ := hanswer
      have hmode' : (l.atTime now).machine.mode = .connecting := hmode
      simp only [handle, hmode']
      rcases receiveAuthentication_cases env hmode' header body with
        hsteady | ⟨hfrom, hawaits, hsuccess, haccepted⟩
      · exact .inl (hnow.trans hsteady)
      · exact .inr ⟨body, accepted?_of_answer hread hmode hfrom hawaits hsuccess rssi now seized,
          hmode, hawaits, haccepted⟩
    · refine .inl (hnow.trans (steady_handle env ?_ seized rssi))
      intro header body hframe hmode
      exact hanswer ⟨header, body, hframe, hmode⟩

theorem fair_step (h : Fair asAsked l) {action : Action}
    (has : asAsked → action.isAsAsked l = true) : Fair asAsked (l.step env action) := by
  cases action with
  | post command => exact (Mute.of_eq rfl rfl : Mute l (l.step env (.post command))).fair h
  | host move => exact (Mute.of_eq rfl rfl : Mute l (l.step env (.host move))).fair h
  | tick now moves =>
    have hnow : Mute l (l.atTime now) := .of_eq rfl rfl
    exact (steady_work env _ _).fair (fair_serveCommand env _ (hnow.fair h))
  | receive octets rssi now seized =>
    rcases receiveAmid_cases_accepted env seized octets rssi now l with
      hsteady | ⟨body, haccepted, hmode, -, hheard⟩
    · exact hsteady.fair h
    · have hnow : Mute l (l.atTime now).noteHeard := .of_eq rfl rfl
      show Fair asAsked (l.receiveAmid env seized octets rssi now)
      rw [hheard]
      refine fair_acceptAuthentication env (l := (l.atTime now).noteHeard) hmode (hnow.fair h) ?_
      intro hasAsked
      have hasked := has hasAsked
      rw [Action.isAsAsked, haccepted] at hasked
      exact of_decide_eq_true hasked

/-- A station is only believed for an answer that its attempt waits for, and for a shared key only
after it answered a challenge. -/
theorem convinced_step (h : Fair asAsked l) {action : Action}
    (hafter : (l.step env action).machine.authLevel = .authenticated)
    (hbefore : l.machine.authLevel ≠ .authenticated) : ∃ body, l.accepted? action = some body ∧
      (body.algorithm = .sharedKey → body.sequence = 4) ∧
      (body.sequence = 4 → Responded l.log) := by
  cases action with
  | post command => exact absurd hafter hbefore
  | host move => exact absurd hafter hbefore
  | tick now moves =>
    have hserved := (steady_work env (fun step => (moves step).act) _).authLevel_eq hafter
    exact absurd (authLevel_serveCommand env _ (l := l.atTime now) hserved) hbefore
  | receive octets rssi now seized =>
    rcases receiveAmid_cases_accepted env seized octets rssi now l with
      hsteady | ⟨body, haccepted, hmode, hawaits, hheard⟩
    · exact absurd (hsteady.authLevel_eq hafter) hbefore
    · have hnow : Mute l (l.atTime now).noteHeard := .of_eq rfl rfl
      have hlink : l.machine.mode.hasLink = true := by
        rw [hmode]
        rfl
      have hconvinced : (l.receiveAmid env seized octets rssi now).machine.authLevel =
        .authenticated := hafter
      rw [hheard] at hconvinced
      exact ⟨body, haccepted, convinced_acceptAuthentication env (l := (l.atTime now).noteHeard)
        hlink (hnow.fair h) hawaits hconvinced hbefore⟩

theorem allAsAsked_append (actions more : List Action) (l : Link σ) :
    allAsAsked env (actions ++ more) l =
      (allAsAsked env actions l && allAsAsked env more (run env actions l)) := by
  induction actions generalizing l with
  | nil => rfl
  | cons action rest ih =>
    show (action.isAsAsked l && allAsAsked env (rest ++ more) (l.step env action)) = _
    rw [ih, ← Bool.and_assoc]
    rfl

theorem fair_run (h : Fair asAsked l) {actions : List Action}
    (has : asAsked → allAsAsked env actions l = true) : Fair asAsked (run env actions l) := by
  induction actions generalizing l with
  | nil => exact h
  | cons action rest ih =>
    have hsplit (hasAsked : asAsked) := (Bool.and_eq_true_iff.mp (has hasAsked))
    exact ih (fair_step env h fun hasAsked => (hsplit hasAsked).1)
      fun hasAsked => (hsplit hasAsked).2

theorem fair_attach {settings : Settings} {address : MacAddress} {outside : σ}
    {s s' : SharedState} (h : attach settings address outside s = (s', .ok l)) :
    Fair asAsked l := by
  obtain ⟨producer, rx, tx, rfl⟩ := attach_eq_ok h
  refine Upright.fair ⟨?_, .inl rfl, Nat.zero_le _⟩ rfl
  have hnone : AllRightlyAnswered asAsked [] := by
    intro after e before header body hlog
    cases after <;> cases hlog
  exact hnone.cons (by simp [Event.saying?])

/-- What stands behind a station that is authenticated with an action, and behind all its answers to
challenges up to then. -/
structure Vouched (asAsked : Prop) (l l' : Link σ) (action : Action) : Prop where
  /-- The action is an answer that the attempt waited for, for a shared key the last one. -/
  convinced : l'.machine.authLevel = .authenticated → l.machine.authLevel ≠ .authenticated →
    ∃ body, l.accepted? action = some body ∧
      (body.algorithm = .sharedKey → body.sequence = 4) ∧
      (body.sequence = 4 → Responded l.log) ∧
      (asAsked → asked? l.log = some body.algorithm)
  answered : AllRightlyAnswered asAsked l'.log

/-- In every run a station becomes authenticated only by an answer of its access point that was
waited for, and by a shared key only once it answered a challenge.  If access points accept only the
algorithm that they were asked for, then only shared keys are proved, and only to WEP networks. -/
theorem vouched_run {settings : Settings} {address : MacAddress} {outside : σ}
    {s s' : SharedState} (h : attach settings address outside s = (s', .ok l))
    (actions : List Action) (action : Action) :
    Vouched (allAsAsked env (actions ++ [action]) l = true) (run env actions l)
      (run env (actions ++ [action]) l) action := by
  have hlast : run env (actions ++ [action]) l = (run env actions l).step env action := by
    simp [run]
  have hsplit (has : allAsAsked env (actions ++ [action]) l = true) :
      allAsAsked env actions l = true ∧ action.isAsAsked (run env actions l) = true := by
    rw [allAsAsked_append, Bool.and_eq_true_iff] at has
    exact ⟨has.1, (Bool.and_eq_true_iff.mp has.2).1⟩
  have hfair := fair_run env (fair_attach h) fun has => (hsplit has).1
  refine ⟨?_, (fair_run env (fair_attach h) id).answered⟩
  rw [hlast]
  intro hafter hbefore
  obtain ⟨body, haccepted, hfourth, hresponded⟩ := convinced_step env hfair hafter hbefore
  refine ⟨body, haccepted, hfourth, hresponded, ?_⟩
  intro has
  have hasked := (hsplit has).2
  rw [Action.isAsAsked, haccepted] at hasked
  exact of_decide_eq_true hasked

/-- The access point agrees, with a challenge or without. -/
def agreeing (algorithm : AuthAlgorithm) (sequence : UInt16) (challenge : Option (List UInt8)) :
    Action :=
  heard (Frame.authentication stationAddress networkAddress networkAddress 0
    { algorithm, sequence, status := .success, challenge } false)

/-- A station asks a network of some security to authenticate it. -/
def askingActions (security : Frame.Security) : List Action :=
  [.post .enable, undisturbed, .post (.connect (network security)), undisturbed]

/-- A WEP network challenges the station. -/
def challengedActions : List Action :=
  askingActions .wep ++ [agreeing .sharedKey 2 (some [0x0a, 0x0b])]

theorem vouched_run_challengedActions :
    ∃ s l, attach .standard stationAddress () .fresh = (s, .ok l) ∧
      allAsAsked (.answering .refused) (challengedActions ++ [agreeing .sharedKey 4 none]) l =
        true ∧
      (run (.answering .refused) challengedActions l).machine.authLevel = .disconnected ∧
      (run (.answering .refused) (challengedActions ++ [agreeing .sharedKey 4 none])
        l).machine.authLevel = .authenticated ∧
      Vouched (allAsAsked (.answering .refused) (challengedActions ++ [agreeing .sharedKey 4 none])
          l = true)
        (run (.answering .refused) challengedActions l)
        (run (.answering .refused) (challengedActions ++ [agreeing .sharedKey 4 none]) l)
        (agreeing .sharedKey 4 none) := by
  have hattached : attach .standard stationAddress () .fresh = (_, .ok _) := rfl
  exact ⟨_, _, hattached, by decide +kernel, by decide +kernel, by decide +kernel,
    vouched_run _ hattached _ _⟩

/-- A network that does not encrypt is asked for the open system.  When it answers with a challenge,
the station answers that, and marks the frame as encrypted.  A WEP network is asked for a shared
key, but the open system is accepted at once. -/
theorem answers_in_open_network :
    ∃ s l, attach .standard stationAddress () .fresh = (s, .ok l) ∧
      (run (.answering .refused) (askingActions .plain ++
          [agreeing .sharedKey 2 (some [0x0a, 0x0b])]) l).log.head?.bind Event.saying? =
        some (.answers
          { Header.management .authentication networkAddress stationAddress networkAddress 1 with
            control := (Frame.FrameControl.management .authentication).set .encrypted true }
          { algorithm := .openSystem
            sequence := 3
            status := .success
            challenge := some [0x0a, 0x0b] }) ∧
      wanted? (run (.answering .refused) (askingActions .plain ++
          [agreeing .sharedKey 2 (some [0x0a, 0x0b])]) l).log = some (network .plain) ∧
      asked? (run (.answering .refused) (askingActions .wep) l).log = some .sharedKey ∧
      (run (.answering .refused) (askingActions .wep) l).machine.authLevel = .disconnected ∧
      (run (.answering .refused) (askingActions .wep ++ [agreeing .openSystem 2 none])
        l).machine.authLevel = .authenticated := by
  have hattached : attach .standard stationAddress () .fresh = (_, .ok _) := rfl
  exact ⟨_, _, hattached, by decide +kernel, by decide +kernel, by decide +kernel,
    by decide +kernel, by decide +kernel⟩

end Link

end WlanControl
