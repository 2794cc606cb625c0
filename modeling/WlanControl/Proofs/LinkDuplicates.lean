import WlanControl.Proofs.LinkRelay

namespace WlanControl

open WlanControl.Frame (Authentication Header Received)

/-!
# The link layer — answers that come again

A station sends the frames of its handshake again, so its access point may answer one of them more
than once.  The first answer by which the access point agrees ends the step that waited for it, and
no later step waits for the same answer.

* `Frame.Received.isAgreement` — the answers by which an access point agrees;
* `Link.Unmoved` — a link before and after nothing happened but that its access point was heard;
* `Link.expects` — whether an attempt waits for an answer, with `unmoved_handle` for an answer that
  it does not wait for;
* `Link.Through` — a link that is through with an answer, with `through_handle` for one that was
  heard and `Through.run` for what comes of it when it is heard again.

Main statement: `Link.unmoved_by_repeats`, however often an agreement is heard, it counts once.
-/

/-- The access point agrees.  The answer to a request for a shared key that brings no challenge does
not count, since it is taken for a refusal. -/
def Frame.Received.isAgreement : Received → Bool
  | .authentication _ body =>
    body.status = .success &&
      !(body.algorithm = .sharedKey && body.sequence = 2 && body.challenge.isNone)
  | .associationResponse _ status _ => status = .success
  | _ => false

namespace Link

variable {σ : Type} {l l' l₁ l₂ l₃ : Link σ} {frame : Received} (env : Surroundings σ)

/-! ### Frames that move nothing -/

/-- From one link to the other nothing happened but that time went on and the access point was
heard. -/
structure Unmoved (l l' : Link σ) : Prop where
  machine_eq : l'.machine = { l.machine with
    now := l'.machine.now
    lastHeard := l'.machine.lastHeard }
  shared_eq : l'.shared = l.shared
  outside_eq : l'.outside = l.outside
  log_eq : l'.log = l.log

namespace Unmoved

theorem refl (l : Link σ) : Unmoved l l := ⟨rfl, rfl, rfl, rfl⟩

theorem trans (h : Unmoved l₁ l₂) (h' : Unmoved l₂ l₃) : Unmoved l₁ l₃ where
  machine_eq := by
    rw [h'.machine_eq, h.machine_eq]
  shared_eq := h'.shared_eq.trans h.shared_eq
  outside_eq := h'.outside_eq.trans h.outside_eq
  log_eq := h'.log_eq.trans h.log_eq

end Unmoved

theorem unmoved_atTime (now : Nat) (l : Link σ) : Unmoved l (l.atTime now) := ⟨rfl, rfl, rfl, rfl⟩

theorem unmoved_noteHeard (l : Link σ) : Unmoved l l.noteHeard := ⟨rfl, rfl, rfl, rfl⟩

/-! ### Answers that are waited for -/

/-- Whether an answer is one that an attempt waits for. -/
def expects (frame : Received) (l : Link σ) : Bool :=
  match frame with
  | .authentication header body =>
    l.machine.mode = .connecting && l.isFromTarget header &&
      l.machine.handshake.step.awaits body.sequence
  | .associationResponse header _ _ =>
    l.machine.mode = .connecting && l.isFromTarget header && l.machine.handshake.step = .associate
  | _ => false

/-- The link is through with an answer. -/
structure Through (frame : Received) (l : Link σ) : Prop where
  station : l.machine.mode ≠ .accessPoint
  unexpected : l.expects frame = false

theorem Unmoved.through (h : Unmoved l l') (hthrough : Through frame l) : Through frame l' where
  station := by
    rw [h.machine_eq]
    exact hthrough.station
  unexpected := by
    have hsame : l'.expects frame = l.expects frame := by
      unfold expects isFromTarget
      rw [h.machine_eq]
    exact hsame.trans hthrough.unexpected

/-- An answer that is not waited for moves nothing. -/
theorem unmoved_handle (hagrees : frame.isAgreement = true) (hthrough : Through frame l)
    (seized : Nat → Bool) (rssi : UInt8) : Unmoved l (l.handle env seized frame rssi) := by
  have hunexpected := hthrough.unexpected
  cases frame with
  | authentication header body =>
    unfold handle
    cases hmode : l.machine.mode with
    | connecting =>
      simp only [receiveAuthentication]
      simp only [expects, hmode, decide_true, Bool.true_and, Bool.and_eq_false_iff] at hunexpected
      rcases hunexpected with hother | hearly
      · simp only [hother, Bool.not_false, if_true]
        exact .refl l
      · have hearly' : l.noteHeard.machine.handshake.step.awaits body.sequence = false := hearly
        simp only [hearly', Bool.not_false, if_true]
        split
        · exact .refl l
        · exact unmoved_noteHeard l
    | accessPoint => exact absurd hmode hthrough.station
    | disabled | normal | scanning | connected | cannotConnect => exact .refl l
  | associationResponse header status aid =>
    simp only [handle, receiveAssociationResponse]
    split
    · rename_i hmode
      simp only [expects, hmode, decide_true, Bool.true_and] at hunexpected
      have hleft : (!l.isFromTarget header || l.machine.handshake.step ≠ .associate) = true := by
        cases hfrom : l.isFromTarget header <;> simp_all
      simp only [hleft, if_true]
      exact .refl l
    · exact .refl l
  | beacon | probeResponse | associationRequest | deauthentication | disassociation | data
  | probeRequest | other => cases hagrees

/-! ### Answers that are over -/

/-- Once the access point believes who the station is, no authentication frame is waited for. -/
theorem through_acceptAuthentication {header : Header} {body : Authentication}
    (hagrees : (Received.authentication header body).isAgreement = true)
    (hmode : l.machine.mode = .connecting)
    (hawaits : l.machine.handshake.step.awaits body.sequence = true) :
    Through (.authentication header body) (l.acceptAuthentication env body) := by
  have hsent {m : Link σ} (hmode : m.machine.mode = .connecting)
      (hover : m.machine.handshake.step.awaits body.sequence = false) :
      Through (.authentication header body) (m.sendHandshakeFrame env) := by
    have hmachine := (transmits_sendHandshakeFrame env m).machine_eq
    refine ⟨?_, ?_⟩
    · rw [hmachine]
      simp [hmode]
    · unfold expects
      rw [hmachine]
      simp [hover]
  unfold acceptAuthentication
  split
  · -- The challenge is answered, and the answer to that has another number.
    rename_i hstep _ _
    rw [hstep] at hawaits
    have hsecond : body.sequence = 2 := of_decide_eq_true hawaits
    refine hsent hmode ?_
    simp [HandshakeStep.awaits, hsecond]
  · rename_i hstep halgorithm hchallenge
    rw [hstep] at hawaits
    have hsecond : body.sequence = 2 := of_decide_eq_true hawaits
    simp [Received.isAgreement, halgorithm, hchallenge, hsecond] at hagrees
  · exact hsent hmode rfl

/-- Once the access point let the station in, no response is waited for. -/
theorem through_acceptAssociation (header : Header) (status) (aid aid' : UInt16)
    (target : ConnectTarget) (hmode : l.machine.mode = .connecting) :
    Through (.associationResponse header status aid) (l.acceptAssociation env target aid') := by
  unfold acceptAssociation
  simp only
  generalize hraised : (l.setAid aid').setAuthLevel .associated = raised
  have hmode' : raised.machine.mode = .connecting := by
    rw [← hraised]
    exact hmode
  split
  · split
    · have hfailed : (raised.fail env .keyExchangeFailed).machine.mode = .cannotConnect := rfl
      exact ⟨by simp [hfailed], by simp [expects, hfailed]⟩
    · refine ⟨?_, ?_⟩
      · simp [beginExchange, hmode']
      · simp [expects, beginExchange]
  · have hup (m : Link σ) : m.establish.machine.mode = .connected := rfl
    exact ⟨by simp [hup], by simp [expects, hup]⟩

/-- An attempt is through with an answer once the answer was heard. -/
theorem through_handle (hmode : l.machine.mode = .connecting) (hagrees : frame.isAgreement = true)
    (seized : Nat → Bool) (rssi : UInt8) : Through frame (l.handle env seized frame rssi) := by
  cases hexpects : l.expects frame with
  | false =>
    have hthrough : Through frame l := ⟨by simp [hmode], hexpects⟩
    exact (unmoved_handle env hagrees hthrough seized rssi).through hthrough
  | true =>
    cases frame with
    | authentication header body =>
      simp only [expects, hmode, decide_true, Bool.true_and, Bool.and_eq_true_iff] at hexpects
      obtain ⟨hfrom, hawaits⟩ := hexpects
      have hawaits' : l.noteHeard.machine.handshake.step.awaits body.sequence = true := hawaits
      have hsuccess : body.status = .success := by
        simp only [Received.isAgreement, Bool.and_eq_true_iff] at hagrees
        exact of_decide_eq_true hagrees.1
      have hheard : l.handle env seized (.authentication header body) rssi =
          l.noteHeard.acceptAuthentication env body := by
        simp [handle, hmode, receiveAuthentication, hfrom, hawaits', hsuccess]
      rw [hheard]
      exact through_acceptAuthentication env (l := l.noteHeard) hagrees hmode hawaits
    | associationResponse header status aid =>
      simp only [expects, hmode, decide_true, Bool.true_and, Bool.and_eq_true_iff,
        decide_eq_true_eq] at hexpects
      obtain ⟨hfrom, hstep⟩ := hexpects
      obtain rfl : status = .success := of_decide_eq_true hagrees
      cases htarget : l.machine.target with
      | none => simp [isFromTarget, htarget] at hfrom
      | some target =>
        have htarget' : l.noteHeard.machine.target = some target := htarget
        have hheard : l.handle env seized (.associationResponse header .success aid) rssi =
            l.noteHeard.acceptAssociation env target aid := by
          simp [handle, hmode, receiveAssociationResponse, hfrom, hstep, htarget']
        rw [hheard]
        exact through_acceptAssociation env (l := l.noteHeard) header _ aid aid target hmode
    | beacon | probeResponse | associationRequest | deauthentication | disassociation | data
    | probeRequest | other => cases hagrees

/-! ### Answers that are heard again -/

/-- However often the answer is heard, nothing comes of it. -/
theorem Through.run {octets : List UInt8} (hthrough : Through frame l)
    (hread : Received.ofOctets octets = .ok frame) (hagrees : frame.isAgreement = true)
    {again : List Action} (hagain : ∀ a ∈ again, a.IsHearing octets) :
    Unmoved l (run env again l) := by
  induction again generalizing l with
  | nil => exact .refl l
  | cons action rest ih =>
    have hstep : Unmoved l (l.step env action) := by
      obtain ⟨rssi, now, seized, rfl⟩ := hagain action List.mem_cons_self
      have hnow := unmoved_atTime now l
      rcases receiveAmid_cases env seized octets rssi now l with hidle | ⟨-, found, hfound, hheard⟩
      · show Unmoved l (l.receiveAmid env seized octets rssi now)
        rw [hidle]
        exact hnow
      · cases hread.symm.trans hfound
        show Unmoved l (l.receiveAmid env seized octets rssi now)
        rw [hheard]
        exact hnow.trans (unmoved_handle env hagrees (hnow.through hthrough) seized rssi)
    exact hstep.trans (ih (hstep.through hthrough) fun a ha => hagain a (List.mem_cons_of_mem _ ha))

/-- However often an agreement of the access point is heard by an attempt, it counts once: when it
is heard again nothing happens but that time goes on and the access point was heard. -/
theorem unmoved_by_repeats (hmode : l.machine.mode = .connecting) {octets : List UInt8}
    (hread : Received.ofOctets octets = .ok frame) (hagrees : frame.isAgreement = true)
    {first : Action} (hfirst : first.IsHearing octets) {again : List Action}
    (hagain : ∀ a ∈ again, a.IsHearing octets) :
    Unmoved (l.step env first) (run env (first :: again) l) := by
  have hthrough : Through frame (l.step env first) := by
    obtain ⟨rssi, now, seized, rfl⟩ := hfirst
    show Through frame (l.receiveAmid env seized octets rssi now)
    rw [receiveAmid_of_ok env (by simp [hmode]) hread]
    exact through_handle env (l := l.atTime now) hmode hagrees seized rssi
  exact hthrough.run env hread hagrees hagain

/-- The access point lets the station in. -/
def admission : Action :=
  heard (Frame.associationResponse stationAddress networkAddress 0 .success 1)

theorem unmoved_by_repeats_admission :
    ∃ s l octets frame, attach .standard stationAddress () .fresh = (s, .ok l) ∧
      Received.ofOctets octets = .ok frame ∧ frame.isAgreement = true ∧
      admission.IsHearing octets ∧
      let env := Surroundings.answering .refused
      let waiting := run env (requestActions ++ [undisturbed] ++ admittingActions.take 1) l
      waiting.machine.mode = .connecting ∧
        (waiting.step env admission).machine.mode = .connected ∧
        Unmoved (waiting.step env admission)
          (run env [admission, admission, admission] waiting) := by
  have hattached : attach .standard stationAddress () .fresh = (_, .ok _) := rfl
  have hread : Received.ofOctets ((Frame.encode? Frame.maxFrameLength
      (Frame.associationResponse stationAddress networkAddress 0 .success 1)).getD []) =
        .ok (.associationResponse (Header.management .associationResponse stationAddress
          networkAddress networkAddress 0) .success 1) := by
    decide +kernel
  have hhearing : admission.IsHearing ((Frame.encode? Frame.maxFrameLength
      (Frame.associationResponse stationAddress networkAddress 0 .success 1)).getD []) :=
    ⟨_, _, _, rfl⟩
  have hmode : (run (.answering .refused) (requestActions ++ [undisturbed] ++
      admittingActions.take 1) (fresh stationAddress)).machine.mode = .connecting := by
    decide +kernel
  exact ⟨_, _, _, _, hattached, hread, rfl, hhearing, hmode, by decide +kernel,
    unmoved_by_repeats _ hmode hread rfl hhearing (by simp [hhearing])⟩

end Link

end WlanControl
