import WlanControl.Proofs.LinkAuthentication
import WlanControl.Proofs.LinkOffers
import WlanControl.Proofs.LinkRest
import WlanControl.Proofs.LinkTidiness

namespace WlanControl

open WlanControl.Frame (AuthAlgorithm Authentication Direction Draft Field Header RateSet Received)

/-!
# The link layer — requests to join a network

An attempt chooses the algorithm that it authenticates itself with and the rates that it claims.
Few operations change the choice, and only one sends the request that tells the rates.

* `Choice`, `claims` — what an attempt has chosen, and the rates that were claimed in requests;
* `Heeds` — a link before and after the choice was kept and requests were sent by it;
* `heeds_sendHandshakeFrame`, `keptByAttempts_heeds` — every handler of an attempt heeds its choice;
* `Abides` — the same for all links: without a link there are no requests, and no link comes up;
* `abides_leaveMode`, `abides_accessPointTick`, … — the operations that need no link.

Main statements: `abides_serveCommand`, commands but those to connect keep the choice, and
`abides_work`, so does the rest of a tick.
-/

namespace Link

variable {σ : Type} {l l' l₁ l₂ l₃ : Link σ} (env : Surroundings σ)

/-! ### Choices -/

/-- What an attempt has chosen, and what it fell back on. -/
structure Choice where
  algorithm : AuthAlgorithm
  rateSet : RateSet
  expandedTried : Bool
  openSystemTried : Bool
deriving DecidableEq

/-- What the attempt of a link layer has chosen. -/
def choice (l : Link σ) : Choice where
  algorithm := l.machine.handshake.algorithm
  rateSet := l.machine.handshake.rateSet
  expandedTried := l.machine.handshake.expandedTried
  openSystemTried := l.machine.handshake.openSystemTried

/-- The rates that were claimed in the requests that the radio was handed, be it that it took them
or not, oldest first. -/
def claims (log : List Event) : List (List UInt8) := offered Frame.claimedRates? log

/-- From one link to the other the choice was kept, and requests were sent only by it. -/
structure Heeds (l l' : Link σ) : Prop where
  choice_eq : l'.choice = l.choice
  claims_eq : ∃ sent, claims l'.log = claims l.log ++ sent ∧
    ∀ rates ∈ sent, rates = l.choice.rateSet.octets

namespace Heeds

/-- No request was sent. -/
theorem of_eq (hchoice : l'.choice = l.choice) (hclaims : claims l'.log = claims l.log) :
    Heeds l l' := ⟨hchoice, [], by rw [hclaims, List.append_nil], by simp⟩

theorem refl (l : Link σ) : Heeds l l := .of_eq rfl rfl

theorem trans (h : Heeds l₁ l₂) (h' : Heeds l₂ l₃) : Heeds l₁ l₃ where
  choice_eq := h'.choice_eq.trans h.choice_eq
  claims_eq := by
    obtain ⟨sent, hclaims, hsent⟩ := h.claims_eq
    obtain ⟨sent', hclaims', hsent'⟩ := h'.claims_eq
    refine ⟨sent ++ sent', by rw [hclaims', hclaims, List.append_assoc], ?_⟩
    rw [h.choice_eq] at hsent'
    intro rates hrates
    rcases List.mem_append.mp hrates with hrates | hrates
    · exact hsent rates hrates
    · exact hsent' rates hrates

end Heeds

/-- From one link to the other the choice was kept, and requests were sent only by it.  Without a
link none was sent, and none came up. -/
structure Abides (l l' : Link σ) : Prop extends Heeds l l' where
  linked : l'.machine.mode.hasLink = true → l.machine.mode.hasLink = true
  silent : l.machine.mode.hasLink = false → claims l'.log = claims l.log

namespace Abides

/-- No request was sent, and no link came up. -/
theorem of_eq (hchoice : l'.choice = l.choice) (hclaims : claims l'.log = claims l.log)
    (hlinked : l'.machine.mode.hasLink = true → l.machine.mode.hasLink = true) : Abides l l' where
  toHeeds := .of_eq hchoice hclaims
  linked := hlinked
  silent _ := hclaims

theorem refl (l : Link σ) : Abides l l := .of_eq rfl rfl id

theorem trans (h : Abides l₁ l₂) (h' : Abides l₂ l₃) : Abides l₁ l₃ where
  toHeeds := h.toHeeds.trans h'.toHeeds
  linked := h.linked ∘ h'.linked
  silent hidle := by
    -- No link came up in the first half, so there were no requests in the second one either.
    have hidle' : l₂.machine.mode.hasLink = false :=
      Bool.eq_false_iff.mpr fun hlink => Bool.eq_false_iff.mp hidle (h.linked hlink)
    rw [h'.silent hidle', h.silent hidle]

end Abides

/-- What heeds the choice of an attempt abides by it, as long as there is one. -/
theorem Heeds.abides (h : Heeds l l') (hlink : l.machine.mode.hasLink = true) : Abides l l' where
  toHeeds := h
  linked _ := hlink
  silent hidle := absurd hlink (by simp [hidle])

theorem Quiet.choice_eq (h : Quiet l l') : l'.choice = l.choice := by
  unfold choice
  rw [h.machine_eq]

theorem Transmits.choice_eq (h : Transmits l l') : l'.choice = l.choice := h.quiet.choice_eq

theorem choice_setMode (mode : Mode) (l : Link σ) : (l.setMode mode).choice = l.choice := by
  unfold choice
  rw [machine_setMode]

theorem Quiet.abides (h : Quiet l l') (hclaims : claims l'.log = claims l.log) : Abides l l' :=
  .of_eq h.choice_eq hclaims (by rw [h.machine_eq]; exact id)

theorem Idles.abides (h : Idles l l') : Abides l l' := by
  have hchoice : l'.choice = l.choice := by
    unfold choice
    rw [h.machine_eq]
  exact .of_eq hchoice (congrArg claims h.log_eq) (by rw [h.mode_eq]; exact id)

theorem abides_setMode {mode : Mode} (h : mode.hasLink = true → l.machine.mode.hasLink = true) :
    Abides l (l.setMode mode) :=
  .of_eq (choice_setMode mode l) (offered_setMode mode l) (by rw [mode_setMode]; exact h)

/-! ### Frames -/

theorem abides_send {build : UInt16 → List Field} (h : Hides Frame.claimedRates? build)
    (l : Link σ) : Abides l (l.send env build) :=
  (transmits_send env build l).quiet.abides (offered_send env h l)

theorem hides_data (direction : Direction) (bssid destination source : MacAddress)
    (encrypted : Bool) (type : UInt16) (payload : List UInt8) :
    Hides Frame.claimedRates? fun number =>
      Frame.data direction bssid destination source number encrypted type payload :=
  hides_claims (.data direction bssid destination source encrypted type payload) rfl

/-- With a draft the rates are claimed that it tells, if it is written at all. -/
theorem claims_sendDraft (draft : Draft) (l : Link σ) : ∃ sent,
    claims (l.send env fun number => draft.fields number).log = claims l.log ++ sent ∧
      ∀ rates ∈ sent, draft.rates? = some rates := by
  rcases log_send env (fun number => draft.fields number) l with
    hlog | ⟨frame, accepted, hframe, hlog⟩
  · exact ⟨[], by rw [hlog, claims, offered_cons rfl, List.append_nil]; rfl, by simp⟩
  · -- What is found in the frame is what the draft tells.
    refine ⟨draft.rates?.toList, ?_, by simp⟩
    rw [hlog, ← draft.claimedRates?_eq hframe]
    exact picked_cons _ _ _

/-- The handshake claims the rates that were chosen, if it claims any. -/
theorem Handshake.eq_of_rates? {handshake : Handshake} {address : MacAddress}
    {target : ConnectTarget} {draft : Draft} (hdraft : handshake.draft? address target = some draft)
    {rates : List UInt8} (hrates : draft.rates? = some rates) :
    rates = handshake.rateSet.octets := by
  unfold draft? at hdraft
  cases hstep : handshake.step with
  | authenticate | challenge =>
    rw [hstep] at hdraft
    cases hdraft
    cases hrates
  | associate =>
    rw [hstep] at hdraft
    cases hdraft
    cases hrates
    rfl
  | keyExchange | done =>
    rw [hstep] at hdraft
    cases hdraft

theorem heeds_sendHandshakeFrame (l : Link σ) : Heeds l (l.sendHandshakeFrame env) := by
  refine ⟨(transmits_sendHandshakeFrame env l).choice_eq, ?_⟩
  unfold sendHandshakeFrame
  split
  · exact (Heeds.refl l).claims_eq
  · rename_i target _
    simp only
    rw [Handshake.frame?_eq]
    cases hdraft : l.machine.handshake.draft? l.machine.address target with
    | none => exact (Heeds.refl l).claims_eq
    | some draft =>
      obtain ⟨sent, hclaims, hsent⟩ := claims_sendDraft env draft l
      exact ⟨sent, hclaims, fun rates hrates => Handshake.eq_of_rates? hdraft (hsent rates hrates)⟩

theorem heeds_sendDataToAp (destination : MacAddress) (type : UInt16) (payload : List UInt8)
    (l : Link σ) : Heeds l (l.sendDataToAp env destination type payload) := by
  unfold sendDataToAp
  split
  · exact .refl l
  · exact (abides_send env (hides_data _ _ _ _ _ _ _) l).toHeeds

theorem abides_drainBurst (l : Link σ) : Abides l (l.drainBurst env) := by
  refine drainBurst_keeps env (P := Abides l) (fun _ h => h.trans (.of_eq rfl rfl id)) ?_ (.refl l)
  intro m bssid direction record h
  have htaken : Abides l { m with log := .taken record :: m.log } :=
    h.trans (.of_eq rfl (offered_cons rfl _) id)
  unfold forward
  split
  · exact htaken
  · exact htaken.trans (abides_send env (hides_data _ _ _ _ _ _ _) _)

/-! ### Attempts -/

theorem keptByAttempts_heeds : KeptByAttempts env (Heeds (σ := σ)) where
  refl := .refl
  trans := .trans
  notes h := by
    obtain ⟨events, hlog, hevents⟩ := h.log_eq
    refine .of_eq ?_ ?_
    · unfold choice
      rw [h.machine_eq]
    · rw [hlog]
      refine offered_append ?_ _
      intro e he
      have := hevents e he
      cases e <;> simp_all [Event.isExchange, Event.offered?]
  setAuthLevel _ _ := .of_eq rfl rfl
  setMode mode l := .of_eq (choice_setMode mode l) (offered_setMode mode l)
  leaveAp l := .of_eq (transmits_leaveAp env l).choice_eq (ignoresUpkeep_claims.leaveAp env l)
  sendHandshakeFrame := heeds_sendHandshakeFrame env
  sendDataToAp := heeds_sendDataToAp env

theorem heeds_connectedTick (l : Link σ) : Heeds l (l.connectedTick env) := by
  unfold connectedTick
  split
  · exact (keptByAttempts_heeds env).restart l
  · simp only
    split
    · refine (abides_drainBurst env l).toHeeds.trans (.of_eq ?_ ?_)
      · exact (transmits_sendNullData env _).choice_eq
      · exact ignoresUpkeep_claims.sendNullData env _
    · exact (abides_drainBurst env l).toHeeds

/-! ### Commands -/

theorem abides_leaveMode (l : Link σ) : Abides l (l.leaveMode env) := by
  refine .of_eq ?_ (ignoresUpkeep_claims.leaveMode env l) ?_
  · unfold leaveMode
    rw [choice_setMode]
    -- What each mode needs to be left has nothing to do with the choice.
    split
    · exact (transmits_leaveAp env l).choice_eq
    · exact (transmits_leaveAp env l).choice_eq
    · rfl
    · obtain ⟨ended, hquiet, hended⟩ := quiet_endSession env l
      rw [hended]
      exact hquiet.choice_eq
    · rfl
    · rfl
    · rfl
  · rw [(mode_leaveMode env l).1]
    simp [Mode.hasLink]

theorem abides_startScan (l : Link σ) : Abides l (l.startScan env) := by
  refine .of_eq ?_ (ignoresUpkeep_claims.startScan env l) ?_
  · unfold startScan
    rw [(transmits_sendProbeRequest env _).choice_eq, choice_setMode]
    rfl
  · rw [mode_startScan]
    simp [Mode.hasLink]

theorem abides_startHosting (parameters : HostParameters) (l : Link σ) :
    Abides l (l.startHosting env parameters) := by
  refine .of_eq ?_ (offered_startHosting env parameters l) ?_
  · unfold startHosting
    rw [choice_setMode]
    simp only
    split <;> rfl
  · unfold startHosting
    rw [mode_setMode]
    simp [Mode.hasLink]

/-- Only a command to connect makes a new choice. -/
theorem abides_obey (meanwhile : Meanwhile) {command : Command}
    (h : ∀ target, command ≠ .connect target) (l : Link σ) :
    Abides l (l.obey env meanwhile command) := by
  have hleft := abides_leaveMode env l
  unfold obey
  split
  · cases command with
    | enable => exact abides_setMode (by simp [Mode.hasLink])
    | powerOff | stop | scan | connect | host => exact .refl l
  · cases command with
    | enable => exact .refl l
    | powerOff => exact hleft.trans (abides_setMode (by simp [Mode.hasLink]))
    | stop => exact hleft
    | scan => exact hleft.trans (abides_startScan env _)
    | connect target => exact absurd rfl (h target)
    | host parameters =>
      have hpaused : Abides l ((l.leaveMode env).pause meanwhile 0) :=
        hleft.trans (.of_eq rfl rfl id)
      exact hpaused.trans (abides_startHosting env parameters _)

theorem abides_serveCommand (meanwhile : Meanwhile)
    (h : ∀ version target, l.shared.commands.take.2 ≠ some (version, .connect target)) :
    Abides l (l.serveCommand env meanwhile) := by
  cases htake : l.shared.commands.take.2 with
  | none =>
    rw [serveCommand_of_none env meanwhile htake]
    exact .refl l
  | some taken =>
    obtain ⟨version, command⟩ := taken
    have hother (target : ConnectTarget) : command ≠ .connect target := by
      rintro rfl
      exact h version target htake
    have htaken : Abides l (l.taken version command) := .of_eq rfl (offered_cons rfl _) id
    have hacknowledged (m : Link σ) : Abides m (m.acknowledge version) := .of_eq rfl rfl id
    rw [serveCommand_of_some env meanwhile htake]
    exact (htaken.trans (abides_obey env meanwhile hother _)).trans (hacknowledged _)

/-! ### Ticks -/

theorem abides_accessPointTick (meanwhile : Meanwhile) (l : Link σ) :
    Abides l (l.accessPointTick env meanwhile) := by
  -- The host may come in between, but the choice and the mode are out of its reach.
  have hhosting : QuietAmid meanwhile l _ := quietAmid_hosting env l
  have hkept := hhosting.keeps (P := fun m => m.choice = l.choice ∧ m.machine.mode = l.machine.mode)
    (fun hquiet hm => ⟨hquiet.choice_eq.trans hm.1, by rw [hquiet.machine_eq]; exact hm.2⟩)
    (fun _ hm => hm) ⟨rfl, rfl⟩
  unfold accessPointTick
  refine Abides.trans ?_ (abides_drainBurst env _)
  exact .of_eq hkept.1 (ignoresUpkeep_claims.hosting env meanwhile l) (by rw [hkept.2]; exact id)

/-- What is due in a mode abides by the choice. -/
theorem abides_work (meanwhile : Meanwhile) (l : Link σ) : Abides l (l.work env meanwhile) := by
  unfold work
  split
  · exact (quiet_scanTick env l).abides (ignoresUpkeep_claims.scanTick env l)
  · rename_i hmode
    exact ((keptByAttempts_heeds env).connectingTick l).abides (by rw [hmode]; rfl)
  · rename_i hmode
    exact (heeds_connectedTick env l).abides (by rw [hmode]; rfl)
  · exact abides_accessPointTick env meanwhile l
  · exact (idles_discard l).abides
  · exact (idles_discard l).abides
  · exact (idles_discard l).abides

/-! ### Frames -/

theorem abides_receiveDeauthentication (header : Header) (entirely : Bool) (l : Link σ) :
    Abides l (l.receiveDeauthentication env header entirely) := by
  unfold receiveDeauthentication
  split
  · rename_i hmode
    exact ((keptByAttempts_heeds env).dismissed header entirely l).abides (by rw [hmode]; rfl)
  · rename_i hmode
    exact ((keptByAttempts_heeds env).dismissed header entirely l).abides (by rw [hmode]; rfl)
  · split
    · refine (quiet_dismiss _ l).abides ?_
      unfold dismiss
      split <;> rfl
    · exact .refl l
  · exact .refl l
  · exact .refl l
  · exact .refl l
  · exact .refl l

theorem abides_receiveData (header : Header) (body : List UInt8) (l : Link σ) :
    Abides l (l.receiveData env header body) := by
  have hheeds (target : ConnectTarget) : Heeds l (l.receiveFromNetwork env target header body) :=
    (keptByAttempts_heeds env).receiveFromNetwork (fun _ _ =>
      .of_eq (tends_deliver _ _).quiet.choice_eq (congrArg claims (handsOver_deliver _ _).log_eq))
      target header body l
  unfold receiveData
  split
  · rename_i hmode
    split
    · exact .refl l
    · exact (hheeds _).abides (by rw [hmode]; rfl)
  · rename_i hmode
    split
    · exact .refl l
    · exact (hheeds _).abides (by rw [hmode]; rfl)
  · exact (quiet_receiveFromPeer env header body l).abides
      (ignoresUpkeep_claims.receiveFromPeer env header body l)
  · exact .refl l
  · exact .refl l
  · exact .refl l
  · exact .refl l

/-- All frames but the answers to an attempt leave its choice alone. -/
theorem abides_handle {frame : Received}
    (hauthentication : ∀ header body, frame = .authentication header body →
      l.machine.mode ≠ .connecting)
    (hassociation : ∀ header status aid, frame = .associationResponse header status aid →
      l.machine.mode ≠ .connecting) (seized : Nat → Bool) (rssi : UInt8) :
    Abides l (l.handle env seized frame rssi) := by
  unfold handle
  split
  · exact (idles_receiveBeacon seized _ rssi l).abides
  · exact (idles_receiveBeacon seized _ rssi l).abides
  · split
    · rename_i hmode
      exact absurd hmode (hauthentication _ _ rfl)
    · exact (quiet_receivePeerAuthentication env _ _ l).abides
        (ignoresUpkeep_claims.receivePeerAuthentication env _ _ l)
    · exact .refl l
  · split
    · rename_i hmode
      exact absurd hmode (hassociation _ _ _ rfl)
    · exact .refl l
  · split
    · exact (quiet_receivePeerAssociation env _ l).abides
        (ignoresUpkeep_claims.receivePeerAssociation env _ l)
    · exact .refl l
  · exact abides_receiveDeauthentication env _ true l
  · exact abides_receiveDeauthentication env _ false l
  · exact abides_receiveData env _ _ l
  · exact .refl l
  · exact .refl l

end Link

end WlanControl
