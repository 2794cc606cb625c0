import WlanControl.Proofs.CommandTraffic

namespace WlanControl.Link

open WlanControl.Frame (Authentication Header Received StatusCode)

/-!
# The link layer — stages of an attempt

How far a connection attempt has come and what it has spent is all in a few numbers of the link
layer.  Ticks and frames move them in few ways, and a command starts them anew.

* `Stage` — where an attempt is, and `Stage.Turns` for what one tick or frame may make of it;
* `Stage.Orderly` — what holds of every stage, with `Stage.Turns.orderly`;
* `turns_restart`, `turns_receiveEapol`, … — every handler makes one turn at most;
* `Action.IsCommandless`, `Waits` — nothing is in the mailbox, and nothing comes into it.

Main statements: `turns_step`, an action without a command is one turn, and `orderly_run`, in every
run the stage is orderly.
-/

variable {σ : Type} {l l' : Link σ} (env : Surroundings σ) (meanwhile : Meanwhile)

/-! ### The count of retries -/

theorem toNat_spent_of_ne {retries : UInt8} (h : retries ≠ 255) :
    (spent retries).toNat = retries.toNat + 1 := by
  have hne : retries.toNat ≠ 255 := fun hall => h (UInt8.toNat_inj.mp hall)
  have hlt := retries.toNat_lt
  unfold spent
  rw [if_neg h, UInt8.toNat_add]
  simp only [UInt8.reduceToNat]
  omega

/-- The count goes up by one, but for the last one that there is. -/
theorem toNat_spent_bounds (retries : UInt8) :
    retries.toNat ≤ (spent retries).toNat ∧ (spent retries).toNat ≤ retries.toNat + 1 := by
  by_cases hall : retries = 255
  · rw [hall]
    decide
  · rw [toNat_spent_of_ne hall]
    omega

/-- The counter stops at 255, which no budget below lets it reach unnoticed. -/
theorem toNat_spent {retries budget : UInt8} (hleft : spent retries ≤ budget)
    (hbudget : budget < 255) : (spent retries).toNat = retries.toNat + 1 := by
  refine toNat_spent_of_ne ?_
  rintro rfl
  exact absurd hbudget (UInt8.not_lt.mpr hleft)

/-! ### Stages -/

/-- How far a connection attempt has come, and what was spent on it. -/
structure Stage where
  mode : Mode
  authLevel : AuthLevel
  step : HandshakeStep
  retries : UInt8
  budget : UInt8

/-- How far the connection attempt of a link layer has come. -/
def stage (l : Link σ) : Stage where
  mode := l.machine.mode
  authLevel := l.machine.authLevel
  step := l.machine.handshake.step
  retries := l.machine.retries
  budget := l.machine.settings.retryBudget

namespace Stage

variable {s s' : Stage}

/-- The stage in another mode.  An association goes only with a link. -/
def setMode (mode : Mode) (s : Stage) : Stage :=
  { s with
    mode
    authLevel := if !mode.hasLink && s.authLevel = .associated then .disconnected else s.authLevel }

/-- What a tick or a frame makes of an attempt. -/
inductive Turns : Stage → Stage → Prop
  | stays (s : Stage) : Turns s s
  /-- A frame is sent again, maybe the first one of the handshake. -/
  | retried {s : Stage} {step : HandshakeStep} (hmode : s.mode = .connecting)
    (hleft : spent s.retries ≤ s.budget) (hstep : step = s.step ∨ step = .authenticate) :
    Turns s { s with step, retries := spent s.retries }
  /-- The access point wants its challenge encrypted. -/
  | challenged {s : Stage} (hmode : s.mode = .connecting) (hstep : s.step = .authenticate) :
    Turns s { s with step := .challenge }
  /-- The access point believes who the station is. -/
  | authenticated {s : Stage} (hmode : s.mode = .connecting)
    (hstep : s.step = .authenticate ∨ s.step = .challenge) :
    Turns s { s with authLevel := .authenticated, step := .associate }
  /-- The access point lets the station in, and keys are exchanged next. -/
  | associated {s : Stage} (hmode : s.mode = .connecting) (hstep : s.step = .associate) :
    Turns s { s with authLevel := .associated, step := .keyExchange }
  /-- The access point lets the station in, which needs no keys. -/
  | admitted {s : Stage} (hmode : s.mode = .connecting) (hstep : s.step = .associate) :
    Turns s { s with mode := .connected, authLevel := .associated, step := .done }
  /-- The keys were exchanged. -/
  | secured {s : Stage} (hmode : s.mode.hasLink = true) (hstep : s.step = .keyExchange) :
    Turns s { s with mode := .connected, step := .done }
  /-- The access point ended the association. -/
  | deassociated {s : Stage} (hmode : s.mode.hasLink = true) :
    Turns s { s with mode := .connecting, authLevel := .deassociated, step := .authenticate }
  /-- The handshake starts over. -/
  | restarted {s : Stage} (hmode : s.mode.hasLink = true) (hleft : spent s.retries ≤ s.budget) :
    Turns s { s with
      mode := .connecting
      authLevel := .disconnected
      step := .authenticate
      retries := spent s.retries }
  /-- The attempt is given up. -/
  | failed {s : Stage} {step : HandshakeStep} {retries : UInt8} (hmode : s.mode.hasLink = true)
    (hretries : retries = s.retries ∨ retries = spent s.retries) :
    Turns s { s with mode := .cannotConnect, authLevel := .error, step, retries }

/-- What holds of every stage. -/
structure Orderly (s : Stage) : Prop where
  retries_le : s.mode.hasLink = true → s.retries ≤ s.budget
  /-- After the association was ended the handshake is back at authentication. -/
  step_of_deassociated : s.mode = .connecting → s.authLevel = .deassociated →
    s.step = .authenticate ∨ s.step = .challenge
  step_of_connected : s.mode = .connected → s.step = .done

/-- Without a link there is nothing to be orderly about. -/
theorem orderly_of_not_hasLink (hmode : s.mode.hasLink = false) : s.Orderly where
  retries_le := by
    intro hlink
    rw [hmode] at hlink
    cases hlink
  step_of_deassociated := by
    intro hconnecting
    rw [hconnecting] at hmode
    cases hmode
  step_of_connected := by
    intro hconnected
    rw [hconnected] at hmode
    cases hmode

theorem orderly_of_connecting (hmode : s.mode = .connecting) (hretries : s.retries ≤ s.budget)
    (hstep : s.authLevel = .deassociated → s.step = .authenticate ∨ s.step = .challenge) :
    s.Orderly where
  retries_le := fun _ => hretries
  step_of_deassociated := fun _ => hstep
  step_of_connected := by
    intro hconnected
    cases hmode.symm.trans hconnected

theorem orderly_of_connected (hmode : s.mode = .connected) (hretries : s.retries ≤ s.budget)
    (hstep : s.step = .done) : s.Orderly where
  retries_le := fun _ => hretries
  step_of_deassociated := by
    intro hconnecting
    cases hmode.symm.trans hconnecting
  step_of_connected := fun _ => hstep

namespace Turns

/-- The settings stay. -/
theorem budget_eq (h : Turns s s') : s'.budget = s.budget := by
  cases h <;> rfl

theorem orderly (h : Turns s s') (hs : s.Orderly) : s'.Orderly := by
  have hlink (hmode : s.mode = .connecting) : s.mode.hasLink = true := by
    rw [hmode]
    rfl
  cases h with
  | stays => exact hs
  | retried hmode hleft hstep =>
    refine orderly_of_connecting hmode hleft ?_
    intro hlevel
    rcases hstep with rfl | rfl
    · exact hs.step_of_deassociated hmode hlevel
    · exact .inl rfl
  | challenged hmode =>
    exact orderly_of_connecting hmode (hs.retries_le (hlink hmode)) fun _ => .inr rfl
  | authenticated hmode =>
    exact orderly_of_connecting hmode (hs.retries_le (hlink hmode)) fun hlevel => by cases hlevel
  | associated hmode =>
    exact orderly_of_connecting hmode (hs.retries_le (hlink hmode)) fun hlevel => by cases hlevel
  | admitted hmode => exact orderly_of_connected rfl (hs.retries_le (hlink hmode)) rfl
  | secured hmode => exact orderly_of_connected rfl (hs.retries_le hmode) rfl
  | deassociated hmode => exact orderly_of_connecting rfl (hs.retries_le hmode) fun _ => .inl rfl
  | restarted _ hleft => exact orderly_of_connecting rfl hleft fun hlevel => by cases hlevel
  | failed => exact orderly_of_not_hasLink rfl

end Turns

end Stage

/-! ### Stores -/

theorem Quiet.stage_eq (h : Quiet l l') : l'.stage = l.stage := by
  unfold stage
  rw [h.machine_eq]

theorem Transmits.stage_eq (h : Transmits l l') : l'.stage = l.stage := h.quiet.stage_eq

theorem stage_setAuthLevel (authLevel : AuthLevel) (l : Link σ) :
    (l.setAuthLevel authLevel).stage = { l.stage with authLevel } := rfl

theorem stage_setMode (mode : Mode) (l : Link σ) :
    (l.setMode mode).stage = l.stage.setMode mode := by
  unfold setMode Stage.setMode
  by_cases hdrop : (!mode.hasLink && l.machine.authLevel = .associated) = true
  · have hdrop' : (!mode.hasLink && l.stage.authLevel = .associated) = true := hdrop
    rw [if_pos hdrop, if_pos hdrop']
    rfl
  · have hdrop' : ¬ (!mode.hasLink && l.stage.authLevel = .associated) = true := hdrop
    rw [if_neg hdrop, if_neg hdrop']
    rfl

/-! ### The budget of an attempt -/

theorem stage_fail (failure : LinkError) (l : Link σ) : (l.fail env failure).stage =
    { l.stage with mode := .cannotConnect, authLevel := .error } := by
  have hleft := (transmits_leaveAp env l).stage_eq
  unfold fail
  show (setMode .cannotConnect _).stage = _
  rw [stage_setMode, stage_setAuthLevel, ← hleft]
  rfl

/-- Without a retry that is left the attempt fails, and the count tells that it was too many. -/
theorem stage_of_spendRetry_false {failure : LinkError}
    (hspent : l.spendRetry env failure = (l', false)) : l'.stage = { l.stage with
      mode := .cannotConnect, authLevel := .error, retries := spent l.machine.retries } := by
  unfold spendRetry at hspent
  simp only at hspent
  split at hspent
  · cases hspent
    exact stage_fail env failure _
  · cases hspent

/-- A retry that is left is spent, and nothing else happens. -/
theorem stage_of_spendRetry_true {failure : LinkError}
    (hspent : l.spendRetry env failure = (l', true)) :
    l'.stage = { l.stage with retries := spent l.machine.retries } ∧
      spent l.stage.retries ≤ l.stage.budget := by
  unfold spendRetry at hspent
  simp only at hspent
  split at hspent
  · cases hspent
  · rename_i hwithin
    cases hspent
    exact ⟨rfl, UInt8.not_lt.mp hwithin⟩

theorem turns_fail (hlink : l.machine.mode.hasLink = true) (failure : LinkError) :
    Stage.Turns l.stage (l.fail env failure).stage := by
  rw [stage_fail]
  exact .failed (s := l.stage) hlink (.inl rfl)

theorem turns_of_spendRetry_false (hlink : l.machine.mode.hasLink = true) {failure : LinkError}
    (hspent : l.spendRetry env failure = (l', false)) : Stage.Turns l.stage l'.stage := by
  rw [stage_of_spendRetry_false env hspent]
  exact .failed (s := l.stage) hlink (.inr rfl)

theorem turns_of_spendRetry_true (hmode : l.machine.mode = .connecting) {failure : LinkError}
    (hspent : l.spendRetry env failure = (l', true)) : Stage.Turns l.stage l'.stage := by
  obtain ⟨hstage, hleft⟩ := stage_of_spendRetry_true env hspent
  rw [hstage]
  exact .retried (s := l.stage) hmode hleft (.inl rfl)

theorem turns_restart (hlink : l.machine.mode.hasLink = true) :
    Stage.Turns l.stage (l.restart env).stage := by
  unfold restart
  split
  · rename_i failed hspent
    exact turns_of_spendRetry_false env hlink hspent
  · rename_i left hspent
    obtain ⟨hstage, hleft⟩ := stage_of_spendRetry_true env hspent
    rw [(transmits_sendHandshakeFrame env _).stage_eq, stage_setMode, stage_setAuthLevel]
    show Stage.Turns l.stage (Stage.setMode .connecting { left.stage with
      authLevel := .disconnected, step := .authenticate })
    rw [hstage]
    exact .restarted (s := l.stage) hlink hleft

/-- The frame that was refused is sent again.  The step may have gone back to the first one. -/
theorem turns_retryRejected {s : Stage} (hmode : s.mode = .connecting) (step : HandshakeStep)
    (hstage : l.stage = { s with step }) (hstep : step = s.step ∨ step = .authenticate)
    (failure : LinkError) : Stage.Turns s (l.retryRejected env failure).stage := by
  have hretries : l.machine.retries = s.retries := congrArg Stage.retries hstage
  unfold retryRejected
  split
  · rename_i failed hspent
    rw [stage_of_spendRetry_false env hspent, hstage, hretries]
    exact .failed (by rw [hmode]; rfl) (.inr rfl)
  · rename_i left hspent
    obtain ⟨hcounted, hleft⟩ := stage_of_spendRetry_true env hspent
    rw [(transmits_sendHandshakeFrame env _).stage_eq, hcounted, hstage, hretries]
    rw [hstage] at hleft
    exact .retried hmode hleft hstep

/-! ### Ticks -/

theorem turns_connectingTick (hmode : l.machine.mode = .connecting) :
    Stage.Turns l.stage (l.connectingTick env).stage := by
  have hlink : l.machine.mode.hasLink = true := by
    rw [hmode]
    rfl
  unfold connectingTick
  split
  · exact turns_restart env hlink
  · split
    · split
      · split
        · rename_i failed hspent
          exact turns_of_spendRetry_false env hlink hspent
        · rename_i left hspent
          show Stage.Turns l.stage left.stage
          exact turns_of_spendRetry_true env hmode hspent
      · split
        · rename_i failed hspent
          exact turns_of_spendRetry_false env hlink hspent
        · rename_i left hspent
          rw [(transmits_sendHandshakeFrame env _).stage_eq]
          show Stage.Turns l.stage left.stage
          exact turns_of_spendRetry_true env hmode hspent
    · exact .stays _

theorem stage_drainBurst (l : Link σ) : (l.drainBurst env).stage = l.stage := by
  refine drainBurst_keeps env (P := fun m => m.stage = l.stage) (fun _ h => h) ?_ rfl
  intro m bssid direction record h
  unfold forward
  split
  · exact h
  · exact (transmits_send env _ _).stage_eq.trans h

theorem turns_connectedTick (hmode : l.machine.mode = .connected) :
    Stage.Turns l.stage (l.connectedTick env).stage := by
  unfold connectedTick
  split
  · exact turns_restart env (by rw [hmode]; rfl)
  · simp only
    split
    · rw [(transmits_sendNullData env _).stage_eq, stage_drainBurst]
      exact .stays _
    · rw [stage_drainBurst]
      exact .stays _

theorem stage_accessPointTick (meanwhile : Meanwhile) (l : Link σ) :
    (l.accessPointTick env meanwhile).stage = l.stage := by
  unfold accessPointTick
  rw [stage_drainBurst]
  exact (quietAmid_hosting env l).keeps (P := fun m => m.stage = l.stage)
    (fun hquiet h => hquiet.stage_eq.trans h) (fun _ h => h) rfl

theorem turns_work (meanwhile : Meanwhile) (l : Link σ) :
    Stage.Turns l.stage (l.work env meanwhile).stage := by
  unfold work
  split
  · rw [(quiet_scanTick env l).stage_eq]
    exact .stays _
  · rename_i hmode
    exact turns_connectingTick env hmode
  · rename_i hmode
    exact turns_connectedTick env hmode
  · rw [stage_accessPointTick]
    exact .stays _
  · exact .stays _
  · exact .stays _
  · exact .stays _

/-! ### Frames -/

theorem HandshakeStep.authenticates_of_awaits {step : HandshakeStep} {sequence : UInt16}
    (h : step.awaits sequence = true) : step = .authenticate ∨ step = .challenge := by
  cases step with
  | authenticate => exact .inl rfl
  | challenge => exact .inr rfl
  | associate | keyExchange | done => cases h

theorem turns_acceptAuthentication (hmode : l.machine.mode = .connecting) {body : Authentication}
    (hawaits : l.machine.handshake.step.awaits body.sequence = true) :
    Stage.Turns l.stage (l.acceptAuthentication env body).stage := by
  unfold acceptAuthentication
  split
  · rename_i hstep _ _
    rw [(transmits_sendHandshakeFrame env _).stage_eq]
    exact .challenged (s := l.stage) hmode hstep
  · exact turns_retryRejected env (s := l.stage) hmode _ rfl (.inl rfl) _
  · unfold proceedToAssociation
    rw [(transmits_sendHandshakeFrame env _).stage_eq]
    exact .authenticated (s := l.stage) hmode (HandshakeStep.authenticates_of_awaits hawaits)

theorem turns_receiveAuthentication (hmode : l.machine.mode = .connecting) (header : Header)
    (body : Authentication) :
    Stage.Turns l.stage (l.receiveAuthentication env header body).stage := by
  unfold receiveAuthentication
  split
  · exact .stays _
  · simp only
    split
    · exact .stays _
    · rename_i hawaits
      split
      · exact turns_acceptAuthentication env (l := l.noteHeard) hmode (by simpa using hawaits)
      · split
        · rw [(transmits_sendHandshakeFrame env _).stage_eq]
          exact .stays _
        · -- A refused challenge starts over with the first frame.
          refine turns_retryRejected env (s := l.stage) hmode .authenticate ?_ (.inr rfl) _
          rfl

theorem stage_establish (l : Link σ) :
    l.establish.stage = { l.stage with mode := .connected, step := .done } := by
  unfold establish
  rw [stage_setMode]
  rfl

theorem turns_acceptAssociation (hmode : l.machine.mode = .connecting)
    (hstep : l.machine.handshake.step = .associate) (target : ConnectTarget) (aid : UInt16) :
    Stage.Turns l.stage (l.acceptAssociation env target aid).stage := by
  unfold acceptAssociation
  simp only
  split
  · split
    · rw [stage_fail]
      exact .failed (s := l.stage) (by rw [show l.stage.mode = _ from hmode]; rfl) (.inl rfl)
    · exact .associated (s := l.stage) hmode hstep
  · rw [stage_establish]
    exact .admitted (s := l.stage) hmode hstep

theorem turns_receiveAssociationResponse (hmode : l.machine.mode = .connecting) (header : Header)
    (status : StatusCode) (aid : UInt16) :
    Stage.Turns l.stage (l.receiveAssociationResponse env header status aid).stage := by
  have hlink : l.machine.mode.hasLink = true := by
    rw [hmode]
    rfl
  unfold receiveAssociationResponse
  split
  · exact .stays _
  · rename_i hawaited
    have hstep : l.machine.handshake.step = .associate := by
      simp only [Bool.or_eq_true, decide_eq_true_eq, not_or, not_not] at hawaited
      exact hawaited.2
    simp only
    split
    · exact .stays _
    · split
      · exact turns_acceptAssociation env (l := l.noteHeard) hmode hstep _ aid
      · unfold refuseRates
        split
        · exact turns_fail env (l := l.noteHeard) hlink _
        · refine turns_retryRejected env (s := l.stage) hmode l.stage.step ?_ (.inl rfl) _
          rfl
      · refine turns_retryRejected env (s := l.stage) hmode l.stage.step ?_ (.inl rfl) _
        rfl

theorem turns_receiveDeauthentication (header : Header) (entirely : Bool) (l : Link σ) :
    Stage.Turns l.stage (l.receiveDeauthentication env header entirely).stage := by
  have hended (hlink : l.machine.mode.hasLink = true) : Stage.Turns l.stage
      (if !l.isFromTarget header then l else if entirely then l.restart env
        else l.deassociate).stage := by
    split
    · exact .stays _
    · split
      · exact turns_restart env hlink
      · unfold deassociate
        rw [stage_setMode, stage_setAuthLevel]
        exact .deassociated (s := l.stage) hlink
  unfold receiveDeauthentication
  split
  · rename_i hmode
    exact hended (by rw [hmode]; rfl)
  · rename_i hmode
    exact hended (by rw [hmode]; rfl)
  · split
    · rw [(quiet_dismiss _ _).stage_eq]
      exact .stays _
    · exact .stays _
  · exact .stays _
  · exact .stays _
  · exact .stays _
  · exact .stays _

theorem turns_receiveEapol (hlink : l.machine.mode.hasLink = true) (payload : List UInt8) :
    Stage.Turns l.stage (l.receiveEapol env payload).stage := by
  unfold receiveEapol
  split
  · exact .stays _
  · simp only
    generalize hreplied : (if (l.exchange env payload).2.reply.isEmpty then
      (l.exchange env payload).1 else _) = replied
    have hstage : replied.stage = l.stage := by
      rw [← hreplied]
      split
      · rfl
      · exact (transmits_sendDataToAp env _ _ _ _).stage_eq
    rw [← hstage]
    have hlink' : replied.stage.mode.hasLink = true := by
      rw [hstage]
      exact hlink
    split
    · exact .stays _
    · split
      · rename_i hkeys
        rw [stage_establish]
        exact .secured (s := replied.stage) hlink' hkeys
      · exact .stays _
    · exact turns_fail env hlink' _

theorem turns_receiveFromNetwork (hlink : l.machine.mode.hasLink = true) (target : ConnectTarget)
    (header : Header) (body : List UInt8) :
    Stage.Turns l.stage (l.receiveFromNetwork env target header body).stage := by
  unfold receiveFromNetwork
  split
  · exact .stays _
  · simp only
    split
    · exact .stays _
    · split
      · exact turns_receiveEapol env (l := l.noteHeard) hlink _
      · split
        · rw [(quiet_deliver _ _).stage_eq]
          exact .stays _
        · exact .stays _

theorem turns_receiveData (header : Header) (body : List UInt8) (l : Link σ) :
    Stage.Turns l.stage (l.receiveData env header body).stage := by
  unfold receiveData
  split
  · rename_i hmode
    split
    · exact .stays _
    · exact turns_receiveFromNetwork env (by rw [hmode]; rfl) _ header body
  · rename_i hmode
    split
    · exact .stays _
    · exact turns_receiveFromNetwork env (by rw [hmode]; rfl) _ header body
  · rw [(quiet_receiveFromPeer env _ _ _).stage_eq]
    exact .stays _
  · exact .stays _
  · exact .stays _
  · exact .stays _
  · exact .stays _

theorem turns_handle (seized : Nat → Bool) (frame : Received) (rssi : UInt8) (l : Link σ) :
    Stage.Turns l.stage (l.handle env seized frame rssi).stage := by
  unfold handle
  split
  · rw [(quiet_receiveBeacon _ _ _ _).stage_eq]
    exact .stays _
  · rw [(quiet_receiveBeacon _ _ _ _).stage_eq]
    exact .stays _
  · split
    · rename_i hmode
      exact turns_receiveAuthentication env hmode _ _
    · rw [(quiet_receivePeerAuthentication env _ _ _).stage_eq]
      exact .stays _
    · exact .stays _
  · split
    · rename_i hmode
      exact turns_receiveAssociationResponse env hmode _ _ _
    · exact .stays _
  · split
    · rw [(quiet_receivePeerAssociation env _ _).stage_eq]
      exact .stays _
    · exact .stays _
  · exact turns_receiveDeauthentication env _ true l
  · exact turns_receiveDeauthentication env _ false l
  · exact turns_receiveData env _ _ l
  · exact .stays _
  · exact .stays _

theorem turns_receiveAmid (seized : Nat → Bool) (octets : List UInt8) (rssi : UInt8) (now : Nat)
    (l : Link σ) : Stage.Turns l.stage (l.receiveAmid env seized octets rssi now).stage := by
  rcases receiveAmid_cases env seized octets rssi now l with hidle | ⟨-, frame, -, hheard⟩
  · rw [hidle]
    exact .stays _
  · rw [hheard]
    exact turns_handle env seized frame rssi (l.atTime now)

/-! ### Commands -/

/-- A new attempt starts with all of its budget. -/
theorem stage_startConnecting (target : ConnectTarget) (l : Link σ) :
    (l.startConnecting env target).stage = { l.stage with
      mode := .connecting, authLevel := .disconnected, step := .authenticate, retries := 0 } := by
  unfold startConnecting
  rw [(transmits_sendHandshakeFrame env _).stage_eq, stage_setMode, stage_setAuthLevel]
  simp only
  split <;> rfl

theorem stage_startScan (l : Link σ) : (l.startScan env).stage = l.stage.setMode .scanning := by
  unfold startScan
  rw [(transmits_sendProbeRequest env _).stage_eq, stage_setMode]
  rfl

theorem stage_startHosting (parameters : HostParameters) (l : Link σ) :
    (l.startHosting env parameters).stage =
      Stage.setMode .accessPoint { l.stage with authLevel := .disconnected } := by
  unfold startHosting
  rw [stage_setMode, stage_setAuthLevel]
  simp only
  split <;> rfl

theorem stage_leaveMode (l : Link σ) : (l.leaveMode env).stage =
    Stage.setMode .normal { l.stage with authLevel := .disconnected } := by
  unfold leaveMode
  rw [stage_setMode, stage_setAuthLevel]
  congr 2
  -- What each mode needs to be left changes nothing of the attempt.
  split
  · rw [show stage (endLink env _) = _ from (transmits_leaveAp env l).stage_eq]
  · rw [show stage (endLink env _) = _ from (transmits_leaveAp env l).stage_eq]
  · rfl
  · obtain ⟨ended, hquiet, hended⟩ := quiet_endSession env l
    rw [hended, show stage { ended with machine.host := none, machine.currentPeers := 0 } = _ from
      hquiet.stage_eq]
  · rfl
  · rfl
  · rfl

theorem orderly_startConnecting (target : ConnectTarget) (l : Link σ) :
    (l.startConnecting env target).stage.Orderly := by
  rw [stage_startConnecting]
  exact Stage.orderly_of_connecting rfl (UInt8.le_iff_toNat_le.mpr (Nat.zero_le _))
    fun hlevel => by cases hlevel

/-- A command to connect starts an attempt, unless the radio is disabled. -/
theorem orderly_connect (target : ConnectTarget) (l : Link σ) :
    (l.obey env meanwhile (.connect target)).stage.Orderly := by
  unfold obey
  split
  · rename_i hmode
    refine Stage.orderly_of_not_hasLink ?_
    rw [show l.stage.mode = _ from hmode]
    rfl
  · exact orderly_startConnecting env target _

theorem orderly_obey (h : l.stage.Orderly) (command : Command) :
    (l.obey env meanwhile command).stage.Orderly := by
  unfold obey
  split
  · cases command with
    | enable =>
      show (l.setMode .normal).stage.Orderly
      rw [stage_setMode]
      exact Stage.orderly_of_not_hasLink rfl
    | powerOff | stop | scan | connect | host => exact h
  · cases command with
    | enable => exact h
    | powerOff =>
      show ((l.leaveMode env).setMode .disabled).stage.Orderly
      rw [stage_setMode]
      exact Stage.orderly_of_not_hasLink rfl
    | stop =>
      show (l.leaveMode env).stage.Orderly
      rw [stage_leaveMode]
      exact Stage.orderly_of_not_hasLink rfl
    | scan =>
      show ((l.leaveMode env).startScan env).stage.Orderly
      rw [stage_startScan]
      exact Stage.orderly_of_not_hasLink rfl
    | connect target => exact orderly_startConnecting env target _
    | host parameters =>
      show (((l.leaveMode env).pause meanwhile 0).startHosting env parameters).stage.Orderly
      rw [stage_startHosting]
      exact Stage.orderly_of_not_hasLink rfl

/-- No command changes the settings. -/
theorem budget_obey (command : Command) (l : Link σ) :
    (l.obey env meanwhile command).stage.budget = l.stage.budget := by
  have hleft : (l.leaveMode env).stage.budget = l.stage.budget := by
    rw [stage_leaveMode]
    rfl
  unfold obey
  split
  · cases command with
    | enable =>
      show (l.setMode .normal).stage.budget = _
      rw [stage_setMode]
      rfl
    | powerOff | stop | scan | connect | host => rfl
  · cases command with
    | enable => rfl
    | powerOff =>
      show ((l.leaveMode env).setMode .disabled).stage.budget = _
      rw [stage_setMode]
      exact hleft
    | stop => exact hleft
    | scan =>
      show ((l.leaveMode env).startScan env).stage.budget = _
      rw [stage_startScan]
      exact hleft
    | connect target =>
      show ((l.leaveMode env).startConnecting env target).stage.budget = _
      rw [stage_startConnecting]
      exact hleft
    | host parameters =>
      show (((l.leaveMode env).pause meanwhile 0).startHosting env parameters).stage.budget = _
      rw [stage_startHosting]
      exact hleft

/-- What obeying a command brings about, serving it does. -/
theorem serveCommand_keeps {P : Stage → Prop} (h : P l.stage)
    (hobey : ∀ {taken : Link σ} version command, taken.stage = l.stage →
      l.shared.commands.take.2 = some (version, command) →
        P (taken.obey env meanwhile command).stage) :
    P (l.serveCommand env meanwhile).stage := by
  unfold serveCommand
  split
  · rename_i commands version command htake
    exact hobey version command rfl (congrArg Prod.snd htake)
  · exact h

theorem orderly_serveCommand (h : l.stage.Orderly) :
    (l.serveCommand env meanwhile).stage.Orderly := by
  refine serveCommand_keeps env meanwhile (P := Stage.Orderly) h ?_
  intro taken _ command hstage _
  rw [← hstage] at h
  exact orderly_obey env meanwhile h command

theorem budget_serveCommand (l : Link σ) :
    (l.serveCommand env meanwhile).stage.budget = l.stage.budget := by
  refine serveCommand_keeps env meanwhile (P := fun s => s.budget = l.stage.budget) rfl ?_
  intro taken _ command hstage _
  rw [budget_obey, hstage]

/-! ### All runs -/

theorem orderly_step (h : l.stage.Orderly) (action : Action) :
    (l.step env action).stage.Orderly := by
  cases action with
  | post command => exact h
  | host move => exact h
  | tick now moves =>
    have hnow : (l.atTime now).stage.Orderly := h
    exact (turns_work env _ _).orderly (orderly_serveCommand env _ hnow)
  | receive octets rssi now seized => exact (turns_receiveAmid env _ _ _ _ l).orderly h

theorem orderly_run (h : l.stage.Orderly) (actions : List Action) :
    (run env actions l).stage.Orderly :=
  run_of_step env (P := fun l => l.stage.Orderly) h (fun hl => orderly_step env hl) actions

/-- A link layer that was just attached has no attempt. -/
theorem orderly_attach {settings : Settings} {address : MacAddress} {outside : σ}
    {s s' : SharedState} (h : attach settings address outside s = (s', .ok l)) :
    l.stage.Orderly := by
  obtain ⟨producer, rx, tx, rfl⟩ := attach_eq_ok h
  exact Stage.orderly_of_not_hasLink rfl

/-! ### Actions without a command -/

/-- Nothing is in the mailbox. -/
def Waits (l : Link σ) : Prop := l.shared.commands.slot.value = none

instance (l : Link σ) : Decidable l.Waits :=
  inferInstanceAs (Decidable (l.shared.commands.slot.value = none))

/-- The host posts no command. -/
def HostMove.PostsNothing (move : HostMove) : Prop :=
  ∀ s, s.commands.slot.value = none → (move.act s).commands.slot.value = none

/-- No command comes with what happens. -/
def Action.IsCommandless : Action → Prop
  | .post _ => False
  | .host move => move.PostsNothing
  | .tick _ moves => ∀ step, (moves step).PostsNothing
  | .receive _ _ _ _ => True

theorem waits_of_wire_eq (hwire : l'.wire = l.wire) (h : l.Waits) : l'.Waits := by
  have hcommands : l'.shared.commands = l.shared.commands := congrArg Wire.commands hwire
  unfold Waits
  rw [hcommands]
  exact h

/-- From an empty mailbox nothing is taken. -/
theorem serveCommand_of_waits (h : l.Waits) : l.serveCommand env meanwhile = l := by
  refine serveCommand_of_none env meanwhile ?_
  obtain ⟨-, ⟨posted, -, hfull, -⟩ | ⟨hnone, -⟩⟩ := l.shared.commands.take_cases
  · cases (show l.shared.commands.slot.value = none from h).symm.trans hfull
  · exact hnone

section Posts

variable {meanwhile : Meanwhile} (hposts : ∀ step s, s.commands.slot.value = none →
  (meanwhile step s).commands.slot.value = none)
include hposts

theorem waits_obey (hwait : l.Waits) (command : Command) :
    (l.obey env meanwhile command).Waits := by
  cases command with
  | host parameters =>
    unfold obey
    split
    · exact hwait
    · have hleft : (l.leaveMode env).Waits := waits_of_wire_eq (wire_leaveMode env l) hwait
      have hpaused : ((l.leaveMode env).pause meanwhile 0).Waits := hposts 0 _ hleft
      exact waits_of_wire_eq (wire_startHosting env parameters _) hpaused
  -- The host has no part in any other command.
  | enable | powerOff | stop | scan | connect =>
    rw [obey_eq_idle env (by simp)]
    exact waits_of_wire_eq (wire_obey env Meanwhile.sparesWire_idle _ l) hwait

/-- Nothing is left behind a command that was taken. -/
theorem waits_serveCommand {version : UInt32} {command : Command}
    (htake : l.shared.commands.take.2 = some (version, command)) :
    (l.serveCommand env meanwhile).Waits := by
  obtain ⟨-, ⟨posted, -, -, hempty⟩ | ⟨hnone, -⟩⟩ := l.shared.commands.take_cases
  · unfold serveCommand
    split
    · rename_i commands version command htaken
      rw [htaken] at hempty
      exact waits_obey env hposts
        (l := { l with shared.commands := _, log := .commanded version command :: l.log })
        hempty command
    · rename_i hnone
      rw [hnone] at htake
      cases htake
  · cases hnone.symm.trans htake

theorem waits_work (hwait : l.Waits) : (l.work env meanwhile).Waits := by
  unfold work
  split
  · exact waits_of_wire_eq (quiet_scanTick env l).wire_eq hwait
  · exact waits_of_wire_eq (wire_of_course_eq (course_connectingTick env l)) hwait
  · exact waits_of_wire_eq (wire_of_course_eq (course_connectedTick env l)) hwait
  · unfold accessPointTick
    refine waits_of_wire_eq (wire_of_course_eq (course_drainBurst env _)) ?_
    exact (quietAmid_hosting env l).keeps (P := Waits)
      (fun hquiet h => waits_of_wire_eq hquiet.wire_eq h) (fun step h => hposts step _ h) hwait
  · exact hwait
  · exact hwait
  · exact hwait

end Posts

theorem waits_step (hwait : l.Waits) {action : Action} (haction : action.IsCommandless) :
    (l.step env action).Waits := by
  cases action with
  | post command => cases haction
  | host move => exact haction _ hwait
  | tick now moves =>
    have hnow : (l.atTime now).Waits := hwait
    show (((l.atTime now).serveCommand env _).work env _).Waits
    rw [serveCommand_of_waits env _ hnow]
    exact waits_work env haction hnow
  | receive octets rssi now seized => exact waits_of_wire_eq (wire_receiveAmid env _ _ _ _ l) hwait

/-- While no command comes, whatever happens is one turn of the attempt. -/
theorem turns_step (hwait : l.Waits) {action : Action} (haction : action.IsCommandless) :
    Stage.Turns l.stage (l.step env action).stage := by
  cases action with
  | post command => cases haction
  | host move => exact .stays _
  | tick now moves =>
    have hnow : (l.atTime now).Waits := hwait
    show Stage.Turns (l.atTime now).stage (((l.atTime now).serveCommand env _).work env _).stage
    rw [serveCommand_of_waits env _ hnow]
    exact turns_work env _ _
  | receive octets rssi now seized => exact turns_receiveAmid env _ _ _ _ l

end WlanControl.Link
