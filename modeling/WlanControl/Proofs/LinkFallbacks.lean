import WlanControl.Proofs.LinkRequests

namespace WlanControl.Link

open WlanControl.Frame (Authentication Header RateSet Received StatusCode)

/-!
# The link layer — fallbacks

An access point may refuse the algorithm that a station asks for, or the rates that it claims.  An
attempt has one thing to fall back on for each: the open system in place of a shared key, and the
expanded set of rates in place of the native one.  What it fell back on stays until the next command
to connect, whatever is restarted in between.

* `refusesAlgorithm`, `refusesRates` — the refusals, of which the attempt takes notice;
* `Adapts` — what one action makes of the choice, with `adapts_step`;
* `countSteps` — how often something happens in a run, with `refusals` and `switches`;
* `Tallied` — the choice fits what was refused so far, with `Tallied.step` and `Tallied.run`.

Main statement: `concedes_run`, after a command to connect all runs without another one.
-/

variable {σ : Type} {l l' : Link σ} (env : Surroundings σ)

/-! ### Refusals -/

/-- The access point refuses the request that the station waits to be answered, since it wants more
rates. -/
def refusesRates (l : Link σ) : Action → Bool
  | .receive octets _ _ _ =>
    match Received.ofOctets octets with
    | .ok (.associationResponse header status _) =>
      l.machine.mode = .connecting && l.isFromTarget header &&
        l.machine.handshake.step = .associate && status = .unsupportedRates
    | _ => false
  | .post _ | .host _ | .tick _ _ => false

/-- The access point refuses the algorithm that the station asked for. -/
def refusesAlgorithm (l : Link σ) : Action → Bool
  | .receive octets _ _ _ =>
    match Received.ofOctets octets with
    | .ok (.authentication header body) =>
      l.machine.mode = .connecting && l.isFromTarget header &&
        l.machine.handshake.step = .authenticate && body.sequence = 2 &&
        body.status = .unsupportedAuthAlgorithm
    | _ => false
  | .post _ | .host _ | .tick _ _ => false

/-- A command to connect is taken. -/
def connects (l : Link σ) : Action → Bool
  | .tick _ _ =>
    match l.shared.commands.take.2 with
    | some (_, .connect _) => true
    | _ => false
  | .post _ | .host _ | .receive _ _ _ _ => false

/-- The link with the expanded set of rates to be claimed. -/
def expanded (l : Link σ) : Link σ :=
  { l with
    machine.handshake.rateSet := .expanded
    machine.handshake.expandedTried := true }

/-- The link with the open system to be asked for. -/
def opened (l : Link σ) : Link σ :=
  { l with
    machine.handshake.algorithm := .openSystem
    machine.handshake.openSystemTried := true }

/-- What an action that is no command to connect makes of the choice of an attempt. -/
inductive Adapts (env : Surroundings σ) (l : Link σ) (action : Action) : Prop
  | abides (hrates : refusesRates l action = false) (h : Abides l (l.step env action))
  /-- The rates are refused for the first time. -/
  | expands (hrates : refusesRates l action = true) (hfirst : l.choice.expandedTried = false)
    (h : Abides l.expanded (l.step env action))
  /-- The rates are refused once more, and the attempt is given up. -/
  | ends (hrates : refusesRates l action = true) (hagain : l.choice.expandedTried = true)
    (h : Abides l (l.step env action))
    (hmode : (l.step env action).machine.mode = .cannotConnect)
    (hfailure : (l.step env action).shared.status.failure = some .associationRejected)
  /-- The algorithm is refused. -/
  | opens (hrates : refusesRates l action = false) (hrefused : refusesAlgorithm l action = true)
    (hshared : l.choice.algorithm = .sharedKey) (h : Abides l.opened (l.step env action))
    (hretries : (l.step env action).machine.retries = l.machine.retries)

/-! ### Answers of the access point -/

/-- An answer to an authentication frame is followed by a fallback, or the choice is kept. -/
theorem receiveAuthentication_cases_choice (header : Header) (body : Authentication) (l : Link σ) :
    Heeds l (l.receiveAuthentication env header body) ∨
      l.isFromTarget header = true ∧ l.machine.handshake.step.awaits body.sequence = true ∧
        l.canFallBack body.status = true ∧
        l.receiveAuthentication env header body = l.noteHeard.opened.sendHandshakeFrame env := by
  have hheard : Heeds l l.noteHeard := .of_eq rfl rfl
  unfold receiveAuthentication
  split
  · exact .inl (.refl l)
  · rename_i hfrom
    simp only
    split
    · exact .inl hheard
    · rename_i hawaited
      split
      · exact .inl (hheard.trans ((keptByAttempts_heeds env).acceptAuthentication body _))
      · split
        · rename_i hback
          exact .inr ⟨by simpa using hfrom, by simpa [noteHeard] using hawaited, hback, rfl⟩
        · refine .inl (.trans ?_ ((keptByAttempts_heeds env).retryRejected _ _))
          exact .of_eq rfl rfl

/-- The rates are refused, or the choice is kept. -/
theorem receiveAssociationResponse_cases_choice (header : Header) (status : StatusCode)
    (aid : UInt16) (l : Link σ) :
    (¬ (l.isFromTarget header = true ∧ l.machine.handshake.step = .associate ∧
        status = .unsupportedRates) ∧
      Heeds l (l.receiveAssociationResponse env header status aid)) ∨
    (l.isFromTarget header = true ∧ l.machine.handshake.step = .associate ∧
      status = .unsupportedRates) ∧
      l.receiveAssociationResponse env header status aid = l.noteHeard.refuseRates env := by
  have hheard : Heeds l l.noteHeard := .of_eq rfl rfl
  unfold receiveAssociationResponse
  split
  -- Without a request that waits to be answered nothing is refused.
  · rename_i hother
    refine .inl ⟨?_, .refl l⟩
    rintro ⟨hfrom, hstep, -⟩
    simp [hfrom, hstep] at hother
  · rename_i hwaits
    have hfrom : l.isFromTarget header = true ∧ l.machine.handshake.step = .associate := by
      simpa using hwaits
    simp only
    split
    · rename_i hnone
      have hnone' : l.machine.target = none := hnone
      simp [isFromTarget, hnone'] at hfrom
    · split
      · refine .inl ⟨by simp, ?_⟩
        exact hheard.trans ((keptByAttempts_heeds env).acceptAssociation _ _ _)
      · exact .inr ⟨⟨hfrom.1, hfrom.2, rfl⟩, rfl⟩
      · rename_i hother
        refine .inl ⟨fun h => hother h.2.2, ?_⟩
        exact hheard.trans ((keptByAttempts_heeds env).retryRejected _ _)

/-- A second refusal of the rates ends the attempt, whatever is left of its budget. -/
theorem refuseRates_of_tried (hagain : l.choice.expandedTried = true) :
    l.refuseRates env = l.fail env .associationRejected := by
  unfold refuseRates
  exact if_pos hagain

theorem refuseRates_of_untried (hfirst : l.choice.expandedTried = false) :
    l.refuseRates env = l.expanded.retryRejected env .associationRejected := by
  unfold refuseRates
  exact if_neg (Bool.eq_false_iff.mp hfirst)

/-! ### What one action makes of the choice -/

/-- The rates are refused for the first time, or once more. -/
theorem adapts_of_refuseRates {action : Action} (hrates : refusesRates l action = true)
    (hlink : l.machine.mode.hasLink = true) {now : Nat}
    (hstep : l.step env action = (l.atTime now).noteHeard.refuseRates env) :
    Adapts env l action := by
  cases htried : l.choice.expandedTried with
  | false =>
    rw [refuseRates_of_untried env (l := (l.atTime now).noteHeard) htried] at hstep
    refine .expands hrates htried (Heeds.abides ?_ hlink)
    rw [hstep]
    refine .trans ?_ ((keptByAttempts_heeds env).retryRejected _ _)
    exact .of_eq rfl rfl
  | true =>
    rw [refuseRates_of_tried env (l := (l.atTime now).noteHeard) htried] at hstep
    have hended := congrArg Stage.mode
      (stage_fail env .associationRejected (l.atTime now).noteHeard)
    refine .ends hrates htried (Heeds.abides ?_ hlink) (by rw [hstep]; exact hended)
      (by rw [hstep]; rfl)
    rw [hstep]
    refine .trans ?_ ((keptByAttempts_heeds env).fail _ _)
    exact .of_eq rfl rfl

/-- The open system is asked for in place of a shared key. -/
theorem adapts_of_opened {action : Action} (hrates : refusesRates l action = false)
    (hrefused : refusesAlgorithm l action = true) (hshared : l.choice.algorithm = .sharedKey)
    (hlink : l.machine.mode.hasLink = true) {now : Nat}
    (hstep : l.step env action = (l.atTime now).noteHeard.opened.sendHandshakeFrame env) :
    Adapts env l action := by
  refine .opens hrates hrefused hshared (Heeds.abides ?_ hlink) ?_
  · rw [hstep]
    refine .trans ?_ (heeds_sendHandshakeFrame env _)
    exact .of_eq rfl rfl
  · rw [hstep, (transmits_sendHandshakeFrame env _).machine_eq]
    rfl

section Frames

variable {octets : List UInt8} {header : Header} {body : Authentication} {status : StatusCode}
  {aid : UInt16}

/-- Only the answer to a request refuses rates, and only while an attempt goes on. -/
theorem refusesRates_of_other
    (h : ∀ header status aid, Received.ofOctets octets =
      .ok (.associationResponse header status aid) → l.machine.mode ≠ .connecting)
    (rssi : UInt8) (now : Nat) (seized : Nat → Bool) :
    refusesRates l (.receive octets rssi now seized) = false := by
  unfold refusesRates
  simp only
  split
  · rename_i header status aid hread
    simp [h header status aid hread]
  · rfl

theorem refusesRates_iff
    (hread : Received.ofOctets octets = .ok (.associationResponse header status aid))
    (hmode : l.machine.mode = .connecting) (rssi : UInt8) (now : Nat) (seized : Nat → Bool) :
    refusesRates l (.receive octets rssi now seized) = true ↔
      l.isFromTarget header = true ∧ l.machine.handshake.step = .associate ∧
        status = .unsupportedRates := by
  simp [refusesRates, hread, hmode, and_assoc]

theorem mode_of_refusesRates {action : Action} (h : refusesRates l action = true) :
    l.machine.mode = .connecting := by
  unfold refusesRates at h
  split at h
  · split at h
    · simp only [Bool.and_eq_true, decide_eq_true_eq] at h
      exact h.1.1.1
    · cases h
  · cases h
  · cases h
  · cases h

theorem canFallBack_iff : l.canFallBack status = true ↔
    l.machine.handshake.step = .authenticate ∧ status = .unsupportedAuthAlgorithm ∧
      l.choice.algorithm = .sharedKey ∧ l.choice.openSystemTried = false := by
  simp [canFallBack, choice, and_assoc]

theorem refusesAlgorithm_of_canFallBack
    (hread : Received.ofOctets octets = .ok (.authentication header body))
    (hmode : l.machine.mode = .connecting) (hfrom : l.isFromTarget header = true)
    (hawaits : l.machine.handshake.step.awaits body.sequence = true)
    (hback : l.canFallBack body.status = true) (rssi : UInt8) (now : Nat) (seized : Nat → Bool) :
    refusesAlgorithm l (.receive octets rssi now seized) = true := by
  obtain ⟨hstep, hstatus, -⟩ := canFallBack_iff.mp hback
  rw [hstep] at hawaits
  have hsecond : body.sequence = 2 := by simpa [HandshakeStep.awaits] using hawaits
  simp [refusesAlgorithm, hread, hmode, hfrom, hstep, hsecond, hstatus]

theorem adapts_receive_authentication
    (hread : Received.ofOctets octets = .ok (.authentication header body))
    (hmode : l.machine.mode = .connecting) (rssi : UInt8) (now : Nat) (seized : Nat → Bool) :
    Adapts env l (.receive octets rssi now seized) := by
  have hlink : l.machine.mode.hasLink = true := by
    rw [hmode]
    rfl
  have hmode' : (l.atTime now).machine.mode = .connecting := hmode
  have hnow : Abides l (l.atTime now) := .of_eq rfl rfl id
  have hstep : l.step env (.receive octets rssi now seized) = _ :=
    receiveAmid_of_ok env (by simp [hmode]) hread seized rssi now
  simp only [handle, hmode'] at hstep
  have hrates : refusesRates l (.receive octets rssi now seized) = false :=
    refusesRates_of_other (by simp [hread]) rssi now seized
  rcases receiveAuthentication_cases_choice env header body (l.atTime now) with
    hheeds | ⟨hfrom, hawaits, hback, hopened⟩
  · rw [← hstep] at hheeds
    exact .abides hrates (hnow.trans (hheeds.abides hlink))
  · have hshared : l.choice.algorithm = .sharedKey := (canFallBack_iff.mp hback).2.2.1
    exact adapts_of_opened env hrates
      (refusesAlgorithm_of_canFallBack hread hmode hfrom hawaits hback rssi now seized) hshared
      hlink (hstep.trans hopened)

theorem adapts_receive_response
    (hread : Received.ofOctets octets = .ok (.associationResponse header status aid))
    (hmode : l.machine.mode = .connecting) (rssi : UInt8) (now : Nat) (seized : Nat → Bool) :
    Adapts env l (.receive octets rssi now seized) := by
  have hlink : l.machine.mode.hasLink = true := by
    rw [hmode]
    rfl
  have hmode' : (l.atTime now).machine.mode = .connecting := hmode
  have hnow : Abides l (l.atTime now) := .of_eq rfl rfl id
  have hstep : l.step env (.receive octets rssi now seized) = _ :=
    receiveAmid_of_ok env (by simp [hmode]) hread seized rssi now
  simp only [handle, hmode', if_true] at hstep
  have hiff := refusesRates_iff hread hmode rssi now seized
  rcases receiveAssociationResponse_cases_choice env header status aid (l.atTime now) with
    ⟨hother, hheeds⟩ | ⟨hrefused, hrefuses⟩
  · rw [← hstep] at hheeds
    exact .abides (Bool.eq_false_iff.mpr fun h => hother (hiff.mp h))
      (hnow.trans (hheeds.abides hlink))
  · exact adapts_of_refuseRates env (hiff.mpr hrefused) hlink (hstep.trans hrefuses)

end Frames

/-- What is received is an answer to the attempt, or it leaves its choice alone. -/
theorem adapts_receive (octets : List UInt8) (rssi : UInt8) (now : Nat) (seized : Nat → Bool)
    (l : Link σ) : Adapts env l (.receive octets rssi now seized) := by
  by_cases hauthentication : l.machine.mode = .connecting ∧ ∃ header body,
      Received.ofOctets octets = .ok (.authentication header body)
  · obtain ⟨hmode, header, body, hread⟩ := hauthentication
    exact adapts_receive_authentication env hread hmode rssi now seized
  by_cases hassociation : l.machine.mode = .connecting ∧ ∃ header status aid,
      Received.ofOctets octets = .ok (.associationResponse header status aid)
  · obtain ⟨hmode, header, status, aid, hread⟩ := hassociation
    exact adapts_receive_response env hread hmode rssi now seized
  have hnow : Abides l (l.atTime now) := .of_eq rfl rfl id
  refine .abides (refusesRates_of_other ?_ rssi now seized) ?_
  · intro header status aid hread hmode
    exact hassociation ⟨hmode, header, status, aid, hread⟩
  · show Abides l (l.receiveAmid env seized octets rssi now)
    rcases receiveAmid_cases env seized octets rssi now l with hidle | ⟨-, frame, hread, hheard⟩
    · rw [hidle]
      exact hnow
    · rw [hheard]
      refine hnow.trans (abides_handle env ?_ ?_ seized rssi)
      · rintro header body rfl hmode
        exact hauthentication ⟨hmode, header, body, hread⟩
      · rintro header status aid rfl hmode
        exact hassociation ⟨hmode, header, status, aid, hread⟩

/-- An action keeps the choice or falls back, unless it is a command to connect. -/
theorem adapts_step {action : Action} (h : connects l action = false) : Adapts env l action := by
  cases action with
  | post command => exact .abides rfl (.of_eq rfl rfl id)
  | host move => exact .abides rfl (.of_eq rfl rfl id)
  | tick now moves =>
    have hnow : Abides l (l.atTime now) := .of_eq rfl rfl id
    have hother (version : UInt32) (target : ConnectTarget) :
        (l.atTime now).shared.commands.take.2 ≠ some (version, .connect target) := by
      intro hcommand
      have hcommand' : l.shared.commands.take.2 = some (version, .connect target) := hcommand
      simp [connects, hcommand'] at h
    exact .abides rfl ((hnow.trans (abides_serveCommand env _ hother)).trans
      (abides_work env (fun step => (moves step).act) _))
  | receive octets rssi now seized => exact adapts_receive env octets rssi now seized l

/-! ### What was refused in a run -/

/-- How often something happens in a run. -/
def countSteps (env : Surroundings σ) (p : Link σ → Action → Bool) : List Action → Link σ → Nat
  | [], _ => 0
  | action :: rest, l => (p l action).toNat + countSteps env p rest (l.step env action)

theorem countSteps_append (p : Link σ → Action → Bool) (first rest : List Action) (l : Link σ) :
    countSteps env p (first ++ rest) l =
      countSteps env p first l + countSteps env p rest (run env first l) := by
  induction first generalizing l with
  | nil => exact (Nat.zero_add _).symm
  | cons action first ih =>
    show _ + countSteps env p (first ++ rest) _ = _ + countSteps env p first _ + _
    rw [ih, Nat.add_assoc]
    rfl

theorem countSteps_concat (p : Link σ → Action → Bool) (actions : List Action) (action : Action)
    (l : Link σ) : countSteps env p (actions ++ [action]) l =
      countSteps env p actions l + (p (run env actions l) action).toNat :=
  countSteps_append env p actions [action] l

/-- The algorithm of the attempt changes. -/
def switches (env : Surroundings σ) (l : Link σ) (action : Action) : Bool :=
  (l.step env action).choice.algorithm ≠ l.choice.algorithm

/-- The rates that are claimed once they were refused so often. -/
def ratesAfter (refusals : Nat) : RateSet := if refusals = 0 then .native else .expanded

/-- The choice fits what was refused so far, and how often the algorithm has changed. -/
structure Tallied (refused switched : Nat) (l : Link σ) : Prop where
  rateSet_eq : l.machine.mode.hasLink = true → l.choice.rateSet = ratesAfter refused
  tried_eq : l.machine.mode.hasLink = true → l.choice.expandedTried = decide (refused ≠ 0)
  switched : switched = 0 ∨ switched = 1 ∧ l.choice.algorithm = .openSystem

namespace Tallied

variable {refused switched : Nat}

theorem abides (h : Tallied refused switched l) (habides : Abides l l') :
    Tallied refused switched l' where
  rateSet_eq hlink := by
    rw [habides.choice_eq]
    exact h.rateSet_eq (habides.linked hlink)
  tried_eq hlink := by
    rw [habides.choice_eq]
    exact h.tried_eq (habides.linked hlink)
  switched := by
    rw [habides.choice_eq]
    exact h.switched

/-- The rates that are claimed are those that the refusals so far leave. -/
theorem claims_eq (h : Tallied refused switched l) (habides : Abides l l') : ∃ sent,
    claims l'.log = claims l.log ++ sent ∧ ∀ rates ∈ sent, rates = (ratesAfter refused).octets := by
  cases hlink : l.machine.mode.hasLink with
  | false => exact ⟨[], by rw [habides.silent hlink, List.append_nil], by simp⟩
  | true =>
    rw [← h.rateSet_eq hlink]
    exact habides.claims_eq

theorem expanded (h : Tallied refused switched l) : Tallied (refused + 1) switched l.expanded where
  rateSet_eq _ := by simp [choice, Link.expanded, ratesAfter]
  tried_eq _ := by simp [choice, Link.expanded]
  switched := h.switched

/-- Only a shared key is given up, so the algorithm has not changed before. -/
theorem opened (h : Tallied refused switched l) (hshared : l.choice.algorithm = .sharedKey) :
    Tallied refused (switched + 1) l.opened where
  rateSet_eq := h.rateSet_eq
  tried_eq := h.tried_eq
  switched := by
    rcases h.switched with hnone | ⟨-, hopen⟩
    · exact .inr ⟨by rw [hnone], rfl⟩
    · cases hshared.symm.trans hopen

/-- Without a link no rates are claimed. -/
theorem unlinked (h : Tallied refused switched l) (hidle : l.machine.mode.hasLink = false)
    (refused' : Nat) : Tallied refused' switched l where
  rateSet_eq hlink := absurd hlink (by simp [hidle])
  tried_eq hlink := absurd hlink (by simp [hidle])
  switched := h.switched

/-- Each action adds to the counts what happens in it. -/
theorem step (h : Tallied refused switched l) {action : Action}
    (hother : connects l action = false) :
    Tallied (refused + (refusesRates l action).toNat) (switched + (switches env l action).toNat)
      (l.step env action) := by
  have hkept (heq : (l.step env action).choice = l.choice) : switches env l action = false := by
    simp [switches, heq]
  cases adapts_step env hother with
  | abides hrates habides =>
    rw [hrates, hkept habides.choice_eq]
    exact h.abides habides
  | expands hrates hfirst habides =>
    have hsame : switches env l action = false := by
      rw [switches, habides.choice_eq]
      simp [choice, Link.expanded]
    rw [hrates, hsame]
    exact h.expanded.abides habides
  | ends hrates hagain habides hmode hfailure =>
    -- The count goes on without the choice, but nobody is left who claims rates by it.
    rw [hrates, hkept habides.choice_eq]
    exact (h.abides habides).unlinked (by rw [hmode]; rfl) _
  | opens hrates hrefused hshared habides hretries =>
    have hswitched : switches env l action = true := by
      rw [switches, habides.choice_eq, hshared]
      simp [choice, Link.opened]
    rw [hrates, hswitched]
    exact (h.opened hshared).abides habides

theorem run (h : Tallied refused switched l) {actions : List Action}
    (hother : countSteps env connects actions l = 0) :
    Tallied (refused + countSteps env refusesRates actions l)
      (switched + countSteps env (switches env) actions l) (run env actions l) := by
  -- By induction on the actions, with what was counted before as the counts to go on from.
  induction actions generalizing refused switched l with
  | nil => exact h
  | cons action rest ih =>
    obtain ⟨haction, hrest⟩ := Nat.add_eq_zero_iff.mp hother
    have haction' : connects l action = false := by simpa using haction
    have hrun := ih (h.step env haction') hrest
    rw [Nat.add_assoc, Nat.add_assoc] at hrun
    exact hrun

/-- Rates are refused once more exactly if the expanded set was tried. -/
theorem refused_ne (h : Tallied refused switched l) {action : Action}
    (hrates : refusesRates l action = true) : l.choice.expandedTried = true ↔ refused ≠ 0 := by
  rw [h.tried_eq (by rw [mode_of_refusesRates hrates]; rfl)]
  exact decide_eq_true_iff

/-- The requests that are sent in one action take its own refusal into account. -/
theorem claims_step (h : Tallied refused switched l) {action : Action}
    (hother : connects l action = false) : ∃ sent,
    claims (l.step env action).log = claims l.log ++ sent ∧
      ∀ rates ∈ sent, rates = (ratesAfter (refused + (refusesRates l action).toNat)).octets := by
  cases adapts_step env hother with
  | abides hrates habides =>
    rw [hrates]
    exact h.claims_eq habides
  | expands hrates hfirst habides =>
    rw [hrates]
    exact h.expanded.claims_eq habides
  | ends hrates hagain habides hmode hfailure =>
    -- The expanded set was claimed before.
    have hsame : ratesAfter (refused + 1) = ratesAfter refused := by
      simp [ratesAfter, (h.refused_ne hrates).mp hagain]
    rw [hrates, Bool.toNat_true, hsame]
    exact h.claims_eq habides
  | opens hrates hrefused hshared habides hretries =>
    rw [hrates]
    exact (h.opened hshared).claims_eq habides

/-- The attempt is given up if rates are refused once more. -/
theorem ended_step (h : Tallied refused switched l) {action : Action}
    (hrates : refusesRates l action = true) (hagain : refused ≠ 0) :
    (l.step env action).machine.mode = .cannotConnect ∧
      (l.step env action).shared.status.failure = some .associationRejected := by
  have hother : connects l action = false := by
    cases action with
    | tick => cases hrates
    | post | host | receive => rfl
  have htried := (h.refused_ne hrates).mpr hagain
  cases adapts_step env hother with
  | abides hrates' => cases hrates.symm.trans hrates'
  | expands _ hfirst => cases htried.symm.trans hfirst
  | ends _ _ _ hmode hfailure => exact ⟨hmode, hfailure⟩
  | opens hrates' => cases hrates.symm.trans hrates'

end Tallied

/-- An algorithm is only given up if it is a shared key and the access point refuses it. -/
theorem switched_step {action : Action} (hother : connects l action = false)
    (hswitches : switches env l action = true) : refusesAlgorithm l action = true ∧
      l.machine.handshake.algorithm = .sharedKey ∧
      (l.step env action).machine.handshake.algorithm = .openSystem ∧
      (l.step env action).machine.retries = l.machine.retries := by
  have hchanged := of_decide_eq_true hswitches
  cases adapts_step env hother with
  | abides _ habides => exact absurd (congrArg Choice.algorithm habides.choice_eq) hchanged
  | expands _ _ habides => exact absurd (congrArg Choice.algorithm habides.choice_eq) hchanged
  | ends _ _ habides => exact absurd (congrArg Choice.algorithm habides.choice_eq) hchanged
  | opens _ hrefused hshared habides hretries =>
    exact ⟨hrefused, hshared, congrArg Choice.algorithm habides.choice_eq, hretries⟩

/-! ### After a command to connect -/

/-- A new attempt starts with the native rates, unless the radio is disabled and there is none. -/
theorem tallied_connect (meanwhile : Meanwhile) {version : UInt32} {target : ConnectTarget}
    (hcommand : l.shared.commands.take.2 = some (version, .connect target)) :
    Tallied 0 0 (l.serveCommand env meanwhile) := by
  have hacknowledged {m : Link σ} (hm : Tallied 0 0 m) : Tallied 0 0 (m.acknowledge version) :=
    hm.abides (.of_eq rfl rfl id)
  rw [serveCommand_of_some env meanwhile hcommand]
  refine hacknowledged ?_
  unfold obey
  split
  · -- A disabled radio takes the command and ignores it.
    rename_i hdisabled
    have hidle : ¬ (l.taken version (.connect target)).machine.mode.hasLink = true := by
      rw [hdisabled]
      simp [Mode.hasLink]
    exact ⟨fun hlink => absurd hlink hidle, fun hlink => absurd hlink hidle, .inl rfl⟩
  · obtain ⟨ready, hready, hstarted⟩ := exists_isReady env target
      ((l.taken version (.connect target)).leaveMode env)
    have hchoice := (transmits_sendHandshakeFrame env ready).choice_eq
    have hstart : ready.choice.rateSet = .native ∧ ready.choice.expandedTried = false := by
      unfold choice
      rw [hready.machine_eq]
      exact ⟨rfl, rfl⟩
    simp only
    rw [← hchoice, ← hstarted] at hstart
    exact ⟨fun _ => hstart.1, fun _ => hstart.2, .inl rfl⟩

/-- What becomes of the choice of an attempt in a run that begins with the link `started`, once the
command to connect was taken by `l`, with the last action of the run. -/
structure Concedes (env : Surroundings σ) (l started : Link σ) (actions : List Action)
    (action : Action) : Prop where
  /-- Nothing was refused yet when the command was taken. -/
  opened : ∃ sent, claims started.log = claims l.log ++ sent ∧
    ∀ rates ∈ sent, rates = RateSet.native.octets
  /-- Each request claims the native rates until rates are refused, and the expanded set from then
  on. -/
  claims_eq : ∃ sent, claims (run env (actions ++ [action]) started).log =
    claims (run env actions started).log ++ sent ∧ ∀ rates ∈ sent,
      rates = (ratesAfter (countSteps env refusesRates (actions ++ [action]) started)).octets
  /-- The second refusal ends the attempt. -/
  ended : refusesRates (run env actions started) action = true →
    countSteps env refusesRates actions started ≠ 0 →
    (run env (actions ++ [action]) started).machine.mode = .cannotConnect ∧
      (run env (actions ++ [action]) started).shared.status.failure = some .associationRejected
  /-- A shared key is given up for the open system as it is refused, and that costs no retry. -/
  switched : switches env (run env actions started) action = true →
    refusesAlgorithm (run env actions started) action = true ∧
      (run env actions started).machine.handshake.algorithm = .sharedKey ∧
      (run env (actions ++ [action]) started).machine.handshake.algorithm = .openSystem ∧
      (run env (actions ++ [action]) started).machine.retries =
        (run env actions started).machine.retries
  switches_le : countSteps env (switches env) (actions ++ [action]) started ≤ 1

theorem Tallied.concedes (h : Tallied 0 0 l') (hopened : ∃ sent,
      claims l'.log = claims l.log ++ sent ∧ ∀ rates ∈ sent, rates = RateSet.native.octets)
    {actions : List Action} {action : Action}
    (hother : countSteps env connects (actions ++ [action]) l' = 0) :
    Concedes env l l' actions action := by
  have hall := h.run env hother
  rw [countSteps_concat, Nat.add_eq_zero_iff] at hother
  have hrun := h.run env hother.1
  have haction : connects (Link.run env actions l') action = false := by simpa using hother.2
  have hlast : Link.run env (actions ++ [action]) l' =
      (Link.run env actions l').step env action := run_append env actions [action] l'
  rw [Nat.zero_add, Nat.zero_add] at hrun hall
  refine ⟨hopened, ?_, ?_, ?_, ?_⟩
  · rw [hlast, countSteps_concat]
    exact hrun.claims_step env haction
  · rw [hlast]
    exact hrun.ended_step env
  · rw [hlast]
    exact switched_step env haction
  · rcases hall.switched with hnone | ⟨hone, -⟩
    · rw [hnone]
      exact Nat.zero_le 1
    · exact hone.le

/-- After a command to connect, as long as no other one is taken, in every run: requests claim the
native rates until the access point refuses these, and the expanded set ever after; the second
refusal ends the attempt; and the algorithm changes once at most, from a shared key to the open
system, when the access point refuses it, which costs no retry. -/
theorem concedes_run {version : UInt32} {target : ConnectTarget}
    (hcommand : l.shared.commands.take.2 = some (version, .connect target)) (now : Nat)
    (moves : Nat → HostMove) {actions : List Action} {action : Action}
    (hother : countSteps env connects (actions ++ [action]) (l.step env (.tick now moves)) = 0) :
    Concedes env l (l.step env (.tick now moves)) actions action := by
  let meanwhile : Meanwhile := fun step => (moves step).act
  have hserved : Tallied 0 0 ((l.atTime now).serveCommand env meanwhile) :=
    tallied_connect env meanwhile (l := l.atTime now) hcommand
  have hworked := abides_work env meanwhile ((l.atTime now).serveCommand env meanwhile)
  -- Until the command was acted upon no request was sent.
  obtain ⟨sent, hclaims, hsent⟩ := hserved.claims_eq hworked
  have hsilent : claims ((l.atTime now).serveCommand env meanwhile).log = claims l.log :=
    ignoresUpkeep_claims.serveCommand env meanwhile (l.atTime now)
  rw [hsilent] at hclaims
  exact (hserved.abides hworked).concedes env ⟨sent, hclaims, hsent⟩ hother

/-- The access point refuses the shared key. -/
def refusedAlgorithm : Action :=
  heard (Frame.authentication stationAddress networkAddress networkAddress 0
    { algorithm := .sharedKey
      sequence := 2
      status := .unsupportedAuthAlgorithm
      challenge := none } false)

/-- The access point wants more rates. -/
def refusedRates : Action :=
  heard (Frame.associationResponse stationAddress networkAddress 0 .unsupportedRates 0)

/-- A WEP network refuses the shared key and the native rates.  Then it ends the authentication and
believes the station once more. -/
def refusingActions : List Action :=
  [refusedAlgorithm, agreeing .openSystem 2 none, refusedRates, heardEnd .deauthentication,
    agreeing .openSystem 2 none]

theorem concedes_run_refusingActions :
    ∃ s l, attach .standard stationAddress () .fresh = (s, .ok l) ∧
      let env := Surroundings.answering .refused
      let commanded := run env ((askingActions .wep).take 3) l
      let started := commanded.step env undisturbed
      claims (run env refusingActions started).log =
        [RateSet.native.octets, RateSet.expanded.octets, RateSet.expanded.octets] ∧
      countSteps env (switches env) refusingActions started = 1 ∧
      refusesRates (run env refusingActions started) refusedRates = true ∧
      Concedes env commanded started refusingActions refusedRates := by
  have hattached : attach .standard stationAddress () .fresh = (_, .ok _) := rfl
  exact ⟨_, _, hattached, by decide +kernel, by decide +kernel, by decide +kernel,
    concedes_run _ (show _ = some (2, Command.connect (network .wep)) by decide +kernel) _ _
      (by decide +kernel)⟩

end WlanControl.Link
