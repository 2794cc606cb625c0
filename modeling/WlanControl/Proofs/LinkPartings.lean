import WlanControl.Proofs.LinkUtterances

namespace WlanControl

open WlanControl.Frame (Authentication Draft Header)

/-!
# The link layer — access points that leave

An access point that ends its session tells its stations, and each of them starts over when it
hears that.  While the host uses the roster the access point does not know whom to tell, and one
frame goes to all stations at once.  Stations only listen to frames for themselves, so none of them
hears it.

* `Frame.Draft.IsPartingOf` — what is sent while a mode is left and the next one is opened, with
  `Frame.Draft.dismissed?` for whom it sends away;
* `Link.mode_receive_dismissed`, `Link.receive_of_not_dismissed` — a connected station gives up its
  link for a frame that sends it away, and for no other one;
* `Link.MemberOf` — a station in the session of an access point, whoever uses the roster.

Main statements: `Link.stays_connected_iff_held`, exactly the stations of a session whose roster is
in use stay connected to it when it has ended, and `Link.stays_connected_after_session`, a station
for which this is so.
-/

namespace Frame.Draft

/-- What `sender` may send while it leaves a mode and opens the next one. -/
def IsPartingOf (sender : MacAddress) : Draft → Prop
  | .probeRequest _ _ => True
  | .deauthentication _ transmitter _ _ => transmitter = sender
  | .authentication _ _ _ body _ => body.sequence = 1
  | _ => False

/-- Whom a frame sends away. -/
def dismissed? : Draft → Option MacAddress
  | .deauthentication receiver _ _ _ => some receiver
  | _ => none

end Frame.Draft

namespace Link

variable {σ τ : Type} {l : Link σ} {env : Surroundings σ} {draft : Draft} {frame : List UInt8}
  {sender : MacAddress}

/-! ### One frame -/

/-- The handshake starts over, or the attempt is given up. -/
theorem mode_restart_ne (env : Surroundings σ) (l : Link σ) :
    (l.restart env).machine.mode ≠ .connected := by
  show (l.restart env).stage.mode ≠ .connected
  unfold restart
  split
  · rename_i failed hspent
    rw [stage_of_spendRetry_false env hspent]
    show Mode.cannotConnect ≠ .connected
    decide
  · rw [(transmits_sendHandshakeFrame env _).stage_eq, stage_setMode]
    show Mode.connecting ≠ .connected
    decide

/-- The first frame of a handshake is never waited for. -/
theorem awaits_one (step : HandshakeStep) : step.awaits 1 = false := by
  cases step <;> rfl

theorem Quiet.mode_eq {l' : Link σ} (h : Quiet l l') : l'.machine.mode = l.machine.mode := by
  rw [h.machine_eq]

/-- Nobody gets a link by the first frame of a handshake. -/
theorem mode_receiveAuthentication_one (header : Header) {body : Authentication}
    (hsequence : body.sequence = 1) (l : Link σ) :
    (l.receiveAuthentication env header body).machine.mode = l.machine.mode := by
  unfold receiveAuthentication
  split
  · rfl
  · simp only
    rw [hsequence, awaits_one]
    rfl

/-- Nobody gets a link by what others send when they leave. -/
theorem mode_receive_ne (h : l.machine.mode ≠ .connected) (hdraft : draft.IsPartingOf sender)
    (hreads : draft.Reads frame) (seized : Nat → Bool) (rssi : UInt8) (now : Nat) :
    (l.receiveAmid env seized frame rssi now).machine.mode ≠ .connected := by
  have hlater : (l.atTime now).machine.mode ≠ .connected := h
  rcases receiveAmid_cases env seized frame rssi now l with hidle | ⟨henabled, -⟩
  · rw [hidle]
    exact hlater
  · obtain ⟨number, hheard⟩ := receiveAmid_of_reads env henabled hreads
    rw [hheard]
    generalize l.atTime now = l at hlater ⊢
    -- Of these frames only a goodbye does anything to a station, and it leads to no link.
    cases draft with
    | probeRequest => exact hlater
    | deauthentication receiver transmitter bssid reason =>
      show (l.receiveDeauthentication env _ true).machine.mode ≠ _
      unfold receiveDeauthentication
      split
      · split
        · exact hlater
        · exact mode_restart_ne env l
      · rename_i hconnected
        exact absurd hconnected hlater
      · split
        · rw [(quiet_dismiss _ l).mode_eq]
          exact hlater
        · exact hlater
      · exact hlater
      · exact hlater
      · exact hlater
      · exact hlater
    | authentication receiver transmitter bssid body encrypted =>
      unfold Draft.received handle
      simp only
      split
      · rw [mode_receiveAuthentication_one _ hdraft]
        exact hlater
      · rw [(quiet_receivePeerAuthentication env _ body l).mode_eq]
        exact hlater
      · exact hlater
    | associationRequest | associationResponse | disassociation | beacon | data => cases hdraft

/-- A station is connected to an access point. -/
structure ConnectedTo (network : MacAddress) (l : Link σ) : Prop where
  connected : l.machine.mode = .connected
  target : ∃ target, l.machine.target = some target ∧ target.bssid = network

/-- A connected station gives up its link for a frame that sends it away. -/
theorem mode_receive_dismissed (env : Surroundings σ) (h : l.ConnectedTo sender)
    (hdraft : draft.IsPartingOf sender) (hreads : draft.Reads frame)
    (hdismissed : draft.dismissed? = some l.machine.address)
    (seized : Nat → Bool) (rssi : UInt8) (now : Nat) :
    (l.receiveAmid env seized frame rssi now).machine.mode ≠ .connected := by
  obtain ⟨target, htarget, hbssid⟩ := h.target
  obtain ⟨number, hheard⟩ :=
    receiveAmid_of_reads env (by rw [h.connected]; decide) hreads
  rw [hheard]
  cases draft with
  | deauthentication receiver transmitter bssid reason =>
    cases hdismissed
    cases hdraft
    have hours : (l.atTime now).isFromTarget
        (.management .deauthentication l.machine.address sender bssid number) = true := by
      unfold isFromTarget
      rw [show (l.atTime now).machine.target = _ from htarget]
      simp [Frame.Header.management, atTime, hbssid]
    show ((l.atTime now).receiveDeauthentication env _ true).machine.mode ≠ _
    unfold receiveDeauthentication
    rw [show (l.atTime now).machine.mode = _ from h.connected]
    simp only
    rw [hours]
    exact mode_restart_ne env _
  | probeRequest | authentication | associationRequest | associationResponse | disassociation
  | beacon | data => cases hdismissed

/-- A connected station listens to nothing else that is sent when others leave. -/
theorem receive_of_not_dismissed (h : l.ConnectedTo sender) (hdraft : draft.IsPartingOf sender)
    (hreads : draft.Reads frame) (hdismissed : draft.dismissed? ≠ some l.machine.address)
    (seized : Nat → Bool) (rssi : UInt8) (now : Nat) :
    l.receiveAmid env seized frame rssi now = l.atTime now := by
  obtain ⟨number, hheard⟩ :=
    receiveAmid_of_reads env (by rw [h.connected]; decide) hreads
  have hconnected : (l.atTime now).machine.mode = .connected := h.connected
  rw [hheard]
  cases draft with
  | probeRequest => rfl
  | deauthentication receiver transmitter bssid reason =>
    -- The frame has another receiver, which may be all stations.
    obtain ⟨target, htarget, -⟩ := h.target
    have hothers : (l.atTime now).isFromTarget
        (.management .deauthentication receiver transmitter bssid number) = false := by
      have hne : receiver ≠ l.machine.address := fun heq => hdismissed (congrArg some heq)
      unfold isFromTarget
      rw [show (l.atTime now).machine.target = _ from htarget]
      simp [Frame.Header.management, atTime, hne]
    show (l.atTime now).receiveDeauthentication env _ true = _
    unfold receiveDeauthentication
    rw [hconnected]
    simp only
    rw [hothers]
    rfl
  | authentication receiver transmitter bssid body encrypted =>
    unfold Draft.received handle
    simp only
    rw [hconnected]
  | associationRequest | associationResponse | disassociation | beacon | data => cases hdraft

/-! ### All frames of an access point that leaves -/

/-- What is not connected does not become so. -/
theorem mode_run_ne {drafts : List Draft} {frames : List (List UInt8)} {actions : List Action}
    (hdrafts : ∀ draft ∈ drafts, draft.IsPartingOf sender)
    (hreads : List.Forall₂ Draft.Reads drafts frames)
    (hactions : List.Forall₂ Action.IsHearing frames actions) (h : l.machine.mode ≠ .connected) :
    (run env actions l).machine.mode ≠ .connected := by
  induction hreads generalizing l actions with
  | nil =>
    cases hactions
    exact h
  | @cons draft frame drafts frames hread _ ih =>
    obtain ⟨action, actions, ⟨rssi, now, seized, rfl⟩, hrest, rfl⟩ :=
      List.forall₂_cons_left_iff.mp hactions
    obtain ⟨hdraft, hdrafts⟩ := List.forall_mem_cons.mp hdrafts
    show (run env actions (l.receiveAmid env seized frame rssi now)).machine.mode ≠ _
    exact ih hdrafts hrest (mode_receive_ne h hdraft hread seized rssi now)

/-- A station stays connected exactly if none of the frames sends it away. -/
theorem mode_run_iff {drafts : List Draft} {frames : List (List UInt8)} {actions : List Action}
    (hdrafts : ∀ draft ∈ drafts, draft.IsPartingOf sender)
    (hreads : List.Forall₂ Draft.Reads drafts frames)
    (hactions : List.Forall₂ Action.IsHearing frames actions) (h : l.ConnectedTo sender) :
    (run env actions l).machine.mode = .connected ↔
      l.machine.address ∉ drafts.filterMap Draft.dismissed? := by
  -- By induction on the frames: the first one that sends the station away decides.
  induction hreads generalizing l actions with
  | nil =>
    cases hactions
    show l.machine.mode = .connected ↔ l.machine.address ∉ []
    simpa using h.connected
  | @cons draft frame drafts frames hread hreads ih =>
    obtain ⟨action, actions, ⟨rssi, now, seized, rfl⟩, hrest, rfl⟩ :=
      List.forall₂_cons_left_iff.mp hactions
    obtain ⟨hdraft, hdrafts⟩ := List.forall_mem_cons.mp hdrafts
    show (run env actions (l.receiveAmid env seized frame rssi now)).machine.mode = _ ↔ _
    by_cases hdismissed : draft.dismissed? = some l.machine.address
    · have hgone := mode_receive_dismissed env h hdraft hread hdismissed seized rssi now
      have hstays : (run env actions _).machine.mode ≠ .connected :=
        mode_run_ne hdrafts hreads hrest hgone
      rw [List.filterMap_cons_some hdismissed]
      simpa using hstays
    · rw [receive_of_not_dismissed h hdraft hread hdismissed]
      have hlater := ih hdrafts hrest (l := l.atTime now) ⟨h.connected, h.target⟩
      rw [hlater, List.filterMap_cons]
      cases hwho : draft.dismissed? with
      | none => rfl
      | some other =>
        have hother : l.machine.address ≠ other := by
          rintro rfl
          exact hdismissed hwho
        simp [hother, atTime]

/-! ### Whom an access point tells -/

/-- All that an access point sends while it leaves its session and opens the next mode. -/
theorem isPartingOf_of_mem {b : Link τ} {command : Command} {draft : Draft}
    (h : draft ∈ b.partings.map b.farewell ++ command.opening b.machine.address) :
    draft.IsPartingOf b.machine.address := by
  rcases List.mem_append.mp h with hleft | hopened
  · obtain ⟨receiver, -, rfl⟩ := List.mem_map.mp hleft
    unfold farewell
    split <;> rfl
  · cases command with
    | scan =>
      cases List.mem_singleton.mp hopened
      trivial
    | connect target =>
      cases List.mem_singleton.mp hopened
      rfl
    | enable | powerOff | stop | host => cases hopened

/-- Those who are told that the mode is left are sent away, and nobody else is. -/
theorem filterMap_dismissed (b : Link τ) (command : Command) :
    (b.partings.map b.farewell ++ command.opening b.machine.address).filterMap
      Draft.dismissed? = b.partings := by
  -- What the next mode is opened with sends nobody away.
  have hopening : (command.opening b.machine.address).filterMap Draft.dismissed? = [] := by
    cases command <;> rfl
  have hfarewell : Draft.dismissed? ∘ b.farewell = some := by
    funext receiver
    unfold farewell
    rw [Function.comp]
    split <;> rfl
  rw [List.filterMap_append, hopening, List.append_nil, List.filterMap_map, hfarewell,
    List.filterMap_some]

/-- A station takes part in the session of an access point, whoever uses the roster. -/
structure MemberOf (b : Link τ) (a : Link σ) : Prop where
  connectedTo : a.ConnectedTo b.machine.address
  hosting : b.machine.mode = .accessPoint
  associated : b.shared.sessions.roster.value.stateOf a.machine.address = .associated

/-- A station of the session is told, but while somebody uses the roster only as one of all. -/
theorem MemberOf.mem_partings_iff {a : Link σ} {b : Link τ} (h : MemberOf b a) :
    a.machine.address ∈ b.partings ↔
      (b.shared.sessions.roster.isHeld = true → a.machine.address = .broadcast) := by
  have hknown : b.shared.sessions.roster.value.stateOf a.machine.address ≠ .disconnected := by
    rw [h.associated]
    decide
  obtain ⟨i, hslot⟩ := Session.Roster.exists_address?_of_stateOf hknown
  have htold := Session.Roster.mem_told_kickAll hslot
  unfold partings
  rw [h.hosting]
  cases hheld : b.shared.sessions.roster.isHeld with
  | true => simp
  | false => exact ⟨fun _ hheld => (Bool.false_ne_true hheld).elim, fun _ => htold⟩

/-- A station in the session of an access point stays connected when the session has ended, for
whatever command, exactly if somebody used the roster at that time.  All frames of the access point
reach the station. -/
theorem stays_connected_iff_held {envA : Surroundings σ} {envB : Surroundings τ}
    (hsend : envB.Accepts) {a : Link σ} {b : Link τ} (h : MemberOf b a) {version : UInt32}
    {command : Command} (hcommand : b.shared.commands.take.2 = some (version, command))
    (htask : command ≠ .enable) (meanwhile : Meanwhile) {frames : List (List UInt8)}
    (hframes : transmitted (b.serveCommand envB meanwhile).log = transmitted b.log ++ frames)
    {actions : List Action} (hactions : List.Forall₂ Action.IsHearing frames actions) :
    (run envA actions a).machine.mode = .connected ↔
      b.shared.sessions.roster.isHeld = true ∧ a.machine.address ≠ .broadcast := by
  have henabled : b.machine.mode ≠ .disabled := by
    rw [h.hosting]
    decide
  obtain ⟨uttered, huttered, hreads⟩ := utters_serveCommand hsend meanwhile henabled hcommand htask
  obtain rfl := List.append_cancel_left (hframes.symm.trans huttered)
  rw [mode_run_iff (fun _ => isPartingOf_of_mem) hreads hactions h.connectedTo,
    filterMap_dismissed, h.mem_partings_iff, Classical.not_imp]

/-- The host takes the roster, if nobody uses it. -/
def holding : HostMove where
  act s := { s with sessions := (s.sessions.hold? .host).getD s.sessions }
  status_act _ := rfl

/-- What an access point tells a station, or all of them, when it ends its session. -/
def parting (receiver : MacAddress) : List UInt8 :=
  ((Draft.deauthentication receiver networkAddress networkAddress .leavingBss).fields 3).flatMap
    Frame.Field.encoding

/-- A frame is heard in a quiet moment. -/
def hearing (frame : List UInt8) : Action := .receive frame 0 0 fun _ => false

theorem stays_connected_iff_held_told :
    let env := Surroundings.answering .refused
    let a := run env joiningActions (fresh stationAddress)
    let b := run env (hostingActions ++ [.post .stop]) (fresh networkAddress)
    let frame := parting stationAddress
    env.Accepts ∧ MemberOf b a ∧ b.shared.commands.take.2 = some (3, .stop) ∧
      transmitted (b.serveCommand env .idle).log = transmitted b.log ++ [frame] ∧
      ((run env [hearing frame] a).machine.mode = .connected ↔
        b.shared.sessions.roster.isHeld = true ∧ a.machine.address ≠ .broadcast) := by
  have hsend : (Surroundings.answering .refused).Accepts := fun _ _ => rfl
  have hmember : MemberOf
      (run (.answering .refused) (hostingActions ++ [.post .stop]) (fresh networkAddress))
      (run (.answering .refused) joiningActions (fresh stationAddress)) :=
    ⟨⟨by decide +kernel, network .plain, by decide +kernel, by decide +kernel⟩, by decide +kernel,
      by decide +kernel⟩
  have hcommand : (run (.answering .refused) (hostingActions ++ [.post .stop])
      (fresh networkAddress)).shared.commands.take.2 = some (3, .stop) := by decide +kernel
  refine ⟨hsend, hmember, hcommand, by decide +kernel, ?_⟩
  exact stays_connected_iff_held hsend hmember hcommand (by decide) .idle (by decide +kernel)
    (.cons ⟨0, 0, _, rfl⟩ .nil)

/-- A station is still connected when the session is over, since the one frame that ended it was for
all stations. -/
theorem stays_connected_after_session :
    let env := Surroundings.answering .refused
    let a := run env joiningActions (fresh stationAddress)
    let b := run env (hostingActions ++ [.host holding, .post .stop]) (fresh networkAddress)
    let frame := parting .broadcast
    MemberOf b a ∧ b.shared.commands.take.2 = some (3, .stop) ∧
      transmitted (b.serveCommand env .idle).log = transmitted b.log ++ [frame] ∧
      (b.serveCommand env .idle).machine.mode = .normal ∧
      (run env [hearing frame] a).machine.mode = .connected := by
  refine ⟨⟨⟨by decide +kernel, network .plain, by decide +kernel, by decide +kernel⟩,
    by decide +kernel, by decide +kernel⟩, ?_⟩
  decide +kernel

end Link

end WlanControl
