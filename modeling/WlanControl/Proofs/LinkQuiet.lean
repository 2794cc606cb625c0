import WlanControl.Proofs.LinkTending

namespace WlanControl.Link

open WlanControl.Frame (Authentication BeaconInfo Direction Header)

/-!
# The link layer — what leaves its connection alone

Few operations store a mode or a level.  The others send frames, serve the host and the peers of a
session, or fill the tables.

* `Quiet` — a link before and after nothing became of its connection;
* `QuietAmid` — the same while the host may come in between;
* `KeptByKicks` — what removing one peer keeps, removing all that the host wants removed keeps;
* `drain_keeps` — what every record of the host leaves alone, all of them do;
* `quiet_receiveBeacon`, `quiet_deliver`, `quietAmid_hosting`, … — the operations that are quiet.
-/

variable {σ : Type} {l l' l₁ l₂ l₃ : Link σ} (env : Surroundings σ)

/-! ### Quiet operations -/

/-- What is logged while nothing becomes of the connection: frames and changes of the channel. -/
def Event.isQuiet : Event → Bool
  | .sent _ _ | .unsendable | .tuned _ => true
  | _ => false

/-- From one link to the other nothing became of the connection, and no command was touched. -/
structure Quiet (l l' : Link σ) : Prop where
  machine_eq : l'.machine = { l.machine with
    now := l'.machine.now
    channel := l'.machine.channel
    sequenceNumber := l'.machine.sequenceNumber
    scanPosition := l'.machine.scanPosition
    switchedAt := l'.machine.switchedAt
    handshake.sentAt := l'.machine.handshake.sentAt
    lastSent := l'.machine.lastSent
    lastHeard := l'.machine.lastHeard
    nextBeacon := l'.machine.nextBeacon
    currentPeers := l'.machine.currentPeers
    producer := l'.machine.producer }
  commands_eq : l'.shared.commands = l.shared.commands
  status_eq : l'.shared.status = { l.shared.status with
    channel := l'.shared.status.channel
    rssi := l'.shared.status.rssi
    apSlot := l'.shared.status.apSlot }
  log_eq : ∃ events, l'.log = events ++ l.log ∧ ∀ e ∈ events, e.isQuiet = true

namespace Quiet

theorem refl (l : Link σ) : Quiet l l := ⟨rfl, rfl, rfl, [], rfl, by simp⟩

theorem trans (h : Quiet l₁ l₂) (h' : Quiet l₂ l₃) : Quiet l₁ l₃ where
  machine_eq := by
    rw [h'.machine_eq, h.machine_eq]
  commands_eq := h'.commands_eq.trans h.commands_eq
  status_eq := by
    rw [h'.status_eq, h.status_eq]
  log_eq := by
    obtain ⟨events, hlog, hevents⟩ := h.log_eq
    obtain ⟨events', hlog', hevents'⟩ := h'.log_eq
    refine ⟨events' ++ events, by rw [hlog', hlog, List.append_assoc], ?_⟩
    intro e he
    rcases List.mem_append.mp he with he | he
    · exact hevents' e he
    · exact hevents e he

/-- What else is shared may change. -/
theorem share (l : Link σ) {s : SharedState} (hcommands : s.commands = l.shared.commands)
    (hstatus : s.status = l.shared.status) : Quiet l { l with shared := s } where
  machine_eq := rfl
  commands_eq := hcommands
  status_eq := by
    rw [← hstatus]
  log_eq := ⟨[], rfl, by simp⟩

end Quiet

theorem Tends.quiet (h : Tends l l') : Quiet l l' where
  machine_eq := by
    rw [h.machine_eq]
  commands_eq := by
    rw [h.shared_eq]
  status_eq := by
    rw [h.shared_eq]
  log_eq := by
    obtain ⟨events, hlog, hevents⟩ := h.log_eq
    refine ⟨events, hlog, ?_⟩
    intro e he
    have := hevents e he
    cases e <;> simp_all [Event.isTransmission, Event.isQuiet]

theorem Transmits.quiet (h : Transmits l l') : Quiet l l' := h.tends.quiet

/-! ### Records of the host -/

/-- What every record of the host leaves alone, all of them do. -/
theorem drain_keeps {P : Link σ → Prop} {bssid : MacAddress} {direction : Direction}
    (hring : ∀ {l} tx, P l → P { l with shared.tx := tx })
    (hforward : ∀ {l} record, P l → P (l.forward env bssid direction record)) (burst : Nat)
    (h : P l) : P (l.drain env bssid direction burst) := by
  -- By induction on how many records may still be sent in this tick.
  induction burst generalizing l with
  | zero => exact h
  | succ burst ih =>
    unfold drain
    split
    · exact hring _ h
    · exact ih (hforward _ (hring _ h))

theorem drainBurst_keeps {P : Link σ → Prop}
    (hring : ∀ {l} tx, P l → P { l with shared.tx := tx })
    (hforward : ∀ {l} bssid direction record, P l → P (l.forward env bssid direction record))
    (h : P l) : P (l.drainBurst env) := by
  unfold drainBurst
  split
  · exact drain_keeps env hring (hforward _ _) _ h
  · exact h

theorem quiet_deliver (packet : Packet) (l : Link σ) : Quiet l (l.deliver packet) :=
  (tends_deliver packet l).quiet

/-! ### Scanning -/

theorem quiet_scanTick (l : Link σ) : Quiet l (l.scanTick env) := by
  unfold scanTick
  split
  · refine Quiet.trans ?_ (transmits_sendProbeRequest env _).quiet
    exact ⟨rfl, rfl, rfl, [.tuned _], rfl, by simp [Event.isQuiet]⟩
  · exact .refl l

theorem quiet_noteTargetObserved (o : Discovery.Observation) (slot : Option Nat) (l : Link σ) :
    Quiet l (l.noteTargetObserved o slot) := by
  unfold noteTargetObserved
  split <;> split <;> exact ⟨rfl, rfl, rfl, [], rfl, by simp⟩

theorem quiet_receiveBeacon (seized : Nat → Bool) (info : BeaconInfo) (rssi : UInt8)
    (l : Link σ) : Quiet l (l.receiveBeacon seized info rssi) := by
  have htable (accessPoints : Discovery.Table) :
      Quiet l { l with shared.accessPoints := accessPoints } := .share l rfl rfl
  have hbusy (l : Link σ) : Quiet l (l.count Statistics.countLockBusy) := .share l rfl rfl
  unfold receiveBeacon
  split
  · exact .refl l
  · simp only
    split
    · split
      · exact (htable _).trans (quiet_noteTargetObserved _ _ _)
      · exact htable _
    · split
      · exact ((htable _).trans (hbusy _)).trans (quiet_noteTargetObserved _ _ _)
      · exact (htable _).trans (hbusy _)

/-! ### Peers that come and go -/

/-- The session ends before the mode is left. -/
theorem quiet_endSession (l : Link σ) : ∃ ended, Quiet l ended ∧
    l.endSession env = { ended with machine.host := none, machine.currentPeers := 0 } := by
  obtain ⟨ended, htends, hended⟩ := tends_endSession env l
  exact ⟨ended, htends.quiet, hended⟩

theorem quiet_receivePeerAuthentication (header : Header) (body : Authentication) (l : Link σ) :
    Quiet l (l.receivePeerAuthentication env header body) :=
  (tends_receivePeerAuthentication env header body l).quiet

theorem quiet_receivePeerAssociation (header : Header) (l : Link σ) :
    Quiet l (l.receivePeerAssociation env header) :=
  (tends_receivePeerAssociation env header l).quiet

theorem quiet_receiveFromPeer (header : Header) (body : List UInt8) (l : Link σ) :
    Quiet l (l.receiveFromPeer env header body) :=
  (tends_receiveFromPeer env header body l).quiet

theorem quiet_dismiss (peer : MacAddress) (l : Link σ) : Quiet l (l.dismiss peer) :=
  (tends_dismiss peer l).quiet

theorem quiet_kick (aid : Nat) (l : Link σ) : Quiet l (l.kick env aid).1 :=
  (tends_kick env aid l).quiet

/-! ### Quiet operations while the host may come in between -/

/-- From one link to the other nothing became of the connection, but for what the host did in the
meantime. -/
inductive QuietAmid (meanwhile : Meanwhile) : Link σ → Link σ → Prop
  | own {l l' : Link σ} (h : Quiet l l') : QuietAmid meanwhile l l'
  | host (step : Nat) (l : Link σ) : QuietAmid meanwhile l (l.pause meanwhile step)
  | trans {l₁ l₂ l₃ : Link σ} (h : QuietAmid meanwhile l₁ l₂) (h' : QuietAmid meanwhile l₂ l₃) :
    QuietAmid meanwhile l₁ l₃

section QuietAmid

variable {meanwhile : Meanwhile}

/-- What quiet operations and the host keep is kept. -/
theorem QuietAmid.keeps {P : Link σ → Prop} (hown : ∀ {l l'}, Quiet l l' → P l → P l')
    (hhost : ∀ {l} step, P l → P (l.pause meanwhile step)) (h : QuietAmid meanwhile l l')
    (hl : P l) : P l' := by
  induction h with
  | own h => exact hown h hl
  | host step l => exact hhost step hl
  | trans _ _ ih ih' => exact ih' (ih hl)

/-- What the host and the removal of one peer keep, the removal of all that are requested keeps. -/
theorem kickEach_keeps {P : Link σ → Prop} (hpause : ∀ {l} step, P l → P (l.pause meanwhile step))
    (hkick : ∀ {l} aid, P l → P (l.kick env aid).1) (aids : List Nat) (deferred : UInt16)
    (h : P l) : P (kickEach env meanwhile aids deferred l).1 := by
  induction aids generalizing deferred l with
  | nil => exact h
  | cons aid rest ih =>
    have hkicked : P ((l.pause meanwhile aid).kick env aid).1 := hkick aid (hpause aid h)
    unfold kickEach
    -- Whether the kick is put off only matters for what is left to do later.
    split
    · rename_i kicked hresult
      rw [hresult] at hkicked
      exact ih _ hkicked
    · rename_i kicked hresult
      rw [hresult] at hkicked
      exact ih _ hkicked

/-- What the single steps keep by which peers are removed, while the host may come in between. -/
structure KeptByKicks (meanwhile : Meanwhile) (P : Link σ → Prop) : Prop where
  pause : ∀ {l} step, P l → P (l.pause meanwhile step)
  kick : ∀ {l} aid, P l → P (l.kick env aid).1
  kickUnassociated : ∀ {l sessions told removed},
    l.shared.sessions.kickUnassociated = (sessions, told, .ok removed) → P l →
      P { l.sendAway env told .notAssociated with shared.sessions := sessions }
  /-- What the host wants is taken, and put back if it has to wait. -/
  requests : ∀ {l} kicks requested lockBusy, P l → P { l with
    shared.kicks := kicks
    shared.kickUnassociated := requested
    shared.statistics.lockBusy := lockBusy }

namespace KeptByKicks

variable {P : Link σ → Prop} {env}

theorem serveKicksByAid (h : KeptByKicks env meanwhile P) (hl : P l) :
    P (l.serveKicksByAid env meanwhile) := by
  have hkicked : P (kickEach env meanwhile (requestedAids l.shared.takeKicks.2) 0
      { l with shared := l.shared.takeKicks.1 }).1 :=
    kickEach_keeps env h.pause h.kick _ 0
      (h.requests 0 l.shared.kickUnassociated l.shared.statistics.lockBusy hl)
  unfold Link.serveKicksByAid
  simp only
  generalize kickEach env meanwhile _ _ _ = kicked at hkicked ⊢
  split
  · exact hkicked
  · have hpaused := h.pause (maxPeers + 1) hkicked
    generalize kicked.1.pause meanwhile (maxPeers + 1) = paused at hpaused ⊢
    exact h.requests (l := paused) _ paused.shared.kickUnassociated _ hpaused

theorem serveKickUnassociated (h : KeptByKicks env meanwhile P) (hl : P l) :
    P (l.serveKickUnassociated env meanwhile) := by
  unfold Link.serveKickUnassociated
  split
  · exact hl
  · rename_i shared hrequested
    have htaken : P { l with shared := l.shared.takeKickUnassociated.1 } :=
      h.requests l.shared.kicks false l.shared.statistics.lockBusy hl
    rw [hrequested] at htaken
    have hpaused := h.pause (maxPeers + 3) htaken
    simp only
    generalize Link.pause meanwhile _ _ = paused at hpaused ⊢
    split
    · rename_i hremoved
      exact h.kickUnassociated hremoved hpaused
    · exact h.requests (l := paused) paused.shared.kicks true _ hpaused

theorem serveKicks (h : KeptByKicks env meanwhile P) (hl : P l) :
    P (l.serveKicks env meanwhile) :=
  h.serveKickUnassociated (h.pause (maxPeers + 2) (h.serveKicksByAid hl))

end KeptByKicks

/-- What tending a session and the host keep, removing peers keeps. -/
theorem keptByKicks_of_tends {P : Link σ → Prop} (htends : ∀ {l l'}, Tends l l' → P l → P l')
    (hpause : ∀ {l} step, P l → P (l.pause meanwhile step)) : KeptByKicks env meanwhile P where
  pause := hpause
  kick aid h := htends (tends_kick env aid _) h
  kickUnassociated _ h :=
    htends ((transmits_sendAway env _ _ _).tends.trans (tends_sessions _ _)) h
  requests _ _ _ h := htends ⟨rfl, rfl, [], rfl, by simp⟩ h

/-- What tending a session, the host and its records keep, a tick for a session keeps. -/
theorem accessPointTick_keeps {P : Link σ → Prop} (htends : ∀ {l l'}, Tends l l' → P l → P l')
    (hpause : ∀ {l} step, P l → P (l.pause meanwhile step))
    (htaken : ∀ {l} record, P l → P { l with log := .taken record :: l.log }) (h : P l) :
    P (l.accessPointTick env meanwhile) := by
  have hkicks := hpause (maxPeers + 4) ((keptByKicks_of_tends env htends hpause).serveKicks h)
  have hshown := htends ((tends_countPeers _).trans (tends_beaconTick env _)) hkicks
  unfold accessPointTick
  refine drainBurst_keeps env (fun _ h => htends ⟨rfl, rfl, [], rfl, by simp⟩ h) ?_ hshown
  intro m bssid direction record h
  unfold forward
  split
  · exact htaken record h
  · exact htends (transmits_send env _ _).tends (htaken record h)

/-- All that a tick does for a session before it sends what the host wants to send. -/
theorem quietAmid_hosting (l : Link σ) : QuietAmid meanwhile l
    ((((l.serveKicks env meanwhile).pause meanwhile (maxPeers + 4)).countPeers).beaconTick
      env) := by
  have hkept : KeptByKicks env meanwhile (QuietAmid meanwhile l) :=
    keptByKicks_of_tends env (fun htends h => h.trans (.own htends.quiet))
      (fun step h => h.trans (.host step _))
  exact ((hkept.serveKicks (.own (.refl l))).trans (.host (maxPeers + 4) _)).trans
    (.own ((tends_countPeers _).trans (tends_beaconTick env _)).quiet)

/-- The host does not store what the radio publishes. -/
def Meanwhile.SparesStatus (meanwhile : Meanwhile) : Prop :=
  ∀ step s, (meanwhile step s).status = s.status

end QuietAmid

end WlanControl.Link
