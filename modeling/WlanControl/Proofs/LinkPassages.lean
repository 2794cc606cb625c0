import WlanControl.Proofs.LinkKeys
import WlanControl.Proofs.LinkRuns

namespace WlanControl.Link

open WlanControl.Frame (Authentication Direction Header Received Security StatusCode encode?
  maxFrameLength)

/-!
# The link layer — from one call to the next

The handlers store modes and levels, move on in the handshake and log what they do, in one of few
orders.  Whoever observes a part of this has to look at these orders only, and not at the handlers.

* `Keying.Passage` — what a handler may do to the connection, from its call to its return;
* `passes_restart`, `passes_receiveData`, … — each handler is a passage, with the host in between.

Main statement: `passes_step`, every step of a run is a passage.
-/

variable {σ : Type} {l l' : Link σ} (env : Surroundings σ)

/-! ### Passages -/

/-- In this mode there may be keys.  They outlive a link that failed. -/
def Mode.hasKeys : Mode → Bool
  | .connecting | .connected | .cannotConnect => true
  | .disabled | .normal | .scanning | .accessPoint => false

namespace Keying

/-- More was logged. -/
def logged (events : List Event) (k : Keying) : Keying := { k with log := events ++ k.log }

/-- The key exchange forgets all, and frames are not marked any more. -/
def forget (k : Keying) : Keying := { k with encrypting := false, log := .exchangeReset :: k.log }

/-- The attempt is given up. -/
def givenUp (k : Keying) : Keying := (k.forget.setLevel .error).setMode .cannotConnect

/-- The access point is forgotten, and so is its key. -/
def unlinked (k : Keying) : Keying :=
  { k.forget.logged [.keyInstalled none] with target := none }

/-- The mode is left, after `events`.  A mode with keys gives them up. -/
def left (events : List Event) (k : Keying) : Keying :=
  let k := if k.mode.hasKeys then (k.logged events).unlinked else k.logged events
  (k.setLevel .disconnected).setMode .normal

/-- An attempt starts. -/
def begun (target : ConnectTarget) (k : Keying) : Keying :=
  let k := { k with step := .authenticate, target := some target, encrypting := false }
  (k.setLevel .disconnected).setMode .connecting

/-- An attempt starts over, with the level that is left of it. -/
def begunAgain (authLevel : AuthLevel) (k : Keying) : Keying :=
  let k := { k with step := .authenticate, encrypting := false }
  (k.setLevel authLevel).setMode .connecting

/-- The exchange of keys begins. -/
def exchanging (target : ConnectTarget) (key : Key) (k : Keying) : Keying :=
  { (k.setLevel .associated).logged
      [.exchangeBegun target.bssid target.record.security key] with
    step := .keyExchange }

/-- The link is up. -/
def established (k : Keying) : Keying := { k with step := .done }.setMode .connected

/-- What a handler may do to the connection, from its call to its return.  All that a handler does
is one of these, or several of them in a row. -/
inductive Passage : Keying → Keying → Prop
  | refl (k : Keying) : Passage k k
  | trans {k₁ k₂ k₃ : Keying} (h : Passage k₁ k₂) (h' : Passage k₂ k₃) : Passage k₁ k₃
  /-- Frames are sent, and the channel is changed. -/
  | quiet {k : Keying} {events : List Event} (hquiet : ∀ e ∈ events, e.isQuiet = true) :
    Passage k (k.logged events)
  /-- A record is taken that no packet can be read of. -/
  | malformed {k : Keying} {record : List UInt8} (hmalformed : Packet.ofOctets? record = none) :
    Passage k (k.logged [.taken record])
  /-- A record is taken, and its frame is given up. -/
  | unsendable {k : Keying} (record : List UInt8) :
    Passage k (k.logged [.unsendable, .taken record])
  /-- A record is taken, and its frame is sent. -/
  | forwarded {k : Keying} {record frame : List UInt8} (hmarked : IsMarked frame k.encrypting)
    (accepted : Bool) : Passage k (k.logged [.sent frame accepted, .taken record])
  /-- A command is taken that leaves the mode alone. -/
  | heeded {k : Keying} {version : UInt32} {command : Command}
    (hkept : k.mode.hasLink = true → ∀ target, command ≠ .connect target) :
    Passage k (k.logged [.commanded version command])
  /-- A command is taken, and the mode is left for it. -/
  | left {k : Keying} (version : UInt32) (command : Command) {events : List Event}
    (hquiet : ∀ e ∈ events, e.isQuiet = true) :
    Passage k ((k.logged [.commanded version command]).left events)
  /-- A mode without a link is taken up. -/
  | idled {k : Keying} {mode : Mode} (hfrom : k.mode = .disabled ∨ k.mode = .normal)
    (hto : mode ∈ [.disabled, .normal, .scanning]) : Passage k (k.setMode mode)
  /-- A session is hosted. -/
  | hosted {k : Keying} (hmode : k.mode = .normal) :
    Passage k ((k.setLevel .disconnected).setMode .accessPoint)
  | keyInstalled {k : Keying} (key : Option Key) : Passage k (k.logged [.keyInstalled key])
  | begun {k : Keying} {target : ConnectTarget} (hmode : k.mode = .normal)
    (hwanted : wanted? k.log = some target) : Passage k (k.begun target)
  | givenUp {k : Keying} {events : List Event} (hquiet : ∀ e ∈ events, e.isQuiet = true) :
    Passage k (k.logged events).givenUp
  /-- The access point let the station in, but there is no key for it. -/
  | keyless {k : Keying} {events : List Event} (hmode : k.mode = .connecting)
    (hquiet : ∀ e ∈ events, e.isQuiet = true) :
    Passage k ((k.setLevel .associated).logged events).givenUp
  | restarted {k : Keying} (hlink : k.mode.hasLink = true) :
    Passage k (k.forget.begunAgain .disconnected)
  /-- The access point ended the association.  The key exchange is not reset. -/
  | deassociated {k : Keying} (hlink : k.mode.hasLink = true) :
    Passage k (k.begunAgain .deassociated)
  /-- The handshake goes on without a store. -/
  | stepped {k : Keying} {step : HandshakeStep} (hmode : k.mode = .connecting)
    (hstep : step ≠ .keyExchange) : Passage k { k with step }
  | authenticated {k : Keying} (hmode : k.mode = .connecting) :
    Passage k { k.setLevel .authenticated with step := .associate }
  /-- A WPA network let the station in. -/
  | associated {k : Keying} {target : ConnectTarget} {key : Key} (hmode : k.mode = .connecting)
    (htarget : k.target = some target) (hkey : target.key = some key)
    (hwpa : target.record.security.security.isWpa = true) : Passage k (k.exchanging target key)
  /-- Another network let the station in. -/
  | admitted {k : Keying} {target : ConnectTarget} (hmode : k.mode = .connecting)
    (htarget : k.target = some target)
    (hplain : target.record.security.security.isWpa = false) :
    Passage k (established { k.setLevel .associated with
      encrypting := decide (target.record.security.security = Security.wep) })
  | exchanged {k : Keying} (hlink : k.mode.hasLink = true) (payload : List UInt8)
    (answer : ExchangeStep) : Passage k (k.logged [.exchanged payload answer])
  | encrypting {k : Keying} (hlink : k.mode.hasLink = true) :
    Passage k { k with encrypting := true }
  /-- The exchange of keys was waited for, and is complete. -/
  | secured {k : Keying} (hlink : k.mode.hasLink = true) (hkeys : k.step = .keyExchange)
    (hencrypting : k.encrypting = true) (hcompleted : completed k.log = true) :
    Passage k k.established

@[simp] theorem wanted?_left {events : List Event} (hquiet : ∀ e ∈ events, e.isQuiet = true)
    (k : Keying) : wanted? (k.left events).log = wanted? k.log := by
  have hlogged : wanted? (k.logged events).log = wanted? k.log :=
    wanted?_append fun e he => Event.isInert_of_isQuiet (hquiet e he)
  unfold left
  rw [wanted?_setMode, ← hlogged]
  split <;> rfl

end Keying

open Keying (Passage)

/-! ### Stores -/

theorem keying_setAuthLevel (authLevel : AuthLevel) (l : Link σ) :
    (l.setAuthLevel authLevel).keying = l.keying.setLevel authLevel := rfl

theorem keying_setMode (mode : Mode) (l : Link σ) :
    (l.setMode mode).keying = l.keying.setMode mode := by
  unfold setMode Keying.setMode
  by_cases hdrop : (!mode.hasLink && l.machine.authLevel = .associated) = true
  · have hdrop' : (!mode.hasLink && l.keying.authLevel = .associated) = true := hdrop
    rw [if_pos hdrop, if_pos hdrop']
    rfl
  · have hdrop' : ¬ (!mode.hasLink && l.keying.authLevel = .associated) = true := hdrop
    rw [if_neg hdrop, if_neg hdrop']
    rfl

theorem keying_establish (l : Link σ) : l.establish.keying = l.keying.established := by
  unfold establish
  rw [keying_setMode]
  rfl

/-- Whatever is quiet only logs something. -/
theorem Quiet.keying_eq (h : Quiet l l') : l'.keying = { l.keying with log := l'.log } := by
  unfold keying
  rw [h.machine_eq, h.status_eq]

theorem Quiet.keying_logged (h : Quiet l l') :
    ∃ events, l'.keying = l.keying.logged events ∧ ∀ e ∈ events, e.isQuiet = true := by
  obtain ⟨events, hlog, hevents⟩ := h.log_eq
  exact ⟨events, by rw [h.keying_eq, hlog]; rfl, hevents⟩

theorem Quiet.passes (h : Quiet l l') : Passage l.keying l'.keying := by
  obtain ⟨events, hkeying, hevents⟩ := h.keying_logged
  rw [hkeying]
  exact .quiet hevents

/-- Frames that are sent at last are part of the way. -/
theorem Keying.Passage.sends {k : Keying} (h : k.Passage l.keying) (hsends : Transmits l l') :
    k.Passage l'.keying := h.trans hsends.quiet.passes

theorem keying_pause {meanwhile : Meanwhile} (hspares : meanwhile.SparesStatus) (step : Nat)
    (l : Link σ) : (l.pause meanwhile step).keying = l.keying := by
  unfold keying pause
  rw [hspares step l.shared]

/-! ### The budget of an attempt -/

/-- Before anything is stored the access point is told, which is a frame at most. -/
theorem keying_fail (failure : LinkError) (l : Link σ) : ∃ events,
    (l.fail env failure).keying = (l.keying.logged events).givenUp ∧
      ∀ e ∈ events, e.isQuiet = true := by
  obtain ⟨events, hkeying, hevents⟩ := (transmits_leaveAp env l).quiet.keying_logged
  refine ⟨events, ?_, hevents⟩
  rw [← hkeying]
  unfold fail
  show (setMode .cannotConnect _).keying = _
  rw [keying_setMode, keying_setAuthLevel]
  rfl

theorem passes_fail (failure : LinkError) (l : Link σ) :
    Passage l.keying (l.fail env failure).keying := by
  obtain ⟨events, hkeying, hevents⟩ := keying_fail env failure l
  rw [hkeying]
  exact .givenUp hevents

/-- A retry is left, and nothing becomes of the connection, or the attempt fails. -/
theorem passes_of_spendRetry {failure : LinkError} {left : Bool}
    (hspent : l.spendRetry env failure = (l', left)) :
    Passage l.keying l'.keying ∧ (left = true → l'.keying = l.keying) := by
  unfold spendRetry at hspent
  simp only at hspent
  split at hspent
  · cases hspent
    exact ⟨passes_fail env failure (l.setRetries (spent l.machine.retries)), nofun⟩
  · cases hspent
    exact ⟨.refl l.keying, fun _ => rfl⟩

theorem passes_restart (hlink : l.machine.mode.hasLink = true) :
    Passage l.keying (l.restart env).keying := by
  unfold restart
  split
  · rename_i failed hspent
    exact (passes_of_spendRetry env hspent).1
  · rename_i left hspent
    have hrestarted : Passage left.keying (left.keying.forget.begunAgain .disconnected) := by
      refine .restarted ?_
      rw [(passes_of_spendRetry env hspent).2 rfl]
      exact hlink
    refine Passage.sends ?_ (transmits_sendHandshakeFrame env _)
    rw [keying_setMode, keying_setAuthLevel]
    exact (passes_of_spendRetry env hspent).1.trans hrestarted

theorem passes_retryRejected {k : Keying} (h : k.Passage l.keying) (failure : LinkError) :
    k.Passage (l.retryRejected env failure).keying := by
  unfold retryRejected
  split
  · rename_i failed hspent
    exact h.trans (passes_of_spendRetry env hspent).1
  · rename_i left hspent
    exact (h.trans (passes_of_spendRetry env hspent).1).sends (transmits_sendHandshakeFrame env _)

/-! ### Commands -/

theorem keying_leaveMode (l : Link σ) : ∃ events,
    (l.leaveMode env).keying = l.keying.left events ∧ ∀ e ∈ events, e.isQuiet = true := by
  have hkept {m : Link σ} {events : List Event} (hkeys : l.machine.mode.hasKeys = false)
      (hm : m.keying = l.keying.logged events) :
      ((m.setAuthLevel .disconnected).setMode .normal).keying = l.keying.left events := by
    rw [keying_setMode, keying_setAuthLevel, hm, Keying.left,
      show l.keying.mode.hasKeys = _ from hkeys]
    rfl
  have hdown {m : Link σ} {events : List Event} (hkeys : l.machine.mode.hasKeys = true)
      (hm : m.keying = l.keying.logged events) :
      (((m.endLink env).setAuthLevel .disconnected).setMode .normal).keying =
        l.keying.left events := by
    have hended : (m.endLink env).keying = m.keying.unlinked := rfl
    rw [keying_setMode, keying_setAuthLevel, hended, hm, Keying.left,
      show l.keying.mode.hasKeys = _ from hkeys]
    rfl
  obtain ⟨away, haway, hquiet⟩ := (transmits_leaveAp env l).quiet.keying_logged
  have hsilent : l.keying = l.keying.logged [] := rfl
  unfold leaveMode
  -- Links give their keys up, a failed one once more, and the other modes have none.
  split
  · rename_i hmode
    exact ⟨away, hdown (by rw [hmode]; rfl) haway, hquiet⟩
  · rename_i hmode
    exact ⟨away, hdown (by rw [hmode]; rfl) haway, hquiet⟩
  · rename_i hmode
    exact ⟨[], hdown (by rw [hmode]; rfl) hsilent, by simp⟩
  · rename_i hmode
    obtain ⟨ended, hends, hended⟩ := quiet_endSession env l
    obtain ⟨events, hkeying, hquiet⟩ := hends.keying_logged
    rw [hended]
    exact ⟨events, hkept (by rw [hmode]; rfl) hkeying, hquiet⟩
  · rename_i hmode
    exact ⟨[], hkept (by rw [hmode]; rfl) hsilent, by simp⟩
  · rename_i hmode
    exact ⟨[], hkept (by rw [hmode]; rfl) hsilent, by simp⟩
  · rename_i hmode
    exact ⟨[], hkept (by rw [hmode]; rfl) hsilent, by simp⟩

theorem passes_startScan (hmode : l.machine.mode = .normal) :
    Passage l.keying (l.startScan env).keying := by
  have htuned : Passage l.keying (l.keying.logged [.tuned (scanChannel 0)]) :=
    .quiet (by simp [Event.isQuiet])
  unfold startScan
  refine Passage.sends ?_ (transmits_sendProbeRequest env _)
  rw [keying_setMode]
  exact htuned.trans (.idled (.inr hmode) (by simp))

theorem passes_startConnecting (hmode : l.machine.mode = .normal) {target : ConnectTarget}
    (hwanted : wanted? l.log = some target) :
    Passage l.keying (l.startConnecting env target).keying := by
  have htuned (k : Keying) : k.Passage (k.logged [.tuned target.record.channel]) :=
    .quiet (by simp [Event.isQuiet])
  unfold startConnecting
  refine Passage.sends ?_ (transmits_sendHandshakeFrame env _)
  simp only
  rw [keying_setMode, keying_setAuthLevel]
  -- The key of a WEP network is installed before the channel is changed.
  by_cases hwep : target.record.security.security = .wep
  · have hinstalled : Passage l.keying (l.keying.logged [.keyInstalled target.key]) :=
      .keyInstalled target.key
    have hbegun := (hinstalled.trans (htuned _)).trans (.begun hmode hwanted)
    simp only [if_pos hwep, keying, tune, installKey, setRetries, setAid, setFailure, setApSlot]
    exact hbegun
  · have hbegun := (htuned l.keying).trans (.begun hmode hwanted)
    simp only [if_neg hwep, keying, tune, setRetries, setAid, setFailure, setApSlot]
    exact hbegun

theorem passes_startHosting (hmode : l.machine.mode = .normal) (parameters : HostParameters) :
    Passage l.keying (l.startHosting env parameters).keying := by
  have htuned : Passage l.keying (l.keying.logged [.tuned parameters.channel]) :=
    .quiet (by simp [Event.isQuiet])
  have hkeying : (l.startHosting env parameters).keying =
      ((l.keying.logged [.tuned parameters.channel]).setLevel .disconnected).setMode
        .accessPoint := by
    unfold startHosting
    rw [keying_setMode, keying_setAuthLevel]
    simp only
    split <;> rfl
  rw [hkeying]
  exact htuned.trans (.hosted hmode)

/-- A command that was taken is followed. -/
theorem passes_obey {meanwhile : Meanwhile} (hspares : meanwhile.SparesStatus) {k : Keying}
    {version : UInt32} {command : Command}
    (htaken : l.keying = k.logged [.commanded version command]) :
    k.Passage (l.obey env meanwhile command).keying := by
  have hmode : l.machine.mode = k.mode := congrArg Keying.mode htaken
  obtain ⟨events, hleave, hquiet⟩ := keying_leaveMode env l
  have hleft : k.Passage (l.leaveMode env).keying := by
    rw [hleave, htaken]
    exact .left version command hquiet
  have hnormal : (l.leaveMode env).machine.mode = .normal := (mode_leaveMode env l).1
  have hkept (hother : k.mode.hasLink = true → ∀ target, command ≠ .connect target) :
      k.Passage l.keying := by
    rw [htaken]
    exact .heeded hother
  unfold obey
  split
  · -- A disabled radio only listens to one command.
    rename_i hdisabled
    have hheeded : k.Passage l.keying := by
      refine hkept fun hlink => ?_
      rw [← hmode, hdisabled] at hlink
      cases hlink
    cases command with
    | enable =>
      show k.Passage (l.setMode .normal).keying
      rw [keying_setMode]
      exact hheeded.trans (.idled (.inl hdisabled) (by simp))
    | powerOff | stop | scan | connect | host => exact hheeded
  · cases command with
    | enable => exact hkept fun _ _ => nofun
    | powerOff =>
      show k.Passage ((l.leaveMode env).setMode .disabled).keying
      rw [keying_setMode]
      exact hleft.trans (.idled (.inr hnormal) (by simp))
    | stop => exact hleft
    | scan => exact hleft.trans (passes_startScan env hnormal)
    | connect target =>
      refine hleft.trans (passes_startConnecting env hnormal ?_)
      -- The log tells of the new target since the command was taken.
      show wanted? (l.leaveMode env).keying.log = some target
      rw [hleave, Keying.wanted?_left hquiet, htaken]
      rfl
    | host parameters =>
      have hpaused : k.Passage ((l.leaveMode env).pause meanwhile 0).keying := by
        rw [keying_pause hspares]
        exact hleft
      exact hpaused.trans
        (passes_startHosting env (l := (l.leaveMode env).pause meanwhile 0) hnormal parameters)

theorem passes_serveCommand {meanwhile : Meanwhile} (hspares : meanwhile.SparesStatus)
    (l : Link σ) : Passage l.keying (l.serveCommand env meanwhile).keying := by
  unfold serveCommand
  split
  · exact passes_obey env hspares rfl
  · exact .refl _

/-! ### Ticks -/

theorem isMarked_data {capacity : Nat} {direction : Direction}
    {bssid destination source : MacAddress} {sequenceNumber type : UInt16} {encrypted : Bool}
    {payload frame : List UInt8}
    (h : encode? capacity (Frame.data direction bssid destination source sequenceNumber encrypted
      type payload) = some frame) : IsMarked frame encrypted := by
  obtain ⟨body, hread⟩ := Frame.ofOctets?_data h
  refine ⟨_, body, hread, ?_⟩
  cases direction <;> simp [Frame.dataHeader]

theorem passes_forward (bssid : MacAddress) (direction : Direction) (record : List UInt8)
    (l : Link σ) : Passage l.keying (l.forward env bssid direction record).keying := by
  unfold forward
  simp only
  -- The record is logged with what became of it, so the log before it is what counts.
  split
  · rename_i hmalformed
    exact .malformed hmalformed
  · conv => arg 2; rw [(transmits_send env _ _).quiet.keying_eq]
    obtain hlog | ⟨frame, accepted, hframe, hlog⟩ := log_send env _ _
    · rw [hlog]
      exact .unsendable record
    · have hmarked : IsMarked frame l.keying.encrypting := isMarked_data hframe
      rw [hlog]
      exact .forwarded hmarked accepted

theorem passes_drainBurst (l : Link σ) : Passage l.keying (l.drainBurst env).keying :=
  drainBurst_keeps env (P := fun m => Passage l.keying m.keying) (fun _ h => h)
    (fun bssid direction record h => h.trans (passes_forward env bssid direction record _))
    (.refl l.keying)

theorem passes_connectingTick (hlink : l.machine.mode.hasLink = true) :
    Passage l.keying (l.connectingTick env).keying := by
  unfold connectingTick
  split
  · exact passes_restart env hlink
  · split
    · split
      · split
        · rename_i failed hspent
          exact (passes_of_spendRetry env hspent).1
        · rename_i left hspent
          exact (passes_of_spendRetry env hspent).1
      · split
        · rename_i failed hspent
          exact (passes_of_spendRetry env hspent).1
        · rename_i left hspent
          have hleft := (passes_of_spendRetry env hspent).1
          exact Passage.sends (l := left.count Statistics.countRetransmission) hleft
            (transmits_sendHandshakeFrame env _)
    · exact .refl _

theorem passes_connectedTick (hlink : l.machine.mode.hasLink = true) :
    Passage l.keying (l.connectedTick env).keying := by
  unfold connectedTick
  split
  · exact passes_restart env hlink
  · simp only
    split
    · exact (passes_drainBurst env l).sends (transmits_sendNullData env _)
    · exact passes_drainBurst env l

theorem passes_accessPointTick {meanwhile : Meanwhile} (hspares : meanwhile.SparesStatus)
    (l : Link σ) : Passage l.keying (l.accessPointTick env meanwhile).keying := by
  unfold accessPointTick
  refine .trans ?_ (passes_drainBurst env _)
  exact (quietAmid_hosting env l).keeps (P := fun m => Passage l.keying m.keying)
    (fun hquiet h => h.trans hquiet.passes)
    (fun step h => by rw [keying_pause hspares]; exact h) (.refl l.keying)

theorem passes_tickAmid {meanwhile : Meanwhile} (hspares : meanwhile.SparesStatus) (now : Nat)
    (l : Link σ) : Passage l.keying (l.tickAmid env meanwhile now).keying := by
  have hserved : Passage l.keying ((l.atTime now).serveCommand env meanwhile).keying :=
    passes_serveCommand env hspares (l.atTime now)
  unfold tickAmid
  simp only
  split
  · exact hserved.trans (quiet_scanTick env _).passes
  · rename_i hmode
    exact hserved.trans (passes_connectingTick env (by rw [hmode]; rfl))
  · rename_i hmode
    exact hserved.trans (passes_connectedTick env (by rw [hmode]; rfl))
  · exact hserved.trans (passes_accessPointTick env hspares _)
  · exact hserved
  · exact hserved
  · exact hserved

/-! ### Frames -/

theorem passes_acceptAuthentication (hmode : l.machine.mode = .connecting)
    (body : Authentication) : Passage l.keying (l.acceptAuthentication env body).keying := by
  unfold acceptAuthentication
  split
  · have hstepped : Passage l.keying { l.keying with step := .challenge } :=
      .stepped hmode (by simp)
    refine Passage.sends ?_ (transmits_sendHandshakeFrame env _)
    exact hstepped
  · exact passes_retryRejected env (.refl l.keying) _
  · refine Passage.sends ?_ (transmits_sendHandshakeFrame env _)
    exact .authenticated hmode

theorem passes_receiveAuthentication (hmode : l.machine.mode = .connecting) (header : Header)
    (body : Authentication) :
    Passage l.keying (l.receiveAuthentication env header body).keying := by
  unfold receiveAuthentication
  split
  · exact .refl _
  · simp only
    split
    · exact .refl _
    · split
      · exact passes_acceptAuthentication env (l := l.noteHeard) hmode body
      · split
        · refine Passage.sends ?_ (transmits_sendHandshakeFrame env _)
          exact .refl l.keying
        · -- A refused challenge starts over with the first frame.
          have hstepped : Passage l.keying { l.keying with step := .authenticate } :=
            .stepped hmode (by simp)
          refine passes_retryRejected env ?_ _
          exact hstepped

theorem passes_acceptAssociation (hmode : l.machine.mode = .connecting) {target : ConnectTarget}
    (htarget : l.machine.target = some target) (aid : UInt16) :
    Passage l.keying (l.acceptAssociation env target aid).keying := by
  unfold acceptAssociation
  simp only
  split
  · rename_i hwpa
    split
    · -- The association is published before it is known that there is no key for it.
      obtain ⟨events, hkeying, hevents⟩ :=
        keying_fail env .keyExchangeFailed ((l.setAid aid).setAuthLevel .associated)
      rw [hkeying]
      exact .keyless hmode hevents
    · rename_i key hkey
      exact .associated hmode htarget hkey hwpa
  · rename_i hwpa
    rw [keying_establish]
    exact .admitted hmode htarget (by simpa using hwpa)

theorem passes_receiveAssociationResponse (hmode : l.machine.mode = .connecting) (header : Header)
    (status : StatusCode) (aid : UInt16) :
    Passage l.keying (l.receiveAssociationResponse env header status aid).keying := by
  unfold receiveAssociationResponse
  split
  · exact .refl _
  · simp only
    split
    · exact .refl _
    · rename_i target htarget
      split
      · exact passes_acceptAssociation env (l := l.noteHeard) hmode htarget aid
      · unfold refuseRates
        split
        · exact passes_fail env _ l.noteHeard
        · refine passes_retryRejected env ?_ _
          exact .refl l.keying
      · exact passes_retryRejected env (l := l.noteHeard) (.refl l.keying) _

theorem passes_deassociate (hlink : l.machine.mode.hasLink = true) :
    Passage l.keying l.deassociate.keying := by
  unfold deassociate
  rw [keying_setMode, keying_setAuthLevel]
  exact .deassociated hlink

theorem passes_receiveDeauthentication (header : Header) (entirely : Bool) (l : Link σ) :
    Passage l.keying (l.receiveDeauthentication env header entirely).keying := by
  -- What happens while there is a link, be it up or not.
  have hended (hlink : l.machine.mode.hasLink = true) :
      Passage l.keying (if !l.isFromTarget header then l
        else if entirely then l.restart env else l.deassociate).keying := by
    split
    · exact .refl _
    · split
      · exact passes_restart env hlink
      · exact passes_deassociate hlink
  unfold receiveDeauthentication
  split
  · rename_i hmode
    exact hended (by rw [hmode]; rfl)
  · rename_i hmode
    exact hended (by rw [hmode]; rfl)
  · split
    · exact (quiet_dismiss _ _).passes
    · exact .refl _
  · exact .refl _
  · exact .refl _
  · exact .refl _
  · exact .refl _

theorem passes_receiveEapol (hlink : l.machine.mode.hasLink = true) (payload : List UInt8) :
    Passage l.keying (l.receiveEapol env payload).keying := by
  unfold receiveEapol
  split
  · exact .refl _
  · simp only
    have hexchanged : Passage l.keying (l.exchange env payload).1.keying :=
      .exchanged hlink payload _
    -- The answer is sent before the outcome matters, which changes nothing.
    generalize hreplied : (if (l.exchange env payload).2.reply.isEmpty then
      (l.exchange env payload).1 else _) = replied
    have hquiet : Quiet (l.exchange env payload).1 replied := by
      rw [← hreplied]
      split
      · exact .refl _
      · exact (transmits_sendDataToAp env _ _ _ _).quiet
    have hpassed := hexchanged.trans hquiet.passes
    have hlink' : replied.machine.mode.hasLink = true := by
      rw [hquiet.machine_eq]
      exact hlink
    split
    · exact hpassed
    · rename_i hcomplete
      have hmarked : Passage l.keying (keying { replied with machine.encrypting := true }) :=
        hpassed.trans (.encrypting hlink')
      split
      · rename_i hkeys
        rw [keying_establish]
        refine hmarked.trans (.secured hlink' hkeys rfl ?_)
        -- The message is the last event but for the frame that answered it.
        obtain ⟨events, hlog, hevents⟩ := hquiet.log_eq
        show completed replied.log = true
        rw [hlog, completed_append fun e he => Event.isInert_of_isQuiet (hevents e he)]
        exact Bool.or_eq_true_iff.mpr (.inl (decide_eq_true hcomplete))
      · exact hmarked
    · exact hpassed.trans (passes_fail env _ _)

theorem passes_receiveFromNetwork (hlink : l.machine.mode.hasLink = true)
    (target : ConnectTarget) (header : Header) (body : List UInt8) :
    Passage l.keying (l.receiveFromNetwork env target header body).keying := by
  unfold receiveFromNetwork
  split
  · exact .refl _
  · simp only
    split
    · exact .refl _
    · split
      · exact passes_receiveEapol env (l := l.noteHeard) hlink _
      · split
        · exact (quiet_deliver _ l.noteHeard).passes
        · exact .refl _

theorem passes_receiveData (header : Header) (body : List UInt8) (l : Link σ) :
    Passage l.keying (l.receiveData env header body).keying := by
  unfold receiveData
  split
  · rename_i hmode
    split
    · exact .refl _
    · exact passes_receiveFromNetwork env (by rw [hmode]; rfl) _ header body
  · rename_i hmode
    split
    · exact .refl _
    · exact passes_receiveFromNetwork env (by rw [hmode]; rfl) _ header body
  · exact (quiet_receiveFromPeer env _ _ _).passes
  · exact .refl _
  · exact .refl _
  · exact .refl _
  · exact .refl _

theorem passes_handle (seized : Nat → Bool) (frame : Received) (rssi : UInt8) (l : Link σ) :
    Passage l.keying (l.handle env seized frame rssi).keying := by
  unfold handle
  split
  · exact (quiet_receiveBeacon _ _ _ _).passes
  · exact (quiet_receiveBeacon _ _ _ _).passes
  · split
    · rename_i hmode
      exact passes_receiveAuthentication env hmode _ _
    · exact (quiet_receivePeerAuthentication env _ _ _).passes
    · exact .refl _
  · split
    · rename_i hmode
      exact passes_receiveAssociationResponse env hmode _ _ _
    · exact .refl _
  · split
    · exact (quiet_receivePeerAssociation env _ _).passes
    · exact .refl _
  · exact passes_receiveDeauthentication env _ true l
  · exact passes_receiveDeauthentication env _ false l
  · exact passes_receiveData env _ _ l
  · exact .refl _
  · exact .refl _

theorem passes_receiveAmid (seized : Nat → Bool) (octets : List UInt8) (rssi : UInt8) (now : Nat)
    (l : Link σ) : Passage l.keying (l.receiveAmid env seized octets rssi now).keying := by
  rcases receiveAmid_cases env seized octets rssi now l with hidle | ⟨-, frame, -, hheard⟩
  · rw [hidle]
    exact .refl _
  · rw [hheard]
    exact passes_handle env seized frame rssi (l.atTime now)

/-! ### All runs -/

/-- Every step of a run is a passage. -/
theorem passes_step (action : Action) (l : Link σ) :
    Passage l.keying (l.step env action).keying := by
  cases action with
  | post command =>
    have hsame : keying { l with shared := (l.shared.postCommand command).1 } = l.keying := by
      simp only [keying, SharedState.status_postCommand]
    show Passage l.keying (keying { l with shared := (l.shared.postCommand command).1 })
    rw [hsame]
    exact .refl _
  | host move =>
    have hsame : keying { l with shared := move.act l.shared } = l.keying := by
      simp only [keying, move.status_act]
    show Passage l.keying (keying { l with shared := move.act l.shared })
    rw [hsame]
    exact .refl _
  | tick now moves => exact passes_tickAmid env (fun step s => (moves step).status_act s) now l
  | receive octets rssi now seized => exact passes_receiveAmid env seized octets rssi now l

/-- What every passage keeps, every run keeps. -/
theorem keying_run {P : Keying → Prop} (hkeeps : ∀ {k k'}, k.Passage k' → P k → P k')
    (h : P l.keying) (actions : List Action) : P (run env actions l).keying :=
  run_of_step env (P := fun l => P l.keying) h
    (fun {l} hl action => hkeeps (passes_step env action l) hl) actions

end WlanControl.Link
