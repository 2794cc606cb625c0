import WlanControl.Proofs.LinkCourse
import WlanControl.Proofs.LinkRuns

namespace WlanControl.Link

open WlanControl.Frame (Received)

/-!
# The link layer — the wire

A tick takes a command, acts upon it, acknowledges it and goes on with what is due.  The first and
the third of these are the only ones that have to do with the mailbox and the version next to it.

* `Wire` — what both sides know of commands;
* `take?`, `work` — the parts of a tick that have no name elsewhere, with `serveCommand_eq` and
  `tickAmid_eq_work`;
* `wire_obey`, `wire_work`, `wire_receiveAmid` — acting upon a command, the work of a tick and
  received frames leave the wire alone.
-/

variable {σ : Type} {l l' : Link σ} (env : Surroundings σ) (meanwhile : Meanwhile)

/-- What both sides know of commands. -/
structure Wire where
  commands : Mailbox Command
  acknowledged : UInt32

/-- What both sides know of the commands for a link layer. -/
def wire (l : Link σ) : Wire := ⟨l.shared.commands, l.shared.status.acknowledged⟩

/-! ### The parts of a tick -/

/-- The link layer with the command of the host, if there is one. -/
def take? (l : Link σ) : Option (Link σ × UInt32 × Command) :=
  match l.shared.commands.take with
  | (commands, some (version, command)) =>
    some ({ l with shared.commands := commands, log := .commanded version command :: l.log },
      version, command)
  | (_, none) => none

/-- What is taken was in the slot, and nothing else changes that is shared. -/
theorem take?_eq_some {version : UInt32} {command : Command}
    (h : l.take? = some (l', version, command)) : ∃ commands,
      l.shared.commands.take = (commands, some (version, command)) ∧
        l'.shared = { l.shared with commands } := by
  unfold take? at h
  split at h
  · rename_i commands version command htake
    cases h
    exact ⟨commands, htake, rfl⟩
  · cases h

/-- A command is taken, acted upon and acknowledged. -/
theorem serveCommand_eq (l : Link σ) : l.serveCommand env meanwhile =
    match l.take? with
    | some (taken, version, command) => (taken.obey env meanwhile command).acknowledge version
    | none => l := by
  unfold serveCommand take?
  split <;> simp_all

/-- The link layer once it has taken a command. -/
def taken (version : UInt32) (command : Command) (l : Link σ) : Link σ :=
  { l with
    shared.commands := l.shared.commands.take.1
    log := .commanded version command :: l.log }

/-- The command in the slot is taken, acted upon and acknowledged. -/
theorem serveCommand_of_some {version : UInt32} {command : Command}
    (h : l.shared.commands.take.2 = some (version, command)) :
    l.serveCommand env meanwhile =
      ((l.taken version command).obey env meanwhile command).acknowledge version := by
  unfold serveCommand taken
  split
  · rename_i htake
    rw [htake] at h ⊢
    cases h
    rfl
  · rename_i htake
    rw [htake] at h
    cases h

/-- What is due in the current mode. -/
def work (l : Link σ) : Link σ :=
  match l.machine.mode with
  | .scanning => l.scanTick env
  | .connecting => l.connectingTick env
  | .connected => l.connectedTick env
  | .accessPoint => l.accessPointTick env meanwhile
  | .disabled | .normal | .cannotConnect => l.discard

/-- A tick serves the command of the host and then does what is due. -/
theorem tickAmid_eq_work (now : Nat) (l : Link σ) : l.tickAmid env meanwhile now =
    ((l.atTime now).serveCommand env meanwhile).work env meanwhile := rfl

/-! ### What leaves the wire alone -/

theorem Quiet.wire_eq (h : Quiet l l') : l'.wire = l.wire := by
  unfold wire
  rw [h.commands_eq, h.status_eq]

/-- What keeps its course leaves the wire alone. -/
theorem wire_of_course_eq (h : l'.course = l.course) : l'.wire = l.wire :=
  congrArg (fun c : Course => Wire.mk c.commands c.acknowledged) h

/-- The host leaves the wire alone. -/
def Meanwhile.SparesWire (meanwhile : Meanwhile) : Prop :=
  ∀ step s, (meanwhile step s).commands = s.commands ∧ (meanwhile step s).status = s.status

theorem Meanwhile.sparesWire_idle : Meanwhile.idle.SparesWire := fun _ _ => ⟨rfl, rfl⟩

variable {meanwhile : Meanwhile}

theorem wire_pause (hspares : meanwhile.SparesWire) (step : Nat) (l : Link σ) :
    (l.pause meanwhile step).wire = l.wire := by
  obtain ⟨hcommands, hstatus⟩ := hspares step l.shared
  simp only [wire, pause, hcommands, hstatus]

theorem wire_setAuthLevel (authLevel : AuthLevel) (l : Link σ) :
    (l.setAuthLevel authLevel).wire = l.wire := rfl

theorem wire_setMode (mode : Mode) (l : Link σ) : (l.setMode mode).wire = l.wire := by
  unfold setMode
  simp only
  split <;> rfl

/-! ### Commands -/

theorem wire_leaveMode (l : Link σ) : (l.leaveMode env).wire = l.wire := by
  unfold leaveMode
  rw [wire_setMode, wire_setAuthLevel]
  -- What each mode needs to be left has nothing to do with commands.
  split
  · exact (transmits_leaveAp env l).quiet.wire_eq
  · exact (transmits_leaveAp env l).quiet.wire_eq
  · rfl
  · obtain ⟨ended, hquiet, hended⟩ := quiet_endSession env l
    rw [hended]
    exact hquiet.wire_eq
  · rfl
  · rfl
  · rfl

theorem wire_startScan (l : Link σ) : (l.startScan env).wire = l.wire := by
  unfold startScan
  rw [(transmits_sendProbeRequest env _).quiet.wire_eq, wire_setMode]
  rfl

theorem wire_startConnecting (target : ConnectTarget) (l : Link σ) :
    (l.startConnecting env target).wire = l.wire :=
  congrArg (fun c : Course => Wire.mk c.commands c.acknowledged)
    (course_startConnecting env target l)

theorem wire_startHosting (parameters : HostParameters) (l : Link σ) :
    (l.startHosting env parameters).wire = l.wire := by
  unfold startHosting
  rw [wire_setMode]
  simp only
  split <;> rfl

/-- Only before it hosts a session the radio lets the host come in. -/
theorem obey_eq_idle {command : Command} (h : ∀ parameters, command ≠ .host parameters)
    (l : Link σ) : l.obey env meanwhile command = l.obey env .idle command := by
  unfold obey
  cases command with
  | host parameters => exact absurd rfl (h parameters)
  | enable | powerOff | stop | scan | connect => rfl

theorem mode_startHosting (parameters : HostParameters) (l : Link σ) :
    (l.startHosting env parameters).machine.mode = .accessPoint := by
  simp [startHosting, setMode, setAuthLevel, notePublished]

/-- What a command leads to is up to the radio alone, unless it is a session. -/
theorem serveCommand_eq_idle
    (h : (l.serveCommand env meanwhile).machine.mode ≠ .accessPoint) :
    l.serveCommand env meanwhile = l.serveCommand env .idle := by
  rw [serveCommand_eq] at h ⊢
  rw [serveCommand_eq]
  split
  · rename_i taken version command htake
    rw [htake] at h
    by_cases hhost : ∀ parameters, command ≠ .host parameters
    · rw [obey_eq_idle env hhost]
    · obtain ⟨parameters, rfl⟩ : ∃ parameters, command = .host parameters := by
        simpa using hhost
      unfold obey
      split
      · rfl
      · rename_i henabled
        -- The radio is in the mode of a session once it was told to host one.
        have hmode : (taken.obey env meanwhile (.host parameters)).machine.mode = .accessPoint := by
          unfold obey
          rw [if_neg henabled]
          exact mode_startHosting env parameters _
        exact absurd hmode h
  · rfl

/-- Acting upon a command neither touches the mailbox nor acknowledges anything. -/
theorem wire_obey (hspares : meanwhile.SparesWire) (command : Command) (l : Link σ) :
    (l.obey env meanwhile command).wire = l.wire := by
  unfold obey
  split
  · cases command with
    | enable => exact wire_setMode .normal l
    | powerOff | stop | scan | connect | host => rfl
  · cases command with
    | enable => rfl
    | powerOff => exact (wire_setMode .disabled _).trans (wire_leaveMode env l)
    | stop => exact wire_leaveMode env l
    | scan => exact (wire_startScan env _).trans (wire_leaveMode env l)
    | connect target => exact (wire_startConnecting env target _).trans (wire_leaveMode env l)
    | host parameters =>
      rw [wire_startHosting, wire_pause hspares, wire_leaveMode]

/-! ### Work -/

theorem wire_accessPointTick (hspares : meanwhile.SparesWire) (l : Link σ) :
    (l.accessPointTick env meanwhile).wire = l.wire := by
  -- All is quiet until the records of the host are sent, but for what the host does.
  unfold accessPointTick
  rw [wire_of_course_eq (course_drainBurst env _)]
  exact (quietAmid_hosting env l).keeps (P := fun m => m.wire = l.wire)
    (fun hquiet h => hquiet.wire_eq.trans h)
    (fun step h => (wire_pause hspares step _).trans h) rfl

theorem wire_work (hspares : meanwhile.SparesWire) (l : Link σ) :
    (l.work env meanwhile).wire = l.wire := by
  unfold work
  split
  · exact (quiet_scanTick env l).wire_eq
  · exact wire_of_course_eq (course_connectingTick env l)
  · exact wire_of_course_eq (course_connectedTick env l)
  · exact wire_accessPointTick env hspares l
  · rfl
  · rfl
  · rfl

/-! ### Frames -/

theorem wire_handle (seized : Nat → Bool) (frame : Received) (rssi : UInt8) (l : Link σ) :
    (l.handle env seized frame rssi).wire = l.wire := by
  cases hframe : observed? frame with
  | none => exact wire_of_course_eq (course_handle env hframe seized rssi l)
  | some info =>
    rw [handle_of_observed env hframe]
    exact (quiet_receiveBeacon _ _ _ l).wire_eq

/-- No frame has to do with commands. -/
theorem wire_receiveAmid (seized : Nat → Bool) (octets : List UInt8) (rssi : UInt8) (now : Nat)
    (l : Link σ) : (l.receiveAmid env seized octets rssi now).wire = l.wire := by
  rcases receiveAmid_cases env seized octets rssi now l with hidle | ⟨-, frame, -, hheard⟩
  · rw [hidle]
    rfl
  · rw [hheard]
    exact wire_handle env seized frame rssi (l.atTime now)

end WlanControl.Link
