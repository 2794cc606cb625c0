import WlanControl.Proofs.LinkHandlers

namespace WlanControl.Link

/-!
# The link layer — what the host wishes for a session

The host says whether new peers are let in and who is to be removed.  The link layer takes the
requests to remove peers at one point of a tick of a session and puts back what it could not do.
Whatever else it does leaves the wishes of the host alone.

* `Wishes` — what the host wishes;
* `keptByHandlers_wishes` — the operations that leave it alone;
* `LeavesWishes` — the same for a command, where the host may come in before a session is opened.

Main statements: `leavesWishes_serveCommand`, for all that commands do, and `wishes_receiveAmid`,
for all frames.
-/

variable {σ : Type} {l l' : Link σ} (env : Surroundings σ)

/-- What the host wishes for a session. -/
structure Wishes where
  accepting : Bool
  kicks : UInt16
  kickUnassociated : Bool
deriving DecidableEq, Repr

/-- What the host wishes for the session of a link layer. -/
def wishes (l : Link σ) : Wishes :=
  ⟨l.shared.sessions.accepting, l.shared.kicks, l.shared.kickUnassociated⟩

/-! ### Stores and frames -/

theorem Transmits.wishes_eq (h : Transmits l l') : l'.wishes = l.wishes := by
  unfold wishes
  rw [h.shared_eq]

theorem Arranges.wishes_eq (h : Arranges l l') : l'.wishes = l.wishes := by
  unfold wishes
  rw [h.shared_eq]

theorem keptByHandlers_wishes : KeptByHandlers env fun l l' : Link σ => l'.wishes = l.wishes :=
  keptByHandlers_of_eq env Arranges.wishes_eq Transmits.wishes_eq

theorem wishes_deliver (packet : Packet) (l : Link σ) : (l.deliver packet).wishes = l.wishes := by
  unfold deliver
  split <;> rfl

/-- Frames do nothing to what the host wishes. -/
theorem wishes_receiveAmid (seized : Nat → Bool) (octets : List UInt8) (rssi : UInt8) (now : Nat)
    (l : Link σ) : (l.receiveAmid env seized octets rssi now).wishes = l.wishes :=
  (keptByHandlers_wishes env).receiveAmid wishes_deliver seized octets rssi now l

/-! ### Commands -/

/-- By the command, if there was one, nothing was done to what the host wishes.  If it was to host a
session, the host may have come in before that was opened. -/
inductive LeavesWishes (meanwhile : Meanwhile) (command? : Option Command) (l l' : Link σ) : Prop
  | same (wishes_eq : l'.wishes = l.wishes)
  | opening {parameters : HostParameters} (left : Link σ)
    (command_eq : command? = some (.host parameters)) (hosting : l'.machine.mode = .accessPoint)
    (before : left.wishes = l.wishes) (after : l'.wishes = (left.pause meanwhile 0).wishes)

theorem leavesWishes_obey (meanwhile : Meanwhile) (command : Command) (l : Link σ) :
    LeavesWishes meanwhile (some command) l (l.obey env meanwhile command) := by
  have hkept := keptByHandlers_wishes env (σ := σ)
  have hpause {m : Link σ} (step : Nat) (hm : m.wishes = l.wishes) :
      (m.pause .idle step).wishes = l.wishes := hm
  have halone : (l.obey env .idle command).wishes = l.wishes :=
    hkept.obey_keeps (P := fun m => m.wishes = l.wishes) (fun hsame hm => hsame.trans hm) hpause
      command rfl
  cases command with
  | host parameters =>
    unfold obey
    split
    · exact .same rfl
    · exact .opening (l.leaveMode env) rfl (mode_startHosting env parameters _) (hkept.leaveMode l)
        (hkept.startHosting parameters _)
  -- The host has no part in any other command.
  | enable | powerOff | stop | scan | connect =>
    rw [obey_eq_idle env (by simp)]
    exact .same halone

/-- No command does anything to what the host wishes. -/
theorem leavesWishes_serveCommand (meanwhile : Meanwhile) (l : Link σ) :
    LeavesWishes meanwhile (l.shared.commands.take.2.map Prod.snd) l
      (l.serveCommand env meanwhile) := by
  cases htake : l.shared.commands.take.2 with
  | none =>
    rw [serveCommand_of_none env meanwhile htake]
    exact .same rfl
  | some taken =>
    rw [serveCommand_of_some env meanwhile htake]
    cases leavesWishes_obey env meanwhile taken.2 (l.taken taken.1 taken.2) with
    | same wishes_eq => exact .same wishes_eq
    | opening left hcommand hosting before after =>
      exact .opening left hcommand hosting before after

/-! ### Ticks -/

theorem wishes_drainBurst (l : Link σ) : (l.drainBurst env).wishes = l.wishes :=
  (keptByHandlers_wishes env).drainBurst (fun _ _ => rfl) (fun _ _ => rfl) l

/-- Without a session nothing is done about what the host wishes for one. -/
theorem wishes_work_of_not_hosting (meanwhile : Meanwhile)
    (hmode : l.machine.mode ≠ .accessPoint) : (l.work env meanwhile).wishes = l.wishes := by
  unfold work
  split
  · exact (keptByHandlers_wishes env).scanTick l
  · exact (keptByHandlers_wishes env).keptByAttempts.connectingTick l
  · exact (keptByHandlers_wishes env).connectedTick (wishes_drainBurst env) l
  · rename_i hhosting
    exact absurd hhosting hmode
  · rfl
  · rfl
  · rfl

/-- What a tick does for a session after peers were removed. -/
theorem wishes_beaconTick (l : Link σ) : (l.countPeers.beaconTick env).wishes = l.wishes :=
  (keptByHandlers_wishes env).trans ((keptByHandlers_wishes env).countPeers l)
    ((keptByHandlers_wishes env).beaconTick _)

end WlanControl.Link
