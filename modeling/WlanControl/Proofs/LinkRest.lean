import WlanControl.Proofs.LinkOutbox

namespace WlanControl.Link

open WlanControl.Frame (BeaconInfo Received)

/-!
# The link layer — without a task

A radio that is disabled, that has no task or whose attempt has failed only listens, and throws away
what its host wants to send.  Beacons still fill the table of access points, and those of the last
target tell how strongly it is heard, but no frame gets a task going or an answer.

* `Idles` — a link before and after nothing came of what was heard;
* `idles_receiveBeacon`, `idles_handle` — frames that come while there is no task;
* `Action.IsPassive` — ticks, frames and what the host puts into its ring;
* `idles_step` — none of these gets a task going.

Main statement: `dozes_run`, without a command a link layer without a task stays as it is, and its
host finds the ring empty after every tick.
-/

variable {σ : Type} {l l' l₁ l₂ l₃ : Link σ} (env : Surroundings σ)

/-! ### Nothing comes of it -/

/-- From one link to the other nothing happened but that time went on, that access points were heard
and that the host sent something or it was thrown away. -/
structure Idles (l l' : Link σ) : Prop where
  machine_eq : l'.machine = { l.machine with
    now := l'.machine.now
    lastHeard := l'.machine.lastHeard }
  shared_eq : l'.shared = { l.shared with
    tx := l'.shared.tx
    accessPoints := l'.shared.accessPoints
    statistics.lockBusy := l'.shared.statistics.lockBusy
    status.rssi := l'.shared.status.rssi
    status.apSlot := l'.shared.status.apSlot }
  outside_eq : l'.outside = l.outside
  log_eq : l'.log = l.log

namespace Idles

theorem refl (l : Link σ) : Idles l l := ⟨rfl, rfl, rfl, rfl⟩

theorem trans (h : Idles l₁ l₂) (h' : Idles l₂ l₃) : Idles l₁ l₃ where
  machine_eq := by
    rw [h'.machine_eq, h.machine_eq]
  shared_eq := by
    rw [h'.shared_eq, h.shared_eq]
  outside_eq := h'.outside_eq.trans h.outside_eq
  log_eq := h'.log_eq.trans h.log_eq

theorem mode_eq (h : Idles l l') : l'.machine.mode = l.machine.mode := by
  rw [h.machine_eq]

theorem waits (h : Idles l l') (hwaits : l.Waits) : l'.Waits := by
  unfold Waits
  rw [h.shared_eq]
  exact hwaits

end Idles

theorem idles_atTime (now : Nat) (l : Link σ) : Idles l (l.atTime now) := ⟨rfl, rfl, rfl, rfl⟩

theorem idles_discard (l : Link σ) : Idles l l.discard := ⟨rfl, rfl, rfl, rfl⟩

/-! ### Frames -/

theorem idles_noteTargetObserved (o : Discovery.Observation) (slot : Option Nat) (l : Link σ) :
    Idles l (l.noteTargetObserved o slot) := by
  unfold noteTargetObserved
  split <;> split <;> exact ⟨rfl, rfl, rfl, rfl⟩

/-- A beacon fills the table, and tells of the last target if it is from there. -/
theorem idles_receiveBeacon (seized : Nat → Bool) (info : BeaconInfo) (rssi : UInt8) (l : Link σ) :
    Idles l (l.receiveBeacon seized info rssi) := by
  have htable (accessPoints : Discovery.Table) :
      Idles l { l with shared.accessPoints := accessPoints } := ⟨rfl, rfl, rfl, rfl⟩
  have hbusy (l : Link σ) : Idles l (l.count Statistics.countLockBusy) := ⟨rfl, rfl, rfl, rfl⟩
  unfold receiveBeacon
  split
  · exact .refl l
  · simp only
    split
    · split
      · exact (htable _).trans (idles_noteTargetObserved _ _ _)
      · exact htable _
    · split
      · exact ((htable _).trans (hbusy _)).trans (idles_noteTargetObserved _ _ _)
      · exact (htable _).trans (hbusy _)

/-- In these modes no other frame is acted upon. -/
theorem handle_of_not_hasTask (hmode : l.machine.mode.hasTask = false) {frame : Received}
    (hframe : observed? frame = none) (seized : Nat → Bool) (rssi : UInt8) :
    l.handle env seized frame rssi = l := by
  have hrest : l.machine.mode = .disabled ∨ l.machine.mode = .normal ∨
      l.machine.mode = .cannotConnect := by
    cases h : l.machine.mode <;> simp_all [Mode.hasTask]
  cases frame with
  | beacon | probeResponse => cases hframe
  | authentication header body =>
    rcases hrest with hrest | hrest | hrest <;> simp [handle, hrest]
  | associationResponse header status aid =>
    rcases hrest with hrest | hrest | hrest <;> simp [handle, hrest]
  | associationRequest header capabilities ssid =>
    rcases hrest with hrest | hrest | hrest <;> simp [handle, hrest]
  | deauthentication header reason | disassociation header reason =>
    rcases hrest with hrest | hrest | hrest <;> simp [handle, receiveDeauthentication, hrest]
  | data header body =>
    rcases hrest with hrest | hrest | hrest <;> simp [handle, receiveData, hrest]
  | probeRequest transmitter ssid => rfl
  | other => rfl

theorem idles_handle (hmode : l.machine.mode.hasTask = false) (frame : Received)
    (seized : Nat → Bool) (rssi : UInt8) : Idles l (l.handle env seized frame rssi) := by
  cases hframe : observed? frame with
  | none =>
    rw [handle_of_not_hasTask env hmode hframe]
    exact .refl l
  | some info =>
    rw [handle_of_observed env hframe]
    exact idles_receiveBeacon seized info rssi l

/-! ### Actions -/

/-- The host puts records into the ring, and does nothing else. -/
structure HostMove.OnlySends (move : HostMove) : Prop where
  onlyAppends : move.OnlyAppends fun _ => True
  act_eq : ∀ s, move.act s = { s with tx := (move.act s).tx }

/-- A tick or a frame, or the host wants to send something. -/
def Action.IsPassive : Action → Prop
  | .tick _ _ | .receive _ _ _ _ => True
  | .host move => move.OnlySends
  | .post _ => False

/-- Without a command a tick only throws the records of the host away. -/
theorem step_tick_of_not_hasTask (hmode : l.machine.mode.hasTask = false) (hwaits : l.Waits)
    (now : Nat) (moves : Nat → HostMove) :
    l.step env (.tick now moves) = (l.atTime now).discard := by
  have hserved : (l.atTime now).serveCommand env _ = l.atTime now :=
    serveCommand_of_waits env (fun step => (moves step).act) hwaits
  have hrest : (l.atTime now).machine.mode.hasTask = false := hmode
  show ((l.atTime now).serveCommand env _).work env _ = _
  rw [hserved]
  unfold work
  split <;> simp_all [Mode.hasTask]

theorem idles_step (hmode : l.machine.mode.hasTask = false) (hwaits : l.Waits) {action : Action}
    (haction : action.IsPassive) : Idles l (l.step env action) := by
  cases action with
  | post command => cases haction
  | host move =>
    have hsent (tx : Ring ringSize) : Idles l { l with shared.tx := tx } := ⟨rfl, rfl, rfl, rfl⟩
    show Idles l { l with shared := move.act l.shared }
    rw [haction.act_eq l.shared]
    exact hsent _
  | tick now moves =>
    rw [step_tick_of_not_hasTask env hmode hwaits]
    exact (idles_atTime now l).trans (idles_discard _)
  | receive octets rssi now seized =>
    show Idles l (l.receiveAmid env seized octets rssi now)
    rcases receiveAmid_cases env seized octets rssi now l with hidle | ⟨-, frame, -, hheard⟩
    · rw [hidle]
      exact idles_atTime now l
    · rw [hheard]
      exact (idles_atTime now l).trans
        (idles_handle env (l := l.atTime now) hmode frame seized rssi)

/-- After a tick there is nothing left in the ring. -/
theorem holds_step_tick (hmode : l.machine.mode.hasTask = false) (hwaits : l.Waits)
    {records : List (List UInt8)} (hrecords : l.shared.tx.Holds records) (now : Nat)
    (moves : Nat → HostMove) : (l.step env (.tick now moves)).shared.tx.Holds [] := by
  rw [step_tick_of_not_hasTask env hmode hwaits]
  exact hrecords.discardAll

/-- There are whole records in the ring, or none. -/
theorem exists_holds_step (hmode : l.machine.mode.hasTask = false) (hwaits : l.Waits)
    {action : Action} (haction : action.IsPassive) {records : List (List UInt8)}
    (hrecords : l.shared.tx.Holds records) : ∃ left, (l.step env action).shared.tx.Holds left := by
  cases action with
  | post command => cases haction
  | host move =>
    obtain ⟨added, -, hholds⟩ := haction.onlyAppends l.shared records hrecords
    exact ⟨_, hholds⟩
  | tick now moves => exact ⟨[], holds_step_tick env hmode hwaits hrecords now moves⟩
  | receive octets rssi now seized =>
    have houtbox : (l.step env (.receive octets rssi now seized)).outbox = l.outbox := by
      rcases freight_receiveAmid env seized octets rssi now l with ⟨packet, -, hfreight⟩ |
        ⟨-, hfreight⟩
      · exact congrArg Freight.outbox hfreight
      · exact congrArg Freight.outbox hfreight
    have htx : (l.step env (.receive octets rssi now seized)).shared.tx = l.shared.tx :=
      congrArg Outbox.tx houtbox
    exact ⟨records, htx ▸ hrecords⟩

/-! ### All runs -/

theorem idles_run (hmode : l.machine.mode.hasTask = false) (hwaits : l.Waits)
    {actions : List Action} (hactions : ∀ a ∈ actions, a.IsPassive) :
    Idles l (run env actions l) := by
  induction actions generalizing l with
  | nil => exact .refl l
  | cons action rest ih =>
    have hidles := idles_step env hmode hwaits (hactions action List.mem_cons_self)
    exact hidles.trans (ih (hidles.mode_eq ▸ hmode) (hidles.waits hwaits)
      fun a ha => hactions a (List.mem_cons_of_mem _ ha))

theorem exists_holds_run (hmode : l.machine.mode.hasTask = false) (hwaits : l.Waits)
    {actions : List Action} (hactions : ∀ a ∈ actions, a.IsPassive) {records : List (List UInt8)}
    (hrecords : l.shared.tx.Holds records) : ∃ left, (run env actions l).shared.tx.Holds left := by
  induction actions generalizing l records with
  | nil => exact ⟨records, hrecords⟩
  | cons action rest ih =>
    have haction := hactions action List.mem_cons_self
    have hidles := idles_step env hmode hwaits haction
    obtain ⟨left, hleft⟩ := exists_holds_step env hmode hwaits haction hrecords
    exact ih (hidles.mode_eq ▸ hmode) (hidles.waits hwaits)
      (fun a ha => hactions a (List.mem_cons_of_mem _ ha)) hleft

/-- What becomes of a link layer in the course of some actions, if it has no task. -/
structure Dozes (actions : List Action) (l : Link σ) : Prop where
  idles : Idles l (run env actions l)
  /-- Every tick empties the ring with what the host wants to send. -/
  emptied : (∃ records, l.shared.tx.Holds records) →
    ∀ before now moves after, actions = before ++ .tick now moves :: after →
      (run env (before ++ [.tick now moves]) l).shared.tx.Holds []

/-- Without a command a link layer without a task stays as it is, whatever it hears: it sends
nothing, publishes nothing but how strongly it hears its last target and where in the table that is,
and throws all away that its host wants to send. -/
theorem dozes_run (hmode : l.machine.mode.hasTask = false) (hwaits : l.Waits)
    {actions : List Action} (hactions : ∀ a ∈ actions, a.IsPassive) : Dozes env actions l where
  idles := idles_run env hmode hwaits hactions
  emptied := by
    rintro ⟨records, hrecords⟩ before now moves after rfl
    have hbefore : ∀ a ∈ before, a.IsPassive := fun a ha => hactions a (by simp [ha])
    have hidles := idles_run env hmode hwaits hbefore
    obtain ⟨left, hleft⟩ := exists_holds_run env hmode hwaits hbefore hrecords
    rw [run_append]
    exact holds_step_tick env (hidles.mode_eq ▸ hmode) (hidles.waits hwaits) hleft now moves

theorem onlySends_pushing (packet : Packet) : (pushing packet).OnlySends where
  onlyAppends := by
    intro s payloads h
    obtain ⟨added, -, hholds⟩ := onlyAppends_pushing packet s payloads h
    exact ⟨added, fun _ _ => trivial, hholds⟩
  act_eq s := by
    unfold pushing
    simp only
    split <;> rfl

/-- The key exchange fails, and with it the attempt.  Then the host sends something, and the access
point sends the station away before the next tick. -/
def belatedActions : List Action :=
  [.host (pushing strayPacket), heardEnd .deauthentication, undisturbed]

theorem dozes_run_belatedActions :
    ∃ s l, attach .standard stationAddress () .fresh = (s, .ok l) ∧
      let env := Surroundings.answering .refused
      let failed := run env (securedActions.take 7) l
      failed.machine.mode = .cannotConnect ∧ failed.machine.target = some (network .wpa2) ∧
        failed.Waits ∧ failed.shared.tx.Holds [] ∧ (∀ a ∈ belatedActions, a.IsPassive) ∧
        (run env (belatedActions.take 2) failed).shared.tx.isEmpty = false ∧
        Dozes env belatedActions failed := by
  have hattached : attach .standard stationAddress () .fresh = (_, .ok _) := rfl
  have hmode : (run (.answering .refused) (securedActions.take 7)
      (fresh stationAddress)).machine.mode = .cannotConnect := by decide +kernel
  have hwaits : (run (.answering .refused) (securedActions.take 7)
      (fresh stationAddress)).Waits := by decide +kernel
  have hempty : (run (.answering .refused) (securedActions.take 7)
      (fresh stationAddress)).shared.tx.Unused := ⟨by decide +kernel, by decide +kernel⟩
  have hactions : ∀ a ∈ belatedActions, a.IsPassive := by
    simp [belatedActions, heardEnd, heard, undisturbed, Action.IsPassive, onlySends_pushing]
  exact ⟨_, _, hattached, hmode, by decide +kernel, hwaits,
    hempty.holds ⟨by decide, by decide⟩, hactions, by decide +kernel,
    dozes_run _ (congrArg Mode.hasTask hmode) hwaits hactions⟩

end WlanControl.Link
