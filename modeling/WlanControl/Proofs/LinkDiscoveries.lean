import WlanControl.Proofs.LinkTidiness
import WlanControl.Proofs.TableOrigins

namespace WlanControl

namespace Link

open Discovery (Observation Record Table)
open WlanControl.Frame (BeaconInfo Received)

/-!
# The link layer — what it discovers

A scan forgets the access points that were known, except for those in slots that the host holds.
They are not shown any more, whenever the host lets go of them.  Only beacons and probe responses
put something new into the table.

* `observation?`, `observations` — what the radio observes;
* `HostMove.OnlyHolds` — the host holds slots and lets go of them, and changes nothing in them;
* `Recalls` — readers of the table get only what stems from some observations;
* `recalls_work`, `recalls_handle`, `recalls_obey`, `recalls_step` — what this is kept by.

Main statement: `stems_since_scan`, after a scan was commanded readers get nothing that was observed
before.  A disabled radio ignores the command, as `outlives_ignored_scan` shows.
-/

variable {σ : Type} {l l' : Link σ} {seen : List Observation} (env : Surroundings σ)

/-! ### Observations -/

/-- What the radio observes, unless it is disabled. -/
def observation? (l : Link σ) : Action → Option Observation
  | .receive octets rssi _ _ =>
    if l.machine.mode = .disabled then none
    else ((Received.ofOctets octets).toOption.bind observed?).bind fun info =>
      Observation.ofBeacon? info rssi l.machine.channel
  | .post _ | .host _ | .tick _ _ => none

/-- What the radio observes in a run, one after the other. -/
def observations : List Action → Link σ → List Observation
  | [], _ => []
  | action :: rest, l => (l.observation? action).toList ++ observations rest (l.step env action)

/-! ### What the host does -/

/-- The host holds slots of the table, or lets go of them, but changes nothing in them. -/
def HostMove.OnlyHolds (move : HostMove) : Prop :=
  ∀ s, (move.act s).accessPoints.bare = s.accessPoints.bare

/-- Whatever the host does to the table is holding slots. -/
def Action.OnlyHolds : Action → Prop
  | .host move => move.OnlyHolds
  | .tick _ moves => ∀ step, (moves step).OnlyHolds
  | .post _ | .receive _ _ _ _ => True

/-- The host gets hold of a slot, if nobody uses it. -/
def seizing (i : Nat) : HostMove where
  act s := { s with accessPoints := (s.accessPoints.hold? .host i).getD s.accessPoints }
  status_act _ := rfl

/-- The host lets go of a slot. -/
def yielding (i : Nat) : HostMove where
  act s := { s with accessPoints := s.accessPoints.release i }
  status_act _ := rfl

theorem onlyHolds_idle : HostMove.idle.OnlyHolds := fun _ => rfl

theorem onlyHolds_seizing (i : Nat) : (seizing i).OnlyHolds :=
  fun s => Table.bare_hold .host i s.accessPoints

theorem onlyHolds_yielding (i : Nat) : (yielding i).OnlyHolds :=
  fun s => Table.bare_release i s.accessPoints

/-- No call of the host changes the table. -/
theorem onlyHolds_calling (controller : Host.Controller) (call : Host.Call) :
    (calling controller call).OnlyHolds := by
  intro s
  show (Host.perform call ⟨controller, s⟩).1.shared.accessPoints.bare = s.accessPoints.bare
  rw [(Host.asks_perform call ⟨controller, s⟩).shared_eq]

/-! ### What readers get -/

/-- All that readers of the table get stems from some observations. -/
def Recalls (seen : List Observation) (l : Link σ) : Prop := l.shared.accessPoints.StemsFrom seen

namespace Recalls

theorem mono {seen' : List Observation} (h : l.Recalls seen) (hmore : seen.Sublist seen') :
    l.Recalls seen' := Table.StemsFrom.mono h hmore

theorem of_accessPoints_eq (h : l.Recalls seen)
    (htable : l'.shared.accessPoints = l.shared.accessPoints) : l'.Recalls seen := by
  unfold Recalls
  rw [htable]
  exact h

theorem of_course_eq (h : l.Recalls seen) (hcourse : l'.course = l.course) : l'.Recalls seen :=
  h.of_accessPoints_eq (congrArg Course.accessPoints hcourse)

theorem act (h : l.Recalls seen) {move : HostMove} (hholds : move.OnlyHolds) :
    Recalls seen { l with shared := move.act l.shared } := h.of_bare_eq (hholds l.shared)

end Recalls

/-! ### Ticks -/

/-- Going on to the next channel lets the entries age. -/
theorem recalls_scanTick (h : l.Recalls seen) : (l.scanTick env).Recalls seen := by
  unfold scanTick
  split
  · refine Recalls.of_course_eq ?_ (transmits_sendProbeRequest env _).course_eq
    exact h.tick
  · exact h

theorem recalls_work (h : l.Recalls seen) {moves : Nat → HostMove}
    (hholds : ∀ step, (moves step).OnlyHolds) :
    (l.work env fun step => (moves step).act).Recalls seen := by
  unfold work
  split
  · exact recalls_scanTick env h
  · exact h.of_course_eq (course_connectingTick env l)
  · exact h.of_course_eq (course_connectedTick env l)
  · exact accessPointTick_keeps env (P := Recalls seen)
      (fun htends h => h.of_course_eq htends.course_eq)
      (fun step h => h.act (hholds step)) (fun _ h => h) h
  · exact h
  · exact h
  · exact h

/-! ### Commands -/

theorem accessPoints_leaveMode (l : Link σ) :
    (l.leaveMode env).shared.accessPoints = l.shared.accessPoints := by
  have hset (m : Link σ) : ((m.setAuthLevel .disconnected).setMode .normal).shared.accessPoints =
      m.shared.accessPoints :=
    congrArg Course.accessPoints (course_setMode .normal (m.setAuthLevel .disconnected))
  unfold leaveMode
  simp only
  rw [hset]
  split
  · exact congrArg Course.accessPoints (transmits_leaveAp env l).course_eq
  · exact congrArg Course.accessPoints (transmits_leaveAp env l).course_eq
  · rfl
  · obtain ⟨ended, htends, hended⟩ := tends_endSession env l
    rw [hended]
    exact congrArg Course.accessPoints htends.course_eq
  · rfl
  · rfl
  · rfl

/-- A scan begins with nothing that readers could get. -/
theorem recalls_startScan (l : Link σ) : (l.startScan env).Recalls [] := by
  unfold startScan
  refine Recalls.of_course_eq ?_ (transmits_sendProbeRequest env _).course_eq
  refine Recalls.of_course_eq ?_ (course_setMode .scanning _)
  exact Table.stemsFrom_clear l.shared.accessPoints

theorem recalls_startHosting (h : l.Recalls seen) (parameters : HostParameters) :
    (l.startHosting env parameters).Recalls seen := by
  unfold startHosting
  refine Recalls.of_course_eq ?_ (course_setMode .accessPoint _)
  simp only
  split <;> exact h

theorem recalls_obey (h : l.Recalls seen) {moves : Nat → HostMove}
    (hholds : ∀ step, (moves step).OnlyHolds) (command : Command) :
    (l.obey env (fun step => (moves step).act) command).Recalls seen := by
  have hleft : (l.leaveMode env).Recalls seen := h.of_accessPoints_eq (accessPoints_leaveMode env l)
  unfold obey
  split
  · cases command with
    | enable => exact h.of_course_eq (course_setMode .normal l)
    | powerOff | stop | scan | connect | host => exact h
  · cases command with
    | enable => exact h
    | powerOff => exact hleft.of_course_eq (course_setMode .disabled _)
    | stop => exact hleft
    | scan => exact (recalls_startScan env _).mono (List.nil_sublist seen)
    | connect target =>
      exact hleft.of_accessPoints_eq
        (congrArg Course.accessPoints (course_startConnecting env target _))
    | host parameters => exact recalls_startHosting env (hleft.act (hholds 0)) parameters

theorem recalls_serveCommand (h : l.Recalls seen) {moves : Nat → HostMove}
    (hholds : ∀ step, (moves step).OnlyHolds) :
    (l.serveCommand env fun step => (moves step).act).Recalls seen := by
  cases htake : l.shared.commands.take.2 with
  | none =>
    rw [serveCommand_of_none env _ htake]
    exact h
  | some posted =>
    rw [serveCommand_of_some env _ htake]
    exact recalls_obey env (l := l.taken posted.1 posted.2) h hholds posted.2

theorem obey_scan (meanwhile : Meanwhile) (henabled : l.machine.mode ≠ .disabled) :
    l.obey env meanwhile .scan = (l.leaveMode env).startScan env := by
  unfold obey
  rw [if_neg henabled]

/-- Once a scan was commanded, and the tick is over that serves the command, readers get nothing of
what was observed before. -/
theorem recalls_scanned {version : UInt32} (henabled : l.machine.mode ≠ .disabled)
    (hscan : l.shared.commands.take.2 = some (version, .scan)) (now : Nat)
    (moves : Nat → HostMove) : (l.step env (.tick now moves)).Recalls [] := by
  let meanwhile : Meanwhile := fun step => (moves step).act
  have hobeyed : ((l.atTime now).taken version .scan).obey env meanwhile .scan =
      (((l.atTime now).taken version .scan).leaveMode env).startScan env :=
    obey_scan env meanwhile henabled
  have hserved : (l.atTime now).serveCommand env meanwhile =
      ((((l.atTime now).taken version .scan).leaveMode env).startScan env).acknowledge version := by
    rw [← hobeyed]
    exact serveCommand_of_some env meanwhile hscan
  have hmode := mode_startScan env (((l.atTime now).taken version .scan).leaveMode env)
  have hscanned := recalls_startScan env (((l.atTime now).taken version .scan).leaveMode env)
  show (((l.atTime now).serveCommand env meanwhile).work env meanwhile).Recalls []
  rw [hserved]
  generalize startScan env _ = started at hmode hscanned ⊢
  -- What is left of the tick is one for a scan.
  have hworked : (started.acknowledge version).work env meanwhile =
      (started.acknowledge version).scanTick env := by
    unfold work
    rw [show (started.acknowledge version).machine.mode = .scanning from hmode]
  rw [hworked]
  exact recalls_scanTick env (l := started.acknowledge version) hscanned

/-! ### Frames -/

theorem recalls_noteTargetObserved (h : l.Recalls seen) (o : Observation) (slot : Option Nat) :
    (l.noteTargetObserved o slot).Recalls seen := by
  unfold noteTargetObserved
  split <;> split <;> exact h

/-- What is observed goes into the table. -/
theorem recalls_receiveBeacon (h : l.Recalls seen) (seized : Nat → Bool) (info : BeaconInfo)
    (rssi : UInt8) : (l.receiveBeacon seized info rssi).Recalls
      (seen ++ (Observation.ofBeacon? info rssi l.machine.channel).toList) := by
  unfold receiveBeacon
  split
  · rename_i hnone
    rw [hnone, Option.toList_none, List.append_nil]
    exact h
  · rename_i o hobserved
    rw [hobserved, Option.toList_some]
    have hrecorded : (l.shared.accessPoints.record o seized).1.StemsFrom (seen ++ [o]) :=
      h.record o seized
    simp only
    split <;> split
    · refine recalls_noteTargetObserved ?_ o _
      exact hrecorded
    · exact hrecorded
    · refine recalls_noteTargetObserved ?_ o _
      exact hrecorded
    · exact hrecorded

theorem recalls_handle (h : l.Recalls seen) (seized : Nat → Bool) (frame : Received)
    (rssi : UInt8) : (l.handle env seized frame rssi).Recalls
      (seen ++ ((observed? frame).bind fun info =>
        Observation.ofBeacon? info rssi l.machine.channel).toList) := by
  cases hframe : observed? frame with
  | none =>
    rw [Option.bind_none, Option.toList_none, List.append_nil]
    exact h.of_course_eq (course_handle env hframe seized rssi l)
  | some info =>
    rw [handle_of_observed env hframe, Option.bind_some]
    exact recalls_receiveBeacon h seized info rssi

/-! ### All runs -/

theorem recalls_step (h : l.Recalls seen) {action : Action} (hholds : action.OnlyHolds) :
    (l.step env action).Recalls (seen ++ (l.observation? action).toList) := by
  have hmore {l' : Link σ} (h' : l'.Recalls seen) :
      l'.Recalls (seen ++ (l.observation? action).toList) :=
    h'.mono (List.sublist_append_left seen _)
  cases action with
  | post command =>
    refine hmore (h.of_accessPoints_eq ?_)
    show (l.shared.postCommand command).1.accessPoints = l.shared.accessPoints
    unfold SharedState.postCommand
    split <;> rfl
  | host move => exact hmore (h.act hholds)
  | tick now moves =>
    have hserved := recalls_serveCommand env (l := l.atTime now) h hholds
    exact hmore (recalls_work env hserved hholds)
  | receive octets rssi now seized =>
    show (l.receiveAmid env seized octets rssi now).Recalls _
    rcases receiveAmid_cases env seized octets rssi now l with
      hidle | ⟨henabled, frame, hread, hheard⟩
    · rw [hidle]
      exact hmore h
    · have hobserved : l.observation? (.receive octets rssi now seized) =
          (observed? frame).bind fun info =>
            Observation.ofBeacon? info rssi l.machine.channel := by
        simp only [observation?, if_neg henabled, hread]
        rfl
      rw [hheard, hobserved]
      exact recalls_handle env (l := l.atTime now) h seized frame rssi

theorem recalls_run (h : l.Recalls seen) {actions : List Action}
    (hholds : ∀ action ∈ actions, action.OnlyHolds) :
    (run env actions l).Recalls (seen ++ observations env actions l) := by
  induction actions generalizing l seen with
  | nil =>
    rw [observations, List.append_nil]
    exact h
  | cons action rest ih =>
    rw [observations, ← List.append_assoc]
    exact ih (recalls_step env h (hholds action List.mem_cons_self))
      fun a ha => hholds a (List.mem_cons_of_mem _ ha)

variable {env}

/-- Once a radio that is not disabled was commanded to scan, readers of the table get only what
stems from observations that were made since, whichever slots the host holds and when. -/
theorem stems_since_scan {version : UInt32} (henabled : l.machine.mode ≠ .disabled)
    (hscan : l.shared.commands.take.2 = some (version, .scan)) (now : Nat)
    (moves : Nat → HostMove) {actions : List Action}
    (hholds : ∀ action ∈ actions, action.OnlyHolds) {r : Record}
    (hread : (run env actions (l.step env (.tick now moves))).shared.accessPoints.Reads r) :
    r.Stems (observations env actions (l.step env (.tick now moves))) := by
  have hrecalls := recalls_run env (recalls_scanned env henabled hscan now moves) hholds
  exact hrecalls.of_reads hread

/-- An access point is heard, and the host holds its slot when the next scan is commanded. -/
def heldActions : List Action :=
  [.post .enable, undisturbed, hearingBeacon networkAddress, .host (seizing 0), .post .scan]

/-- The host lets go of the slot, the access point is heard again, and the host takes the next
slot. -/
def rediscoveringActions : List Action :=
  [.host (yielding 0), hearingBeacon networkAddress, .host (seizing 1), undisturbed]

theorem stems_since_scan_held :
    let l := (run (.answering .refused) heldActions (fresh stationAddress)).step
      (.answering .refused) undisturbed
    ∃ r, (run (.answering .refused) rediscoveringActions l).shared.accessPoints.Reads r ∧
      r.Stems (observations (.answering .refused) rediscoveringActions l) := by
  intro l
  have henabled : (run (.answering .refused) heldActions (fresh stationAddress)).machine.mode ≠
      .disabled := by decide +kernel
  have hscan : (run (.answering .refused) heldActions (fresh stationAddress)).shared.commands.take.2
      = some (2, .scan) := by decide +kernel
  have hholds : ∀ action ∈ rediscoveringActions, action.OnlyHolds := by
    simp [rediscoveringActions, hearingBeacon, heard, undisturbed, Action.OnlyHolds,
      onlyHolds_yielding, onlyHolds_seizing, onlyHolds_idle]
  obtain ⟨⟨i, r⟩, hfound⟩ := Option.isSome_iff_exists.mp
    (show ((run (.answering .refused) rediscoveringActions l).shared.accessPoints.findBssid?
      networkAddress).isSome = true by decide +kernel)
  refine ⟨r, .known hfound, ?_⟩
  exact stems_since_scan henabled hscan 1 (fun _ => .idle) hholds (.known hfound)

/-- An access point is heard before the radio is powered off, and then a scan is commanded. -/
def ignoredActions : List Action :=
  [.post .enable, undisturbed, hearingBeacon networkAddress, .post .powerOff, undisturbed,
    .post .scan]

/-- A disabled radio takes the command and acknowledges it, but readers still get the access
point. -/
theorem outlives_ignored_scan :
    let l := run (.answering .refused) ignoredActions (fresh stationAddress)
    let scanned := l.step (.answering .refused) undisturbed
    l.shared.commands.take.2 = some (3, .scan) ∧ scanned.shared.status.acknowledged = 3 ∧
      ∃ r, scanned.shared.accessPoints.Reads r ∧
        ¬ r.Stems (observations (.answering .refused) [] scanned) := by
  intro l scanned
  refine ⟨by decide +kernel, by decide +kernel, ?_⟩
  obtain ⟨⟨i, r⟩, hfound⟩ := Option.isSome_iff_exists.mp
    (show (scanned.shared.accessPoints.findBssid? networkAddress).isSome = true by decide +kernel)
  exact ⟨r, .known hfound, Record.not_stems_nil⟩

end Link

end WlanControl
