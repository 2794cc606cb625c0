import WlanControl.Proofs.LinkAttempts
import WlanControl.Proofs.LinkQuiet

namespace WlanControl.Link

open WlanControl.Frame (Authentication BeaconInfo Header Received StatusCode)

/-!
# The link layer — the course of an attempt

Whatever ticks and frames make of a connection attempt, it stays an attempt for the same access
point, of which the host is told the same slot.  What is heard of access points and what the host
commands are other matters.

* `Course` — what an attempt is for, and what it has nothing to do with;
* `keptByAttempts_course` — every handler of an attempt keeps its course.

Main statements: `course_connectingTick` and `course_connectedTick`, for all that ticks do to an
attempt or a link, and `course_handle`, for the frames.
-/

variable {σ : Type} {l l' : Link σ} (env : Surroundings σ)

/-- What an attempt is for, and what it has nothing to do with. -/
structure Course where
  target : Option ConnectTarget
  /-- The slot of the table that is published for the target. -/
  apSlot : Option Nat
  accessPoints : Discovery.Table
  commands : Mailbox Command
  acknowledged : UInt32

/-- The course of a link layer. -/
def course (l : Link σ) : Course where
  target := l.machine.target
  apSlot := l.shared.status.apSlot
  accessPoints := l.shared.accessPoints
  commands := l.shared.commands
  acknowledged := l.shared.status.acknowledged

/-! ### The building blocks of handlers -/

theorem Tends.course_eq (h : Tends l l') : l'.course = l.course := by
  unfold course
  rw [h.machine_eq, h.shared_eq]

theorem Transmits.course_eq (h : Transmits l l') : l'.course = l.course := h.tends.course_eq

theorem course_setMode (mode : Mode) (l : Link σ) : (l.setMode mode).course = l.course := by
  unfold setMode
  simp only
  split <;> rfl

theorem keptByAttempts_course :
    KeptByAttempts env fun l l' : Link σ => l'.course = l.course := by
  refine keptByAttempts_of_eq env ?_ (fun _ _ => rfl) course_setMode Transmits.course_eq
  intro l l' h
  unfold course
  rw [h.machine_eq, h.shared_eq]

/-! ### Commands -/

/-- A new attempt is for its own target, whose slot is looked up. -/
theorem course_startConnecting (target : ConnectTarget) (l : Link σ) :
    (l.startConnecting env target).course = { l.course with
      target := some target
      apSlot := (l.shared.accessPoints.findBssid? target.bssid).map Prod.fst } := by
  unfold startConnecting
  rw [(transmits_sendHandshakeFrame env _).course_eq, course_setMode]
  simp only
  split <;> simp only [course, setAuthLevel, notePublished, setRetries, setAid, setFailure,
    setApSlot, tune, installKey]

/-! ### Ticks -/

theorem course_connectingTick (l : Link σ) : (l.connectingTick env).course = l.course :=
  (keptByAttempts_course env).connectingTick l

theorem course_drainBurst (l : Link σ) : (l.drainBurst env).course = l.course := by
  refine drainBurst_keeps env (P := fun m => m.course = l.course) (fun _ h => h) ?_ rfl
  intro m bssid direction record h
  unfold forward
  split
  · exact h
  · exact (transmits_send env _ _).course_eq.trans h

theorem course_connectedTick (l : Link σ) : (l.connectedTick env).course = l.course := by
  unfold connectedTick
  split
  · exact (keptByAttempts_course env).restart l
  · simp only
    split
    · rw [(transmits_sendNullData env _).course_eq, course_drainBurst]
    · exact course_drainBurst env l

/-! ### Frames -/

/-- In these modes there is an attempt or a link, or what is left of one that failed. -/
def Mode.hasTarget : Mode → Bool
  | .connecting | .connected | .cannotConnect => true
  | .disabled | .normal | .scanning | .accessPoint => false

/-- What a frame tells of the access point that sent it. -/
def observed? : Received → Option BeaconInfo
  | .beacon info | .probeResponse info => some info
  | _ => none

theorem handle_of_observed {frame : Received} {info : BeaconInfo}
    (h : observed? frame = some info) (seized : Nat → Bool) (rssi : UInt8) (l : Link σ) :
    l.handle env seized frame rssi = l.receiveBeacon seized info rssi := by
  cases frame with
  | beacon | probeResponse =>
    cases h
    rfl
  | authentication | associationResponse | associationRequest | deauthentication | disassociation
  | data | probeRequest | other => cases h

theorem course_receiveDeauthentication (header : Header) (entirely : Bool) (l : Link σ) :
    (l.receiveDeauthentication env header entirely).course = l.course := by
  unfold receiveDeauthentication
  split
  · exact (keptByAttempts_course env).dismissed header entirely l
  · exact (keptByAttempts_course env).dismissed header entirely l
  · split
    · exact (tends_dismiss _ l).course_eq
    · rfl
  · rfl
  · rfl
  · rfl
  · rfl

theorem course_receiveData (header : Header) (body : List UInt8) (l : Link σ) :
    (l.receiveData env header body).course = l.course := by
  have hkept (target : ConnectTarget) :
      (l.receiveFromNetwork env target header body).course = l.course :=
    (keptByAttempts_course env).receiveFromNetwork (fun _ _ => (tends_deliver _ _).course_eq) target
      header body l
  unfold receiveData
  split
  · split
    · rfl
    · exact hkept _
  · split
    · rfl
    · exact hkept _
  · exact (tends_receiveFromPeer env header body l).course_eq
  · rfl
  · rfl
  · rfl
  · rfl

/-- Frames that tell of no access point leave the course alone. -/
theorem course_handle {frame : Received} (h : observed? frame = none) (seized : Nat → Bool)
    (rssi : UInt8) (l : Link σ) : (l.handle env seized frame rssi).course = l.course := by
  unfold handle
  split
  · cases h
  · cases h
  · split
    · exact (keptByAttempts_course env).receiveAuthentication (fun _ => rfl) _ _ l
    · exact (tends_receivePeerAuthentication env _ _ l).course_eq
    · rfl
  · split
    · exact (keptByAttempts_course env).receiveAssociationResponse (fun _ => rfl) _ _ _ l
    · rfl
  · split
    · exact (tends_receivePeerAssociation env _ l).course_eq
    · rfl
  · exact course_receiveDeauthentication env _ true l
  · exact course_receiveDeauthentication env _ false l
  · exact course_receiveData env _ _ l
  · rfl
  · rfl

end WlanControl.Link
