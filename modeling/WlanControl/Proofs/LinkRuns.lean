import WlanControl.Link.Reception
import WlanControl.Link.Tick
import WlanControl.Proofs.HostCalls

namespace WlanControl

/-!
# The link layer — its runs

A link layer is ticked and receives frames, while the host posts commands and does other things to
the shared memory, also in the middle of a tick.

* `Link.HostMove` — what the host may do: anything but storing what the radio publishes, such as
  `Link.calling` for the calls of the application;
* `Link.Action`, `Link.step`, `Link.run` — the runs;
* `Link.run_of_step` — what every step keeps, every run keeps;
* `Link.receiveAmid_cases`, `Link.attach_eq_ok` — what a frame may do, and what a run starts from;
* `Link.Surroundings.answering`, `Link.fresh` — what to run a link layer with, and one to run.
-/

/-- Posting a command stores nothing that the radio publishes. -/
theorem SharedState.status_postCommand (command : Command) (s : SharedState) :
    (s.postCommand command).1.status = s.status := by
  unfold postCommand
  split <;> rfl

namespace Link

variable {σ : Type}

/-! ### Actions -/

/-- Something that the host does to the shared memory.  It never stores what the radio publishes. -/
structure HostMove where
  act : SharedState → SharedState
  status_act : ∀ s, (act s).status = s.status

/-- The host does nothing. -/
def HostMove.idle : HostMove where
  act s := s
  status_act _ := rfl

/-- The application calls the host, which keeps `controller` to itself. -/
def calling (controller : Host.Controller) (call : Host.Call) : HostMove where
  act s := (Host.perform call ⟨controller, s⟩).1.shared
  status_act s := by
    obtain ⟨command?, hposts⟩ := Host.posts_perform call ⟨controller, s⟩
    exact hposts.status_eq

/-- What happens to a link layer. -/
inductive Action
  /-- The host posts a command. -/
  | post (command : Command)
  /-- The host does something else. -/
  | host (move : HostMove)
  /-- A tick, with what the host does in the meantime. -/
  | tick (now : Nat) (moves : Nat → HostMove)
  /-- A frame is received, while the host gets hold of some slots of the table of access points. -/
  | receive (octets : List UInt8) (rssi : UInt8) (now : Nat) (seized : Nat → Bool)

/-- The link after one more action. -/
def step (env : Surroundings σ) (l : Link σ) : Action → Link σ
  | .post command => { l with shared := (l.shared.postCommand command).1 }
  | .host move => { l with shared := move.act l.shared }
  | .tick now moves => l.tickAmid env (fun step => (moves step).act) now
  | .receive octets rssi now seized => l.receiveAmid env seized octets rssi now

/-- The link after some actions. -/
def run (env : Surroundings σ) (actions : List Action) (l : Link σ) : Link σ :=
  actions.foldl (step env) l

/-- What every step keeps, every run keeps. -/
theorem run_of_step (env : Surroundings σ) {P : Link σ → Prop} {l : Link σ} (h : P l)
    (hstep : ∀ {l}, P l → ∀ action, P (l.step env action)) (actions : List Action) :
    P (run env actions l) := by
  induction actions generalizing l with
  | nil => exact h
  | cons action rest ih => exact ih (hstep h action)

/-! ### Frames -/

section Frames

variable (env : Surroundings σ) {l : Link σ} {octets : List UInt8} {frame : Frame.Received}

/-- A frame that can be read is acted upon, unless the radio is disabled. -/
theorem receiveAmid_of_ok (hmode : l.machine.mode ≠ .disabled)
    (hread : Frame.Received.ofOctets octets = .ok frame) (seized : Nat → Bool) (rssi : UInt8)
    (now : Nat) : l.receiveAmid env seized octets rssi now =
      (l.atTime now).handle env seized frame rssi := by
  have hmode' : (l.atTime now).machine.mode ≠ .disabled := hmode
  unfold receiveAmid
  simp only
  rw [if_neg hmode', hread]

/-- A frame is acted upon, or nothing happens but that time goes on. -/
theorem receiveAmid_cases (seized : Nat → Bool) (octets : List UInt8) (rssi : UInt8) (now : Nat)
    (l : Link σ) : l.receiveAmid env seized octets rssi now = l.atTime now ∨
      l.machine.mode ≠ .disabled ∧ ∃ frame, Frame.Received.ofOctets octets = .ok frame ∧
        l.receiveAmid env seized octets rssi now =
          (l.atTime now).handle env seized frame rssi := by
  by_cases hmode : l.machine.mode = .disabled
  · have hmode' : (l.atTime now).machine.mode = .disabled := hmode
    left
    unfold receiveAmid
    simp only
    rw [if_pos hmode']
  · cases hread : Frame.Received.ofOctets octets with
    | ok frame => exact .inr ⟨hmode, frame, rfl, receiveAmid_of_ok env hmode hread seized rssi now⟩
    | error e =>
      have hmode' : (l.atTime now).machine.mode ≠ .disabled := hmode
      left
      unfold receiveAmid
      simp only
      rw [if_neg hmode', hread]

end Frames

/-! ### To begin with -/

/-- A link layer that was just attached is disabled, whatever else the shared memory holds. -/
theorem attach_eq_ok {settings : Settings} {address : MacAddress} {outside : σ} {l : Link σ}
    {s s' : SharedState} (h : attach settings address outside s = (s', .ok l)) :
    ∃ producer rx tx, l = {
      machine := .start settings address producer
      shared := { s with rx, tx, address, status.mode := .disabled }
      outside
      log := [.published .disabled s.status.authLevel] } := by
  unfold attach at h
  split at h
  · cases h
  · split at h
    · cases h
    · cases h
      exact ⟨_, _, _, rfl⟩

/-- A radio with room for every frame, and a key exchange that answers all messages alike. -/
def Surroundings.answering (answer : ExchangeStep) : Surroundings Unit where
  send _ outside := (outside, true)
  tune _ outside := outside
  installKey _ outside := outside
  beginExchange _ _ _ outside := outside
  exchange _ outside := (outside, answer)
  resetExchange outside := outside

/-- A link layer with the standard settings that was just attached to memory that was never used. -/
def fresh (address : MacAddress) : Link Unit where
  machine := .start .standard address ⟨0⟩
  shared := (attach .standard address () .fresh).1
  outside := ()
  log := [.published .disabled .disconnected]

theorem attach_fresh (address : MacAddress) :
    (attach .standard address () .fresh).2 = .ok (fresh address) := rfl

end Link

end WlanControl
