import WlanControl.Shared.State

namespace WlanControl

/-!
# The home of the shared memory

The shared memory is allocated once and then kept.  The host initializes and publishes it, the radio
attaches to whatever is published.

* `Region` — the memory, if it was allocated, and whether it is published;
* `Region.init`, `Region.deinit`, `Region.attach?` — its life.

Main statement: `Region.attach?_init`, what was initialized is what the radio attaches to.
-/

/-- The home of the shared memory. -/
structure Region where
  /-- The memory, once it was allocated. -/
  memory : Option SharedState
  published : Bool
deriving DecidableEq, Repr

namespace Region

/-- A region in which nothing was allocated. -/
def empty : Region := ⟨none, false⟩

/-- Allocates the memory on first use, resets it and publishes it.  Refused while it is
published. -/
def init (r : Region) : Region × Except RequestError Unit :=
  if r.published then (r, .error .invalidState)
  else
    let (memory, result) := (r.memory.getD .fresh).reset
    match result with
    | .ok () => ({ memory := some memory, published := true }, .ok ())
    | .error e => ({ r with memory := some memory }, .error e)

/-- The published memory, if there is one. -/
def attach? (r : Region) : Option SharedState := if r.published then r.memory else none

/-- Withdraws the memory.  It stays allocated. -/
def deinit (r : Region) : Region := { r with published := false }

/-- What was initialized is what the radio attaches to. -/
theorem attach?_init {r r' : Region} (h : r.init = (r', .ok ())) :
    ∃ s, r'.memory = some s ∧ r'.attach? = some s := by
  unfold init at h
  split at h
  · cases h
  · simp only at h
    split at h
    · cases h
      exact ⟨_, rfl, rfl⟩
    · cases h

/-- Nothing is left to attach to once the memory was withdrawn. -/
theorem attach?_deinit (r : Region) : r.deinit.attach? = none := rfl

end Region

end WlanControl
