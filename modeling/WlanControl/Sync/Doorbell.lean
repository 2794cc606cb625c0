namespace WlanControl.Sync

/-!
# Doorbells

A doorbell counts signals until they are taken.  A task that finds none leaves its number, and the
next signal wakes it.

The signals are counted in a word of the target, so after the greatest number of them comes none.

* `Doorbell.signal`, `Doorbell.wake` — the parts of giving a signal, and `Doorbell.ring` for both of
  them at once;
* `Doorbell.take?` — takes a signal;
* `Doorbell.poll` — one attempt of a task that waits for a signal.

Main statement: `Doorbell.mem_woken_ring`, a task that found no signal is woken by the next one.
-/

/-- Signals that were not taken yet, and who waits for the next one. -/
structure Doorbell where
  pending : UInt32
  /-- The task to wake.  There is room for one, and a later task takes the place of an earlier. -/
  waiting : Option Nat
  /-- The tasks that were woken so far, latest first. -/
  woken : List Nat
deriving DecidableEq, Repr

namespace Doorbell

/-- A doorbell that was never rung. -/
def silent : Doorbell := ⟨0, none, []⟩

/-- Counts one more signal. -/
def signal (b : Doorbell) : Doorbell := { b with pending := b.pending + 1 }

/-- Wakes the waiting task, which then waits no longer. -/
def wake (b : Doorbell) : Doorbell :=
  { b with waiting := none, woken := b.waiting.toList ++ b.woken }

/-- One more signal, which wakes the waiting task. -/
def ring (b : Doorbell) : Doorbell := b.signal.wake

/-- Forgets all signals, but not who waits. -/
def reset (b : Doorbell) : Doorbell := { b with pending := 0 }

/-- Takes a signal, if there is one. -/
def take? (b : Doorbell) : Option Doorbell :=
  if b.pending = 0 then none else some { b with pending := b.pending - 1 }

/-- Leaves the number of a task that is to be woken. -/
def register (task : Nat) (b : Doorbell) : Doorbell := { b with waiting := some task }

/-- One attempt of a task to get a signal, and whether it got one. -/
def poll (task : Nat) (b : Doorbell) : Doorbell × Bool :=
  match b.take? with
  | some b => (b, true)
  | none => (b.register task, false)

/-- A task that found no signal is woken by the next one. -/
theorem mem_woken_ring {task : Nat} {b : Doorbell} (h : (b.poll task).2 = false) :
    task ∈ (b.poll task).1.ring.woken := by
  unfold poll at h ⊢
  split
  · rename_i taken
    simp [taken] at h
  · simp [register, ring, signal, wake]

/-- A signal counts as one more, in a word that wraps. -/
theorem toNat_pending_signal (b : Doorbell) :
    b.signal.pending.toNat = (b.pending.toNat + 1) % 4294967296 := UInt32.toNat_add b.pending 1

theorem pending_eq_zero_iff {b : Doorbell} : b.pending = 0 ↔ b.pending.toNat = 0 :=
  UInt32.toNat_inj.symm

theorem take?_eq_none_iff {b : Doorbell} : b.take? = none ↔ b.pending = 0 := by
  unfold take?
  split <;> simp [*]

/-- Who takes a signal neither waits nor wakes anybody. -/
theorem waiting_of_take? {b b' : Doorbell} (h : b.take? = some b') :
    b'.waiting = b.waiting ∧ b'.woken = b.woken := by
  unfold take? at h
  split at h
  · cases h
  · cases h
    exact ⟨rfl, rfl⟩

/-- With each signal that is taken there is one less. -/
theorem toNat_pending_of_take? {b b' : Doorbell} (h : b.take? = some b') :
    b'.pending.toNat + 1 = b.pending.toNat := by
  unfold take? at h
  split at h
  · cases h
  · rename_i remaining
    cases h
    have positive : b.pending.toNat ≠ 0 := fun zero => remaining (pending_eq_zero_iff.mpr zero)
    have least : (1 : UInt32) ≤ b.pending :=
      UInt32.le_iff_toNat_le.mpr (Nat.one_le_iff_ne_zero.mpr positive)
    show (b.pending - 1).toNat + 1 = _
    rw [UInt32.toNat_sub_of_le _ _ least]
    exact Nat.sub_add_cancel (Nat.one_le_iff_ne_zero.mpr positive)

end Doorbell

end WlanControl.Sync
