import WlanControl.Sync.Lock

namespace WlanControl

open Sync (Lock Processor)

/-!
# Mailboxes

A mailbox holds one value at most.  A newer value takes the place of one that was not taken, and
each value has a version, which counts the values posted so far.

* `Mailbox` — the slot behind a lock, and the version of the last value;
* `Mailbox.post`, `Mailbox.take` — give and take a value, unless somebody uses the slot.

Main statement: `Mailbox.take_post`, the value that was posted last is the one that is taken.
-/

/-- A place for one value. -/
structure Mailbox (α : Type) where
  slot : Lock (Option (UInt32 × α))
  version : UInt32
deriving DecidableEq, Repr

namespace Mailbox

variable {α : Type}

/-- A mailbox to which nothing was posted. -/
def empty : Mailbox α := ⟨.free none, 0⟩

/-- Replaces the contents, and tells the version of the new value.  None if somebody uses the
slot. -/
def post (value : α) (m : Mailbox α) : Mailbox α × Option UInt32 :=
  let version := m.version + 1
  match m.slot.tryWith fun _ => (some (version, value), ()) with
  | (slot, some ()) => ({ slot, version }, some version)
  | (_, none) => (m, none)

/-- Takes the contents with their version.  None if there are none or somebody uses the slot. -/
def take (m : Mailbox α) : Mailbox α × Option (UInt32 × α) :=
  match m.slot.tryWith fun contents => (none, contents) with
  | (slot, some contents) => ({ m with slot }, contents)
  | (_, none) => (m, none)

/-- Throws the contents away, unless somebody uses the slot. -/
def clear (m : Mailbox α) : Mailbox α :=
  { m with slot := (m.slot.tryWith fun _ => (none, ())).1 }

/-- The mailbox in the hands of a processor, unless somebody uses its slot already. -/
def hold? (who : Processor) (m : Mailbox α) : Option (Mailbox α) :=
  (m.slot.acquire? who).map fun slot => { m with slot }

/-- The mailbox in nobody's hands. -/
def release (m : Mailbox α) : Mailbox α := { m with slot := m.slot.release }

/-- The value that was posted last is the one that is taken. -/
theorem take_post {value : α} {m posted : Mailbox α} {version : UInt32}
    (h : m.post value = (posted, some version)) : posted.take.2 = some (version, value) := by
  unfold post Lock.tryWith at h
  by_cases held : m.slot.isHeld = true
  · simp [held] at h
  · simp only [held] at h
    injection h with h₁ h₂
    injection h₂ with h₂
    subst h₁ h₂
    have free : (Lock.mk m.slot.holder (some (m.version + 1, value))).isHeld = false := by
      simpa [Lock.isHeld] using held
    simp [take, Lock.tryWith, free]

end Mailbox

end WlanControl
