namespace WlanControl.Sync

/-!
# Locks that never wait

Two processors share memory and cannot signal each other, so whoever finds a lock in use gives up at
once and tries again later.

* `Processor` — the two sides;
* `Lock` — a value together with who holds it;
* `Lock.acquire?`, `Lock.release` — hold a value over several steps;
* `Lock.tryWith` — use a value in one step.

Main statement: `Lock.acquire?_eq_none_iff`, a lock is refused exactly while somebody holds it, be
it the one who asks.
-/

/-- One of the two processors. -/
inductive Processor
  /-- The one with the radio, which runs the link layer. -/
  | radio
  /-- The one that runs the application. -/
  | host
deriving DecidableEq, Repr

/-- A value that is used by one side at a time. -/
structure Lock (α : Type) where
  holder : Option Processor
  value : α
deriving DecidableEq, Repr

namespace Lock

variable {α β : Type}

/-- A value that nobody holds. -/
def free (value : α) : Lock α := ⟨none, value⟩

/-- Whether somebody holds the value. -/
def isHeld (l : Lock α) : Bool := l.holder.isSome

/-- The lock in the hands of a processor, unless somebody holds it already. -/
def acquire? (who : Processor) (l : Lock α) : Option (Lock α) :=
  if l.isHeld then none else some { l with holder := some who }

/-- The lock in nobody's hands. -/
def release (l : Lock α) : Lock α := { l with holder := none }

/-- Uses and replaces the value, unless somebody holds it.  The lock is free again afterwards. -/
def tryWith (f : α → α × β) (l : Lock α) : Lock α × Option β :=
  if l.isHeld then (l, none)
  else
    let (value, result) := f l.value
    ({ l with value }, some result)

/-- A lock is refused exactly while somebody holds it. -/
theorem acquire?_eq_none_iff (who : Processor) (l : Lock α) :
    l.acquire? who = none ↔ l.isHeld = true := by
  unfold acquire?
  split <;> simp_all

/-- Using a lock in one step leaves it in the same hands. -/
theorem holder_tryWith (f : α → α × β) (l : Lock α) : (l.tryWith f).1.holder = l.holder := by
  unfold tryWith
  split <;> rfl

end Lock

end WlanControl.Sync
