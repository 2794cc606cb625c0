import WlanControl.Session.Roster
import WlanControl.Sync.Lock

namespace WlanControl.Session

open Sync (Lock Processor)

/-!
# The shared roster

The roster of a session behind a lock, next to the flag that lets new peers in.  The radio changes
the roster when frames of peers arrive, and the host reads it.  Every operation is refused while
somebody holds the lock.
-/

/-- The roster with its lock, and whether new peers are let in. -/
structure Table where
  roster : Lock Roster
  accepting : Bool
deriving DecidableEq, Repr

namespace Table

/-- A table without peers that lets nobody in. -/
def empty : Table := ⟨.free (.empty maxPeers), false⟩

instance : Inhabited Table := ⟨empty⟩

/-- Changes the roster, unless somebody holds it. -/
def update {α : Type} (f : Roster → Roster × Except Error α) (t : Table) : Table × Except Error α :=
  match t.roster.tryWith f with
  | (roster, some result) => ({ t with roster }, result)
  | (_, none) => (t, .error .busy)

/-- Changes the roster and lists whom to tell, unless somebody holds it. -/
def updateTelling {α : Type} (f : Roster → Roster × List MacAddress × Except Error α) (t : Table) :
    Table × List MacAddress × Except Error α :=
  match t.roster.tryWith f with
  | (roster, some (told, result)) => ({ t with roster }, told, result)
  | (_, none) => (t, [], .error .busy)

/-- Reads the roster, unless somebody holds it. -/
def read {α : Type} (f : Roster → α) (t : Table) : Except Error α :=
  if t.roster.isHeld then .error .busy else .ok (f t.roster.value)

/-! ### Operations of the radio -/

/-- Forgets all peers and sets how many there may be. -/
def reset (limit : Nat) : Table → Table × Except Error Unit :=
  update fun _ => (.empty limit, .ok ())

/-- A peer has authenticated itself, and gets the number of its slot. -/
def authenticate (address : MacAddress) (t : Table) : Table × Except Error Nat :=
  t.update (Roster.authenticate t.accepting address)

/-- A peer asks to take part, and gets its identifier. -/
def associate (address : MacAddress) : Table → Table × Except Error UInt16 :=
  update (Roster.associate address)

/-- A peer leaves. -/
def disconnect (address : MacAddress) : Table → Table × Except Error Unit :=
  update (Roster.disconnect address)

/-- Removes the associated peer with an identifier, after it was told. -/
def kick (aid : UInt16) : Table → Table × List MacAddress × Except Error Unit :=
  updateTelling (Roster.kick aid)

/-- Removes the peers that were not associated, after they were told. -/
def kickUnassociated : Table → Table × List MacAddress × Except Error Nat :=
  updateTelling Roster.kickUnassociated

/-- Removes all peers, after they were told. -/
def kickAll : Table → Table × List MacAddress × Except Error Unit :=
  updateTelling Roster.kickAll

/-! ### Operations of both sides -/

/-- Lets new peers in or not.  Those in the roster are not affected. -/
def setAccepting (accepting : Bool) (t : Table) : Table := { t with accepting }

/-- How far a peer has come. -/
def stateOf (address : MacAddress) : Table → Except Error PeerState := read (Roster.stateOf address)

/-- The peers that take part, in the order of their identifiers, but no more than `most`. -/
def peers (most : Nat) : Table → Except Error (List Peer) := read fun r => r.peers.take most

/-- The number of peers that take part. -/
def associatedCount : Table → Except Error Nat := read Roster.associatedCount

/-- How many peers there may be. -/
def limit : Table → Except Error Nat := read Roster.limit

/-- The table in the hands of a processor, unless somebody holds it already. -/
def hold? (who : Processor) (t : Table) : Option Table :=
  (t.roster.acquire? who).map fun roster => { t with roster }

/-- The table in nobody's hands. -/
def release (t : Table) : Table := { t with roster := t.roster.release }

/-- An update of a table that somebody holds changes nothing. -/
theorem update_of_isHeld {α : Type} (f : Roster → Roster × Except Error α) {t : Table}
    (h : t.roster.isHeld = true) : t.update f = (t, .error .busy) := by
  simp [update, Lock.tryWith, h]

end Table

end WlanControl.Session
