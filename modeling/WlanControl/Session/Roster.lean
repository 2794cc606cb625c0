import WlanControl.Address
import WlanControl.Request.Hosting

namespace WlanControl.Session

/-!
# The peers of a session

While the station hosts a session, it keeps a roster of the peers that have joined or are about to.
The roster has fifteen slots, and a peer's association identifier is given by its slot, so it stays
the same for as long as the peer keeps its slot.

* `Slot` — a place in the roster and how far its peer has come;
* `Roster` — the slots, with a limit on how many are used;
* `Roster.authenticate`, `Roster.associate`, … — what peers and host do to it.

Main statements: `Roster.position_eq_some`, the slot that is found for an address holds it, and
`Roster.aidOf_ne_zero`, no peer has the identifier zero.
-/

/-- How far a peer has come. -/
inductive PeerState
  | disconnected
  | authenticated
  | associated
deriving DecidableEq, Repr

/-- A place in the roster. -/
inductive Slot
  | free
  /-- The peer may ask to be associated. -/
  | authenticated (address : MacAddress)
  /-- The peer takes part in the session. -/
  | associated (address : MacAddress)
deriving DecidableEq, Repr

namespace Slot

/-- Who has the place. -/
def address? : Slot → Option MacAddress
  | .free => none
  | .authenticated address | .associated address => some address

/-- How far the peer in this place has come. -/
def state : Slot → PeerState
  | .free => .disconnected
  | .authenticated _ => .authenticated
  | .associated _ => .associated

/-- Who has the place, if it takes part in the session. -/
def associated? : Slot → Option MacAddress
  | .associated address => some address
  | _ => none

/-- Who has the place, if it has not been associated yet. -/
def unassociated? : Slot → Option MacAddress
  | .authenticated address => some address
  | _ => none

end Slot

/-- Why the roster refuses an operation. -/
inductive Error
  /-- Somebody uses the roster. -/
  | busy
  /-- The peer may not join now. -/
  | rejected
  /-- There is no place left. -/
  | full
  /-- There is no such peer. -/
  | notFound
deriving DecidableEq, Repr

/-- A peer that takes part in the session. -/
structure Peer where
  address : MacAddress
  aid : UInt16
deriving DecidableEq, Repr

/-- The identifier that goes with a slot.  Identifiers count from one. -/
def aidOf (slot : Nat) : UInt16 := UInt16.ofNat (slot + 1)

/-- The peers of a session. -/
structure Roster where
  slots : List Slot
  length_slots : slots.length = maxPeers
  /-- How many slots may be used. -/
  limit : Nat
deriving DecidableEq, Repr

namespace Roster

/-- A roster without peers.  The limit is cut to the number of slots. -/
def empty (limit : Nat) : Roster where
  slots := List.replicate maxPeers .free
  length_slots := by simp
  limit := min limit maxPeers

instance : Inhabited Roster := ⟨empty maxPeers⟩

/-- The roster with one slot replaced. -/
def set (index : Nat) (slot : Slot) (r : Roster) : Roster :=
  { r with slots := r.slots.set index slot, length_slots := by simp [r.length_slots] }

/-- The roster with every slot replaced. -/
def map (f : Slot → Slot) (r : Roster) : Roster :=
  { r with slots := r.slots.map f, length_slots := by simp [r.length_slots] }

/-- The slot of a peer. -/
def position? (address : MacAddress) (r : Roster) : Option Nat :=
  r.slots.findIdx? fun slot => slot.address? = some address

/-- The first slot that nobody has. -/
def firstFree? (r : Roster) : Option Nat := r.slots.findIdx? (· = .free)

/-- The number of slots that somebody has. -/
def occupied (r : Roster) : Nat := r.slots.countP (· ≠ .free)

/-! ### What peers do -/

/-- A peer has authenticated itself, and gets the number of its slot.  A peer that has a slot starts
over in it.  Others get the first free one, if they are let in and there is room for them. -/
def authenticate (accepting : Bool) (address : MacAddress) (r : Roster) :
    Roster × Except Error Nat :=
  match r.position? address with
  | some index => (r.set index (.authenticated address), .ok index)
  | none =>
    if !accepting then (r, .error .rejected)
    else if r.limit ≤ r.occupied then (r, .error .full)
    else
      match r.firstFree? with
      | some index => (r.set index (.authenticated address), .ok index)
      | none => (r, .error .full)

/-- A peer asks to take part, and gets its identifier.  It gets the same one however often it
asks. -/
def associate (address : MacAddress) (r : Roster) : Roster × Except Error UInt16 :=
  match r.position? address with
  | some index => (r.set index (.associated address), .ok (aidOf index))
  | none => (r, .error .rejected)

/-- A peer leaves. -/
def disconnect (address : MacAddress) (r : Roster) : Roster × Except Error Unit :=
  match r.position? address with
  | some index => (r.set index .free, .ok ())
  | none => (r, .error .notFound)

/-! ### What the host does -/

/-- The index of the slot that goes with an identifier. -/
def slotOf? (aid : UInt16) : Option Nat :=
  if aid.toNat = 0 ∨ maxPeers < aid.toNat then none else some (aid.toNat - 1)

/-- Removes the associated peer with an identifier, after it was told.  The second part lists whom
to tell. -/
def kick (aid : UInt16) (r : Roster) : Roster × List MacAddress × Except Error Unit :=
  match slotOf? aid with
  | none => (r, [], .error .notFound)
  | some index =>
    match (r.slots[index]?).bind Slot.associated? with
    | some address => (r.set index .free, [address], .ok ())
    | none => (r, [], .error .notFound)

/-- Removes the peers that were not associated, after they were told, and counts them.  The second
part lists whom to tell, in the order of the slots. -/
def kickUnassociated (r : Roster) : Roster × List MacAddress × Except Error Nat :=
  let told := r.slots.filterMap Slot.unassociated?
  (r.map fun slot => if slot.unassociated?.isSome then .free else slot, told, .ok told.length)

/-- Removes all peers, after they were told.  The second part lists whom to tell, in the order of
the slots. -/
def kickAll (r : Roster) : Roster × List MacAddress × Except Error Unit :=
  (r.map fun _ => .free, r.slots.filterMap Slot.address?, .ok ())

/-! ### What can be asked -/

/-- How far a peer has come. -/
def stateOf (address : MacAddress) (r : Roster) : PeerState :=
  match r.position? address with
  | some index => ((r.slots[index]?).map Slot.state).getD .disconnected
  | none => .disconnected

/-- The peers that take part, in the order of their identifiers. -/
def peers (r : Roster) : List Peer :=
  r.slots.zipIdx.filterMap fun (slot, index) =>
    slot.associated?.map fun address => ⟨address, aidOf index⟩

/-- The number of peers that take part. -/
def associatedCount (r : Roster) : Nat := r.slots.countP (·.associated?.isSome)

/-! ### Slots and identifiers -/

/-- The slot that is found for an address holds this address. -/
theorem position_eq_some {address : MacAddress} {r : Roster} {index : Nat}
    (h : r.position? address = some index) :
    index < maxPeers ∧ (r.slots[index]?).bind Slot.address? = some address := by
  obtain ⟨inside, holds, _⟩ := List.findIdx?_eq_some_iff_getElem.mp h
  refine ⟨by simpa [r.length_slots] using inside, ?_⟩
  simpa [List.getElem?_eq_getElem inside] using holds

/-- No peer has the identifier zero. -/
theorem aidOf_ne_zero {slot : Nat} (h : slot < maxPeers) : aidOf slot ≠ 0 := by
  intro zero
  have := congrArg UInt16.toNat zero
  rw [aidOf, UInt16.toNat_ofNat'] at this
  simp [maxPeers] at h this
  omega

/-- The slot of an identifier is the one that it was given for. -/
theorem slotOf?_aidOf {slot : Nat} (h : slot < maxPeers) : slotOf? (aidOf slot) = some slot := by
  have size : (aidOf slot).toNat = slot + 1 := by
    rw [aidOf, UInt16.toNat_ofNat']
    simp [maxPeers] at h
    omega
  simp [slotOf?, size]
  omega

end Roster

end WlanControl.Session
