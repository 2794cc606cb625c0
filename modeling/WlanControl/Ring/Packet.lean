import WlanControl.Address

namespace WlanControl

/-!
# Packets

What host and radio hand to each other through the rings: a payload with the stations that it goes
between and the type of its contents.

* `Packet` — a packet, with `Packet.octets` and `Packet.ofOctets?` for its place in a record.

Main statement: `Packet.ofOctets?_eq_some_iff`, exactly the octets of a packet read as it.
-/

/-- A payload between two stations. -/
structure Packet where
  destination : MacAddress
  source : MacAddress
  type : UInt16
  payload : List UInt8
deriving DecidableEq, Repr

namespace Packet

/-- The octets of a packet.  The type has its high octet first. -/
def octets (p : Packet) : List UInt8 :=
  p.destination.octets ++ p.source.octets ++ bigEndian16 p.type ++ p.payload

/-- The packet in a record, unless the record ends before the payload starts. -/
def ofOctets? : List UInt8 → Option Packet
  | d₁ :: d₂ :: d₃ :: d₄ :: d₅ :: d₆ :: s₁ :: s₂ :: s₃ :: s₄ :: s₅ :: s₆ ::
      high :: low :: payload =>
    some ⟨⟨d₁, d₂, d₃, d₄, d₅, d₆⟩, ⟨s₁, s₂, s₃, s₄, s₅, s₆⟩, word16 low high, payload⟩
  | _ => none

/-- Fourteen octets stand in front of the payload. -/
@[simp] theorem length_octets (p : Packet) : p.octets.length = 14 + p.payload.length := by
  simp [octets]
  omega

/-- Exactly the octets of a packet read as it. -/
theorem ofOctets?_eq_some_iff {octets : List UInt8} {p : Packet} :
    ofOctets? octets = some p ↔ octets = p.octets := by
  constructor
  · intro read
    unfold ofOctets? at read
    split at read
    · rename_i high low _
      have type := littleEndian16_word16 low high
      cases read
      simp_all [Packet.octets, MacAddress.octets, bigEndian16, littleEndian16]
    · cases read
  · rintro rfl
    simp [Packet.octets, MacAddress.octets, bigEndian16, ofOctets?]

end Packet

end WlanControl
