import WlanControl.Octets

namespace WlanControl

/-!
# Addresses of stations

The six octet addresses that name the stations of a wireless network, their groups and, as the
address of an access point, the network itself.

* `MacAddress` — an address, with `zero` standing for "any" and `broadcast` for "all";
* `MacAddress.octets`, `MacAddress.ofOctets?` — to octets and back;
* `MacAddress.text` — the written form.

Main statement: `MacAddress.ofOctets?_octets`, an address is read back from its octets whatever
follows them.
-/

/-- An address of six octets, in the order in which they are sent. -/
structure MacAddress where
  o₁ : UInt8
  o₂ : UInt8
  o₃ : UInt8
  o₄ : UInt8
  o₅ : UInt8
  o₆ : UInt8
deriving DecidableEq, Repr

namespace MacAddress

/-- The address that no station has. -/
def zero : MacAddress := ⟨0, 0, 0, 0, 0, 0⟩

/-- The group of all stations. -/
def broadcast : MacAddress := ⟨0xff, 0xff, 0xff, 0xff, 0xff, 0xff⟩

instance : Inhabited MacAddress := ⟨zero⟩

/-- The octets of the address in the order in which they are sent. -/
def octets (a : MacAddress) : List UInt8 := [a.o₁, a.o₂, a.o₃, a.o₄, a.o₅, a.o₆]

/-- The address at the start of a list of octets, if there are enough of them. -/
def ofOctets? : List UInt8 → Option MacAddress
  | o₁ :: o₂ :: o₃ :: o₄ :: o₅ :: o₆ :: _ => some ⟨o₁, o₂, o₃, o₄, o₅, o₆⟩
  | _ => none

/-- Whether this is the address that no station has. -/
def isZero (a : MacAddress) : Bool := a == zero

/-- Whether the address names a group of stations, which the lowest bit of the first octet tells. -/
def isGroup (a : MacAddress) : Bool := a.o₁.toNat % 2 == 1

/-- The octets in hexadecimal, divided by colons. -/
def text (a : MacAddress) : String := ":".intercalate (a.octets.map hexOctet)

@[simp] theorem length_octets (a : MacAddress) : a.octets.length = 6 := rfl

/-- An address is read back from its own octets, whatever stands behind them. -/
@[simp] theorem ofOctets?_octets (a : MacAddress) (rest : List UInt8) :
    ofOctets? (a.octets ++ rest) = some a := rfl

/-- Only a list of fewer than six octets starts with no address. -/
theorem ofOctets?_eq_none_iff (l : List UInt8) : ofOctets? l = none ↔ l.length < 6 := by
  match l with
  | [] | [_] | [_, _] | [_, _, _] | [_, _, _, _] | [_, _, _, _, _] => simp [ofOctets?]
  | _ :: _ :: _ :: _ :: _ :: _ :: _ => simp [ofOctets?]

/-- The group of all stations is a group. -/
theorem isGroup_broadcast : broadcast.isGroup = true := rfl

end MacAddress

end WlanControl
