import WlanControl.Frame.Field

namespace WlanControl.Frame

/-!
# Information elements

The bodies of management frames end in a chain of elements, each with an identifier, a length and
that many octets of contents.

* `Element` — one of them;
* `elements` — the chain in a list of octets, which ends where an element is cut short;
* `contentsOf?` — the contents of the first element with an identifier.

Main statement: `elements_append`, an element is read back from what is written for it.
-/

/-- An information element. -/
structure Element where
  id : UInt8
  contents : List UInt8
deriving DecidableEq, Repr

/-! ### Identifiers -/

/-- The name of the network. -/
def ssidId : UInt8 := 0

/-- The supported rates. -/
def ratesId : UInt8 := 1

/-- The channel of the network. -/
def channelId : UInt8 := 3

/-- Which stations have traffic waiting at the access point. -/
def trafficId : UInt8 := 5

/-- The challenge that a station has to encrypt. -/
def challengeId : UInt8 := 16

/-- The security of the network. -/
def rsnId : UInt8 := 48

/-- What the standard leaves to vendors. -/
def vendorId : UInt8 := 221

/-! ### Chains of elements -/

/-- The elements in a list of octets.  An element that is cut short ends the chain. -/
def elements : List UInt8 → List Element
  | id :: length :: rest =>
    if length.toNat ≤ rest.length then
      ⟨id, rest.take length.toNat⟩ :: elements (rest.drop length.toNat)
    else []
  | _ => []
termination_by octets => octets.length
decreasing_by simp only [List.length_cons, List.length_drop]; omega

/-- The contents of the first element with the given identifier. -/
def contentsOf? (id : UInt8) (octets : List UInt8) : Option (List UInt8) :=
  ((elements octets).find? fun element => element.id == id).map Element.contents

@[simp] theorem elements_nil : elements [] = [] := by simp [elements]

/-- An element is read back from what is written for it, and the chain goes on behind it. -/
theorem elements_append {id : UInt8} {contents : List UInt8} (h : contents.length ≤ 255)
    (rest : List UInt8) :
    elements ((Field.element id contents).encoding ++ rest) = ⟨id, contents⟩ :: elements rest := by
  have count : (UInt8.ofNat contents.length).toNat = contents.length := by
    rw [UInt8.toNat_ofNat']; omega
  simp [Field.encoding, Field.slices, elements, count]

end WlanControl.Frame
