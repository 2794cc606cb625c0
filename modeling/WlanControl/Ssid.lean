import WlanControl.Text.Quoted

namespace WlanControl

/-!
# Names of networks

The name of a wireless network is a string of at most 32 octets, which need not be text.

* `Ssid` — such a name, with its bound on the length;
* `Ssid.ofOctets?` — the name with the given octets, unless they are too many;
* `Ssid.isHidden` — whether the name is one that a network sends to keep its name to itself.
-/

/-- The name of a network: at most 32 octets of any value. -/
structure Ssid where
  octets : List UInt8
  length_le : octets.length ≤ 32
deriving DecidableEq, Repr

namespace Ssid

/-- The greatest number of octets in a name. -/
def maxLength : Nat := 32

/-- The name without octets. -/
def empty : Ssid := ⟨[], by simp⟩

instance : Inhabited Ssid := ⟨empty⟩

/-- The name with the given octets, if a name may be that long. -/
def ofOctets? (octets : List UInt8) : Option Ssid :=
  if h : octets.length ≤ 32 then some ⟨octets, h⟩ else none

/-- The number of octets in the name. -/
def length (s : Ssid) : Nat := s.octets.length

/-- Whether the name has no octets. -/
def isEmpty (s : Ssid) : Bool := s.octets.isEmpty

/-- Hidden networks send a name without octets or of zero octets only. -/
def isHidden (s : Ssid) : Bool := s.octets.all (· == 0)

/-- The name as it is shown to a reader. -/
def text (s : Ssid) : String := Text.readable s.octets

@[simp] theorem ofOctets?_octets (s : Ssid) : ofOctets? s.octets = some s := by
  simp [ofOctets?, s.length_le]

/-- A list of octets is refused as a name exactly if it is too long. -/
theorem ofOctets?_eq_none_iff (octets : List UInt8) :
    ofOctets? octets = none ↔ maxLength < octets.length := by
  unfold ofOctets? maxLength
  split <;> simp <;> omega

/-- The name made of a list of octets has these octets. -/
theorem octets_of_ofOctets? {octets : List UInt8} {s : Ssid} (h : ofOctets? octets = some s) :
    s.octets = octets := by
  unfold ofOctets? at h
  split at h
  · cases h; rfl
  · cases h

/-- A name without octets is hidden. -/
theorem isHidden_empty : empty.isHidden = true := rfl

end Ssid

end WlanControl
