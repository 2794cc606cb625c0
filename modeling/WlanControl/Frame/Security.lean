import WlanControl.Octets

namespace WlanControl.Frame

/-!
# Security of networks

* `Security` — the coarse class of a network;
* `Cipher`, `KeyManagement` — the suites that a network may announce;
* `SecurityInfo` — all that is known about the security of a network;
* `SecurityInfo.ofSuites?` — what the body of an RSN or WPA element says.

Main statement: `strongest_eq_none_iff`, an announced list of suites always has a strongest member
unless it is empty.
-/

/-- The coarse class of a network, in order of rising protection. -/
inductive Security
  /-- Nothing is encrypted. -/
  | plain
  | wep
  | wpa
  | wpa2
deriving DecidableEq, Repr

instance : Inhabited Security := ⟨.plain⟩

/-- Whether the network needs a key exchange after the association. -/
def Security.isWpa : Security → Bool
  | .wpa | .wpa2 => true
  | _ => false

/-- How frames are encrypted, as RSN and WPA elements number it. -/
inductive Cipher
  | disabled
  | wep40
  | tkip
  | ccmp
  | wep104
  /-- A suite that is not known here. -/
  | other (number : UInt8)
deriving DecidableEq, Repr

namespace Cipher

/-- What a number stands for. -/
def ofNumber : UInt8 → Cipher
  | 0 => .disabled
  | 1 => .wep40
  | 2 => .tkip
  | 4 => .ccmp
  | 5 => .wep104
  | n => .other n

/-- The number that is sent. -/
def number : Cipher → UInt8
  | .disabled => 0
  | .wep40 => 1
  | .tkip => 2
  | .ccmp => 4
  | .wep104 => 5
  | .other n => n

instance : Inhabited Cipher := ⟨.disabled⟩

/-- Reading a number loses nothing of it. -/
@[simp] theorem number_ofNumber (n : UInt8) : (ofNumber n).number = n := by
  unfold ofNumber
  split <;> rfl

end Cipher

/-- How a network hands out its keys. -/
inductive KeyManagement
  | disabled
  | ieee8021X
  | psk
  /-- A suite that is not known here. -/
  | other (number : UInt8)
deriving DecidableEq, Repr

namespace KeyManagement

/-- What a number stands for. -/
def ofNumber : UInt8 → KeyManagement
  | 0 => .disabled
  | 1 => .ieee8021X
  | 2 => .psk
  | n => .other n

/-- The number that is sent. -/
def number : KeyManagement → UInt8
  | .disabled => 0
  | .ieee8021X => 1
  | .psk => 2
  | .other n => n

instance : Inhabited KeyManagement := ⟨.disabled⟩

/-- Reading a number loses nothing of it. -/
@[simp] theorem number_ofNumber (n : UInt8) : (ofNumber n).number = n := by
  unfold ofNumber
  split <;> rfl

end KeyManagement

/-- All that is known about the security of a network. -/
structure SecurityInfo where
  security : Security
  groupCipher : Cipher
  pairwiseCipher : Cipher
  keyManagement : KeyManagement
deriving DecidableEq, Repr

/-- The security of a network that encrypts nothing. -/
def SecurityInfo.plain : SecurityInfo := ⟨.plain, .disabled, .disabled, .disabled⟩

instance : Inhabited SecurityInfo := ⟨.plain⟩

/-! ### The body of RSN and WPA elements -/

/-- The three octets that name the owner of a suite or of a vendor element. -/
structure Oui where
  o₁ : UInt8
  o₂ : UInt8
  o₃ : UInt8
deriving DecidableEq, Repr

/-- The owner of the suites in RSN elements. -/
def Oui.rsn : Oui := ⟨0x00, 0x0f, 0xac⟩

/-- The owner of the suites in WPA elements, and of these elements. -/
def Oui.wpa : Oui := ⟨0x00, 0x50, 0xf2⟩

/-- The owner of the elements that advertise a multiplayer session. -/
def Oui.session : Oui := ⟨0x00, 0x09, 0xbf⟩

/-- The octets of the owner in the order in which they are sent. -/
def Oui.octets (oui : Oui) : List UInt8 := [oui.o₁, oui.o₂, oui.o₃]

/-- An owner is told by its octets. -/
theorem Oui.eq_octets_iff (oui : Oui) (o₁ o₂ o₃ : UInt8) :
    [o₁, o₂, o₃] = oui.octets ↔ (⟨o₁, o₂, o₃⟩ : Oui) = oui := by
  cases oui
  simp [Oui.octets]

/-- The number of the suite at the start of a list, if it belongs to `oui`. -/
def suite? (oui : Oui) : List UInt8 → Option UInt8
  | o₁ :: o₂ :: o₃ :: number :: _ => if (⟨o₁, o₂, o₃⟩ : Oui) = oui then some number else none
  | _ => none

/-- The first `count` suites of a list that belong to `oui`, four octets being a suite. -/
def suites (oui : Oui) : Nat → List UInt8 → List UInt8
  | 0, _ => []
  | count + 1, octets =>
    (suite? oui octets).toList ++ suites oui count (octets.drop 4)

/-- How much a pairwise cipher is preferred over others. -/
def Cipher.strength : Cipher → Nat
  | .ccmp => 2
  | .tkip => 1
  | _ => 0

/-- The strongest cipher of a list, and the last one of those that are equally strong. -/
def strongest : List Cipher → Option Cipher
  | [] => none
  | cipher :: rest =>
    match strongest rest with
    | none => some cipher
    | some best => if best.strength < cipher.strength then some cipher else some best

/-- What the body of an RSN or WPA element with suites of `oui` says about a network of class
`security`.  The body holds a version, the group cipher and a counted list of pairwise ciphers, and
may hold a counted list of key managements, of which the first one counts.  None if the group cipher
has another owner or the body ends inside of what has to be there. -/
def SecurityInfo.ofSuites? (oui : Oui) (security : Security) (body : List UInt8) :
    Option SecurityInfo := do
  let group ← suite? oui (body.drop 2)
  let count ← word16At? body 6
  let pairwise := body.drop 8
  if pairwise.length < 4 * count.toNat then none
  else
    let groupCipher := Cipher.ofNumber group
    let offered := (suites oui count.toNat pairwise).map Cipher.ofNumber
    let afterPairwise := pairwise.drop (4 * count.toNat)
    some {
      security
      groupCipher
      pairwiseCipher := (strongest offered).getD groupCipher
      keyManagement :=
        ((suite? oui (afterPairwise.drop 2)).map KeyManagement.ofNumber).getD .psk }

/-- Only an empty list has no strongest cipher. -/
theorem strongest_eq_none_iff (ciphers : List Cipher) :
    strongest ciphers = none ↔ ciphers = [] := by
  cases ciphers with
  | nil => simp [strongest]
  | cons cipher rest =>
    simp only [strongest, reduceCtorEq, iff_false]
    split
    · simp
    · split <;> simp

end WlanControl.Frame
