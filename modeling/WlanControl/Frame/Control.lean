import WlanControl.Frame.Kind

namespace WlanControl.Frame

/-!
# Bit fields

* `FrameControl` — the first word of a frame: its kind and eight flags;
* `Capabilities` — what a network or station announces about itself, sixteen flags.

Both are words with a view of their bits.  A flag is read with `has` and changed with `set`.
Main statements: `FrameControl.has_set` and `Capabilities.has_set`, a flag that was set reads back
and the others stay as they were.
-/

/-- The mask with one bit set. -/
def bitMask (position : Nat) : UInt16 := UInt16.ofNat (1 <<< position)

/-- Whether the bit at a position is set. -/
def hasBit (word : UInt16) (position : Nat) : Bool := word.toNat.testBit position

/-- The word with the bit at a position set or cleared. -/
def setBit (word : UInt16) (position : Nat) (on : Bool) : UInt16 :=
  if on then word ||| bitMask position else word &&& ~~~bitMask position

/-- A bit that was set or cleared reads back so, and the other bits stay as they were. -/
theorem hasBit_setBit (word : UInt16) {position : Nat} (h : position < 16) (on : Bool)
    (other : Nat) :
    hasBit (setBit word position on) other =
      if other = position then on else hasBit word other := by
  have mask : (bitMask position).toNat = 2 ^ position := by
    rw [bitMask, UInt16.toNat_ofNat', Nat.one_shiftLeft]
    exact Nat.mod_eq_of_lt (Nat.pow_lt_pow_right (by omega) h)
  have small : 2 ^ position < 2 ^ 16 := Nat.pow_lt_pow_right (by omega) h
  cases on with
  | true =>
    simp only [setBit, hasBit, if_true, UInt16.toNat_or, mask, Nat.testBit_or, Nat.testBit_two_pow]
    by_cases same : other = position
    · simp [same]
    · simp [same, Ne.symm same]
  | false =>
    simp only [setBit, hasBit, Bool.false_eq_true, if_false, UInt16.toNat_and, UInt16.toNat_not,
      mask, Nat.testBit_and]
    have bits := Nat.testBit_two_pow_sub_succ small other
    rw [Nat.add_comm, Nat.sub_add_eq] at bits
    have size : UInt16.size - 1 = 2 ^ 16 - 1 := rfl
    rw [size, bits, Nat.testBit_two_pow]
    by_cases same : other = position
    · simp [same]
    · have beyond : ¬ other < 16 → word.toNat.testBit other = false := fun far =>
        Nat.testBit_lt_two_pow (Nat.lt_of_lt_of_le word.toNat_lt
          (Nat.pow_le_pow_right (by omega) (by omega)))
      by_cases near : other < 16
      · simp [same, near, Ne.symm same]
      · simp [same, near, beyond near]

/-! ### The control word of a frame -/

/-- The flags of the control word. -/
inductive FrameFlag
  /-- The frame goes to the distribution system. -/
  | toDs
  /-- The frame comes from the distribution system. -/
  | fromDs
  | moreFragments
  | retry
  | powerManagement
  | moreData
  /-- The body of the frame is encrypted. -/
  | encrypted
  | order
deriving DecidableEq, Repr

/-- All flags, in the order of their bits. -/
def FrameFlag.all : List FrameFlag :=
  [.toDs, .fromDs, .moreFragments, .retry, .powerManagement, .moreData, .encrypted, .order]

/-- No flag is left out. -/
theorem FrameFlag.mem_all (flag : FrameFlag) : flag ∈ FrameFlag.all := by
  cases flag <;> decide

/-- Where a flag stands in the control word. -/
def FrameFlag.position : FrameFlag → Nat
  | .toDs => 8
  | .fromDs => 9
  | .moreFragments => 10
  | .retry => 11
  | .powerManagement => 12
  | .moreData => 13
  | .encrypted => 14
  | .order => 15

/-- The first word of a frame. -/
structure FrameControl where
  word : UInt16
deriving DecidableEq, Repr

namespace FrameControl

/-- The version of the protocol, the lowest two bits. -/
def version (c : FrameControl) : UInt8 := UInt8.ofNat (c.word.toNat % 4)

/-- The number of the type, the two bits above the version. -/
def typeNumber (c : FrameControl) : UInt8 := UInt8.ofNat (c.word.toNat / 4 % 4)

/-- The number of the subtype, the four bits above the type. -/
def subtypeNumber (c : FrameControl) : UInt8 := UInt8.ofNat (c.word.toNat / 16 % 16)

/-- Whether a flag is set. -/
def has (c : FrameControl) (flag : FrameFlag) : Bool := hasBit c.word flag.position

/-- The control word with a flag set or cleared. -/
def set (c : FrameControl) (flag : FrameFlag) (on : Bool) : FrameControl :=
  ⟨setBit c.word flag.position on⟩

/-- Setting a flag changes this flag and no other. -/
@[simp] theorem has_set (c : FrameControl) (flag other : FrameFlag) (on : Bool) :
    (c.set flag on).has other = if other = flag then on else c.has other := by
  have bound : flag.position < 16 := by cases flag <;> decide
  have h := hasBit_setBit c.word bound on other.position
  have same : other.position = flag.position ↔ other = flag := by
    cases flag <;> cases other <;> decide
  simpa [has, set, same] using h

/-- A control word without flags.  Type and subtype keep the bits that they have room for. -/
def ofNumbers (version typeNumber subtypeNumber : UInt8) : FrameControl :=
  ⟨UInt16.ofNat (version.toNat % 4 + 4 * (typeNumber.toNat % 4) + 16 * (subtypeNumber.toNat % 16))⟩

/-- A word made from the numbers alone has no flag. -/
@[simp] theorem has_ofNumbers (version typeNumber subtypeNumber : UInt8) (flag : FrameFlag) :
    (ofNumbers version typeNumber subtypeNumber).has flag = false := by
  have small : version.toNat % 4 + 4 * (typeNumber.toNat % 4) + 16 * (subtypeNumber.toNat % 16)
      < 2 ^ 8 := by omega
  unfold has hasBit ofNumbers
  rw [UInt16.toNat_ofNat', Nat.mod_eq_of_lt (by omega)]
  apply Nat.testBit_lt_two_pow
  exact Nat.lt_of_lt_of_le small (Nat.pow_le_pow_right (by omega) (by cases flag <;> decide))

/-- The control word of a management frame. -/
def management (subtype : ManagementSubtype) : FrameControl :=
  ofNumbers 0 FrameType.management.number subtype.number

/-- The control word of a data frame. -/
def data (subtype : DataSubtype) : FrameControl :=
  ofNumbers 0 FrameType.data.number subtype.number

@[simp] theorem has_management (subtype : ManagementSubtype) (flag : FrameFlag) :
    (management subtype).has flag = false := has_ofNumbers ..

@[simp] theorem has_data (subtype : DataSubtype) (flag : FrameFlag) :
    (data subtype).has flag = false := has_ofNumbers ..

end FrameControl

/-! ### Capabilities -/

/-- The flags that a network or station announces. -/
inductive Capability
  /-- The network has an access point. -/
  | ess
  /-- The network has none. -/
  | ibss
  | cfPollable
  | cfPollRequest
  /-- Frames have to be encrypted. -/
  | privacy
  | shortPreamble
  | pbcc
  | channelAgility
  | spectrumManagement
  | qos
  | shortSlotTime
  | apsd
  | radioMeasurement
  | dsssOfdm
  | delayedBlockAck
  | immediateBlockAck
deriving DecidableEq, Repr

/-- All capabilities, in the order of their bits. -/
def Capability.all : List Capability :=
  [.ess, .ibss, .cfPollable, .cfPollRequest, .privacy, .shortPreamble, .pbcc, .channelAgility,
    .spectrumManagement, .qos, .shortSlotTime, .apsd, .radioMeasurement, .dsssOfdm,
    .delayedBlockAck, .immediateBlockAck]

/-- No capability is left out. -/
theorem Capability.mem_all (capability : Capability) : capability ∈ Capability.all := by
  cases capability <;> decide

/-- Where a capability stands in its word. -/
def Capability.position : Capability → Nat
  | .ess => 0
  | .ibss => 1
  | .cfPollable => 2
  | .cfPollRequest => 3
  | .privacy => 4
  | .shortPreamble => 5
  | .pbcc => 6
  | .channelAgility => 7
  | .spectrumManagement => 8
  | .qos => 9
  | .shortSlotTime => 10
  | .apsd => 11
  | .radioMeasurement => 12
  | .dsssOfdm => 13
  | .delayedBlockAck => 14
  | .immediateBlockAck => 15

/-- What a network or station announces about itself. -/
structure Capabilities where
  word : UInt16
deriving DecidableEq, Repr

namespace Capabilities

/-- No capability at all. -/
def none : Capabilities := ⟨0⟩

instance : Inhabited Capabilities := ⟨none⟩

/-- Whether a capability is announced. -/
def has (c : Capabilities) (capability : Capability) : Bool := hasBit c.word capability.position

/-- The capabilities with one of them announced or not. -/
def set (c : Capabilities) (capability : Capability) (on : Bool) : Capabilities :=
  ⟨setBit c.word capability.position on⟩

/-- Setting a capability changes this one and no other. -/
@[simp] theorem has_set (c : Capabilities) (capability other : Capability) (on : Bool) :
    (c.set capability on).has other = if other = capability then on else c.has other := by
  have bound : capability.position < 16 := by cases capability <;> decide
  have h := hasBit_setBit c.word bound on other.position
  have same : other.position = capability.position ↔ other = capability := by
    cases capability <;> cases other <;> decide
  simpa [has, set, same] using h

end Capabilities

end WlanControl.Frame
