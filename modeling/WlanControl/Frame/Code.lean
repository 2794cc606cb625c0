namespace WlanControl.Frame

/-!
# Codes in the bodies of management frames

* `StatusCode` — the answer to an authentication or association request;
* `ReasonCode` — why a station is sent away;
* `AuthAlgorithm` — how a station proves who it is.

Reading a number with `ofNumber` and sending it again with `number` is the identity
(`number_ofNumber`).
-/

/-- The answer to an authentication or association request. -/
inductive StatusCode
  | success
  | unspecifiedFailure
  | unsupportedCapabilities
  | unsupportedAuthAlgorithm
  | authSequenceOutOfOrder
  | challengeFailure
  | authTimeout
  | apFull
  | unsupportedRates
  /-- A status that is of no interest here. -/
  | other (number : UInt16)
deriving DecidableEq, Repr

namespace StatusCode

/-- What a number stands for. -/
def ofNumber : UInt16 → StatusCode
  | 0 => .success
  | 1 => .unspecifiedFailure
  | 10 => .unsupportedCapabilities
  | 13 => .unsupportedAuthAlgorithm
  | 14 => .authSequenceOutOfOrder
  | 15 => .challengeFailure
  | 16 => .authTimeout
  | 17 => .apFull
  | 18 => .unsupportedRates
  | n => .other n

/-- The number that is sent. -/
def number : StatusCode → UInt16
  | .success => 0
  | .unspecifiedFailure => 1
  | .unsupportedCapabilities => 10
  | .unsupportedAuthAlgorithm => 13
  | .authSequenceOutOfOrder => 14
  | .challengeFailure => 15
  | .authTimeout => 16
  | .apFull => 17
  | .unsupportedRates => 18
  | .other n => n

instance : Inhabited StatusCode := ⟨.success⟩

/-- Reading a number loses nothing of it. -/
@[simp] theorem number_ofNumber (n : UInt16) : (ofNumber n).number = n := by
  unfold ofNumber
  split <;> rfl

end StatusCode

/-- Why a station is sent away or leaves. -/
inductive ReasonCode
  | unspecified
  | previousAuthInvalid
  | leaving
  | inactivity
  | apFull
  | notAuthenticated
  | notAssociated
  | leavingBss
  /-- A reason that is of no interest here. -/
  | other (number : UInt16)
deriving DecidableEq, Repr

namespace ReasonCode

/-- What a number stands for. -/
def ofNumber : UInt16 → ReasonCode
  | 1 => .unspecified
  | 2 => .previousAuthInvalid
  | 3 => .leaving
  | 4 => .inactivity
  | 5 => .apFull
  | 6 => .notAuthenticated
  | 7 => .notAssociated
  | 8 => .leavingBss
  | n => .other n

/-- The number that is sent. -/
def number : ReasonCode → UInt16
  | .unspecified => 1
  | .previousAuthInvalid => 2
  | .leaving => 3
  | .inactivity => 4
  | .apFull => 5
  | .notAuthenticated => 6
  | .notAssociated => 7
  | .leavingBss => 8
  | .other n => n

instance : Inhabited ReasonCode := ⟨.unspecified⟩

/-- Reading a number loses nothing of it. -/
@[simp] theorem number_ofNumber (n : UInt16) : (ofNumber n).number = n := by
  unfold ofNumber
  split <;> rfl

end ReasonCode

/-- How a station authenticates itself. -/
inductive AuthAlgorithm
  | openSystem
  | sharedKey
  /-- An algorithm that is not spoken here. -/
  | other (number : UInt16)
deriving DecidableEq, Repr

namespace AuthAlgorithm

/-- What a number stands for. -/
def ofNumber : UInt16 → AuthAlgorithm
  | 0 => .openSystem
  | 1 => .sharedKey
  | n => .other n

/-- The number that is sent. -/
def number : AuthAlgorithm → UInt16
  | .openSystem => 0
  | .sharedKey => 1
  | .other n => n

instance : Inhabited AuthAlgorithm := ⟨.openSystem⟩

/-- Reading a number loses nothing of it. -/
@[simp] theorem number_ofNumber (n : UInt16) : (ofNumber n).number = n := by
  unfold ofNumber
  split <;> rfl

end AuthAlgorithm

end WlanControl.Frame
