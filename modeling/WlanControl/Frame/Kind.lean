namespace WlanControl.Frame

/-!
# Kinds of frames

The numbers in the first octet of a frame, which say what the frame is.

* `FrameType` — management, control or data;
* `ManagementSubtype`, `DataSubtype` — the kinds inside of the types that matter here.

Each has a constructor for the numbers without an assigned meaning, so that reading a number with
`ofNumber` and sending it again with `number` is the identity (`number_ofNumber`).
-/

/-- The coarse kind of a frame. -/
inductive FrameType
  | management
  | control
  | data
  /-- A type without an assigned meaning. -/
  | other (number : UInt8)
deriving DecidableEq, Repr

namespace FrameType

/-- What a number stands for. -/
def ofNumber : UInt8 → FrameType
  | 0 => .management
  | 1 => .control
  | 2 => .data
  | n => .other n

/-- The number that is sent. -/
def number : FrameType → UInt8
  | .management => 0
  | .control => 1
  | .data => 2
  | .other n => n

instance : Inhabited FrameType := ⟨.management⟩

/-- Reading a number loses nothing of it. -/
@[simp] theorem number_ofNumber (n : UInt8) : (ofNumber n).number = n := by
  unfold ofNumber
  split <;> rfl

end FrameType

/-- The kind of a management frame. -/
inductive ManagementSubtype
  | associationRequest
  | associationResponse
  | reassociationRequest
  | reassociationResponse
  | probeRequest
  | probeResponse
  | beacon
  | disassociation
  | authentication
  | deauthentication
  | action
  /-- A subtype that is of no interest here. -/
  | other (number : UInt8)
deriving DecidableEq, Repr

namespace ManagementSubtype

/-- What a number stands for. -/
def ofNumber : UInt8 → ManagementSubtype
  | 0 => .associationRequest
  | 1 => .associationResponse
  | 2 => .reassociationRequest
  | 3 => .reassociationResponse
  | 4 => .probeRequest
  | 5 => .probeResponse
  | 8 => .beacon
  | 10 => .disassociation
  | 11 => .authentication
  | 12 => .deauthentication
  | 13 => .action
  | n => .other n

/-- The number that is sent. -/
def number : ManagementSubtype → UInt8
  | .associationRequest => 0
  | .associationResponse => 1
  | .reassociationRequest => 2
  | .reassociationResponse => 3
  | .probeRequest => 4
  | .probeResponse => 5
  | .beacon => 8
  | .disassociation => 10
  | .authentication => 11
  | .deauthentication => 12
  | .action => 13
  | .other n => n

instance : Inhabited ManagementSubtype := ⟨.associationRequest⟩

/-- Reading a number loses nothing of it. -/
@[simp] theorem number_ofNumber (n : UInt8) : (ofNumber n).number = n := by
  unfold ofNumber
  split <;> rfl

end ManagementSubtype

/-- The kind of a data frame. -/
inductive DataSubtype
  | data
  | null
  /-- A subtype that is of no interest here. -/
  | other (number : UInt8)
deriving DecidableEq, Repr

namespace DataSubtype

/-- What a number stands for. -/
def ofNumber : UInt8 → DataSubtype
  | 0 => .data
  | 4 => .null
  | n => .other n

/-- The number that is sent. -/
def number : DataSubtype → UInt8
  | .data => 0
  | .null => 4
  | .other n => n

instance : Inhabited DataSubtype := ⟨.data⟩

/-- Reading a number loses nothing of it. -/
@[simp] theorem number_ofNumber (n : UInt8) : (ofNumber n).number = n := by
  unfold ofNumber
  split <;> rfl

end DataSubtype

end WlanControl.Frame
