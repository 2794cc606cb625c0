import WlanControl.Address
import WlanControl.Frame.Control
import WlanControl.Frame.Field

namespace WlanControl.Frame

/-!
# The header of frames

Management and data frames start with the same 24 octets: the control word, a duration, three
addresses and a word with the sequence number.

* `Header` — the header, with constructors for the frames that are sent here;
* `Header.ofOctets?`, `Header.fields` — reading and writing it;
* `Header.network`, `Header.destination`, `Header.source` — what the addresses of a data frame mean.

Main statements: `Header.ofOctets?_encoding` and `Header.encoding_of_ofOctets?`, by which reading
and writing a header are inverse to each other.
-/

/-- The header of a management or data frame. -/
structure Header where
  control : FrameControl
  duration : UInt16
  address₁ : MacAddress
  address₂ : MacAddress
  address₃ : MacAddress
  sequenceControl : UInt16
deriving DecidableEq, Repr

namespace Header

/-- The number of octets in a header. -/
def size : Nat := 24

/-- The word that carries a sequence number, above the four bits that number fragments. -/
def sequenceWord (sequenceNumber : UInt16) : UInt16 := 16 * sequenceNumber

/-- The header of a management frame.  It names the receiver, the transmitter and the network. -/
def management (subtype : ManagementSubtype) (receiver transmitter bssid : MacAddress)
    (sequenceNumber : UInt16) : Header where
  control := .management subtype
  duration := 0
  address₁ := receiver
  address₂ := transmitter
  address₃ := bssid
  sequenceControl := sequenceWord sequenceNumber

/-- The header at the start of a frame and the octets behind it. -/
def ofOctets? : List UInt8 → Option (Header × List UInt8)
  | c₀ :: c₁ :: d₀ :: d₁ :: a₁ :: a₂ :: a₃ :: a₄ :: a₅ :: a₆ :: b₁ :: b₂ :: b₃ :: b₄ :: b₅ :: b₆ ::
      e₁ :: e₂ :: e₃ :: e₄ :: e₅ :: e₆ :: s₀ :: s₁ :: body =>
    some ({ control := ⟨word16 c₀ c₁⟩
            duration := word16 d₀ d₁
            address₁ := ⟨a₁, a₂, a₃, a₄, a₅, a₆⟩
            address₂ := ⟨b₁, b₂, b₃, b₄, b₅, b₆⟩
            address₃ := ⟨e₁, e₂, e₃, e₄, e₅, e₆⟩
            sequenceControl := word16 s₀ s₁ }, body)
  | _ => none

/-- The fields of the header in the order in which they are sent. -/
def fields (h : Header) : List Field :=
  [.octets (littleEndian16 h.control.word), .octets (littleEndian16 h.duration),
    .octets h.address₁.octets, .octets h.address₂.octets, .octets h.address₃.octets,
    .octets (littleEndian16 h.sequenceControl)]

/-- The octets of the header. -/
def encoding (h : Header) : List UInt8 := h.fields.flatMap Field.encoding

/-- The coarse kind of the frame. -/
def frameType (h : Header) : FrameType := .ofNumber h.control.typeNumber

/-- The kind of the frame, if it is a management frame. -/
def managementSubtype (h : Header) : ManagementSubtype := .ofNumber h.control.subtypeNumber

/-- The kind of the frame, if it is a data frame. -/
def dataSubtype (h : Header) : DataSubtype := .ofNumber h.control.subtypeNumber

/-- Whether the frame is a management frame of the given kind. -/
def isManagement (h : Header) (subtype : ManagementSubtype) : Bool :=
  h.frameType = .management && h.managementSubtype = subtype

/-! ### The addresses of data frames -/

/-- The network that a data frame belongs to.  Its place is given by the flags that say whether the
frame goes to or comes from the distribution system. -/
def network (h : Header) : MacAddress :=
  match h.control.has .toDs, h.control.has .fromDs with
  | true, false => h.address₁
  | false, true => h.address₂
  | _, _ => h.address₃

/-- The station that a data frame is for. -/
def destination (h : Header) : MacAddress :=
  match h.control.has .toDs, h.control.has .fromDs with
  | true, false => h.address₃
  | _, _ => h.address₁

/-- The station that a data frame is from. -/
def source (h : Header) : MacAddress :=
  match h.control.has .toDs, h.control.has .fromDs with
  | false, true => h.address₃
  | _, _ => h.address₂

/-! ### Reading and writing -/

@[simp] theorem length_encoding (h : Header) : h.encoding.length = size := rfl

/-- A header is read back from its own octets, whatever stands behind them. -/
@[simp] theorem ofOctets?_encoding (h : Header) (body : List UInt8) :
    ofOctets? (h.encoding ++ body) = some (h, body) := by
  simp [encoding, fields, Field.encoding, Field.slices, littleEndian16, MacAddress.octets,
    ofOctets?]

/-- What a header was read from starts with its octets. -/
theorem encoding_of_ofOctets? {octets : List UInt8} {h : Header} {body : List UInt8}
    (read : ofOctets? octets = some (h, body)) : octets = h.encoding ++ body := by
  unfold ofOctets? at read
  split at read
  · injection read with same
    injection same with header rest
    subst header rest
    simp [encoding, fields, Field.encoding, Field.slices, MacAddress.octets]
  · cases read

/-- A frame has no header exactly if it is shorter than one. -/
theorem ofOctets?_eq_none_iff (octets : List UInt8) :
    ofOctets? octets = none ↔ octets.length < size := by
  constructor
  · intro none
    unfold ofOctets? at none
    split at none
    · cases none
    · rename_i other
      rcases Nat.lt_or_ge octets.length size with short | long
      · exact short
      · exfalso
        iterate 24
          rcases octets with _ | ⟨_, octets⟩
          · simp [size] at long
        exact other _ _ _ _ _ _ _ _ _ _ _ _ _ _ _ _ _ _ _ _ _ _ _ _ _ rfl
  · intro short
    cases read : ofOctets? octets with
    | none => rfl
    | some found =>
      have whole := congrArg List.length (encoding_of_ofOctets? read)
      simp at whole
      omega

end Header

end WlanControl.Frame
