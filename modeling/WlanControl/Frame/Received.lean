import WlanControl.Frame.Beacon
import WlanControl.Frame.Code

namespace WlanControl.Frame

/-!
# Received frames

A received frame, read as far as the link layer is interested in it.

* `Authentication` — the body of an authentication frame;
* `Received` — a frame by its kind;
* `Received.ofOctets` — the frame that a list of octets is;
* `stripLlcSnap?` — the type and payload of a data frame's body.

The only error is a frame that ends before its fixed fields do.  Elements never cause one.
-/

/-- The body of an authentication frame. -/
structure Authentication where
  algorithm : AuthAlgorithm
  /-- The number of the frame within the handshake, counted from one. -/
  sequence : UInt16
  status : StatusCode
  challenge : Option (List UInt8)
deriving DecidableEq, Repr

/-- A frame that was received. -/
inductive Received
  | beacon (info : BeaconInfo)
  | probeResponse (info : BeaconInfo)
  | probeRequest (transmitter : MacAddress) (ssid : Option Ssid)
  | authentication (header : Header) (body : Authentication)
  | associationRequest (header : Header) (capabilities : Capabilities) (ssid : Option Ssid)
  | associationResponse (header : Header) (status : StatusCode) (aid : UInt16)
  | deauthentication (header : Header) (reason : ReasonCode)
  | disassociation (header : Header) (reason : ReasonCode)
  | data (header : Header) (body : List UInt8)
  /-- A frame that the link layer has no use for. -/
  | other
deriving DecidableEq, Repr

namespace Received

/-- The name of a network that a chain of elements gives, if it gives one that is not too long. -/
def ssidIn? (octets : List UInt8) : Option Ssid :=
  (contentsOf? ssidId octets).bind Ssid.ofOctets?

/-- The association identifier in its word, of which the two highest bits are always set. -/
def aidOf (word : UInt16) : UInt16 := word &&& 0x3fff

/-- A management frame, or none if its fixed fields are not complete. -/
def ofManagement? (header : Header) (body : List UInt8) : Option Received :=
  match header.managementSubtype with
  | .beacon => do some (.beacon (← BeaconInfo.ofBody? header body))
  | .probeResponse => do some (.probeResponse (← BeaconInfo.ofBody? header body))
  | .probeRequest => some (.probeRequest header.address₂ (ssidIn? body))
  | .authentication => do
    let algorithm := AuthAlgorithm.ofNumber (← word16At? body 0)
    let sequence ← word16At? body 2
    let status := StatusCode.ofNumber (← word16At? body 4)
    some (.authentication header
      { algorithm, sequence, status, challenge := contentsOf? challengeId (body.drop 6) })
  | .associationRequest => do
    let capabilities := Capabilities.mk (← word16At? body 0)
    some (.associationRequest header capabilities (ssidIn? (body.drop 4)))
  | .reassociationRequest => do
    let capabilities := Capabilities.mk (← word16At? body 0)
    -- The address of the access point that is left stands in front of the elements.
    some (.associationRequest header capabilities (ssidIn? (body.drop 10)))
  | .associationResponse | .reassociationResponse => do
    let status := StatusCode.ofNumber (← word16At? body 2)
    some (.associationResponse header status (aidOf (← word16At? body 4)))
  | .deauthentication => do
    some (.deauthentication header (.ofNumber (← word16At? body 0)))
  | .disassociation => do
    some (.disassociation header (.ofNumber (← word16At? body 0)))
  | .action | .other _ => some .other

/-- The frame with the given header and body, or none if its fixed fields are not complete. -/
def ofBody? (header : Header) (body : List UInt8) : Option Received :=
  match header.frameType with
  | .management => ofManagement? header body
  | .data =>
    match header.dataSubtype with
    | .data => some (.data header body)
    | _ => some .other
  | _ => some .other

/-- The frame that a list of octets is. -/
def ofOctets (octets : List UInt8) : Except Error Received :=
  match (Header.ofOctets? octets).bind fun (header, body) => ofBody? header body with
  | some frame => .ok frame
  | none => .error .truncated

end Received

/-! ### The body of data frames -/

/-- What stands in front of the type of a payload. -/
def llcSnap : List UInt8 := [0xaa, 0xaa, 0x03, 0x00, 0x00, 0x00]

/-- The type of payloads that belong to the key exchange. -/
def eapolType : UInt16 := 0x888e

/-- The type and the payload in the body of a data frame, if the body starts as it should. -/
def stripLlcSnap? (body : List UInt8) : Option (UInt16 × List UInt8) :=
  if body.take 6 = llcSnap then
    match body.drop 6 with
    | high :: low :: payload => some (word16 low high, payload)
    | _ => none
  else none

/-- Type and payload are read back from what is sent for them. -/
theorem stripLlcSnap?_append (type : UInt16) (payload : List UInt8) :
    stripLlcSnap? (llcSnap ++ bigEndian16 type ++ payload) = some (type, payload) := by
  simp [stripLlcSnap?, llcSnap, bigEndian16]

end WlanControl.Frame
