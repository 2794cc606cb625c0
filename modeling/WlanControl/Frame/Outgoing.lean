import WlanControl.Frame.Received

namespace WlanControl.Frame

/-!
# Frames to be sent

The fields of every frame that the link layer sends, in the order in which they are written.  Each
definition is named for the frame.  `sequenceNumber` is the number of the frame itself, which the
header holds above the four bits for fragments.
-/

/-- A request for beacons from all networks, or from those of one name. -/
def probeRequest (transmitter : MacAddress) (ssid : Option Ssid) (sequenceNumber : UInt16) :
    List Field :=
  (Header.management .probeRequest .broadcast transmitter .broadcast sequenceNumber).fields ++
    [.element ssidId ((ssid.map Ssid.octets).getD []),
      .element ratesId RateSet.native.octets]

/-- An authentication frame, whose body is `encrypted` when it answers a challenge. -/
def authentication (receiver transmitter bssid : MacAddress) (sequenceNumber : UInt16)
    (body : Authentication) (encrypted : Bool) : List Field :=
  let header := Header.management .authentication receiver transmitter bssid sequenceNumber
  let header := { header with control := header.control.set .encrypted encrypted }
  header.fields ++
    [.octets (littleEndian16 body.algorithm.number), .octets (littleEndian16 body.sequence),
      .octets (littleEndian16 body.status.number)] ++
    (body.challenge.map (.element challengeId ·)).toList

/-- The number of beacons after which a station listens, which is every one. -/
def listenInterval : UInt16 := 1

/-- A request to join a network, with the rates that the station claims to support. -/
def associationRequest (bssid transmitter : MacAddress) (sequenceNumber : UInt16) (ssid : Ssid)
    (privacy : Bool) (rateSet : RateSet) : List Field :=
  let capabilities :=
    ((Capabilities.none.set .ess true).set .privacy privacy).set .shortPreamble true
  (Header.management .associationRequest bssid transmitter bssid sequenceNumber).fields ++
    [.octets (littleEndian16 capabilities.word), .octets (littleEndian16 listenInterval),
      .element ssidId ssid.octets, .element ratesId rateSet.octets]

/-- The answer to a request to join. -/
def associationResponse (receiver bssid : MacAddress) (sequenceNumber : UInt16)
    (status : StatusCode) (aid : UInt16) : List Field :=
  (Header.management .associationResponse receiver bssid bssid sequenceNumber).fields ++
    [.octets (littleEndian16 (Capabilities.none.set .ess true).word),
      .octets (littleEndian16 status.number), .octets (littleEndian16 (aid ||| 0xc000)),
      .element ratesId RateSet.native.octets]

/-- A deauthentication, or a disassociation if `subtype` says so. -/
def deauthentication (subtype : ManagementSubtype) (receiver transmitter bssid : MacAddress)
    (sequenceNumber : UInt16) (reason : ReasonCode) : List Field :=
  (Header.management subtype receiver transmitter bssid sequenceNumber).fields ++
    [.octets (littleEndian16 reason.number)]

/-- What a beacon is made from. -/
structure BeaconTemplate where
  bssid : MacAddress
  /-- The time between two beacons, in units of 1024 µs. -/
  interval : UInt16
  capabilities : Capabilities
  ssid : Ssid
  channel : UInt8
  /-- The supported rates, with the highest bit set on the basic ones. -/
  rates : List UInt8
  advertisement : Option Advertisement
  /-- Elements that follow all others as they stand. -/
  extraElements : List UInt8
deriving DecidableEq, Repr

/-- A beacon.  The radio fills in its timestamp.  The traffic element says that nothing is
waiting. -/
def beacon (template : BeaconTemplate) (sequenceNumber : UInt16) : List Field :=
  (Header.management .beacon .broadcast template.bssid template.bssid sequenceNumber).fields ++
    [.octets (List.replicate 8 0), .octets (littleEndian16 template.interval),
      .octets (littleEndian16 template.capabilities.word),
      .element ssidId template.ssid.octets, .element ratesId template.rates,
      .element channelId [template.channel], .element trafficId [0, 1, 0, 0]] ++
    (template.advertisement.map Advertisement.fields).getD [] ++
    [.octets template.extraElements]

/-- Which way a data frame goes. -/
inductive Direction
  /-- From a station to the access point. -/
  | toDs
  /-- From the access point to a station. -/
  | fromDs
deriving DecidableEq, Repr

/-- The header of a data frame.  The place of each address depends on the direction. -/
def dataHeader (direction : Direction) (bssid destination source : MacAddress)
    (sequenceNumber : UInt16) (encrypted : Bool) : Header :=
  let control := (FrameControl.data .data).set .encrypted encrypted
  match direction with
  | .toDs =>
    { control := control.set .toDs true
      duration := 0
      address₁ := bssid
      address₂ := source
      address₃ := destination
      sequenceControl := Header.sequenceWord sequenceNumber }
  | .fromDs =>
    { control := control.set .fromDs true
      duration := 0
      address₁ := destination
      address₂ := bssid
      address₃ := source
      sequenceControl := Header.sequenceWord sequenceNumber }

/-- A data frame.  `encrypted` only marks the frame, the radio does the encryption. -/
def data (direction : Direction) (bssid destination source : MacAddress) (sequenceNumber : UInt16)
    (encrypted : Bool) (type : UInt16) (payload : List UInt8) : List Field :=
  (dataHeader direction bssid destination source sequenceNumber encrypted).fields ++
    [.octets llcSnap, .octets (bigEndian16 type), .octets payload]

/-- A data frame without a body, by which a station shows that it is still there. -/
def nullData (bssid transmitter : MacAddress) (sequenceNumber : UInt16) : List Field :=
  Header.fields
    { control := (FrameControl.data .null).set .toDs true
      duration := 0
      address₁ := bssid
      address₂ := transmitter
      address₃ := bssid
      sequenceControl := Header.sequenceWord sequenceNumber }

/-- A data frame belongs to the network it was made for, whichever way it goes. -/
theorem network_dataHeader (direction : Direction) (bssid destination source : MacAddress)
    (sequenceNumber : UInt16) (encrypted : Bool) :
    (dataHeader direction bssid destination source sequenceNumber encrypted).network = bssid := by
  cases direction <;> simp [dataHeader, Header.network]

/-- A data frame goes between the stations it was made for, whichever way it goes. -/
theorem endpoints_dataHeader (direction : Direction) (bssid destination source : MacAddress)
    (sequenceNumber : UInt16) (encrypted : Bool) :
    let header := dataHeader direction bssid destination source sequenceNumber encrypted
    header.destination = destination ∧ header.source = source := by
  cases direction <;> simp [dataHeader, Header.destination, Header.source]

end WlanControl.Frame
