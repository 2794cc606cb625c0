import WlanControl.Frame.Outgoing
import WlanControl.Host.Status
import WlanControl.Link.Surroundings
import WlanControl.Shared.State

namespace WlanControl.Report

open WlanControl.Frame Link

/-!
# Names in reports

The words by which reports name values that are numbers on the wire or causes of errors.  A number
without an assigned meaning is given as it is.
-/

/-- Values that reports give by name. -/
class Named (α : Type) where
  /-- The name of a value. -/
  name : α → String

export Named (name)

/-- The one of some values that has a name. -/
def named? {α : Type} [Named α] (values : List α) (text : String) : Option α :=
  values.find? fun value => name value = text

/-- The name of a number without an assigned meaning. -/
def unknown (number : Nat) : String := s!"Unknown({number})"

/-! ### Frames -/

instance : Named FrameType where
  name
    | .management => "Management"
    | .control => "Control"
    | .data => "Data"
    | .other n => unknown n.toNat

instance : Named ManagementSubtype where
  name
    | .associationRequest => "AssociationRequest"
    | .associationResponse => "AssociationResponse"
    | .reassociationRequest => "ReassociationRequest"
    | .reassociationResponse => "ReassociationResponse"
    | .probeRequest => "ProbeRequest"
    | .probeResponse => "ProbeResponse"
    | .beacon => "Beacon"
    | .disassociation => "Disassociation"
    | .authentication => "Authentication"
    | .deauthentication => "Deauthentication"
    | .action => "Action"
    | .other n => unknown n.toNat

instance : Named DataSubtype where
  name
    | .data => "Data"
    | .null => "Null"
    | .other n => unknown n.toNat

instance : Named StatusCode where
  name
    | .success => "Success"
    | .unspecifiedFailure => "UnspecifiedFailure"
    | .unsupportedCapabilities => "UnsupportedCapabilities"
    | .unsupportedAuthAlgorithm => "UnsupportedAuthAlgorithm"
    | .authSequenceOutOfOrder => "AuthSequenceOutOfOrder"
    | .challengeFailure => "ChallengeFailure"
    | .authTimeout => "AuthTimeout"
    | .apFull => "ApFull"
    | .unsupportedRates => "UnsupportedRates"
    | .other n => unknown n.toNat

instance : Named ReasonCode where
  name
    | .unspecified => "Unspecified"
    | .previousAuthInvalid => "PreviousAuthInvalid"
    | .leaving => "Leaving"
    | .inactivity => "Inactivity"
    | .apFull => "ApFull"
    | .notAuthenticated => "NotAuthenticated"
    | .notAssociated => "NotAssociated"
    | .leavingBss => "LeavingBss"
    | .other n => unknown n.toNat

instance : Named AuthAlgorithm where
  name
    | .openSystem => "OpenSystem"
    | .sharedKey => "SharedKey"
    | .other n => unknown n.toNat

instance : Named Rate where
  name
    | .rate1M => "Rate1M"
    | .rate2M => "Rate2M"
    | .rate5M5 => "Rate5_5M"
    | .rate11M => "Rate11M"
    | .rate6M => "Rate6M"
    | .rate9M => "Rate9M"
    | .rate12M => "Rate12M"
    | .rate18M => "Rate18M"
    | .rate24M => "Rate24M"
    | .rate36M => "Rate36M"
    | .rate48M => "Rate48M"
    | .rate54M => "Rate54M"
    | .other n => unknown n.toNat

instance : Named Cipher where
  name
    | .disabled => "Disabled"
    | .wep40 => "Wep40"
    | .tkip => "Tkip"
    | .ccmp => "Ccmp"
    | .wep104 => "Wep104"
    | .other n => unknown n.toNat

instance : Named KeyManagement where
  name
    | .disabled => "Disabled"
    | .ieee8021X => "Ieee8021X"
    | .psk => "Psk"
    | .other n => unknown n.toNat

instance : Named Security where
  name
    | .plain => "Open"
    | .wep => "Wep"
    | .wpa => "Wpa"
    | .wpa2 => "Wpa2"

instance : Named RateSet where
  name
    | .native => "Native"
    | .expanded => "Expanded"

instance : Named Direction where
  name
    | .toDs => "ToDs"
    | .fromDs => "FromDs"

instance : Named FrameFlag where
  name
    | .toDs => "to_ds"
    | .fromDs => "from_ds"
    | .moreFragments => "more_fragments"
    | .retry => "retry"
    | .powerManagement => "power_management"
    | .moreData => "more_data"
    | .encrypted => "protected"
    | .order => "order"

instance : Named Capability where
  name
    | .ess => "is_ess"
    | .ibss => "is_ibss"
    | .cfPollable => "cf_pollable"
    | .cfPollRequest => "cf_poll_request"
    | .privacy => "privacy"
    | .shortPreamble => "short_preamble"
    | .pbcc => "pbcc"
    | .channelAgility => "channel_agility"
    | .spectrumManagement => "spectrum_management"
    | .qos => "qos"
    | .shortSlotTime => "short_slot_time"
    | .apsd => "apsd"
    | .radioMeasurement => "radio_measurement"
    | .dsssOfdm => "dsss_ofdm"
    | .delayedBlockAck => "delayed_block_ack"
    | .immediateBlockAck => "immediate_block_ack"

/-! ### State -/

instance : Named Sync.Processor where
  name
    | .radio => "Radio"
    | .host => "Host"

instance : Named Mode where
  name
    | .disabled => "Disabled"
    | .normal => "Normal"
    | .scanning => "Scanning"
    | .connecting => "Connecting"
    | .connected => "Connected"
    | .cannotConnect => "CannotConnect"
    | .accessPoint => "AccessPoint"

instance : Named AuthLevel where
  name
    | .disconnected => "Disconnected"
    | .authenticated => "Authenticated"
    | .associated => "Associated"
    | .deassociated => "Deassociated"
    | .error => "Error"

instance : Named ExchangeState where
  name
    | .inProgress => "InProgress"
    | .complete => "Complete"
    | .failed => "Failed"

instance : Named Session.PeerState where
  name
    | .disconnected => "Disconnected"
    | .authenticated => "Authenticated"
    | .associated => "Associated"

instance : Named Host.ConnectionStatus where
  name
    | .disconnected => "Disconnected"
    | .scanning => "Scanning"
    | .searching => "Searching"
    | .authenticating => "Authenticating"
    | .associating => "Associating"
    | .acquiringAddress => "AcquiringAddress"
    | .associated => "Associated"
    | .cannotConnect => "CannotConnect"
    | .hosting => "Hosting"

/-! ### Causes of errors -/

instance : Named LinkError where
  name
    | .retryBudgetExhausted => "RetryBudgetExhausted"
    | .authenticationRejected => "AuthenticationRejected"
    | .associationRejected => "AssociationRejected"
    | .keyExchangeFailed => "KeyExchangeFailed"

instance : Named Frame.Error where
  name
    | .truncated => "Truncated"
    | .bufferTooSmall => "BufferTooSmall"

instance : Named RingError where
  name
    | .full => "Full"
    | .tooLarge => "TooLarge"
    | .inUse => "InUse"

instance : Named Discovery.TableError where
  name
    | .busy => "Busy"
    | .notFound => "NotFound"

instance : Named Session.Error where
  name
    | .busy => "Busy"
    | .rejected => "Rejected"
    | .full => "Full"
    | .notFound => "NotFound"

instance : Named RequestError where
  name
    | .invalidSsid => "InvalidSsid"
    | .invalidChannel => "InvalidChannel"
    | .invalidPeerCount => "InvalidPeerCount"
    | .packetTooLarge => "PacketTooLarge"
    | .keyTooLong => "KeyTooLong"
    | .noProfiles => "NoProfiles"
    | .busy => "Busy"
    | .invalidState => "InvalidState"

end WlanControl.Report
