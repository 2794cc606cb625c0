import WlanControl.Report.Value

namespace WlanControl.Report

open WlanControl.Frame

/-!
# Reports of frames

What a received frame says, with the names of its codes.
-/

instance : Reported SecurityInfo where
  report s := .fields [
    ("security", report s.security),
    ("group", report s.groupCipher),
    ("pairwise", report s.pairwiseCipher),
    ("akm", report s.keyManagement),
    ("is_wpa", report s.security.isWpa)]

instance : Reported Advertisement where
  report a := .fields [
    ("game_id", report a.gameId),
    ("stream_code", report a.streamCode),
    ("max_peers", report a.maxPeers),
    ("current_peers", report a.currentPeers),
    ("accepting", report a.accepting),
    ("host_packet_size", report a.hostPacketSize),
    ("peer_packet_size", report a.peerPacketSize)]

instance : Reported Header where
  report h := .fields [
    ("frame_control", report h.control.word),
    ("duration", report h.duration),
    ("address_1", report h.address₁),
    ("address_2", report h.address₂),
    ("address_3", report h.address₃),
    ("sequence_control", report h.sequenceControl)]

instance : Reported Element where
  report e := .list [report e.id, hex e.contents]

instance : Reported BeaconInfo where
  report info := .fields [
    ("bssid", report info.bssid),
    ("transmitter", report info.transmitter),
    ("capabilities", report info.capabilities.word),
    ("beacon_interval", report info.interval),
    ("ssid", report info.ssid),
    ("channel", report info.channel),
    ("compatible", report info.compatible),
    ("security", report info.security),
    ("host", report info.advertisement)]

/-- What the body of a data frame carries. -/
def ofDataBody (body : List UInt8) : Report :=
  match stripLlcSnap? body with
  | some (type, payload) => .fields [("ethertype", report type), ("payload", hex payload)]
  | none => .absent

/-- The parts of a frame that depend on its kind. -/
def partsOf : Received → List (String × Report)
  | .beacon info => [("kind", report "Beacon"), ("info", report info)]
  | .probeResponse info => [("kind", report "ProbeResponse"), ("info", report info)]
  | .probeRequest transmitter ssid => [
    ("kind", report "ProbeRequest"),
    ("transmitter", report transmitter),
    ("ssid", report ssid)]
  | .authentication header body => [
    ("kind", report "Authentication"),
    ("header", report header),
    ("algorithm", report body.algorithm),
    ("sequence", report body.sequence),
    ("status", report body.status),
    ("challenge", report (body.challenge.map hex))]
  | .associationRequest header capabilities ssid => [
    ("kind", report "AssociationRequest"),
    ("header", report header),
    ("capabilities", report capabilities.word),
    ("ssid", report ssid)]
  | .associationResponse header status aid => [
    ("kind", report "AssociationResponse"),
    ("header", report header),
    ("status", report status),
    ("aid", report aid)]
  | .deauthentication header reason => [
    ("kind", report "Deauthentication"),
    ("header", report header),
    ("reason", report reason)]
  | .disassociation header reason => [
    ("kind", report "Disassociation"),
    ("header", report header),
    ("reason", report reason)]
  | .data header body => [
    ("kind", report "Data"),
    ("header", report header),
    ("body", hex body),
    ("bssid", report header.network),
    ("destination", report header.destination),
    ("source", report header.source),
    ("llc", ofDataBody body)]
  | .other => [("kind", report "Other")]

instance : Reported Received where
  report frame := .fields (partsOf frame)

end WlanControl.Report
