import WlanControl.Link.Machine
import WlanControl.Report.Frame
import WlanControl.Request.Descriptor
import WlanControl.Request.Profile

namespace WlanControl.Report

open Link (Event Settings)

/-!
# Reports of the state

What is known of access points and peers, what was requested, and what the link layer does.
-/

/-! ### Access points and peers -/

instance : Reported Discovery.Observation where
  report o := .fields [
    ("bssid", report o.bssid),
    ("transmitter", report o.transmitter),
    ("ssid", report o.ssid),
    ("channel", report o.channel),
    ("rssi", report o.rssi),
    ("security", report o.security),
    ("compatible", report o.compatible),
    ("beacon_interval", report o.interval),
    ("host", report o.advertisement)]

instance : Reported Discovery.Record where
  report r := .fields [
    ("bssid", report r.bssid),
    ("transmitter", report r.transmitter),
    ("ssid", report r.ssid),
    ("channel", report r.channel),
    ("security", report r.security),
    ("compatible", report r.compatible),
    ("rssi_latest", report r.rssi.latest?),
    ("rssi_average", report r.rssi.average?),
    ("age", report r.age),
    ("beacon_interval", report r.interval),
    ("host", report r.advertisement),
    ("is_local_host", report r.isLocalHost)]

instance : Reported Discovery.Table.Match where
  report m := .list [report m.candidate, report m.slot, report m.record.bssid]

instance : Reported Session.Peer where
  report peer := .list [report peer.address, report peer.aid]

/-! ### Requests -/

instance : Reported HostParameters where
  report p := .fields [
    ("ssid", report p.ssid),
    ("channel", report p.channel),
    ("game_id", report p.gameId),
    ("stream_code", report p.streamCode),
    ("max_peers", report p.maxPeers),
    ("host_packet_size", report p.hostPacketSize),
    ("peer_packet_size", report p.peerPacketSize)]

instance : Reported Discovery.Matcher where
  report m := .fields [("bssid", report m.bssid), ("ssid", report m.ssid)]

instance : Reported Descriptor where
  report d := .fields [
    ("bssid", report d.bssid),
    ("ssid", report d.ssid),
    ("channel", report d.channel),
    ("matcher", report d.matcher)]

instance : Reported Ipv4 where
  report a := report [a.o₁, a.o₂, a.o₃, a.o₄]

instance : Reported IpConfig where
  report
    | .dhcp => .absent
    | .static address netmask gateway dns₁ dns₂ => .fields [
      ("address", report address),
      ("netmask", report netmask),
      ("gateway", report gateway),
      ("dns", report [dns₁, dns₂])]

instance : Reported Profile where
  report p := .fields [
    ("ssid", report p.ssid),
    ("bssid", report p.bssid),
    ("security", report p.security),
    ("key", report p.key),
    ("needs_address", report p.ip.needsAddress),
    ("ip", report p.ip)]

/-! ### The link layer -/

instance : Reported Settings where
  report s := .fields [
    ("resend_interval", report s.resendInterval),
    ("retry_budget", report s.retryBudget),
    ("keepalive_interval", report s.keepaliveInterval),
    ("link_loss_timeout", report s.linkLossTimeout),
    ("scan_dwell", report s.scanDwell),
    ("beacon_interval", report s.beaconInterval),
    ("tx_burst", report s.txBurst),
    ("beacon_period", report s.beaconPeriod)]

instance : Reported RingCounters where
  report c := report [c.packets, c.bytes, c.droppedPackets, c.droppedBytes]

instance : Reported Statistics where
  report s := .fields [
    ("rx_packets", report s.rxPackets),
    ("rx_bytes", report s.rxBytes),
    ("tx_packets", report s.txPackets),
    ("tx_bytes", report s.txBytes),
    ("tx_queue_full", report s.txQueueFull),
    ("lock_busy", report s.lockBusy),
    ("retransmissions", report s.retransmissions)]

instance : Reported Status where
  report s := .list [
    report s.mode, report s.authLevel, report s.channel, report s.rssi, report s.apSlot,
    report s.retries, report s.failure, report s.aid, report s.acknowledged]

/-- Of its own memory the link layer shows what it also publishes, and the access point. -/
instance : Reported Link.Machine where
  report m := .list [
    report m.mode, report m.authLevel, report m.channel, report m.retries,
    report (m.target.map ConnectTarget.bssid)]

/-- What an event is to the radio and the key exchange.  The other events are of no interest to
them. -/
def ofEvent? : Event → Option Report
  | .sent frame true => some (.list [report "sent", hex frame])
  | .sent frame false => some (.list [report "refused", hex frame])
  | .tuned channel => some (.list [report "channel", report channel])
  | .keyInstalled key => some (.list [report "key", report key])
  | .exchangeBegun authenticator security key =>
    some (.list [report "kx_begin", report authenticator, report security, report key])
  | .exchanged payload _ =>
    some (.list [report "kx_eapol", hex payload, report Link.replyCapacity])
  | .exchangeReset => some (.list [report "kx_reset"])
  | .commanded .. | .taken _ | .unsendable | .published .. => none

end WlanControl.Report
