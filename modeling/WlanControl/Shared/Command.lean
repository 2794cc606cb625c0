import WlanControl.Discovery.Record
import WlanControl.Request.Hosting
import WlanControl.Request.Key

namespace WlanControl

/-!
# Commands of the host

What the host asks the radio to do.  A command replaces what the radio does at the time.
-/

/-- The access point to connect to, as it was found. -/
structure ConnectTarget where
  record : Discovery.Record
  key : Option Key
deriving DecidableEq, Repr

/-- The address of the network to connect to. -/
def ConnectTarget.bssid (t : ConnectTarget) : MacAddress := t.record.bssid

/-- What the host asks the radio to do. -/
inductive Command
  /-- Power up. -/
  | enable
  /-- Leave the current mode and power down. -/
  | powerOff
  /-- Leave the current mode. -/
  | stop
  | scan
  | connect (target : ConnectTarget)
  | host (parameters : HostParameters)
deriving DecidableEq, Repr

end WlanControl
