import WlanControl.Link.Transmission

namespace WlanControl.Link

open WlanControl.Frame (Direction)

/-!
# Packets between the host and the network

The host puts the packets that it sends into one ring and finds those that were received in the
other one.

* `Link.forward`, `Link.drain` — what the host wants to send goes out;
* `Link.discard` — what the host wants to send is thrown away;
* `Link.deliver` — what was received goes to the host.

Main statement: `Link.forward_of_malformed`, a record without room for a packet sends nothing and
takes no number.
-/

/-- The network that the packets of the host go to, and which way. -/
def Machine.outlet? (m : Machine) : Option (MacAddress × Direction) :=
  match m.mode with
  | .connected => m.target.map fun target => (target.bssid, .toDs)
  | .accessPoint => some (m.address, .fromDs)
  | _ => none

variable {σ : Type} (env : Surroundings σ)

/-- Makes a frame of a record of the host and sends it.  The station puts itself down as the source,
whatever the record says.  Records that are too short for a packet are dropped. -/
def forward (bssid : MacAddress) (direction : Direction) (record : List UInt8) (l : Link σ) :
    Link σ :=
  let l := { l with log := .taken record :: l.log }
  match Packet.ofOctets? record with
  | none => l
  | some packet =>
    l.send env fun number =>
      Frame.data direction bssid packet.destination l.machine.address number l.machine.encrypting
        packet.type packet.payload

/-- Takes at most `burst` records of the host out of their ring and sends them. -/
def drain (bssid : MacAddress) (direction : Direction) : Nat → Link σ → Link σ
  | 0, l => l
  | burst + 1, l =>
    match l.shared.tx.take with
    | (tx, none) => { l with shared.tx := tx }
    | (tx, some record) =>
      drain bssid direction burst ({ l with shared.tx := tx }.forward env bssid direction record)

/-- Sends as many records of the host as one tick allows, if there is a network to send them to. -/
def drainBurst (l : Link σ) : Link σ :=
  match l.machine.outlet? with
  | some (bssid, direction) => l.drain env bssid direction l.machine.settings.txBurst
  | none => l

/-- Throws all records of the host away. -/
def discard (l : Link σ) : Link σ := { l with shared.tx := l.shared.tx.discardAll }

/-- Hands a received packet to the host, if there is space for it. -/
def deliver (packet : Packet) (l : Link σ) : Link σ :=
  match l.shared.rx.push packet.octets l.machine.producer with
  | (rx, producer, .ok ()) =>
    { l with shared.rx := rx, machine.producer := producer }.count
      (Statistics.countReceived packet.octets.length)
  | (rx, producer, .error _) => { l with shared.rx := rx, machine.producer := producer }

/-- A record without room for a packet sends nothing and takes no number. -/
theorem forward_of_malformed {record : List UInt8} (malformed : Packet.ofOctets? record = none)
    (bssid : MacAddress) (direction : Direction) (l : Link σ) :
    l.forward env bssid direction record = { l with log := .taken record :: l.log } := by
  simp [forward, malformed]

end WlanControl.Link
