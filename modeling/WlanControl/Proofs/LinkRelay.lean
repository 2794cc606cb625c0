import Mathlib.Data.List.Forall2
import WlanControl.Proofs.FrameDrafts
import WlanControl.Proofs.LinkRetries
import WlanControl.Proofs.RingContents

namespace WlanControl

/-!
# The link layer — packets from one host to the other

What one host puts into its ring is what the other host finds in its own, with the address of the
sender in place of whatever the sender wrote there.  This goes for a station and the access point it
is connected to, in both directions.

* `transmitted` — the frames that the radio took, and `picked` for whatever is picked of a log;
* `sendable` — the packets among the records of a host that a frame has room for;
* `exists_frames_of_drainBurst` — the frames that are made of the records in the ring, however they
  are picked of the log;
* `HandsOver`, `Yields` — what is to be made of these frames, with `handsOver_fromPeer` and
  `handsOver_fromNetwork`;
* `Linked` — a station that takes part in the session of an access point.

Main statement: `linked_relays`, the frames of either side are handed over by the other one, so that
a burst of records arrives in the order in which it was sent.
-/

/-- The packet with the address of a station as its source, whatever it was before. -/
def Packet.sentBy (address : MacAddress) (packet : Packet) : Packet :=
  { packet with source := address }

/-- The packet is for the host of a station: its address or one of a group, and not of the type that
messages for the key exchange have. -/
def Packet.IsFor (address : MacAddress) (packet : Packet) : Prop :=
  (packet.destination = address ∨ packet.destination.isGroup = true) ∧
    packet.type ≠ Frame.eapolType

namespace Link

open WlanControl.Frame (Direction Draft Field dataHeader encode? eapolType llcSnap maxFrameLength)

variable {σ τ : Type} {l l' : Link σ} {env : Surroundings σ} {packet : Packet}

/-! ### Frames that were sent -/

/-- The radio takes every frame. -/
def Surroundings.Accepts (env : Surroundings σ) : Prop :=
  ∀ frame outside, (env.send frame outside).2 = true

/-- The frame that the radio took, if that is what is logged. -/
def Event.transmitted? : Event → Option (List UInt8)
  | .sent frame true => some frame
  | _ => none

/-- The frames that the radio took, oldest first. -/
def transmitted (log : List Event) : List (List UInt8) :=
  (log.filterMap Event.transmitted?).reverse

/-- What is picked of a log, oldest first. -/
def picked (f : Event → Option (List UInt8)) (log : List Event) : List (List UInt8) :=
  (log.filterMap f).reverse

theorem picked_cons (f : Event → Option (List UInt8)) (e : Event) (log : List Event) :
    picked f (e :: log) = picked f log ++ (f e).toList := by
  unfold picked
  rw [List.filterMap_cons]
  cases f e <;> simp

/-- What is picked of a frame depends on whether the radio takes it, if there is space for it. -/
theorem picked_send {f : Event → Option (List UInt8)} (h : f .unsendable = none)
    (env : Surroundings σ) (build : UInt16 → List Field) (l : Link σ) :
    picked f (l.send env build).log = picked f l.log ++
      ((encode? maxFrameLength (build l.machine.sequenceNumber)).bind fun frame =>
        f (.sent frame (env.send frame l.outside).2)).toList := by
  unfold send
  simp only
  cases encode? maxFrameLength (build l.machine.sequenceNumber) with
  | none =>
    rw [Option.bind_none]
    exact (picked_cons f .unsendable l.log).trans (by rw [h])
  | some frame =>
    rw [Option.bind_some]
    unfold transmit
    simp only
    split
    · rename_i outside hsend
      rw [hsend]
      exact picked_cons f (.sent frame true) l.log
    · rename_i outside hsend
      rw [hsend]
      exact picked_cons f (.sent frame false) l.log

/-- A frame is sent if there is space for it. -/
theorem transmitted_send (henv : env.Accepts) (build : UInt16 → List Field) (l : Link σ) :
    transmitted (l.send env build).log =
      transmitted l.log ++ (encode? maxFrameLength (build l.machine.sequenceNumber)).toList := by
  refine (picked_send (f := Event.transmitted?) rfl env build l).trans ?_
  cases encode? maxFrameLength (build l.machine.sequenceNumber) with
  | none => rfl
  | some frame =>
    rw [Option.bind_some, henv frame l.outside]
    rfl

/-! ### Frames made of records -/

/-- Whether a frame has room for the payload, behind its header and the type of the payload. -/
def fitsFrame (packet : Packet) : Bool := packet.payload.length + 32 ≤ maxFrameLength

/-- The packets among the records that a frame has room for. -/
def sendable (records : List (List UInt8)) : List Packet :=
  (records.filterMap Packet.ofOctets?).filter fitsFrame

theorem sendable_cons (record : List UInt8) (records : List (List UInt8)) :
    sendable (record :: records) = sendable [record] ++ sendable records := by
  unfold sendable
  rw [← List.filter_append, ← List.filterMap_append, List.singleton_append]

/-- What a machine makes of a packet for a network. -/
def Machine.draft (m : Machine) (bssid : MacAddress) (direction : Direction) (packet : Packet) :
    Draft :=
  .data direction bssid packet.destination m.address m.encrypting packet.type packet.payload

/-- The octets of what a machine makes of a packet. -/
def Machine.frame (m : Machine) (bssid : MacAddress) (direction : Direction) (packet : Packet)
    (number : UInt16) : List UInt8 :=
  ((m.draft bssid direction packet).fields number).flatMap Field.encoding

theorem Machine.length_frame (m : Machine) (bssid : MacAddress) (direction : Direction)
    (packet : Packet) (number : UInt16) :
    (m.frame bssid direction packet number).length = packet.payload.length + 32 := by
  unfold frame draft Draft.fields Frame.data
  rw [List.flatMap_append, List.length_append]
  simp [Frame.Header.fields, Field.encoding, Field.slices, llcSnap]
  omega

/-- Exactly the packets that a frame has room for are written. -/
theorem Machine.encode?_draft (m : Machine) (bssid : MacAddress) (direction : Direction)
    (packet : Packet) (number : UInt16) :
    encode? maxFrameLength ((m.draft bssid direction packet).fields number) =
      if fitsFrame packet then some (m.frame bssid direction packet number) else none := by
  have hlength := m.length_frame bssid direction packet number
  split
  · rename_i hfits
    refine Frame.encode?_of_fits ((m.draft bssid direction packet).isCountable_fields trivial _) ?_
    exact Nat.le_trans (Nat.le_of_eq hlength) (of_decide_eq_true hfits)
  · rename_i hlong
    cases hencode : encode? maxFrameLength ((m.draft bssid direction packet).fields number) with
    | none => rfl
    | some frame =>
      have hle := Frame.length_le_of_encode? hencode
      rw [Frame.eq_of_encode? hencode] at hle
      exact absurd (decide_eq_true (hlength ▸ hle)) hlong

/-- The frame was made of the packet. -/
def Machine.Carries (m : Machine) (bssid : MacAddress) (direction : Direction) (packet : Packet)
    (frame : List UInt8) : Prop :=
  ∃ number, frame = m.frame bssid direction packet number

/-- Of what is logged while records are sent the frames are picked, as the radio answers to them. -/
structure Picks (env : Surroundings σ) (f : Event → Option (List UInt8)) : Prop where
  taken : ∀ record, f (.taken record) = none
  unsendable : f .unsendable = none
  sent : ∀ {m : Machine} {bssid direction packet frame}, m.Carries bssid direction packet frame →
    ∀ outside, f (.sent frame (env.send frame outside).2) = some frame

/-- A radio that takes every frame takes those that are made of records. -/
theorem picks_transmitted (henv : env.Accepts) : Picks env Event.transmitted? where
  taken _ := rfl
  unsendable := rfl
  sent _ outside := by
    rw [henv _ outside]
    rfl

/-- One record gives one frame, unless it is too short for a packet or too long for a frame. -/
theorem exists_frames_of_forward {f : Event → Option (List UInt8)} (hpicks : Picks env f)
    (bssid : MacAddress) (direction : Direction) (record : List UInt8) (l : Link σ) :
    ∃ frames, picked f (l.forward env bssid direction record).log = picked f l.log ++ frames ∧
      List.Forall₂ (l.machine.Carries bssid direction) (sendable [record]) frames := by
  unfold forward
  simp only
  have htaken : picked f (.taken record :: l.log) = picked f l.log := by
    rw [picked_cons, hpicks.taken]
    exact List.append_nil _
  cases hrecord : Packet.ofOctets? record with
  | none =>
    refine ⟨[], by rw [List.append_nil]; exact htaken, ?_⟩
    simp [sendable, hrecord]
  | some packet =>
    refine ⟨_, by rw [picked_send hpicks.unsendable, htaken], ?_⟩
    have hencode := l.machine.encode?_draft bssid direction packet l.machine.sequenceNumber
    show List.Forall₂ _ _ ((encode? maxFrameLength
      ((l.machine.draft bssid direction packet).fields l.machine.sequenceNumber)).bind
        fun frame => f (.sent frame (env.send frame l.outside).2)).toList
    rw [hencode]
    by_cases hfits : fitsFrame packet = true
    · rw [if_pos hfits, Option.bind_some, hpicks.sent ⟨_, rfl⟩]
      simpa [sendable, hrecord, hfits] using ⟨_, rfl⟩
    · simp [sendable, hrecord, hfits]

theorem Transmits.carries_eq (h : Transmits l l') : l'.machine.Carries = l.machine.Carries := by
  rw [h.machine_eq]
  rfl

theorem Transmits.tx_eq (h : Transmits l l') : l'.shared.tx = l.shared.tx := by
  rw [h.shared_eq]

/-- What is made of a record changes nothing for the next one. -/
theorem keeps_forward (env : Surroundings σ) (bssid : MacAddress) (direction : Direction)
    (record : List UInt8) (l : Link σ) :
    (l.forward env bssid direction record).machine.Carries = l.machine.Carries ∧
      (l.forward env bssid direction record).shared.tx = l.shared.tx := by
  unfold forward
  simp only
  split
  · exact ⟨rfl, rfl⟩
  · exact ⟨(transmits_send env _ _).carries_eq.trans rfl, (transmits_send env _ _).tx_eq⟩

/-- The frames that are sent were made of the first records in the ring, in their order. -/
theorem exists_frames_of_drain {f : Event → Option (List UInt8)} (hpicks : Picks env f)
    (bssid : MacAddress) (direction : Direction) (burst : Nat) {records : List (List UInt8)}
    (h : l.shared.tx.Holds records) :
    ∃ frames, picked f (l.drain env bssid direction burst).log = picked f l.log ++ frames ∧
      List.Forall₂ (l.machine.Carries bssid direction) (sendable (records.take burst)) frames ∧
      (l.drain env bssid direction burst).shared.tx.Holds (records.drop burst) := by
  induction burst generalizing l records with
  | zero => exact ⟨[], (List.append_nil _).symm, .nil, h⟩
  | succ burst ih =>
    unfold drain
    cases records with
    | nil =>
      rw [Ring.take_of_holds_nil h]
      exact ⟨[], (List.append_nil _).symm, .nil, h⟩
    | cons record rest =>
      obtain ⟨tx, htake, hrest⟩ := h.take_cons
      rw [htake]
      simp only
      -- The record is out of the ring when the frame is made of it.
      generalize htaken : { l with shared.tx := tx } = taken
      have hlog : taken.log = l.log := by rw [← htaken]
      have hcarries : taken.machine.Carries = l.machine.Carries := by rw [← htaken]
      obtain ⟨frames, hframes, hcarried⟩ :=
        exists_frames_of_forward hpicks bssid direction record taken
      obtain ⟨hkept, htx⟩ := keeps_forward env bssid direction record taken
      obtain ⟨frames', hframes', hcarried', hleft⟩ :=
        ih (l := taken.forward env bssid direction record) (by rw [htx, ← htaken]; exact hrest)
      refine ⟨frames ++ frames', ?_, ?_, hleft⟩
      · rw [hframes', hframes, hlog, List.append_assoc]
      · rw [List.take_succ_cons, sendable_cons]
        rw [hcarries] at hcarried
        rw [hkept, hcarries] at hcarried'
        exact List.rel_append hcarried hcarried'

/-- In one tick the frames go to the network that the packets of the host are for. -/
theorem exists_frames_of_drainBurst {f : Event → Option (List UInt8)} (hpicks : Picks env f)
    {bssid : MacAddress} {direction : Direction}
    (houtlet : l.machine.outlet? = some (bssid, direction)) {records : List (List UInt8)}
    (h : l.shared.tx.Holds records) :
    ∃ frames, picked f (l.drainBurst env).log = picked f l.log ++ frames ∧
      (l.drainBurst env).shared.tx.Holds (records.drop l.machine.settings.txBurst) ∧
      List.Forall₂ (l.machine.Carries bssid direction)
        (sendable (records.take l.machine.settings.txBurst)) frames := by
  obtain ⟨frames, hframes, hcarried, hleft⟩ :=
    exists_frames_of_drain hpicks bssid direction l.machine.settings.txBurst h
  unfold drainBurst
  rw [houtlet]
  exact ⟨frames, hframes, hleft, hcarried⟩

/-! ### Frames that are heard -/

/-- A packet was handed to the host, and nothing else happened from one link to the other. -/
structure HandsOver (packet : Packet) (l l' : Link σ) : Prop where
  rx_eq : l'.shared.rx = (l.shared.rx.push packet.octets l.machine.producer).1
  machine_eq : l'.machine = { l.machine with
    now := l'.machine.now
    lastHeard := l'.machine.lastHeard
    producer := (l.shared.rx.push packet.octets l.machine.producer).2.1 }
  shared_eq : l'.shared = { l.shared with
    rx := l'.shared.rx
    statistics := l'.shared.statistics }
  log_eq : l'.log = l.log

theorem handsOver_deliver (packet : Packet) (l : Link σ) :
    HandsOver packet l (l.deliver packet) := by
  unfold deliver
  split
  · rename_i rx producer hpush
    exact ⟨by rw [hpush]; rfl, by rw [hpush]; rfl, rfl, rfl⟩
  · rename_i rx producer e hpush
    exact ⟨by rw [hpush], by rw [hpush], rfl, rfl⟩

/-- It does not matter when the frame was heard. -/
theorem HandsOver.of_heard {now lastHeard : Nat}
    (h : HandsOver packet
      { l with machine := { l.machine with now, lastHeard } } l') : HandsOver packet l l' :=
  ⟨h.rx_eq, h.machine_eq, h.shared_eq, h.log_eq⟩

theorem HandsOver.producer_eq (h : HandsOver packet l l') :
    l'.machine.producer = (l.shared.rx.push packet.octets l.machine.producer).2.1 := by
  rw [h.machine_eq]

/-- The packet comes last in the ring, if there is room for it. -/
theorem HandsOver.holds (h : HandsOver packet l l') {payloads : List (List UInt8)}
    (hrx : l.shared.rx.Holds payloads)
    (hroom : ∃ g, l.shared.rx.reserve packet.octets.length = .ok g) :
    l'.shared.rx.Holds (payloads ++ [packet.octets]) := by
  obtain ⟨rx, producer, hpush, hholds⟩ :=
    hrx.push ⟨by decide, by decide⟩ hroom l.machine.producer
  rw [h.rx_eq, hpush]
  exact hholds

/-- A frame that was made of a packet is a data frame again. -/
theorem receiveAmid_frame (hmode : l.machine.mode ≠ .disabled) (m : Machine) (bssid : MacAddress)
    (direction : Direction) (packet : Packet) (number : UInt16) (seized : Nat → Bool)
    (rssi : UInt8) (now : Nat) :
    l.receiveAmid env seized (m.frame bssid direction packet number) rssi now =
      (l.atTime now).receiveData env
        (dataHeader direction bssid packet.destination m.address number m.encrypting)
        (llcSnap ++ bigEndian16 packet.type ++ packet.payload) := by
  have hread := (m.draft bssid direction packet).ofOctets_fields trivial number
  rw [Machine.frame, receiveAmid_of_ok env hmode hread]
  rfl

/-- The access point hands over what a peer sends it. -/
theorem handsOver_fromPeer {m : Machine} (hmode : l.machine.mode = .accessPoint)
    (hfree : l.shared.sessions.roster.isHeld = false)
    (hpeer : l.shared.sessions.roster.value.stateOf m.address = .associated) (packet : Packet)
    (number : UInt16) (seized : Nat → Bool) (rssi : UInt8) (now : Nat) :
    HandsOver (packet.sentBy m.address) l
      (l.receiveAmid env seized (m.frame l.machine.address .toDs packet number) rssi now) := by
  rw [receiveAmid_frame (by rw [hmode]; decide)]
  have hmode' : (l.atTime now).machine.mode = .accessPoint := hmode
  have hstate : (l.atTime now).shared.sessions.stateOf m.address = .ok .associated := by
    show (if l.shared.sessions.roster.isHeld then _ else _) = _
    rw [hfree, ← hpeer]
    rfl
  obtain ⟨htoDs, hfromDs, hnetwork, hdestination, hsource⟩ :=
    Frame.spec_dataHeader .toDs l.machine.address packet.destination m.address number m.encrypting
  generalize dataHeader .toDs l.machine.address packet.destination m.address number
    m.encrypting = header at htoDs hfromDs hnetwork hdestination hsource ⊢
  have hours : (!header.control.has .toDs || header.control.has .fromDs ||
      header.network ≠ (l.atTime now).machine.address) = false := by
    rw [htoDs, hfromDs, hnetwork]
    simp [atTime]
  unfold receiveData receiveFromPeer
  rw [hmode', hours, hsource, hstate, hdestination,
    Frame.stripLlcSnap?_append packet.type packet.payload]
  exact (handsOver_deliver (packet.sentBy m.address) (l.atTime now)).of_heard

/-- The station hands over what the access point sends it, unless it is a message for the key
exchange. -/
theorem handsOver_fromNetwork {m : Machine} (hmode : l.machine.mode = .connected)
    {target : ConnectTarget} (htarget : l.machine.target = some target)
    (hbssid : target.bssid = m.address) {packet : Packet} (htype : packet.type ≠ eapolType)
    (hours : packet.destination = l.machine.address ∨ packet.destination.isGroup = true)
    (number : UInt16) (seized : Nat → Bool) (rssi : UInt8) (now : Nat) :
    HandsOver (packet.sentBy m.address) l
      (l.receiveAmid env seized (m.frame m.address .fromDs packet number) rssi now) := by
  rw [receiveAmid_frame (by rw [hmode]; decide)]
  have hmode' : (l.atTime now).machine.mode = .connected := hmode
  have htarget' : (l.atTime now).machine.target = some target := htarget
  obtain ⟨htoDs, hfromDs, hnetwork, hdestination, hsource⟩ :=
    Frame.spec_dataHeader .fromDs m.address packet.destination m.address number m.encrypting
  generalize dataHeader .fromDs m.address packet.destination m.address number
    m.encrypting = header at htoDs hfromDs hnetwork hdestination hsource ⊢
  have hfrom : (l.atTime now).isFromNetwork target header = true := by
    have haddress : (l.atTime now).machine.address = l.machine.address := rfl
    unfold isFromNetwork
    rw [htoDs, hfromDs, hnetwork, hdestination, hbssid, haddress]
    simpa using hours
  unfold receiveData receiveFromNetwork
  rw [hmode', htarget']
  simp only
  rw [hfrom, hdestination, hsource, Frame.stripLlcSnap?_append packet.type packet.payload]
  simp only [Bool.not_true, Bool.false_eq_true, if_false]
  rw [if_neg htype, if_pos (show (l.atTime now).noteHeard.machine.mode = _ from hmode)]
  exact (handsOver_deliver (packet.sentBy m.address) (l.atTime now).noteHeard).of_heard.of_heard

/-- Whenever the link hears the frame, it hands over the packet.  The octets of the packet then come
last in the ring, if there is room for them. -/
def Yields (env : Surroundings σ) (l : Link σ) (frame : List UInt8) (packet : Packet) : Prop :=
  ∀ seized rssi now, HandsOver packet l (l.receiveAmid env seized frame rssi now) ∧
    ∀ payloads, l.shared.rx.Holds payloads →
      (∃ g, l.shared.rx.reserve packet.octets.length = .ok g) →
      (l.receiveAmid env seized frame rssi now).shared.rx.Holds (payloads ++ [packet.octets])

theorem yields_of_handsOver {frame : List UInt8}
    (h : ∀ seized rssi now, HandsOver packet l (l.receiveAmid env seized frame rssi now)) :
    l.Yields env frame packet :=
  fun seized rssi now =>
    ⟨h seized rssi now, fun _ hrx hroom => (h seized rssi now).holds hrx hroom⟩

/-- The action in which a frame is heard, at any time and however strongly. -/
def Action.IsHearing (frame : List UInt8) (action : Action) : Prop :=
  ∃ rssi now seized, action = .receive frame rssi now seized

/-- The records that a host finds in its ring once the packets of another station arrived. -/
def arriving (source : MacAddress) (packets : List Packet) : List (List UInt8) :=
  packets.map fun packet => (packet.sentBy source).octets

/-- All packets come into the ring in their order, if their frames are heard in this order. -/
theorem holds_run_of_yields {P : Link σ → Prop}
    (hP : ∀ {l l' packet}, P l → HandsOver packet l l' → P l') {source : MacAddress}
    {packets : List Packet} {frames : List (List UInt8)}
    (hframes : List.Forall₂
      (fun packet frame => ∀ l, P l → l.Yields env frame (packet.sentBy source)) packets frames)
    {actions : List Action} (hactions : List.Forall₂ Action.IsHearing frames actions) (h : P l)
    {payloads : List (List UInt8)} (hrx : l.shared.rx.Holds payloads)
    (hroom : l.shared.rx.HasRoomFor (arriving source packets) l.machine.producer) :
    (run env actions l).shared.rx.Holds (payloads ++ arriving source packets) := by
  induction hframes generalizing l payloads actions with
  | nil =>
    cases hactions
    rw [arriving, List.map_nil, List.append_nil]
    exact hrx
  | @cons packet frame packets frames hframe _ ih =>
    obtain ⟨action, actions, ⟨rssi, now, seized, rfl⟩, hrest, rfl⟩ :=
      List.forall₂_cons_left_iff.mp hactions
    obtain ⟨hover, hholds⟩ := hframe l h seized rssi now
    -- The next packet finds the ring and its producer as this one left them.
    have hroom' := hroom.2
    rw [← hover.rx_eq, ← hover.producer_eq] at hroom'
    rw [arriving, List.map_cons, List.append_cons]
    exact ih hrest (hP h hover) (hholds payloads hrx hroom.1) hroom'

/-! ### A station and its access point -/

/-- The station takes part in the session of the access point, and nobody uses the roster. -/
structure Linked (a : Link σ) (b : Link τ) : Prop where
  connected : a.machine.mode = .connected
  target : ∃ target, a.machine.target = some target ∧ target.bssid = b.machine.address
  hosting : b.machine.mode = .accessPoint
  free : b.shared.sessions.roster.isHeld = false
  associated : b.shared.sessions.roster.value.stateOf a.machine.address = .associated

namespace Linked

variable {a a' : Link σ} {b b' : Link τ} {envA : Surroundings σ} {envB : Surroundings τ}
  {records : List (List UInt8)}

/-- The station sends its packets to the access point. -/
theorem outlet_station (h : Linked a b) :
    a.machine.outlet? = some (b.machine.address, .toDs) := by
  obtain ⟨target, htarget, hbssid⟩ := h.target
  unfold Machine.outlet?
  rw [h.connected, htarget, ← hbssid]
  rfl

/-- The access point sends its packets to the stations. -/
theorem outlet_accessPoint (h : Linked a b) :
    b.machine.outlet? = some (b.machine.address, .fromDs) := by
  unfold Machine.outlet?
  rw [h.hosting]

/-- A packet that the station has handed over does not end the link. -/
theorem of_handsOver_station (h : Linked a b) (hover : HandsOver packet a a') : Linked a' b where
  connected := by rw [hover.machine_eq]; exact h.connected
  target := by rw [hover.machine_eq]; exact h.target
  hosting := h.hosting
  free := h.free
  associated := by rw [hover.machine_eq]; exact h.associated

/-- A packet that the access point has handed over does not end the link. -/
theorem of_handsOver_accessPoint (h : Linked a b) (hover : HandsOver packet b b') :
    Linked a b' where
  connected := h.connected
  target := by rw [hover.machine_eq]; exact h.target
  hosting := by rw [hover.machine_eq]; exact h.hosting
  free := by rw [hover.shared_eq]; exact h.free
  associated := by rw [hover.shared_eq]; exact h.associated

/-- What the host of the station puts into its ring is handed over by the access point. -/
theorem exists_frames_up (h : Linked a b) (hsend : envA.Accepts)
    (hrecords : a.shared.tx.Holds records) :
    ∃ frames, transmitted (a.drainBurst envA).log = transmitted a.log ++ frames ∧
      (a.drainBurst envA).shared.tx.Holds (records.drop a.machine.settings.txBurst) ∧
      List.Forall₂ (fun packet frame => ∀ b' : Link τ, Linked a b' →
          b'.Yields envB frame (packet.sentBy a.machine.address))
        (sendable (records.take a.machine.settings.txBurst)) frames := by
  obtain ⟨frames, hframes, hleft, hcarried⟩ :=
    exists_frames_of_drainBurst (picks_transmitted hsend) h.outlet_station hrecords
  refine ⟨frames, hframes, hleft, hcarried.imp ?_⟩
  rintro packet frame ⟨number, rfl⟩ b' h'
  -- Both access points are the one that the station is connected to.
  have hsame : b.machine.address = b'.machine.address := by
    have houtlet := h.outlet_station.symm.trans h'.outlet_station
    exact congrArg Prod.fst (Option.some.inj houtlet)
  rw [hsame]
  exact yields_of_handsOver (handsOver_fromPeer h'.hosting h'.free h'.associated packet number)

/-- What the host of the access point puts into its ring is handed over by the station it is for,
unless it is a message for the key exchange. -/
theorem exists_frames_down (h : Linked a b) (hsend : envB.Accepts)
    (hrecords : b.shared.tx.Holds records) :
    ∃ frames, transmitted (b.drainBurst envB).log = transmitted b.log ++ frames ∧
      (b.drainBurst envB).shared.tx.Holds (records.drop b.machine.settings.txBurst) ∧
      List.Forall₂ (fun packet frame => ∀ a' : Link σ, Linked a' b →
          packet.IsFor a'.machine.address →
          a'.Yields envA frame (packet.sentBy b.machine.address))
        (sendable (records.take b.machine.settings.txBurst)) frames := by
  obtain ⟨frames, hframes, hleft, hcarried⟩ :=
    exists_frames_of_drainBurst (picks_transmitted hsend) h.outlet_accessPoint hrecords
  refine ⟨frames, hframes, hleft, hcarried.imp ?_⟩
  rintro packet frame ⟨number, rfl⟩ a' h' ⟨hours, htype⟩
  obtain ⟨target, htarget, hbssid⟩ := h'.target
  exact yields_of_handsOver
    (handsOver_fromNetwork h'.connected htarget hbssid htype hours number)

/-- The packets of a burst get from the host of the station to the host of the access point in their
order, if their frames are heard in this order. -/
theorem run_up (h : Linked a b) (hsend : envA.Accepts) (hrecords : a.shared.tx.Holds records)
    {frames : List (List UInt8)}
    (hframes : transmitted (a.drainBurst envA).log = transmitted a.log ++ frames)
    {actions : List Action} (hactions : List.Forall₂ Action.IsHearing frames actions)
    {payloads : List (List UInt8)} (hrx : b.shared.rx.Holds payloads)
    (hroom : b.shared.rx.HasRoomFor
      (arriving a.machine.address (sendable (records.take a.machine.settings.txBurst)))
      b.machine.producer) :
    (run envB actions b).shared.rx.Holds (payloads ++
      arriving a.machine.address (sendable (records.take a.machine.settings.txBurst))) := by
  obtain ⟨frames', hframes', -, hyields⟩ := h.exists_frames_up hsend hrecords
  obtain rfl := List.append_cancel_left (hframes.symm.trans hframes')
  exact holds_run_of_yields of_handsOver_accessPoint hyields hactions h hrx hroom

/-- The packets of a burst get from the host of the access point to the host of the station in their
order, if all of them are for this station and their frames are heard in this order. -/
theorem run_down (h : Linked a b) (hsend : envB.Accepts) (hrecords : b.shared.tx.Holds records)
    (hours : ∀ packet ∈ sendable (records.take b.machine.settings.txBurst),
      packet.IsFor a.machine.address)
    {frames : List (List UInt8)}
    (hframes : transmitted (b.drainBurst envB).log = transmitted b.log ++ frames)
    {actions : List Action} (hactions : List.Forall₂ Action.IsHearing frames actions)
    {payloads : List (List UInt8)} (hrx : a.shared.rx.Holds payloads)
    (hroom : a.shared.rx.HasRoomFor
      (arriving b.machine.address (sendable (records.take b.machine.settings.txBurst)))
      a.machine.producer) :
    (run envA actions a).shared.rx.Holds (payloads ++
      arriving b.machine.address (sendable (records.take b.machine.settings.txBurst))) := by
  obtain ⟨frames', hframes', -, hyields⟩ := h.exists_frames_down hsend hrecords
  obtain rfl := List.append_cancel_left (hframes.symm.trans hframes')
  have hyields' := (List.forall₂_and_left _ _).mpr ⟨hours, hyields⟩
  refine holds_run_of_yields (P := fun a' : Link σ => Linked a' b ∧
    a'.machine.address = a.machine.address) ?_ (hyields'.imp ?_) hactions ⟨h, rfl⟩ hrx hroom
  · rintro a₁ a₂ packet ⟨h₁, haddress⟩ hover
    exact ⟨h₁.of_handsOver_station hover, by rw [hover.machine_eq]; exact haddress⟩
  · rintro packet frame ⟨hours, hyield⟩ a' ⟨h', haddress⟩
    exact hyield a' h' (haddress ▸ hours)

end Linked

/-! ### A station that takes part -/

/-- The host lets peers take part in its session. -/
def lettingIn : HostMove where
  act s := { s with sessions := s.sessions.setAccepting true }
  status_act _ := rfl

/-- The station gets into a network that does not encrypt. -/
def joiningActions : List Action := requestActions ++ [undisturbed] ++ admittingActions

/-- The access point opens a session, and the station takes part in it. -/
def hostingActions : List Action :=
  [.post .enable, undisturbed, .host lettingIn, .post (.host ⟨.empty, 1, 0, 0, 1, 0, 0⟩),
    undisturbed,
    heard (Frame.authentication networkAddress stationAddress networkAddress 0
      { algorithm := .openSystem, sequence := 1, status := .success, challenge := none } false),
    heard (Frame.associationRequest networkAddress stationAddress 0 .empty false .native)]

/-- A packet that the host has put into the ring comes last in it. -/
theorem holds_pushing {s : SharedState} (hdetached : s.tx.producerAttached = false)
    {payloads : List (List UInt8)} (h : s.tx.Holds payloads)
    (hroom : ∃ g, s.tx.reserve packet.octets.length = .ok g) :
    ((pushing packet).act s).tx.Holds (payloads ++ [packet.octets]) := by
  have hact : ((pushing packet).act s).tx =
      (({ s.tx with producerAttached := true } : Ring ringSize).push packet.octets ⟨0⟩).1 := by
    simp [pushing, Ring.attachProducer, hdetached]
  have hattached : ({ s.tx with producerAttached := true } : Ring ringSize).Holds payloads := h
  obtain ⟨tx, producer, hpush, hholds⟩ := hattached.push ⟨by decide, by decide⟩ hroom ⟨0⟩
  rw [hact, hpush]
  exact hholds

/-- Nothing but the ring changes when the host puts a packet into it. -/
theorem keeps_pushing (packet : Packet) (s : SharedState) :
    ((pushing packet).act s).sessions = s.sessions ∧ ((pushing packet).act s).rx = s.rx := by
  unfold pushing
  simp only
  split <;> exact ⟨rfl, rfl⟩

/-- The hosts of both sides put a packet each into their rings, and then find the link as it was. -/
theorem linked_pushing {a b : Link Unit} (h : Linked a b) (env : Surroundings Unit)
    (packet packet' : Packet) :
    Linked (a.step env (.host (pushing packet))) (b.step env (.host (pushing packet'))) where
  connected := h.connected
  target := h.target
  hosting := h.hosting
  free := by
    show ((pushing packet').act b.shared).sessions.roster.isHeld = false
    rw [(keeps_pushing packet' b.shared).1]
    exact h.free
  associated := by
    show ((pushing packet').act b.shared).sessions.roster.value.stateOf a.machine.address = _
    rw [(keeps_pushing packet' b.shared).1]
    exact h.associated

/-- A link whose host has not sent or received anything yet. -/
structure Unused (l : Link σ) : Prop where
  producerAttached : l.shared.tx.producerAttached = false
  tx : l.shared.tx.Unused
  rx : l.shared.rx.Unused

/-- The first packet of the host is the only one in its ring, and the other ring can take one. -/
theorem Unused.step (h : l.Unused) (env : Surroundings σ) {packet packet' : Packet}
    (hlength : packet.octets.length ≤ Ring.maxPayload ringSize)
    (hlength' : packet'.octets.length ≤ Ring.maxPayload ringSize) :
    (l.step env (.host (pushing packet))).shared.tx.Holds [packet.octets] ∧
      (l.step env (.host (pushing packet))).shared.rx.Holds [] ∧
      ∃ g, (l.step env (.host (pushing packet))).shared.rx.reserve packet'.octets.length =
        .ok g := by
  have hsize : Ring.Admits ringSize := ⟨by decide, by decide⟩
  have hrx : (l.step env (.host (pushing packet))).shared.rx = l.shared.rx :=
    (keeps_pushing packet l.shared).2
  rw [hrx]
  exact ⟨holds_pushing h.producerAttached (h.tx.holds hsize) (h.tx.room hsize hlength),
    h.rx.holds hsize, h.rx.room hsize hlength'⟩

/-- A station gets into a network. -/
theorem exists_joined : ∃ s l, attach .standard stationAddress () .fresh = (s, .ok l) ∧
    let a := run (.answering .refused) joiningActions l
    a.machine.mode = .connected ∧ a.machine.target = some (network .plain) ∧
      a.machine.address = stationAddress ∧ a.Unused := by
  have hattached : attach .standard stationAddress () .fresh = (_, .ok _) := rfl
  exact ⟨_, _, hattached, by decide +kernel, by decide +kernel, by decide +kernel,
    by decide +kernel, ⟨by decide +kernel, by decide +kernel⟩,
    ⟨by decide +kernel, by decide +kernel⟩⟩

/-- An access point lets the station in. -/
theorem exists_hosting : ∃ s l, attach .standard networkAddress () .fresh = (s, .ok l) ∧
    let b := run (.answering .refused) hostingActions l
    b.machine.mode = .accessPoint ∧ b.machine.address = networkAddress ∧
      b.shared.sessions.roster.isHeld = false ∧
      b.shared.sessions.roster.value.stateOf stationAddress = .associated ∧ b.Unused := by
  have hattached : attach .standard networkAddress () .fresh = (_, .ok _) := rfl
  exact ⟨_, _, hattached, by decide +kernel, by decide +kernel, by decide +kernel,
    by decide +kernel, by decide +kernel, ⟨by decide +kernel, by decide +kernel⟩,
    ⟨by decide +kernel, by decide +kernel⟩⟩

/-- A packet of the station for somebody behind the access point. -/
def outbound : Packet := ⟨⟨0x02, 0, 0, 0, 0, 0x07⟩, networkAddress, 0x0800, [0x45]⟩

/-- A packet of the access point for all stations. -/
def inbound : Packet := ⟨.broadcast, stationAddress, 0x0806, [0x46, 0x47]⟩

/-! ### Relaying -/

/-- Every record that a frame has room for becomes one frame, as long as the burst lasts, and what
either side sends is handed over by the other one, with the sender as its source.  The station does
not hand over messages for the key exchange and what is for other stations. -/
structure Relays (envA : Surroundings σ) (envB : Surroundings τ) (a : Link σ) (b : Link τ)
    (up down : List (List UInt8)) : Prop where
  handed_up : ∃ frames, transmitted (a.drainBurst envA).log = transmitted a.log ++ frames ∧
    (a.drainBurst envA).shared.tx.Holds (up.drop a.machine.settings.txBurst) ∧
    List.Forall₂ (fun packet frame => ∀ b' : Link τ, Linked a b' →
        b'.Yields envB frame (packet.sentBy a.machine.address))
      (sendable (up.take a.machine.settings.txBurst)) frames
  handed_down : ∃ frames, transmitted (b.drainBurst envB).log = transmitted b.log ++ frames ∧
    (b.drainBurst envB).shared.tx.Holds (down.drop b.machine.settings.txBurst) ∧
    List.Forall₂ (fun packet frame => ∀ a' : Link σ, Linked a' b →
        packet.IsFor a'.machine.address →
        a'.Yields envA frame (packet.sentBy b.machine.address))
      (sendable (down.take b.machine.settings.txBurst)) frames
  /-- A whole burst of the station arrives in order. -/
  arrives_up : ∀ {frames actions payloads},
    transmitted (a.drainBurst envA).log = transmitted a.log ++ frames →
    List.Forall₂ Action.IsHearing frames actions → b.shared.rx.Holds payloads →
    let packets := arriving a.machine.address (sendable (up.take a.machine.settings.txBurst))
    b.shared.rx.HasRoomFor packets b.machine.producer →
    (run envB actions b).shared.rx.Holds (payloads ++ packets)
  /-- A whole burst of the access point arrives in order, if all of it is for the station. -/
  arrives_down : ∀ {frames actions payloads},
    transmitted (b.drainBurst envB).log = transmitted b.log ++ frames →
    (∀ packet ∈ sendable (down.take b.machine.settings.txBurst),
      packet.IsFor a.machine.address) →
    List.Forall₂ Action.IsHearing frames actions → a.shared.rx.Holds payloads →
    let packets := arriving b.machine.address (sendable (down.take b.machine.settings.txBurst))
    a.shared.rx.HasRoomFor packets a.machine.producer →
    (run envA actions a).shared.rx.Holds (payloads ++ packets)

/-- A station and its access point relay the packets of their hosts, whatever these put into their
rings. -/
theorem linked_relays {envA : Surroundings σ} {envB : Surroundings τ} (hsendA : envA.Accepts)
    (hsendB : envB.Accepts) {a : Link σ} {b : Link τ} (h : Linked a b)
    {up down : List (List UInt8)} (hup : a.shared.tx.Holds up) (hdown : b.shared.tx.Holds down) :
    Relays envA envB a b up down where
  handed_up := h.exists_frames_up hsendA hup
  handed_down := h.exists_frames_down hsendB hdown
  arrives_up hframes hactions hrx hroom := h.run_up hsendA hup hframes hactions hrx hroom
  arrives_down hframes hours hactions hrx hroom :=
    h.run_down hsendB hdown hours hframes hactions hrx hroom

theorem linked_relays_joined :
    ∃ s l s' l', attach .standard stationAddress () .fresh = (s, .ok l) ∧
      attach .standard networkAddress () .fresh = (s', .ok l') ∧
      let a := (run (.answering .refused) joiningActions l).step (.answering .refused)
        (.host (pushing outbound))
      let b := (run (.answering .refused) hostingActions l').step (.answering .refused)
        (.host (pushing inbound))
      (Surroundings.answering .refused).Accepts ∧ Linked a b ∧
        (a.shared.tx.Holds [outbound.octets] ∧ a.shared.rx.Holds [] ∧
          ∃ g, a.shared.rx.reserve inbound.octets.length = .ok g) ∧
        (b.shared.tx.Holds [inbound.octets] ∧ b.shared.rx.Holds [] ∧
          ∃ g, b.shared.rx.reserve outbound.octets.length = .ok g) ∧
        sendable [outbound.octets] = [outbound] ∧ sendable [inbound.octets] = [inbound] ∧
        inbound.IsFor a.machine.address ∧
        Relays (.answering .refused) (.answering .refused) a b [outbound.octets]
          [inbound.octets] := by
  have hsend : (Surroundings.answering .refused).Accepts := fun _ _ => rfl
  obtain ⟨s, l, hattached, hmode, htarget, haddress, hunused⟩ := exists_joined
  obtain ⟨s', l', hattached', hmode', haddress', hfree, hassociated, hunused'⟩ := exists_hosting
  refine ⟨s, l, s', l', hattached, hattached', ?_⟩
  -- From here on only these facts about the runs matter.
  generalize run (.answering .refused) joiningActions l = a at hmode htarget haddress hunused ⊢
  generalize run (.answering .refused) hostingActions l' = b
    at hmode' haddress' hfree hassociated hunused' ⊢
  have hlinked : Linked a b :=
    ⟨hmode, ⟨_, htarget, haddress'.symm⟩, hmode', hfree, haddress ▸ hassociated⟩
  have hlinked' := linked_pushing hlinked (.answering .refused) outbound inbound
  have hup : outbound.octets.length ≤ Ring.maxPayload ringSize := by decide
  have hdown : inbound.octets.length ≤ Ring.maxPayload ringSize := by decide
  have hrings := hunused.step (.answering .refused) hup hdown
  have hrings' := hunused'.step (.answering .refused) hdown hup
  exact ⟨hsend, hlinked', hrings, hrings', by decide, by decide, ⟨.inr rfl, by decide⟩,
    linked_relays hsend hsend hlinked' hrings.1 hrings'.1⟩

end Link

end WlanControl
