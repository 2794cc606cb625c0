import WlanControl.Proofs.FrameReading
import WlanControl.Proofs.LinkFreight
import WlanControl.Proofs.LinkRelay

namespace WlanControl.Link

open WlanControl.Frame (Header Received eapolType llcSnap stripLlcSnap?)

/-!
# The link layer — what it hands to its host

What comes in over the air reaches the host only through one ring.  The link layer puts one record
into it for each data frame that is for the host, and nothing for any other frame.

* `packet?` — the packet in a data frame;
* `IsFromNetwork`, `IsFromPeer`, `Owes` — which packets are for the host;
* `hands_receiveData` — what a data frame does to the rings;
* `freight_receiveAmid` — what any frame does to them;
* `HostMove.OnlyTakes` — the host takes records out of the ring;
* `Delivers` — the packets that a run owes its host;
* `FillsInbox` — what one more action does to the ring, with `fillsInbox`.

Main statement: `fillsInbox_run`, in every run the ring to the host is filled with the packets that
are owed to it, and with nothing else.
-/

variable {σ : Type} {l : Link σ} {header : Header} {body octets : List UInt8} {packet : Packet}
  (env : Surroundings σ)

/-! ### What is owed to the host -/

/-- The packet in a data frame. -/
def packet? (header : Header) (body : List UInt8) : Option Packet :=
  (stripLlcSnap? body).map fun (type, payload) =>
    { destination := header.destination, source := header.source, type, payload }

/-- The packet was sent over the link that is up, to this station or to a group. -/
structure IsFromNetwork (header : Header) (packet : Packet) (l : Link σ) : Prop where
  connected : l.machine.mode = .connected
  fromDs : header.control.has .fromDs = true
  toDs : header.control.has .toDs = false
  network : l.machine.target.map ConnectTarget.bssid = some header.network
  forUs : packet.destination = l.machine.address ∨ packet.destination.isGroup = true
  type_ne : packet.type ≠ eapolType

/-- The packet was sent to the session by a peer that is associated at this moment. -/
structure IsFromPeer (header : Header) (packet : Packet) (l : Link σ) : Prop where
  hosting : l.machine.mode = .accessPoint
  toDs : header.control.has .toDs = true
  fromDs : header.control.has .fromDs = false
  network : header.network = l.machine.address
  associated : l.shared.sessions.stateOf packet.source = .ok .associated

/-- The packet in a data frame is for the host. -/
def Admits (header : Header) (body : List UInt8) (packet : Packet) (l : Link σ) : Prop :=
  packet? header body = some packet ∧ (IsFromNetwork header packet l ∨ IsFromPeer header packet l)

/-- The octets are a data frame with a packet for the host. -/
def Owes (octets : List UInt8) (packet : Packet) (l : Link σ) : Prop :=
  ∃ header body, Received.ofOctets octets = .ok (.data header body) ∧ Admits header body packet l

theorem packet?_eq_some (h : packet? header body = some packet) :
    packet.destination = header.destination ∧ packet.source = header.source ∧
      stripLlcSnap? body = some (packet.type, packet.payload) := by
  obtain ⟨⟨type, payload⟩, hstrip, rfl⟩ := Option.map_eq_some_iff.mp h
  exact ⟨rfl, rfl, hstrip⟩

/-- What is owed to the host stands in the frame, octet by octet. -/
theorem Owes.verbatim (h : Owes octets packet l) : ∃ header : Header,
    octets = header.encoding ++ (llcSnap ++ bigEndian16 packet.type ++ packet.payload) ∧
      packet.octets = header.destination.octets ++ header.source.octets ++
        bigEndian16 packet.type ++ packet.payload := by
  obtain ⟨header, body, hread, hpacket, -⟩ := h
  obtain ⟨hdestination, hsource, hstrip⟩ := packet?_eq_some hpacket
  refine ⟨header, ?_, ?_⟩
  · rw [← Frame.stripLlcSnap?_eq_some hstrip]
    exact Header.encoding_of_ofOctets? (Received.ofOctets?_of_data hread)
  · rw [← hdestination, ← hsource]
    rfl

/-- A frame carries one packet at most. -/
theorem Owes.unique {packet' : Packet} (h : Owes octets packet l) (h' : Owes octets packet' l) :
    packet' = packet := by
  obtain ⟨header, body, hread, hpacket, -⟩ := h
  obtain ⟨header', body', hread', hpacket', -⟩ := h'
  cases hread.symm.trans hread'
  exact Option.some.inj (hpacket'.symm.trans hpacket)

/-! ### Frames -/

theorem freight_deliver (packet : Packet) (l : Link σ) :
    (l.deliver packet).freight = { l.freight with inbox := l.inbox.push packet.octets } := by
  have hover := handsOver_deliver packet l
  have hrx := hover.rx_eq
  have hproducer := hover.producer_eq
  have htx : (l.deliver packet).shared.tx = l.shared.tx := by rw [hover.shared_eq]
  unfold freight inbox outbox Inbox.push
  rw [hrx, hproducer, htx, hover.log_eq]

/-- From one link to the other the rings changed as they are to when a data frame comes in. -/
def Hands (header : Header) (body : List UInt8) (l l' : Link σ) : Prop :=
  (∃ packet, Admits header body packet l ∧
    l'.freight = { l.freight with inbox := l.inbox.push packet.octets }) ∨
  (∀ packet, ¬ Admits header body packet l) ∧ l'.freight = l.freight

theorem hands_receiveFromNetwork (hmode : l.machine.mode.hasLink = true) {target : ConnectTarget}
    (htarget : l.machine.target = some target) (header : Header) (body : List UInt8) :
    Hands header body l (l.receiveFromNetwork env target header body) := by
  have hpeerless (packet : Packet) : ¬ IsFromPeer header packet l := by
    intro h
    rw [h.hosting] at hmode
    cases hmode
  unfold receiveFromNetwork
  split
  · rename_i hforeign
    refine .inr ⟨?_, rfl⟩
    rintro packet ⟨hpacket, hfrom | hfrom⟩
    · obtain ⟨hdestination, -, -⟩ := packet?_eq_some hpacket
      have hnetwork := hfrom.network
      rw [htarget] at hnetwork
      have hours := hfrom.forUs
      rw [hdestination] at hours
      simp_all [isFromNetwork, hfrom.fromDs, hfrom.toDs]
    · exact hpeerless packet hfrom
  · rename_i hours
    simp only
    cases hstrip : stripLlcSnap? body with
    | none =>
      refine .inr ⟨?_, rfl⟩
      rintro packet ⟨hpacket, -⟩
      rw [packet?, hstrip] at hpacket
      cases hpacket
    | some content =>
      obtain ⟨type, payload⟩ := content
      have hpacket : packet? header body = some
          { destination := header.destination, source := header.source, type, payload } := by
        rw [packet?, hstrip]
        rfl
      have honly {packet : Packet} (h : packet? header body = some packet) : packet =
          { destination := header.destination, source := header.source, type, payload } :=
        Option.some.inj (h.symm.trans hpacket)
      simp only
      split
      · -- Messages for the key exchange never reach the host.
        rename_i htype
        have hkept := (keptByHandlers_freight env).keptByAttempts.receiveEapol payload l.noteHeard
        refine .inr ⟨?_, hkept⟩
        rintro packet ⟨h, hfrom | hfrom⟩
        · exact hfrom.type_ne (by rw [honly h]; exact htype)
        · exact hpeerless packet hfrom
      · rename_i htype
        split
        · rename_i hconnected
          refine .inl ⟨_, ⟨hpacket, .inl ?_⟩, freight_deliver _ l.noteHeard⟩
          simp only [isFromNetwork, Bool.and_eq_true, Bool.not_eq_true', Bool.or_eq_true,
            decide_eq_true_eq, Bool.not_eq_false] at hours
          exact {
            connected := hconnected
            fromDs := hours.1.1.1
            toDs := hours.1.1.2
            network := by rw [htarget, hours.1.2]; rfl
            forUs := hours.2
            type_ne := htype }
        · rename_i hconnecting
          refine .inr ⟨?_, rfl⟩
          rintro packet ⟨-, hfrom | hfrom⟩
          · exact hconnecting hfrom.connected
          · exact hpeerless packet hfrom

theorem hands_receiveFromPeer (hmode : l.machine.mode = .accessPoint) (header : Header)
    (body : List UInt8) : Hands header body l (l.receiveFromPeer env header body) := by
  have hlinkless (packet : Packet) : ¬ IsFromNetwork header packet l := by
    intro h
    cases hmode.symm.trans h.connected
  have hnone (hstate : l.shared.sessions.stateOf header.source ≠ .ok .associated)
      (packet : Packet) : ¬ Admits header body packet l := by
    rintro ⟨hpacket, hfrom | hfrom⟩
    · exact hlinkless packet hfrom
    · obtain ⟨-, hsource, -⟩ := packet?_eq_some hpacket
      exact hstate (hsource ▸ hfrom.associated)
  unfold receiveFromPeer
  split
  · rename_i hforeign
    refine .inr ⟨?_, rfl⟩
    rintro packet ⟨-, hfrom | hfrom⟩
    · exact hlinkless packet hfrom
    · simp [hfrom.toDs, hfrom.fromDs, hfrom.network] at hforeign
  · rename_i hours
    simp only [Bool.or_eq_true, Bool.not_eq_true', decide_eq_true_eq, not_or, Bool.not_eq_true,
      Bool.not_eq_false, not_not] at hours
    split
    · rename_i hstate
      cases hstrip : stripLlcSnap? body with
      | none =>
        refine .inr ⟨?_, rfl⟩
        rintro packet ⟨hpacket, -⟩
        rw [packet?, hstrip] at hpacket
        cases hpacket
      | some content =>
        obtain ⟨type, payload⟩ := content
        refine .inl ⟨_, ⟨by rw [packet?, hstrip]; rfl, .inr ?_⟩, freight_deliver _ l⟩
        exact {
          hosting := hmode
          toDs := hours.1.1
          fromDs := hours.1.2
          network := hours.2
          associated := hstate }
    · rename_i hstate
      exact .inr ⟨hnone (by rw [hstate]; simp), rfl⟩
    · rename_i hstate _
      exact .inr ⟨hnone fun h => hstate h, (transmits_sendAway env _ _ l).freight_eq⟩

/-- The host gets the packet in a data frame, if it is for the host. -/
theorem hands_receiveData (header : Header) (body : List UInt8) (l : Link σ) :
    Hands header body l (l.receiveData env header body) := by
  have hidle (hconnected : l.machine.mode ≠ .connected) (hhosting : l.machine.mode ≠ .accessPoint) :
      Hands header body l l := by
    refine .inr ⟨?_, rfl⟩
    rintro packet ⟨-, hfrom | hfrom⟩
    · exact hconnected hfrom.connected
    · exact hhosting hfrom.hosting
  have hlost (hmode : l.machine.mode.hasLink = true) (htarget : l.machine.target = none) :
      Hands header body l l := by
    refine .inr ⟨?_, rfl⟩
    rintro packet ⟨-, hfrom | hfrom⟩
    · have hnetwork := hfrom.network
      rw [htarget] at hnetwork
      cases hnetwork
    · rw [hfrom.hosting] at hmode
      cases hmode
  unfold receiveData
  split
  · rename_i hmode
    split
    · rename_i htarget
      exact hlost (by rw [hmode]; rfl) htarget
    · rename_i target htarget
      exact hands_receiveFromNetwork env (by rw [hmode]; rfl) htarget header body
  · rename_i hmode
    split
    · rename_i htarget
      exact hlost (by rw [hmode]; rfl) htarget
    · rename_i target htarget
      exact hands_receiveFromNetwork env (by rw [hmode]; rfl) htarget header body
  · rename_i hmode
    exact hands_receiveFromPeer env hmode header body
  · rename_i hmode
    exact hidle (by rw [hmode]; decide) (by rw [hmode]; decide)
  · rename_i hmode
    exact hidle (by rw [hmode]; decide) (by rw [hmode]; decide)
  · rename_i hmode
    exact hidle (by rw [hmode]; decide) (by rw [hmode]; decide)
  · rename_i hmode
    exact hidle (by rw [hmode]; decide) (by rw [hmode]; decide)

theorem admits_atTime (now : Nat) :
    Admits header body packet (l.atTime now) ↔ Admits header body packet l := by
  constructor
  · rintro ⟨hpacket, ⟨hmode, hfrom, hto, hnetwork, hours, htype⟩ |
      ⟨hmode, hto, hfrom, hnetwork, hpeer⟩⟩
    · exact ⟨hpacket, .inl ⟨hmode, hfrom, hto, hnetwork, hours, htype⟩⟩
    · exact ⟨hpacket, .inr ⟨hmode, hto, hfrom, hnetwork, hpeer⟩⟩
  · rintro ⟨hpacket, ⟨hmode, hfrom, hto, hnetwork, hours, htype⟩ |
      ⟨hmode, hto, hfrom, hnetwork, hpeer⟩⟩
    · exact ⟨hpacket, .inl ⟨hmode, hfrom, hto, hnetwork, hours, htype⟩⟩
    · exact ⟨hpacket, .inr ⟨hmode, hto, hfrom, hnetwork, hpeer⟩⟩

theorem Owes.isOpen (h : Owes octets packet l) :
    l.machine.mode = .connected ∨ l.machine.mode = .accessPoint := by
  obtain ⟨header, body, -, -, hfrom | hfrom⟩ := h
  · exact .inl hfrom.connected
  · exact .inr hfrom.hosting

/-- Frames that are no data frames leave the rings alone. -/
theorem freight_handle {frame : Received} (hframe : ∀ header body, frame ≠ .data header body)
    (seized : Nat → Bool) (rssi : UInt8) (l : Link σ) :
    (l.handle env seized frame rssi).freight = l.freight :=
  (keptByHandlers_freight env).handle (fun header body hdata => absurd hdata (hframe header body))
    seized rssi

/-- A frame puts what it owes to the host into the ring, and changes nothing else of the rings. -/
theorem freight_receiveAmid (seized : Nat → Bool) (octets : List UInt8) (rssi : UInt8) (now : Nat)
    (l : Link σ) :
    (∃ packet, Owes octets packet l ∧ (l.receiveAmid env seized octets rssi now).freight =
      { l.freight with inbox := l.inbox.push packet.octets }) ∨
    (∀ packet, ¬ Owes octets packet l) ∧
      (l.receiveAmid env seized octets rssi now).freight = l.freight := by
  by_cases howed : ∃ packet, Owes octets packet l
  · obtain ⟨packet, howed⟩ := howed
    have henabled : l.machine.mode ≠ .disabled := by
      intro h
      rcases howed.isOpen with hopen | hopen <;> cases h.symm.trans hopen
    obtain ⟨header, body, hread, hadmits⟩ := howed
    rw [receiveAmid_of_ok env henabled hread]
    rcases hands_receiveData env header body (l.atTime now) with ⟨packet', hadmits', hfreight⟩ |
      ⟨hnone, -⟩
    · exact .inl ⟨packet', ⟨header, body, hread, (admits_atTime now).mp hadmits'⟩, hfreight⟩
    · exact absurd ((admits_atTime now).mpr hadmits) (hnone packet)
  · refine .inr ⟨fun packet h => howed ⟨packet, h⟩, ?_⟩
    rcases receiveAmid_cases env seized octets rssi now l with hidle | ⟨-, frame, hread, hheard⟩
    · rw [hidle]
      rfl
    · rw [hheard]
      by_cases hframe : ∃ header body, frame = .data header body
      · obtain ⟨header, body, rfl⟩ := hframe
        rcases hands_receiveData env header body (l.atTime now) with ⟨packet, hadmits, -⟩ |
          ⟨-, hfreight⟩
        · exact absurd ⟨packet, header, body, hread, (admits_atTime now).mp hadmits⟩ howed
        · exact hfreight
      · refine freight_handle env ?_ seized rssi (l.atTime now)
        intro header body h
        exact hframe ⟨header, body, h⟩

/-! ### All runs -/

/-- The host does nothing to the ring but take records out of it. -/
def HostMove.OnlyTakes (move : HostMove) : Prop :=
  ∀ s payloads, s.rx.Holds payloads →
    ∃ gone rest, payloads = gone ++ rest ∧ (move.act s).rx.Holds rest

/-- Whatever the host does to the ring is taking records out of it. -/
def Action.OnlyTakes : Action → Prop
  | .host move => move.OnlyTakes
  | .tick _ moves => ∀ step, (moves step).OnlyTakes
  | .post _ | .receive _ _ _ _ => True

/-- The packets that are owed to the host in a run, each for a frame of its own, in their order.
Some of them may be left out. -/
inductive Delivers : List Action → Link σ → List Packet → Prop
  | nil (l : Link σ) : Delivers [] l []
  | handed {octets : List UInt8} {rssi : UInt8} {now : Nat} {seized : Nat → Bool}
    {rest : List Action} {l : Link σ} {packet : Packet} {packets : List Packet}
    (howed : Owes octets packet l)
    (hrest : Delivers rest (l.step env (.receive octets rssi now seized)) packets) :
    Delivers (.receive octets rssi now seized :: rest) l (packet :: packets)
  | other {action : Action} {rest : List Action} {l : Link σ} {packets : List Packet}
    (hrest : Delivers rest (l.step env action) packets) : Delivers (action :: rest) l packets

/-- How one more action fills the ring to the host. -/
structure FillsInbox (l : Link σ) : Prop where
  /-- What is owed for a frame is put into the ring once. -/
  owed : ∀ octets packet, Owes octets packet l → ∀ seized rssi now,
    (l.receiveAmid env seized octets rssi now).inbox = l.inbox.push packet.octets
  /-- It stands in the frame like that. -/
  verbatim : ∀ octets packet, Owes octets packet l → ∃ header : Header,
    octets = header.encoding ++ (llcSnap ++ bigEndian16 packet.type ++ packet.payload) ∧
      packet.octets = header.destination.octets ++ header.source.octets ++
        bigEndian16 packet.type ++ packet.payload
  /-- Nothing is put into the ring for any other frame. -/
  unowed : ∀ octets, (∀ packet, ¬ Owes octets packet l) → ∀ seized rssi now,
    (l.receiveAmid env seized octets rssi now).inbox = l.inbox
  /-- Without a link that is up and without a session nothing is owed to the host. -/
  closed : l.machine.mode ≠ .connected → l.machine.mode ≠ .accessPoint →
    ∀ seized octets rssi now, (l.receiveAmid env seized octets rssi now).inbox = l.inbox
  posted : ∀ command, (l.step env (.post command)).inbox = l.inbox
  /-- In the course of a tick only the host changes the ring. -/
  ticked : ∀ now (moves : Nat → HostMove),
    (l.step env (.tick now moves)).machine.producer = l.machine.producer ∧
      ∀ P : Ring ringSize → Prop, (∀ step s, P s.rx → P ((moves step).act s).rx) →
        P l.shared.rx → P (l.step env (.tick now moves)).shared.rx

/-- What the host keeps of the ring, a tick keeps. -/
theorem inbox_tickAmid {moves : Nat → HostMove} {P : Inbox → Prop}
    (hhost : ∀ step s producer, P ⟨s.rx, producer⟩ → P ⟨((moves step).act s).rx, producer⟩)
    (now : Nat) (h : P l.inbox) : P (l.step env (.tick now moves)).inbox := by
  have hpause {m : Link σ} (step : Nat) (h : P m.freight.inbox) :
      P (m.pause (fun step => (moves step).act) step).freight.inbox :=
    hhost step m.shared m.machine.producer h
  have hserved := serving_keeps env (P := fun f => P f.inbox) hpause (l := l.atTime now) h
  show P (tickAmid env _ now l).inbox
  rw [tickAmid_eq_work]
  refine work_keeps env (P := fun f => P f.inbox) hpause ?_ (fun _ => hserved) hserved
  intro l h
  refine drainBurst_keeps env (P := fun m => P m.inbox) (fun _ h => h) ?_ h
  intro m bssid direction record h
  unfold forward
  split
  · exact h
  · exact (congrArg P (congrArg Freight.inbox (transmits_send env _ _).freight_eq)).mpr h

theorem inbox_post (l : Link σ) (command : Command) :
    (l.step env (.post command)).inbox = l.inbox := by
  show Inbox.mk (l.shared.postCommand command).1.rx l.machine.producer = _
  unfold SharedState.postCommand
  split <;> rfl

theorem fillsInbox (l : Link σ) : FillsInbox env l where
  owed := by
    intro octets packet h seized rssi now
    rcases freight_receiveAmid env seized octets rssi now l with ⟨packet', h', hfreight⟩ |
      ⟨hnone, -⟩
    · rw [h.unique h'] at hfreight
      exact congrArg Freight.inbox hfreight
    · exact absurd h (hnone packet)
  verbatim _ _ h := h.verbatim
  unowed := by
    intro octets hnone seized rssi now
    rcases freight_receiveAmid env seized octets rssi now l with ⟨packet, h, -⟩ | ⟨-, hfreight⟩
    · exact absurd h (hnone packet)
    · exact congrArg Freight.inbox hfreight
  closed := by
    intro hconnected hhosting seized octets rssi now
    rcases freight_receiveAmid env seized octets rssi now l with ⟨packet, h, -⟩ | ⟨-, hfreight⟩
    · rcases h.isOpen with hopen | hopen
      · exact absurd hopen hconnected
      · exact absurd hopen hhosting
    · exact congrArg Freight.inbox hfreight
  posted := inbox_post env l
  ticked now moves := by
    constructor
    · exact inbox_tickAmid env (P := fun i => i.producer = l.machine.producer)
        (fun step s _ h => h) now rfl
    · intro P hhost h
      exact inbox_tickAmid env (P := fun i => P i.rx) (fun step s _ h => hhost step s h) now h

/-- One action puts at most one record into the ring, and the host takes out what it likes. -/
theorem holds_step {payloads : List (List UInt8)} (h : l.shared.rx.Holds payloads)
    {action : Action} (htakes : action.OnlyTakes) :
    (∃ gone rest, payloads = gone ++ rest ∧ (l.step env action).shared.rx.Holds rest) ∨
    ∃ octets rssi now seized packet, action = .receive octets rssi now seized ∧
      Owes octets packet l ∧ (l.step env action).shared.rx.Holds (payloads ++ [packet.octets]) := by
  have hsame (hinbox : (l.step env action).inbox = l.inbox) :
      (l.step env action).shared.rx.Holds payloads :=
    (congrArg (fun i : Inbox => i.rx.Holds payloads) hinbox).mpr h
  cases action with
  | post command => exact .inl ⟨[], payloads, rfl, hsame (inbox_post env l command)⟩
  | host move => exact .inl (htakes l.shared payloads h)
  | tick now moves =>
    left
    refine ((fillsInbox env l).ticked now moves).2
      (fun rx => ∃ gone rest, payloads = gone ++ rest ∧ rx.Holds rest) ?_ ⟨[], payloads, rfl, h⟩
    rintro step s ⟨gone, rest, rfl, hrest⟩
    obtain ⟨gone', rest', rfl, hrest'⟩ := htakes step s rest hrest
    exact ⟨gone ++ gone', rest', (List.append_assoc ..).symm, hrest'⟩
  | receive octets rssi now seized =>
    by_cases howed : ∃ packet, Owes octets packet l
    · obtain ⟨packet, howed⟩ := howed
      have hinbox := (fillsInbox env l).owed octets packet howed seized rssi now
      have hrx : (l.step env (.receive octets rssi now seized)).shared.rx =
          (l.shared.rx.push packet.octets l.machine.producer).1 := congrArg Inbox.rx hinbox
      rw [hrx]
      rcases h.push_cases ⟨by decide, by decide⟩ packet.octets l.machine.producer with
        hpushed | hdropped
      · exact .inr ⟨octets, rssi, now, seized, packet, rfl, howed, hpushed⟩
      · exact .inl ⟨[], payloads, rfl, hdropped⟩
    · have hinbox := (fillsInbox env l).unowed octets (fun packet hp => howed ⟨packet, hp⟩) seized
        rssi now
      exact .inl ⟨[], payloads, rfl, hsame hinbox⟩

/-- A ring from which the host only takes records holds the latest ones of those that it held and of
the packets that were owed to the host since. -/
theorem holds_run (actions : List Action) (htakes : ∀ a ∈ actions, a.OnlyTakes)
    {payloads : List (List UInt8)} (h : l.shared.rx.Holds payloads) :
    ∃ packets gone rest, Delivers env actions l packets ∧
      payloads ++ packets.map Packet.octets = gone ++ rest ∧
      (run env actions l).shared.rx.Holds rest := by
  induction actions generalizing l payloads with
  | nil => exact ⟨[], [], payloads, .nil l, List.append_nil _, h⟩
  | cons action later ih =>
    have hlater := fun a ha => htakes a (List.mem_cons_of_mem _ ha)
    rcases holds_step env h (htakes action (List.mem_cons_self ..)) with
      ⟨gone, rest, rfl, hrest⟩ | ⟨octets, rssi, now, seized, packet, rfl, howed, hpushed⟩
    · obtain ⟨packets, gone', rest', hdelivers, hsplit, hholds⟩ := ih hlater hrest
      refine ⟨packets, gone ++ gone', rest', .other hdelivers, ?_, hholds⟩
      rw [List.append_assoc, hsplit, List.append_assoc]
    · obtain ⟨packets, gone, rest, hdelivers, hsplit, hholds⟩ := ih hlater hpushed
      refine ⟨packet :: packets, gone, rest, .handed howed hdelivers, ?_, hholds⟩
      rw [← hsplit, List.append_assoc]
      rfl

/-- In every run the ring to the host is filled by what is owed to it and by nothing else, so that
it holds the latest of those packets, as long as the host only takes records out of it. -/
theorem fillsInbox_run (actions : List Action) (l : Link σ) :
    FillsInbox env (run env actions l) ∧
      ((∀ a ∈ actions, a.OnlyTakes) → ∀ payloads, l.shared.rx.Holds payloads →
        ∃ packets gone rest, Delivers env actions l packets ∧
          payloads ++ packets.map Packet.octets = gone ++ rest ∧
          (run env actions l).shared.rx.Holds rest) :=
  ⟨fillsInbox env _, fun htakes _ h => holds_run env actions htakes h⟩

/-- The host takes a record out of the ring, if there is one. -/
def fetching : HostMove where
  act s := { s with rx := s.rx.take.1 }
  status_act _ := rfl

theorem onlyTakes_fetching : fetching.OnlyTakes := by
  intro s payloads h
  cases payloads with
  | nil =>
    refine ⟨[], [], rfl, ?_⟩
    show s.rx.take.1.Holds []
    rw [Ring.take_of_holds_nil h]
    exact h
  | cons payload rest =>
    obtain ⟨rx, htake, hrest⟩ := h.take_cons
    refine ⟨[payload], rest, rfl, ?_⟩
    show s.rx.take.1.Holds rest
    rw [htake]
    exact hrest

/-- Nobody but the host itself comes near the ring while it sees to something else. -/
theorem onlyTakes_of_rx_eq {move : HostMove} (h : ∀ s, (move.act s).rx = s.rx) :
    move.OnlyTakes := by
  intro s payloads hholds
  exact ⟨[], payloads, rfl, by rw [h s]; exact hholds⟩

/-- A peer takes part in a session and sends two packets, and the host takes the first one. -/
def givingActions : List Action :=
  let sending := fun octet : UInt8 => heard (Frame.data .toDs networkAddress ⟨2, 0, 0, 0, 0, 9⟩
    stationAddress 0 false 0x0800 [octet])
  hostingActions ++ [sending 1, .host fetching, sending 2]

theorem fillsInbox_run_givingActions :
    (run (.answering .refused) givingActions (fresh networkAddress)).shared.rx.counters.packets =
        2 ∧
      (∀ a ∈ givingActions, a.OnlyTakes) ∧ (fresh networkAddress).shared.rx.Holds [] ∧
      FillsInbox (.answering .refused)
        (run (.answering .refused) givingActions (fresh networkAddress)) ∧
      ∃ packets gone rest,
        Delivers (.answering .refused) givingActions (fresh networkAddress) packets ∧
        packets.map Packet.octets = gone ++ rest ∧
        (run (.answering .refused) givingActions (fresh networkAddress)).shared.rx.Holds rest := by
  have htakes : ∀ a ∈ givingActions, a.OnlyTakes := by
    have hidle : HostMove.idle.OnlyTakes := onlyTakes_of_rx_eq fun _ => rfl
    have hletting : lettingIn.OnlyTakes := onlyTakes_of_rx_eq fun _ => rfl
    simp [givingActions, hostingActions, heard, undisturbed, Action.OnlyTakes, hidle, hletting,
      onlyTakes_fetching]
  have hempty : (fresh networkAddress).shared.rx.Holds [] :=
    Ring.Unused.holds ⟨by decide, by decide⟩ ⟨rfl, rfl⟩
  obtain ⟨hfills, hholds⟩ :=
    fillsInbox_run (.answering .refused) givingActions (fresh networkAddress)
  exact ⟨by decide +kernel, htakes, hempty, hfills, hholds htakes [] hempty⟩

end WlanControl.Link
