import WlanControl.Proofs.LinkOffers
import WlanControl.Proofs.LinkOutbox

namespace WlanControl

open WlanControl.Frame (Direction Received isData maxFrameLength stripLlcSnap?)

/-!
# The link layer — a burst of records

A tick of a link that is up, or of a session, takes records of the host out of their ring and makes
frames of them, as many as the settings allow.  It goes through them whatever they are and whether
the radio has room for their frames or not.

* `Link.isSendable` — the records that a frame has room for, with `octets_sendable` for their
  packets;
* `Link.dataFrames` — the data frames that the radio was handed, be it that it took them or not;
* `Link.Machine.Conveys` — a frame that carries a packet, with `conveys_of_carries`;
* `Link.recordsTaken_drain` — a burst takes the first records in the ring;
* `Link.Sends`, `Link.Bursts` — a link that sends what its host wants to send, and what becomes of
  the records in its ring.

Main statement: `Link.bursts_tick`, a tick takes exactly the first records, and hands the radio
exactly one data frame for each of them that a frame has room for, in their order.
-/

/-! ### Records -/

/-- A record without a packet is too short for the two addresses and the type. -/
theorem Packet.ofOctets?_eq_none_iff (octets : List UInt8) :
    ofOctets? octets = none ↔ octets.length < 14 := by
  constructor
  · intro hnone
    unfold ofOctets? at hnone
    split at hnone
    · cases hnone
    · rename_i hother
      rcases Nat.lt_or_ge octets.length 14 with hshort | hlong
      · exact hshort
      · exfalso
        iterate 14
          rcases octets with _ | ⟨_, octets⟩
          · simp at hlong
        exact hother _ _ _ _ _ _ _ _ _ _ _ _ _ _ _ rfl
  · intro hshort
    cases hread : ofOctets? octets with
    | none => rfl
    | some packet =>
      have hlength := congrArg List.length (ofOctets?_eq_some_iff.mp hread)
      rw [length_octets] at hlength
      omega

namespace Link

variable {σ : Type} {l l' : Link σ}

/-- Whether a record holds a packet and a frame has room for it.  In the frame the header is longer
by 18 octets. -/
def isSendable (record : List UInt8) : Bool :=
  14 ≤ record.length && record.length + 18 ≤ maxFrameLength

/-- The packets that a frame has room for are those of the records that a frame has room for. -/
theorem octets_sendable (records : List (List UInt8)) :
    (sendable records).map Packet.octets = records.filter isSendable := by
  induction records with
  | nil => rfl
  | cons record rest ih =>
    rw [sendable_cons, List.map_append, ih]
    cases hread : Packet.ofOctets? record with
    | none =>
      have hshort := (Packet.ofOctets?_eq_none_iff record).mp hread
      have hdropped : isSendable record = false := by
        simp [isSendable, Nat.not_le.mpr hshort]
      simp [sendable, hread, hdropped]
    | some packet =>
      have hrecord := Packet.ofOctets?_eq_some_iff.mp hread
      have hsame : fitsFrame packet = isSendable record := by
        rw [hrecord, fitsFrame, isSendable, Packet.length_octets, Bool.eq_iff_iff]
        simp only [Bool.and_eq_true, decide_eq_true_eq]
        omega
      by_cases hfits : fitsFrame packet = true
      · rw [List.filter_cons_of_pos (hsame ▸ hfits)]
        simp [sendable, hread, hfits, ← hrecord]
      · rw [List.filter_cons_of_neg (hsame ▸ hfits)]
        simp [sendable, hread, hfits]

/-! ### Data frames -/

/-- The data frames that the radio was handed, be it that it took them or not, oldest first. -/
def dataFrames (log : List Event) : List (List UInt8) := offered dataFrame? log

/-- The frame carries the packet to a network.  Whoever hears it reads which way it goes, and where
the payload goes and comes from. -/
def Machine.Conveys (m : Machine) (bssid : MacAddress) (direction : Direction) (packet : Packet)
    (frame : List UInt8) : Prop :=
  m.Carries bssid direction packet frame ∧
    ∃ header body, Received.ofOctets frame = .ok (.data header body) ∧ header.network = bssid ∧
      header.control.has .toDs = decide (direction = .toDs) ∧
      header.control.has .fromDs = decide (direction = .fromDs) ∧
      header.destination = packet.destination ∧ header.source = m.address ∧
      stripLlcSnap? body = some (packet.type, packet.payload)

/-- A frame that was made of a packet is read as a data frame. -/
theorem ofOctets_of_carries {m : Machine} {bssid : MacAddress} {direction : Direction}
    {packet : Packet} {frame : List UInt8} (h : m.Carries bssid direction packet frame) :
    ∃ number, Received.ofOctets frame = .ok ((m.draft bssid direction packet).received number) := by
  obtain ⟨number, rfl⟩ := h
  exact ⟨number, (m.draft bssid direction packet).ofOctets_fields trivial number⟩

theorem conveys_of_carries {m : Machine} {bssid : MacAddress} {direction : Direction}
    {packet : Packet} {frame : List UInt8} (h : m.Carries bssid direction packet frame) :
    m.Conveys bssid direction packet frame := by
  obtain ⟨number, hread⟩ := ofOctets_of_carries h
  obtain ⟨htoDs, hfromDs, hnetwork, hdestination, hsource⟩ := Frame.spec_dataHeader direction
    bssid packet.destination m.address number m.encrypting
  exact ⟨h, _, _, hread, hnetwork, htoDs, hfromDs, hdestination, hsource,
    Frame.stripLlcSnap?_append packet.type packet.payload⟩

/-- What is made of records are data frames, whether the radio has room for them or not. -/
theorem picks_dataFrame (env : Surroundings σ) : Picks env (Event.offered? dataFrame?) where
  taken _ := rfl
  unsendable := rfl
  sent := by
    intro m bssid direction packet frame h outside
    obtain ⟨number, hread⟩ := ofOctets_of_carries h
    have hdata : isData frame = true := by
      unfold isData
      rw [hread]
      rfl
    exact if_pos hdata

variable (env : Surroundings σ)

/-! ### Bursts -/

/-- The first records in the ring are taken, whatever becomes of their frames. -/
theorem recordsTaken_drain (bssid : MacAddress) (direction : Direction) (burst : Nat)
    {records : List (List UInt8)} (h : l.shared.tx.Holds records) :
    recordsTaken (l.drain env bssid direction burst).log =
      recordsTaken l.log ++ records.take burst := by
  -- By induction on how many records may still be taken in this tick.
  induction burst generalizing l records with
  | zero => exact (List.append_nil _).symm
  | succ burst ih =>
    unfold drain
    cases records with
    | nil =>
      rw [Ring.take_of_holds_nil h]
      exact (List.append_nil _).symm
    | cons record rest =>
      obtain ⟨tx, htake, hrest⟩ := h.take_cons
      rw [htake]
      simp only
      generalize htaken : ({ l with shared.tx := tx } : Link σ) = taken
      have hforwarded := outbox_forward env bssid direction record taken
      have htx : (taken.forward env bssid direction record).shared.tx = tx :=
        (congrArg Outbox.tx hforwarded).trans (by rw [← htaken])
      have hlogged : recordsTaken (taken.forward env bssid direction record).log =
          recordsTaken l.log ++ [record] :=
        (congrArg Outbox.taken hforwarded).trans (by rw [← htaken]; rfl)
      rw [ih (l := taken.forward env bssid direction record) (htx ▸ hrest), hlogged,
        List.append_assoc]
      rfl

/-! ### Ticks -/

/-- The link layer at a tick, once the command of the host is served. -/
def served (moves : Nat → HostMove) (now : Nat) (l : Link σ) : Link σ :=
  (l.atTime now).serveCommand env fun step => (moves step).act

/-- The link layer sends what its host wants to send to a network: a session is open, or the link is
up and was not lost. -/
structure Sends (bssid : MacAddress) (direction : Direction) (l : Link σ) : Prop where
  outlet : l.machine.outlet? = some (bssid, direction)
  heard : l.machine.mode = .connected →
    isDue l.machine.settings.linkLossTimeout l.machine.lastHeard l.machine.now = false

/-- From one link to the other the first of the records were taken out of the ring and the others
left there, and the radio was handed exactly one data frame for each that was taken and that a frame
has room for, in their order. -/
structure Bursts (m : Machine) (bssid : MacAddress) (direction : Direction)
    (records : List (List UInt8)) (l l' : Link σ) : Prop where
  taken : recordsTaken l'.log = recordsTaken l.log ++ records.take m.settings.txBurst
  left : l'.shared.tx.Holds (records.drop m.settings.txBurst)
  frames : ∃ frames, dataFrames l'.log = dataFrames l.log ++ frames ∧
    List.Forall₂ (fun record frame => ∃ packet : Packet, record = packet.octets ∧
        m.Conveys bssid direction packet frame)
      ((records.take m.settings.txBurst).filter isSendable) frames

theorem bursts_drainBurst {bssid : MacAddress} {direction : Direction}
    (houtlet : l.machine.outlet? = some (bssid, direction)) {records : List (List UInt8)}
    (h : l.shared.tx.Holds records) :
    Bursts l.machine bssid direction records l (l.drainBurst env) := by
  obtain ⟨frames, hframes, hleft, hcarried⟩ :=
    exists_frames_of_drainBurst (picks_dataFrame env) houtlet h
  have hconveyed : List.Forall₂ (fun (packet : Packet) frame => ∃ packet' : Packet,
      packet.octets = packet'.octets ∧ l.machine.Conveys bssid direction packet' frame)
      (sendable (records.take l.machine.settings.txBurst)) frames :=
    hcarried.imp fun packet frame hcarries => ⟨packet, rfl, conveys_of_carries hcarries⟩
  refine ⟨?_, hleft, frames, hframes, ?_⟩
  · unfold drainBurst
    rw [houtlet]
    exact recordsTaken_drain env bssid direction _ h
  · rw [← octets_sendable]
    exact List.forall₂_map_left_iff.mpr hconveyed

namespace Bursts

variable {l₀ l'' : Link σ} {m : Machine} {bssid : MacAddress} {direction : Direction}
  {records : List (List UInt8)}

/-- What came before or after the burst neither took records nor handed the radio a data frame. -/
theorem extend (h : Bursts m bssid direction records l l')
    (hbefore : recordsTaken l.log = recordsTaken l₀.log)
    (hbefore' : dataFrames l.log = dataFrames l₀.log) (hafter : l''.outbox = l'.outbox)
    (hafter' : dataFrames l''.log = dataFrames l'.log) :
    Bursts m bssid direction records l₀ l'' where
  taken := by
    rw [show recordsTaken l''.log = recordsTaken l'.log from congrArg Outbox.taken hafter, h.taken,
      hbefore]
  left := by
    rw [show l''.shared.tx = l'.shared.tx from congrArg Outbox.tx hafter]
    exact h.left
  frames := by
    rw [hafter', ← hbefore']
    exact h.frames

end Bursts

/-- What a machine makes of records, in how large bursts, and where these go. -/
structure Machine.SendsLike (m m' : Machine) : Prop where
  outlet_eq : m'.outlet? = m.outlet?
  conveys_eq : m'.Conveys = m.Conveys
  burst_eq : m'.settings.txBurst = m.settings.txBurst

theorem Quiet.sendsLike {m : Machine} (h : Quiet l l') (hl : m.SendsLike l.machine) :
    m.SendsLike l'.machine := by
  rw [h.machine_eq]
  exact ⟨hl.outlet_eq, hl.conveys_eq, hl.burst_eq⟩

theorem Bursts.of_sendsLike {m m' : Machine} {bssid : MacAddress} {direction : Direction}
    {records : List (List UInt8)} (h : Bursts m' bssid direction records l l')
    (hlike : m.SendsLike m') : Bursts m bssid direction records l l' where
  taken := hlike.burst_eq ▸ h.taken
  left := hlike.burst_eq ▸ h.left
  frames := by
    rw [← hlike.conveys_eq, ← hlike.burst_eq]
    exact h.frames

/-- Since the given records were `taken`, the host put at most `new` ones into the ring behind those
that wait there. -/
def Outbox.IsFed (new : List UInt8 → Prop) (taken records : List (List UInt8)) (o : Outbox) :
    Prop :=
  o.taken = taken ∧ ∃ added, (∀ record ∈ added, new record) ∧ o.tx.Holds (records ++ added)

theorem isFed_pause {new : List UInt8 → Prop} {moves : Nat → HostMove}
    (happends : ∀ step, (moves step).OnlyAppends new) {taken records : List (List UInt8)}
    (step : Nat) (h : l.outbox.IsFed new taken records) :
    (l.pause (fun step => (moves step).act) step).outbox.IsFed new taken records := by
  obtain ⟨htaken, added, hadded, hholds⟩ := h
  obtain ⟨more, hmore, hholds'⟩ := happends step l.shared _ hholds
  refine ⟨htaken, added ++ more, ?_, by rw [← List.append_assoc]; exact hholds'⟩
  intro record hrecord
  rcases List.mem_append.mp hrecord with hrecord | hrecord
  · exact hadded record hrecord
  · exact hmore record hrecord

/-- The host of a session may put more records into the ring before the burst. -/
theorem bursts_accessPointTick {new : List UInt8 → Prop} {moves : Nat → HostMove}
    (happends : ∀ step, (moves step).OnlyAppends new) {bssid : MacAddress} {direction : Direction}
    (houtlet : l.machine.outlet? = some (bssid, direction)) {records : List (List UInt8)}
    (h : l.shared.tx.Holds records) : ∃ added, (∀ record ∈ added, new record) ∧
      Bursts l.machine bssid direction (records ++ added) l
        (l.accessPointTick env fun step => (moves step).act) := by
  have hpause {m : Link σ} (step : Nat)
      (hm : m.freight.outbox.IsFed new (recordsTaken l.log) records) :
      (m.pause (fun step => (moves step).act) step).freight.outbox.IsFed new
        (recordsTaken l.log) records := isFed_pause happends step hm
  have hfed := hosting_keeps env (P := fun f => f.outbox.IsFed new _ records) hpause (l := l)
    ⟨rfl, [], by simp, by rw [List.append_nil]; exact h⟩
  have hframes : dataFrames _ = dataFrames l.log :=
    ignoresUpkeep_data.hosting env (fun step => (moves step).act) l
  have hhosting : QuietAmid (fun step => (moves step).act) l _ := quietAmid_hosting env l
  have hlike := hhosting.keeps (P := fun m => l.machine.SendsLike m.machine)
    (fun hquiet hm => hquiet.sendsLike hm) (fun _ hm => hm) ⟨rfl, rfl, rfl⟩
  unfold accessPointTick
  simp only
  generalize beaconTick env _ = m at hframes hlike hfed ⊢
  obtain ⟨htaken, added, hadded, hholds⟩ := hfed
  have hburst := bursts_drainBurst env (hlike.outlet_eq.trans houtlet) hholds
  exact ⟨added, hadded, (hburst.of_sendsLike hlike).extend htaken hframes rfl rfl⟩

theorem bursts_connectedTick {bssid : MacAddress} {direction : Direction}
    (hsends : l.Sends bssid direction) (hmode : l.machine.mode = .connected)
    {records : List (List UInt8)} (h : l.shared.tx.Holds records) :
    Bursts l.machine bssid direction records l (l.connectedTick env) := by
  have hburst := bursts_drainBurst env hsends.outlet h
  unfold connectedTick
  rw [hsends.heard hmode]
  simp only [Bool.false_eq_true, if_false]
  split
  · exact hburst.extend rfl rfl
      (congrArg Freight.outbox (transmits_sendNullData env _).freight_eq)
      (ignoresUpkeep_data.sendNullData env _)
  · exact hburst

/-- A tick of a link that is up, or of a session, takes exactly the first records out of the ring
and leaves the others there.  It hands the radio exactly one data frame for each record that it took
and that a frame has room for, in their order, whether the radio has room for it or not. -/
theorem bursts_tick {new : List UInt8 → Prop} {now : Nat} {moves : Nat → HostMove}
    {bssid : MacAddress} {direction : Direction}
    (hsends : (l.served env moves now).Sends bssid direction)
    (happends : ∀ step, (moves step).OnlyAppends new) {records : List (List UInt8)}
    (h : l.shared.tx.Holds records) : ∃ added, (∀ record ∈ added, new record) ∧
      ((l.served env moves now).machine.mode = .connected → added = []) ∧
      Bursts (l.served env moves now).machine bssid direction (records ++ added) l
        (l.step env (.tick now moves)) := by
  have hfed : (l.served env moves now).outbox.IsFed new (recordsTaken l.log) records :=
    serving_keeps env (P := fun f => f.outbox.IsFed new (recordsTaken l.log) records)
      (isFed_pause happends) ⟨rfl, [], by simp, by rw [List.append_nil]; exact h⟩
  have hunfed (hnone : (l.served env moves now).machine.mode ≠ .accessPoint) :
      (l.served env moves now).outbox = l.outbox :=
    congrArg Freight.outbox (freight_serveCommand env hnone)
  have hframes : dataFrames (l.served env moves now).log = dataFrames l.log :=
    ignoresUpkeep_data.serveCommand env _ (l.atTime now)
  have houtlet := hsends.outlet
  show ∃ added, _ ∧ _ ∧ Bursts _ _ _ _ l ((l.served env moves now).work env _)
  generalize l.served env moves now = served at hsends hfed hunfed hframes houtlet ⊢
  unfold work
  cases hmode : served.machine.mode with
  | connected =>
    have houtbox : served.outbox = l.outbox := hunfed (by rw [hmode]; decide)
    have htx : served.shared.tx = l.shared.tx := congrArg Outbox.tx houtbox
    have hholds : served.shared.tx.Holds records := htx ▸ h
    have hburst := (bursts_connectedTick env hsends hmode hholds).extend
      (congrArg Outbox.taken houtbox) hframes rfl rfl
    exact ⟨[], by simp, fun _ => rfl, by rw [List.append_nil]; exact hburst⟩
  | accessPoint =>
    -- The host may have put records into the ring before the session was opened, too.
    obtain ⟨htaken, before, hbefore, hholds⟩ := hfed
    obtain ⟨after, hafter, hburst⟩ := bursts_accessPointTick env happends houtlet hholds
    rw [List.append_assoc] at hburst
    refine ⟨before ++ after, ?_, by simp, hburst.extend htaken hframes rfl rfl⟩
    exact List.forall_mem_append.mpr ⟨hbefore, hafter⟩
  | disabled | normal | scanning | connecting | cannotConnect =>
    simp [Machine.outlet?, hmode] at houtlet

/-- In every run a link that is up has a network to send to, and so does a session.  So both send
what their hosts want to send at the next tick without a command, unless the link was lost. -/
theorem sends_run {settings : Settings} {address : MacAddress} {outside : σ}
    {s s' : SharedState} (h : attach settings address outside s = (s', .ok l))
    (actions : List Action) (moves : Nat → HostMove) (now : Nat)
    (hwaits : (run env actions l).Waits) :
    let l' := run env actions l
    (l'.machine.mode = .accessPoint →
      (l'.served env moves now).Sends l'.machine.address .fromDs) ∧
    (l'.machine.mode = .connected →
      isDue l'.machine.settings.linkLossTimeout l'.machine.lastHeard now = false →
        ∃ target, wanted? l'.log = some target ∧
          (l'.served env moves now).Sends target.bssid .toDs) := by
  intro l'
  have hserved : l'.served env moves now = l'.atTime now := serveCommand_of_waits env _ hwaits
  rw [hserved]
  constructor
  · intro hmode
    have houtlet : l'.machine.outlet? = some (l'.machine.address, .fromDs) := by
      simp [Machine.outlet?, hmode]
    refine ⟨houtlet, fun hup => ?_⟩
    cases hmode.symm.trans hup
  · intro hmode hheard
    obtain ⟨target, htarget, hwanted⟩ :=
      (sound_run env (sound_attach h) actions).wanted (congrArg Mode.hasLink hmode)
    have htarget' : l'.machine.target = some target := htarget
    have houtlet : l'.machine.outlet? = some (target.bssid, .toDs) := by
      simp [Machine.outlet?, hmode, htarget']
    exact ⟨target, hwanted, houtlet, fun _ => hheard⟩

/-! ### A radio without room -/

/-- A radio that has no room for any frame. -/
def Surroundings.full : Surroundings Unit :=
  { Surroundings.answering .refused with send := fun _ outside => (outside, false) }

/-- The host writes a record as it stands. -/
def writing (record : List UInt8) : HostMove where
  act s := { s with tx := (s.tx.push record ⟨0⟩).1 }
  status_act _ := rfl

theorem holds_writing {s : SharedState} {records : List (List UInt8)} (h : s.tx.Holds records)
    {record : List UInt8} (hroom : ∃ g, s.tx.reserve record.length = .ok g) :
    ((writing record).act s).tx.Holds (records ++ [record]) := by
  obtain ⟨tx, producer, hpush, hholds⟩ := h.push ⟨by decide, by decide⟩ hroom ⟨0⟩
  show (s.tx.push record ⟨0⟩).1.Holds _
  rw [hpush]
  exact hholds

/-- A station that is connected, with a record in the ring that is too short and one that is not. -/
def ladenStation : Link Unit :=
  run (.answering .refused) (joiningActions ++ [.host (writing [1, 2, 3]),
    .host (writing outbound.octets)]) (fresh stationAddress)

theorem bursts_tick_ladenStation :
    (ladenStation.served .full (fun _ => .idle) 1).Sends networkAddress .toDs ∧
      (∀ _ : Nat, HostMove.idle.OnlyAppends fun _ => False) ∧
      ladenStation.shared.tx.Holds [[1, 2, 3], outbound.octets] ∧
      isSendable [1, 2, 3] = false ∧ isSendable outbound.octets = true ∧
      (dataFrames (ladenStation.step .full undisturbed).log).length = 1 ∧
      ∃ added, (∀ record ∈ added, False) ∧
        ((ladenStation.served .full (fun _ => .idle) 1).machine.mode = .connected → added = []) ∧
        Bursts (ladenStation.served .full (fun _ => .idle) 1).machine networkAddress .toDs
          ([[1, 2, 3], outbound.octets] ++ added) ladenStation
          (ladenStation.step .full undisturbed) := by
  have hsends : (ladenStation.served .full (fun _ => .idle) 1).Sends networkAddress .toDs :=
    ⟨by decide +kernel, fun _ => by decide +kernel⟩
  have hsize : Ring.Admits ringSize := ⟨by decide, by decide⟩
  have hunused : (run (.answering .refused) joiningActions
      (fresh stationAddress)).shared.tx.Unused := ⟨by decide +kernel, by decide +kernel⟩
  have hholds : ladenStation.shared.tx.Holds [[1, 2, 3], outbound.octets] :=
    holds_writing (holds_writing (hunused.holds hsize) (hunused.room hsize (by decide)))
      ⟨⟨7, 15, none⟩, by decide +kernel⟩
  exact ⟨hsends, fun _ => onlyAppends_idle, hholds, by decide, by decide, by decide +kernel,
    bursts_tick _ hsends (fun _ => onlyAppends_idle) hholds⟩

end Link

end WlanControl
