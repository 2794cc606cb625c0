import Mathlib.Logic.Relation
import WlanControl.Proofs.LinkHandlers
import WlanControl.Proofs.RingAccounts

namespace WlanControl

/-!
# The link layer — the ledger that it keeps

Four things are entered into the ledger of a link layer: a frame that the radio took, one that it
had no room for, one that was given up, and a packet that was put into the ring to the host.  Frames
are numbered as they are started.  Whatever else the link layer does leaves the ledger alone.

* `Ring.counters_push`, `Ring.counters_take` — what the ring itself counts;
* `Frame.IsStamped` — a frame that can be sent, with its number;
* `Link.Ledger`, `Link.Ledger.Entry` — the ledger, and what one entry makes of it;
* `Link.Books` — a link before and after something happened of which all was entered;
* `Link.books_send`, `Link.books_deliver` — the two operations that enter something;
* `Link.keptByHandlers_books` — all handlers enter what is to be entered;
* `HostMove.SparesCounters` — the host does not count in place of the radio.

Main statement: `Link.books_run`, in every run all is entered.
-/

namespace Ring

variable {size : Nat}

theorem length_of_reserve {r : Ring size} {length : Nat} {g : Reservation}
    (h : r.reserve length = .ok g) : g.length = length := by
  unfold reserve at h
  split at h
  · cases h
  · simp only at h
    split at h
    · split at h
      · cases h
        rfl
      · split at h
        · cases h
          rfl
        · cases h
    · split at h
      · cases h
        rfl
      · cases h

/-- A record that is written is counted with its payload.  One that is not is counted elsewhere. -/
theorem counters_push (r : Ring size) (payload : List UInt8) (p : Producer) :
    (r.push payload p).2.2 = .ok () ∧ (r.push payload p).1.counters =
      { r.counters with
        packets := r.counters.packets + 1
        bytes := r.counters.bytes + UInt32.ofNat payload.length } ∨
    (∃ e, (r.push payload p).2.2 = .error e) ∧
      (r.push payload p).1.counters.packets = r.counters.packets ∧
      (r.push payload p).1.counters.bytes = r.counters.bytes := by
  unfold push
  cases hreserve : r.reserve payload.length with
  | ok g =>
    left
    rw [← length_of_reserve hreserve]
    exact ⟨rfl, rfl⟩
  | error e => exact .inr ⟨⟨e, rfl⟩, rfl, rfl⟩

/-- Taking a record out of a ring does not count anything. -/
theorem counters_take (r : Ring size) : r.take.1.counters = r.counters := by
  have hpopped := congrArg Ring.counters (pop_fst r)
  unfold take
  split
  · rename_i hpop
    rw [hpop] at hpopped
    exact hpopped
  · rename_i hpop
    rw [hpop] at hpopped
    exact hpopped

end Ring

namespace Frame

/-- The frame is neither too short nor too long, and its header holds the number. -/
structure IsStamped (number : UInt16) (frame : List UInt8) : Prop where
  length_ge : Header.size ≤ frame.length
  length_le : frame.length ≤ maxFrameLength
  sequenceControl : ∃ header body, Header.ofOctets? frame = some (header, body) ∧
    header.sequenceControl = Header.sequenceWord number

/-- Every frame that is written and not given up is stamped with its number. -/
theorem Composition.isStamped {composition : Composition} {number : UInt16} {frame : List UInt8}
    (h : encode? maxFrameLength (composition.fields number) = some frame) :
    IsStamped number frame := by
  obtain ⟨header, rest, hfields, hnumber⟩ := composition.exists_fields_eq number
  have hframe : frame = header.encoding ++ rest.flatMap Field.encoding := by
    rw [eq_of_encode? h, hfields, List.flatMap_append]
    rfl
  refine ⟨?_, length_le_of_encode? h, header, rest.flatMap Field.encoding, ?_, hnumber⟩
  · rw [hframe, List.length_append, Header.length_encoding]
    exact Nat.le_add_right ..
  · rw [hframe]
    exact Header.ofOctets?_encoding header _

end Frame

namespace Link

open WlanControl.Frame (Composition IsStamped)

variable {σ : Type} {l l' l₁ l₂ l₃ : Link σ} (env : Surroundings σ)

/-! ### The ledger -/

/-- What a link layer counts, next to what it counted. -/
structure Ledger where
  txPackets : UInt32
  txBytes : UInt32
  txQueueFull : UInt32
  rxPackets : UInt32
  rxBytes : UInt32
  /-- The records that the ring to the host counts. -/
  ringPackets : UInt32
  /-- The octets that it counts. -/
  ringBytes : UInt32
  /-- The number of the next frame. -/
  sequenceNumber : UInt16
  /-- What became of the frames that were started, latest first. -/
  outcomes : List Event

/-- The ledger of a link layer. -/
def ledger (l : Link σ) : Ledger where
  txPackets := l.shared.statistics.txPackets
  txBytes := l.shared.statistics.txBytes
  txQueueFull := l.shared.statistics.txQueueFull
  rxPackets := l.shared.statistics.rxPackets
  rxBytes := l.shared.statistics.rxBytes
  ringPackets := l.shared.rx.counters.packets
  ringBytes := l.shared.rx.counters.bytes
  sequenceNumber := l.machine.sequenceNumber
  outcomes := l.log.filter Event.isTransmission

/-- One entry into the ledger. -/
inductive Ledger.Entry (b : Ledger) : Ledger → Prop
  /-- The radio took a frame. -/
  | accepted {frame : List UInt8} (h : IsStamped b.sequenceNumber frame) : Entry b { b with
      txPackets := b.txPackets + 1
      txBytes := b.txBytes + UInt32.ofNat frame.length
      sequenceNumber := nextNumber b.sequenceNumber
      outcomes := .sent frame true :: b.outcomes }
  /-- The radio had no room for a frame. -/
  | refused {frame : List UInt8} (h : IsStamped b.sequenceNumber frame) : Entry b { b with
      txQueueFull := b.txQueueFull + 1
      sequenceNumber := nextNumber b.sequenceNumber
      outcomes := .sent frame false :: b.outcomes }
  /-- A frame would have been too long. -/
  | givenUp : Entry b { b with
      sequenceNumber := nextNumber b.sequenceNumber
      outcomes := .unsendable :: b.outcomes }
  /-- A packet of so many octets was put into the ring to the host. -/
  | delivered (length : Nat) : Entry b { b with
      rxPackets := b.rxPackets + 1
      rxBytes := b.rxBytes + UInt32.ofNat length
      ringPackets := b.ringPackets + 1
      ringBytes := b.ringBytes + UInt32.ofNat length }

/-- From one link to the other the ledger changed by entries only. -/
def Books (l l' : Link σ) : Prop := Relation.ReflTransGen Ledger.Entry l.ledger l'.ledger

theorem Books.refl (l : Link σ) : Books l l := Relation.ReflTransGen.refl

theorem Books.trans (h : Books l₁ l₂) (h' : Books l₂ l₃) : Books l₁ l₃ :=
  Relation.ReflTransGen.trans h h'

theorem books_of_entry (h : l.ledger.Entry l'.ledger) : Books l l' := Relation.ReflTransGen.single h

theorem books_of_eq (h : l'.ledger = l.ledger) : Books l l' := by
  unfold Books
  rw [h]

/-- What is logged besides frames does not matter. -/
theorem filter_append_log {events : List Event} (h : ∀ e ∈ events, e.isTransmission = false)
    (log : List Event) :
    (events ++ log).filter Event.isTransmission = log.filter Event.isTransmission := by
  have hnone : events.filter Event.isTransmission = [] := by
    rw [List.filter_eq_nil_iff]
    intro e he
    rw [h e he]
    exact Bool.false_ne_true
  rw [List.filter_append, hnone, List.nil_append]

/-! ### Frames and packets -/

/-- Each frame is entered as what became of it. -/
theorem books_send (composition : Composition) (l : Link σ) :
    Books l (l.send env fun number => composition.fields number) := by
  -- In all three cases the number is used up.
  unfold send
  simp only
  split
  · rename_i frame hframe
    have hstamped : IsStamped l.ledger.sequenceNumber frame := Composition.isStamped hframe
    unfold transmit
    split
    · exact books_of_entry (.accepted hstamped)
    · exact books_of_entry (.refused hstamped)
  · exact books_of_entry .givenUp

/-- A packet is entered if there is room for it in the ring. -/
theorem books_deliver (packet : Packet) (l : Link σ) : Books l (l.deliver packet) := by
  have hpush := l.shared.rx.counters_push packet.octets l.machine.producer
  unfold deliver
  split
  · rename_i rx producer hpushed
    rw [hpushed] at hpush
    rcases hpush with ⟨-, hcounters⟩ | ⟨⟨e, herror⟩, -⟩
    · refine books_of_entry ?_
      have hentry := Ledger.Entry.delivered (b := l.ledger) packet.octets.length
      simp only [ledger, count, Statistics.countReceived] at hentry hcounters ⊢
      rw [hcounters]
      exact hentry
    · cases herror
  · rename_i rx producer e hpushed
    rw [hpushed] at hpush
    rcases hpush with ⟨hok, -⟩ | ⟨-, hpackets, hbytes⟩
    · cases hok
    · -- A packet that there was no room for is counted among those that were dropped.
      refine books_of_eq ?_
      simp only at hpackets hbytes
      simp only [ledger, hpackets, hbytes]

theorem Arranges.ledger_eq (h : Arranges l l') : l'.ledger = l.ledger := by
  obtain ⟨events, hlog, hevents⟩ := h.log_eq
  have houtcomes : l'.log.filter Event.isTransmission = l.log.filter Event.isTransmission := by
    rw [hlog, filter_append_log]
    intro e he
    have harrangement := hevents e he
    cases e with
    | sent | unsendable => cases harrangement
    | commanded | taken | tuned | keyInstalled | exchangeBegun | exchanged | exchangeReset
    | published => rfl
  simp only [ledger, houtcomes]
  rw [h.sequenceNumber_eq, h.shared_eq]

/-- All handlers do is entered, as far as it is to be. -/
theorem keptByHandlers_books : KeptByHandlers env (Books (σ := σ)) where
  refl := .refl
  trans := .trans
  arranges h := books_of_eq h.ledger_eq
  send := books_send env

/-! ### Runs -/

theorem books_receiveAmid (seized : Nat → Bool) (octets : List UInt8) (rssi : UInt8) (now : Nat)
    (l : Link σ) : Books l (l.receiveAmid env seized octets rssi now) :=
  (keptByHandlers_books env).receiveAmid books_deliver seized octets rssi now l

/-- What the host does in the meantime is not entered, but must not undo an entry either. -/
theorem books_tickAmid {meanwhile : Meanwhile}
    (hpause : ∀ step (m : Link σ), (m.pause meanwhile step).ledger = m.ledger) (now : Nat)
    (l : Link σ) : Books l (l.tickAmid env meanwhile now) := by
  have hkept := keptByHandlers_books env (σ := σ)
  have hdrain (m : Link σ) : Books m (m.drainBurst env) :=
    hkept.drainBurst (fun _ _ => books_of_eq rfl) (fun _ _ => books_of_eq rfl) m
  have hpaused {m m' : Link σ} (step : Nat) (hm : Books m m') :
      Books m (m'.pause meanwhile step) := hm.trans (books_of_eq (hpause step m'))
  have hhosting (m : Link σ) : Books m ((((m.serveKicks env meanwhile).pause meanwhile
      (maxPeers + 4)).countPeers).beaconTick env) :=
    hkept.hosting_keeps (P := Books m) (fun hstep hm => hm.trans hstep) hpaused
      (fun _ _ hm => hm.trans (books_of_eq rfl)) (.refl m)
  rw [tickAmid_eq_work]
  -- The command comes first, and then what is due in the mode that it led to.
  have hserved : Books l ((l.atTime now).serveCommand env meanwhile) :=
    hkept.serveCommand_keeps (P := Books l) (fun hstep hm => hm.trans hstep) hpaused
      (hkept.atTime now l)
  refine hserved.trans ?_
  unfold work
  split
  · exact hkept.scanTick _
  · exact hkept.keptByAttempts.connectingTick _
  · exact hkept.connectedTick hdrain _
  · unfold accessPointTick
    exact (hhosting _).trans (hdrain _)
  · exact books_of_eq rfl
  · exact books_of_eq rfl
  · exact books_of_eq rfl

/-- The host stores nothing where the radio counts. -/
structure HostMove.SparesCounters (move : HostMove) : Prop where
  statistics_eq : ∀ s, (move.act s).statistics = s.statistics
  counters_eq : ∀ s, (move.act s).rx.counters = s.rx.counters

/-- Whatever the host does in the course of the action, it does not count. -/
def Action.SparesCounters : Action → Prop
  | .host move => move.SparesCounters
  | .tick _ moves => ∀ step, (moves step).SparesCounters
  | .post _ | .receive _ _ _ _ => True

theorem HostMove.SparesCounters.ledger_eq {move : HostMove} (h : move.SparesCounters)
    (l : Link σ) : ({ l with shared := move.act l.shared } : Link σ).ledger = l.ledger := by
  simp only [ledger, h.statistics_eq, h.counters_eq]

theorem books_step {action : Action} (hspares : action.SparesCounters) (l : Link σ) :
    Books l (l.step env action) := by
  cases action with
  | post command =>
    refine books_of_eq ?_
    show ({ l with shared := (l.shared.postCommand command).1 } : Link σ).ledger = l.ledger
    unfold SharedState.postCommand
    split <;> rfl
  | host move => exact books_of_eq (hspares.ledger_eq l)
  | tick now moves => exact books_tickAmid env (fun step m => (hspares step).ledger_eq m) now l
  | receive octets rssi now seized => exact books_receiveAmid env seized octets rssi now l

/-- In every run the ledger changes by entries only. -/
theorem books_run {actions : List Action} (hspares : ∀ a ∈ actions, a.SparesCounters)
    (l : Link σ) : Books l (run env actions l) := by
  induction actions generalizing l with
  | nil => exact .refl l
  | cons action rest ih =>
    obtain ⟨haction, hrest⟩ := List.forall_mem_cons.mp hspares
    exact (books_step env haction l).trans (ih hrest _)

/-- No call of the host counts anything. -/
theorem sparesCounters_calling (controller : Host.Controller) (call : Host.Call) :
    (calling controller call).SparesCounters := by
  have hasks (s : SharedState) : Host.Asks s ((calling controller call).act s) :=
    Host.asks_perform call ⟨controller, s⟩
  constructor
  · intro s
    rw [(hasks s).shared_eq]
  · intro s
    rw [(hasks s).shared_eq]

end Link

end WlanControl
