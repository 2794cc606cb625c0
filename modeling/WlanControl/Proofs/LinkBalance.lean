import WlanControl.Proofs.LinkInbox
import WlanControl.Proofs.LinkLedger

namespace WlanControl.Link

/-!
# The link layer — its counters and its numbers are right

The ledger of a link layer tells what it counted next to what there was to count, and each entry
keeps both in step.  So the counters are those of the frames that the radio took or refused, up to
their size, and each frame holds the number of frames that were started before it, modulo 4096.

* `Numbered` — each frame holds its number;
* `Ledger.Balanced` — what was counted is what there was to count;
* `Ledger.Balanced.entry` — one more entry;
* `started` — the number of frames that were started, be they sent or not;
* `KeepsCount` — the same of a link, in terms of its whole log.

Main statement: `keepsCount_run`, for all runs of a link layer that is attached to fresh memory.
-/

open WlanControl.Frame (Header IsStamped)

variable {σ : Type} {l : Link σ} {e : Event} {outcomes : List Event} {b b' : Ledger}

/-! ### Frames with their numbers -/

/-- The frame that the radio had no room for, if that is what is logged. -/
def Event.refused? : Event → Option (List UInt8)
  | .sent frame false => some frame
  | _ => none

/-- The frames that the radio had no room for, oldest first. -/
def refused (log : List Event) : List (List UInt8) := picked Event.refused? log

theorem transmitted_cons (e : Event) (log : List Event) :
    transmitted (e :: log) = transmitted log ++ e.transmitted?.toList := picked_cons _ e log

theorem refused_cons (e : Event) (log : List Event) :
    refused (e :: log) = refused log ++ e.refused?.toList := picked_cons _ e log

/-- Each frame holds the number of frames that were started before it. -/
def Numbered (outcomes : List Event) : Prop :=
  ∀ later frame accepted earlier, outcomes = later ++ .sent frame accepted :: earlier →
    ∃ number, IsStamped number frame ∧ number.toNat = earlier.length % 4096

theorem Numbered.nil : Numbered [] := by
  intro later frame accepted earlier h
  simp at h

/-- Only the latest frame is to be looked at. -/
theorem Numbered.cons (h : Numbered outcomes)
    (he : ∀ frame accepted, e = .sent frame accepted →
      ∃ number, IsStamped number frame ∧ number.toNat = outcomes.length % 4096) :
    Numbered (e :: outcomes) := by
  intro later frame accepted earlier hsplit
  cases later with
  | nil =>
    obtain ⟨hsent, rfl⟩ := List.cons.inj hsplit
    exact he frame accepted hsent
  | cons e' later => exact h later frame accepted earlier (List.cons.inj hsplit).2

/-! ### The balance -/

/-- Nothing was counted, and there was nothing to count. -/
def Ledger.blank : Ledger := ⟨0, 0, 0, 0, 0, 0, 0, 0, []⟩

/-- What was counted is what there was to count, as far as the counters go. -/
structure Ledger.Balanced (b : Ledger) : Prop where
  txPackets_eq : b.txPackets = UInt32.ofNat (transmitted b.outcomes).length
  txBytes_eq : b.txBytes = UInt32.ofNat (transmitted b.outcomes).flatten.length
  txQueueFull_eq : b.txQueueFull = UInt32.ofNat (refused b.outcomes).length
  rxPackets_eq : b.rxPackets = b.ringPackets
  rxBytes_eq : b.rxBytes = b.ringBytes
  toNat_sequenceNumber : b.sequenceNumber.toNat = b.outcomes.length % 4096
  numbered : Numbered b.outcomes

theorem Ledger.balanced_blank : Ledger.blank.Balanced := ⟨rfl, rfl, rfl, rfl, rfl, rfl, .nil⟩

/-- The next number is right behind one more frame, whatever became of it. -/
theorem Ledger.Balanced.toNat_nextNumber (h : b.Balanced) (e : Event) :
    (nextNumber b.sequenceNumber).toNat = (e :: b.outcomes).length % 4096 := by
  rw [Link.toNat_nextNumber, h.toNat_sequenceNumber, List.length_cons, Nat.mod_add_mod]

/-- So is the number of that frame. -/
theorem Ledger.Balanced.numbered_sent (h : b.Balanced) {frame : List UInt8}
    (hstamped : IsStamped b.sequenceNumber frame) (accepted : Bool) :
    Numbered (.sent frame accepted :: b.outcomes) := by
  refine h.numbered.cons ?_
  rintro _ _ ⟨⟩
  exact ⟨b.sequenceNumber, hstamped, h.toNat_sequenceNumber⟩

/-- Each entry keeps the balance. -/
theorem Ledger.Balanced.entry (h : b.Balanced) (hentry : b.Entry b') : b'.Balanced := by
  -- What an entry does not mention is balanced as it was before.
  cases hentry with
  | accepted hstamped => exact {
      h with
      txPackets_eq := by
        simp only [transmitted_cons, Event.transmitted?, Option.toList_some, List.length_append,
          List.length_singleton, UInt32.ofNat_add, h.txPackets_eq]
        rfl
      txBytes_eq := by
        simp only [transmitted_cons, Event.transmitted?, Option.toList_some, List.flatten_append,
          List.flatten_singleton, List.length_append, UInt32.ofNat_add, h.txBytes_eq]
      toNat_sequenceNumber := h.toNat_nextNumber _
      numbered := h.numbered_sent hstamped true }
  | refused hstamped => exact {
      h with
      txQueueFull_eq := by
        simp only [refused_cons, Event.refused?, Option.toList_some, List.length_append,
          List.length_singleton, UInt32.ofNat_add, h.txQueueFull_eq]
        rfl
      toNat_sequenceNumber := h.toNat_nextNumber _
      numbered := h.numbered_sent hstamped false }
  | givenUp => exact {
      h with
      toNat_sequenceNumber := h.toNat_nextNumber _
      numbered := h.numbered.cons (by rintro _ _ ⟨⟩) }
  | delivered length => exact {
      h with
      rxPackets_eq := congrArg (· + 1) h.rxPackets_eq
      rxBytes_eq := congrArg (· + UInt32.ofNat length) h.rxBytes_eq }

theorem Ledger.Balanced.entries (h : b.Balanced) (hentries : Relation.ReflTransGen Entry b b') :
    b'.Balanced := by
  induction hentries with
  | refl => exact h
  | tail _ hentry ih => exact ih.entry hentry

/-! ### Links that keep count -/

/-- The number of frames that were started, be they sent or not. -/
def started (log : List Event) : Nat := log.countP Event.isTransmission

/-- What is logged besides frames is not picked. -/
theorem picked_filter {f : Event → Option (List UInt8)}
    (h : ∀ e, e.isTransmission = false → f e = none) (log : List Event) :
    picked f (log.filter Event.isTransmission) = picked f log := by
  have hpicks : (fun e => if e.isTransmission = true then f e else none) = f := by
    funext e
    split
    · rfl
    · rename_i he
      exact (h e (eq_false_of_ne_true he)).symm
  unfold picked
  rw [List.filterMap_filter, hpicks]

/-- The counters of a link tell what it did, as far as they go, and each frame was right to be sent
and holds its number. -/
structure KeepsCount (l : Link σ) : Prop where
  /-- The frames that the radio took, -/
  txPackets : l.shared.statistics.txPackets.toNat =
    (transmitted l.log).length % UInt32.size
  /-- their octets, -/
  txBytes : l.shared.statistics.txBytes.toNat =
    (transmitted l.log).flatten.length % UInt32.size
  /-- and those that it had no room for. -/
  txQueueFull : l.shared.statistics.txQueueFull.toNat =
    (refused l.log).length % UInt32.size
  /-- The packets for the host are counted just as its ring counts them. -/
  rxPackets : l.shared.statistics.rxPackets = l.shared.rx.counters.packets
  rxBytes : l.shared.statistics.rxBytes = l.shared.rx.counters.bytes
  /-- Each frame that was handed to the radio is long enough for a header and not too long, -/
  length_sent : ∀ {frame accepted}, .sent frame accepted ∈ l.log →
    24 ≤ frame.length ∧ frame.length ≤ 1600
  /-- and its header holds the number of frames that were started before it. -/
  sequenceControl_sent : ∀ {later frame accepted earlier},
    l.log = later ++ .sent frame accepted :: earlier →
    ∃ header body, Header.ofOctets? frame = some (header, body) ∧
      header.sequenceControl.toNat = 16 * (started earlier % 4096)

theorem keepsCount_of_balanced (h : l.ledger.Balanced) : l.KeepsCount := by
  have htransmitted : transmitted l.ledger.outcomes = transmitted l.log :=
    picked_filter (by intro e he; cases e <;> first | rfl | cases he) l.log
  have hrefused : refused l.ledger.outcomes = refused l.log :=
    picked_filter (by intro e he; cases e <;> first | rfl | cases he) l.log
  -- A frame stands in the ledger right where it stands among the frames of the log.
  have hstamped {later frame accepted earlier}
      (hsplit : l.log = later ++ .sent frame accepted :: earlier) :
      ∃ number, IsStamped number frame ∧ number.toNat = started earlier % 4096 := by
    rw [started, List.countP_eq_length_filter]
    refine h.numbered (later.filter Event.isTransmission) frame accepted _ ?_
    rw [ledger, hsplit, List.filter_append, List.filter_cons_of_pos rfl]
  constructor
  · rw [← htransmitted]
    exact congrArg UInt32.toNat h.txPackets_eq
  · rw [← htransmitted]
    exact congrArg UInt32.toNat h.txBytes_eq
  · rw [← hrefused]
    exact congrArg UInt32.toNat h.txQueueFull_eq
  · exact h.rxPackets_eq
  · exact h.rxBytes_eq
  · intro frame accepted hmem
    obtain ⟨later, earlier, hsplit⟩ := List.append_of_mem hmem
    obtain ⟨number, hnumber, -⟩ := hstamped hsplit
    exact ⟨hnumber.length_ge, hnumber.length_le⟩
  · intro later frame accepted earlier hsplit
    obtain ⟨number, hnumber, hvalue⟩ := hstamped hsplit
    obtain ⟨header, body, hread, hcontrol⟩ := hnumber.sequenceControl
    refine ⟨header, body, hread, ?_⟩
    rw [hcontrol, Frame.Draft.toNat_sequenceWord, hvalue, Nat.shiftLeft_eq]
    omega

theorem ledger_attach {settings : Settings} {address : MacAddress} {outside : σ} {s : SharedState}
    (h : attach settings address outside .fresh = (s, .ok l)) : l.ledger = .blank := by
  cases h
  rfl

/-- Whatever the radio answers and whatever the host does, as long as the latter does not count
itself: in every run of a link layer that was attached to fresh memory, the counters tell what
became of the frames and of the packets for the host, and the frames are numbered in turn. -/
theorem keepsCount_run {settings : Settings} {address : MacAddress} {outside : σ}
    {s : SharedState} (h : attach settings address outside .fresh = (s, .ok l))
    (env : Surroundings σ) (actions : List Action) (hspares : ∀ a ∈ actions, a.SparesCounters) :
    (run env actions l).KeepsCount := by
  have hbooks : Books l (run env actions l) := books_run env hspares l
  have hblank : l.ledger.Balanced := by
    rw [ledger_attach h]
    exact Ledger.balanced_blank
  exact keepsCount_of_balanced (hblank.entries hbooks)

/-- Taking packets out of the ring does not count them. -/
theorem sparesCounters_fetching : fetching.SparesCounters where
  statistics_eq _ := rfl
  counters_eq s := s.rx.counters_take

/-- Nor does putting packets into the other one. -/
theorem sparesCounters_pushing (packet : Packet) : (pushing packet).SparesCounters where
  statistics_eq s := by
    unfold pushing
    simp only
    split <;> rfl
  counters_eq s := congrArg Ring.counters (keeps_pushing packet s).2

/-- A radio that has room for every other frame. -/
def Surroundings.halving : Surroundings Bool where
  send _ room := (!room, room)
  tune _ room := room
  installKey _ room := room
  beginExchange _ _ _ room := room
  exchange _ room := (room, .refused)
  resetExchange room := room

/-- A peer of a session sends two packets, and the host one. -/
def exchangingActions : List Action := givingActions ++ [.host (pushing inbound), undisturbed]

theorem keepsCount_run_exchangingActions :
    ∃ s l, attach .standard networkAddress true .fresh = (s, .ok l) ∧
      (∀ a ∈ exchangingActions, a.SparesCounters) ∧
      (run .halving exchangingActions l).shared.statistics = ⟨2, 30, 2, 104, 2, 0, 0⟩ ∧
      (run .halving exchangingActions l).KeepsCount := by
  have hattached : attach .standard networkAddress true .fresh = (_, .ok _) := rfl
  have hspares : ∀ a ∈ exchangingActions, a.SparesCounters := by
    have hidle : HostMove.idle.SparesCounters := ⟨fun _ => rfl, fun _ => rfl⟩
    have hletting : lettingIn.SparesCounters := ⟨fun _ => rfl, fun _ => rfl⟩
    simp [exchangingActions, givingActions, hostingActions, heard, undisturbed,
      Action.SparesCounters, hidle, hletting, sparesCounters_fetching, sparesCounters_pushing]
  exact ⟨_, _, hattached, hspares, by decide +kernel, keepsCount_run hattached _ _ hspares⟩

end WlanControl.Link
