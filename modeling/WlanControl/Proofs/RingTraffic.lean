import WlanControl.Proofs.RingLayout

namespace WlanControl.Ring

/-!
# Rings — both sides at work

The producer and the consumer of a ring take their steps in any order.  Each side may hold something
across the steps of the other one: the producer the space of a record that it has not committed, the
consumer a record that it has not given back.

* `Traffic` — a ring with what each side holds, and the records that went through it since it was
  emptied last;
* `Traffic.step`, `Traffic.run` — one step of either side, and any number of them;
* `Traffic.Sound` — the invariant: the records that were committed and not given back lie in the
  buffer (`Layout`), the reserved space is free (`Reservation.Fits`), and the record that the
  consumer holds is the oldest one;
* `Traffic.Faithful` — what the two sides may rely on.

A step that a side cannot take, since it is not attached or still holds something, does nothing.

Main statement: `Traffic.faithful_run`, records arrive in order, once and unchanged, and nobody
writes where a record is still in use.
-/

variable {size : Nat}

/-! ### The state of both sides -/

/-- The side of the producer. -/
inductive Sender
  | detached
  | idle (p : Producer)
  /-- Space is set aside for a record, and the payload in it reads `draft` by now. -/
  | writing (p : Producer) (g : Reservation) (draft : List UInt8)
deriving DecidableEq, Repr

/-- The side of the consumer. -/
inductive Receiver
  | detached
  | idle
  /-- A record was taken and not given back yet. -/
  | reading (d : Delivery)
deriving DecidableEq, Repr

/-- The number of records in the hands of the consumer. -/
def Receiver.inHand : Receiver → Nat
  | .reading _ => 1
  | .detached | .idle => 0

/-- A ring at work.  All lists go back to the time when the ring was emptied last. -/
structure Traffic (size : Nat) where
  ring : Ring size
  sender : Sender
  receiver : Receiver
  /-- The records that were committed, oldest first. -/
  committed : List Entry
  /-- The records that the consumer has taken, as it read them, oldest first. -/
  popped : List Entry
  /-- How many records were given back. -/
  released : Nat
  /-- The lengths of the records that were counted as dropped, oldest first. -/
  dropped : List Nat
deriving DecidableEq, Repr

/-- A step of one side. -/
inductive Action
  | attachProducer
  | detachProducer
  | reserve (length : Nat)
  /-- Writes to the payload of the reserved record.  What is behind the given octets stays. -/
  | fill (octets : List UInt8)
  | commit
  | abandon
  /-- Counts a record that was not written. -/
  | drop (length : Nat)
  | attachConsumer
  | detachConsumer
  | pop
  | release
  /-- Empties the ring, if no side is attached. -/
  | reset
deriving DecidableEq, Repr

namespace Traffic

/-- A new ring without anybody attached. -/
def start (size : Nat) : Traffic size := ⟨.empty size, .detached, .detached, [], [], 0, []⟩

/-- The records that were committed and not given back, oldest first. -/
def pending (t : Traffic size) : List Entry := t.committed.drop t.released

/-! ### Steps -/

def attachProducer (t : Traffic size) : Traffic size :=
  match t.ring.attachProducer with
  | (ring, some p) => { t with ring, sender := .idle p }
  | (ring, none) => { t with ring }

def detachProducer (t : Traffic size) : Traffic size :=
  match t.sender with
  | .idle _ => { t with ring := t.ring.detachProducer, sender := .detached }
  | .detached | .writing _ _ _ => t

/-- The payload of a new record reads as the octets that happen to be there. -/
def reserve (length : Nat) (t : Traffic size) : Traffic size :=
  match t.sender, t.ring.reserve length with
  | .idle p, .ok g =>
    { t with sender := .writing p g (readOctets t.ring.storage (g.offset + headerSize) g.length) }
  | _, _ => t

def fill (octets : List UInt8) (t : Traffic size) : Traffic size :=
  match t.sender with
  | .writing p g draft =>
    { t with
      ring := t.ring.fill g octets
      sender := .writing p g (octets.take g.length ++ draft.drop octets.length) }
  | .detached | .idle _ => t

def commit (t : Traffic size) : Traffic size :=
  match t.sender with
  | .writing p g draft =>
    let (ring, p') := t.ring.commit g p
    { t with
      ring
      sender := .idle p'
      committed := t.committed ++ [⟨g.offset, p.sequence, draft⟩] }
  | .detached | .idle _ => t

def abandon (t : Traffic size) : Traffic size :=
  match t.sender with
  | .writing p _ _ => { t with sender := .idle p }
  | .detached | .idle _ => t

def drop (length : Nat) (t : Traffic size) : Traffic size :=
  match t.sender with
  | .idle _ => { t with ring := t.ring.recordDrop length, dropped := t.dropped ++ [length] }
  | .detached | .writing _ _ _ => t

def attachConsumer (t : Traffic size) : Traffic size :=
  match t.ring.attachConsumer with
  | (ring, true) => { t with ring, receiver := .idle }
  | (ring, false) => { t with ring }

def detachConsumer (t : Traffic size) : Traffic size :=
  match t.receiver with
  | .idle => { t with ring := t.ring.detachConsumer, receiver := .detached }
  | .detached | .reading _ => t

def pop (t : Traffic size) : Traffic size :=
  match t.receiver, t.ring.pop with
  | .idle, (ring, some d) =>
    { t with
      ring
      receiver := .reading d
      popped := t.popped ++ [⟨d.offset, d.sequence, ring.payload d⟩] }
  | .idle, (ring, none) => { t with ring }
  | _, _ => t

def release (t : Traffic size) : Traffic size :=
  match t.receiver with
  | .reading d =>
    { t with ring := t.ring.release d, receiver := .idle, released := t.released + 1 }
  | .detached | .idle => t

def reset (t : Traffic size) : Traffic size :=
  match t.ring.reset with
  | (ring, .ok ()) => { t with ring, committed := [], popped := [], released := 0, dropped := [] }
  | (ring, .error _) => { t with ring }

/-- One step of either side. -/
def step (t : Traffic size) : Action → Traffic size
  | .attachProducer => t.attachProducer
  | .detachProducer => t.detachProducer
  | .reserve length => t.reserve length
  | .fill octets => t.fill octets
  | .commit => t.commit
  | .abandon => t.abandon
  | .drop length => t.drop length
  | .attachConsumer => t.attachConsumer
  | .detachConsumer => t.detachConsumer
  | .pop => t.pop
  | .release => t.release
  | .reset => t.reset

/-- Any number of steps, in the given order. -/
def run (actions : List Action) (t : Traffic size) : Traffic size := actions.foldl step t

theorem ring_attachProducer (t : Traffic size) :
    t.attachProducer.ring = t.ring.attachProducer.1 := by
  unfold attachProducer
  split <;> simp only [*]

theorem ring_attachConsumer (t : Traffic size) :
    t.attachConsumer.ring = t.ring.attachConsumer.1 := by
  unfold attachConsumer
  split <;> simp only [*]

/-! ### The invariant -/

/-- What the producer holds is free space, and the payload in it reads as the producer left it. -/
def SenderSound (r : Ring size) (s : Sender) : Prop :=
  ∀ p g draft, s = .writing p g draft →
    g.Fits size r.readOffset r.writeOffset ∧
      readOctets r.storage (g.offset + headerSize) g.length = draft

/-- What the consumer holds is the oldest record that was not given back. -/
def ReceiverSound (r : Ring size) (pending : List Entry) (s : Receiver) : Prop :=
  ∀ d, s = .reading d →
    ∃ e rest, pending = e :: rest ∧ d = e.delivery ∧ r.readOffset = e.offset

/-- What holds between any two steps. -/
structure Sound (t : Traffic size) : Prop where
  layout : Layout t.ring.storage t.ring.readOffset t.ring.writeOffset t.pending
  sender : SenderSound t.ring t.sender
  receiver : ReceiverSound t.ring t.pending t.receiver
  released_le : t.released ≤ t.committed.length
  popped_eq : t.popped = t.committed.take (t.released + t.receiver.inHand)
  producer_attached : t.ring.producerAttached = true ↔ t.sender ≠ .detached
  consumer_attached : t.ring.consumerAttached = true ↔ t.receiver ≠ .detached

section Pending

variable {t : Traffic size} {e : Entry} {rest : List Entry}

/-- The oldest record that was not given back is the one after those that were. -/
theorem getElem?_committed (hpending : t.pending = e :: rest) :
    t.committed[t.released]? = some e := by
  have hhead : t.pending[0]? = some e := by rw [hpending]; rfl
  rwa [pending, List.getElem?_drop, Nat.add_zero] at hhead

theorem released_lt (hpending : t.pending = e :: rest) : t.released < t.committed.length :=
  (List.getElem?_eq_some_iff.mp (getElem?_committed hpending)).1

end Pending

namespace Sound

variable {t : Traffic size}

/-- The consumer has not taken more records than were committed. -/
theorem inHand_le (h : t.Sound) : t.released + t.receiver.inHand ≤ t.committed.length := by
  cases hreceiver : t.receiver with
  | reading d =>
    obtain ⟨e, rest, hpending, -, -⟩ := h.receiver d hreceiver
    exact released_lt hpending
  | detached | idle => exact h.released_le

/-- A new ring is in order. -/
theorem start (hsize : Admits size) : (Traffic.start size).Sound where
  layout := Layout.nil (by have := hsize.1; show 0 + headerSize ≤ size; omega)
  sender := by intro p g draft h; cases h
  receiver := by intro d h; cases h
  released_le := Nat.le_refl _
  popped_eq := rfl
  producer_attached := by simp [Traffic.start, Ring.empty]
  consumer_attached := by simp [Traffic.start, Ring.empty]

/-! ### Steps of the producer -/

theorem attachProducer (h : t.Sound) : t.attachProducer.Sound := by
  cases hattached : t.ring.producerAttached with
  | false =>
    have hstep : t.attachProducer
        = { t with ring.producerAttached := true, sender := .idle ⟨0⟩ } := by
      simp [Traffic.attachProducer, Ring.attachProducer, hattached]
    rw [hstep]
    exact { h with
      sender := by intro p g draft h; cases h
      producer_attached := by simp }
  | true =>
    have hstep : t.attachProducer = { t with ring.producerAttached := true } := by
      simp [Traffic.attachProducer, Ring.attachProducer, hattached]
    rw [hstep]
    exact { h with
      sender := h.sender
      producer_attached := by simpa [hattached] using h.producer_attached }

theorem detachProducer (h : t.Sound) : t.detachProducer.Sound := by
  unfold Traffic.detachProducer
  split
  · exact { h with
      sender := by intro p g draft h; cases h
      producer_attached := by simp [Ring.detachProducer] }
  · exact h
  · exact h

theorem reserve (h : t.Sound) (length : Nat) : (t.reserve length).Sound := by
  unfold Traffic.reserve
  split
  · rename_i p g hsender hg
    -- The payload of the new record is whatever was there.
    have hfits := Reservation.fits_of_reserve h.layout.offsets.1 hg
    refine { h with sender := ?_, producer_attached := ?_ }
    · intro p' g' draft heq
      cases heq
      exact ⟨hfits.1, rfl⟩
    · simpa [hsender] using h.producer_attached
  · exact h

theorem fill (h : t.Sound) (octets : List UInt8) : (t.fill octets).Sound := by
  unfold Traffic.fill
  split
  · rename_i p g draft hsender
    obtain ⟨hfits, hdraft⟩ := h.sender p g draft hsender
    refine { h with
      layout := h.layout.congr_of_fits hfits fun i hi => getElem?_fill hi
      sender := ?_
      producer_attached := ?_ }
    · intro p' g' draft' heq
      cases heq
      exact ⟨hfits, readOctets_fill (hfits.finish_le h.layout.offsets.1) hdraft⟩
    · exact iff_of_true (h.producer_attached.mpr (by simp [hsender])) (by simp)
  · exact h
  · exact h

theorem commit (hsize : Admits size) (h : t.Sound) : t.commit.Sound := by
  cases hsender : t.sender with
  | detached => simpa only [Traffic.commit, hsender] using h
  | idle p => simpa only [Traffic.commit, hsender] using h
  | writing p g draft =>
    obtain ⟨hfits, hdraft⟩ := h.sender p g draft hsender
    have hlayout := h.layout.commit (p := p) hsize.2 hfits hdraft
    obtain ⟨hreadOffset, -, hproducer, hconsumer⟩ := offsets_commit t.ring g p
    simp only [Traffic.commit, hsender]
    -- From here on only these facts about the ring after the step matter.
    generalize (t.ring.commit g p).1 = ring at *
    generalize he : (⟨g.offset, p.sequence, draft⟩ : Entry) = e at *
    have hpending : (t.committed ++ [e]).drop t.released = t.pending ++ [e] :=
      List.drop_append_of_le_length h.released_le
    refine ⟨?_, ?_, ?_, ?_, ?_, ?_, ?_⟩
    · simp only [pending]
      rw [hpending]
      exact hlayout
    · intro p' g' draft' heq; cases heq
    · -- The oldest record stays the oldest one.
      intro d hd
      obtain ⟨first, rest, hfirst, hdelivery, hoffset⟩ := h.receiver d hd
      refine ⟨first, rest ++ [e], ?_, hdelivery, hreadOffset.trans hoffset⟩
      simp only [pending]
      rw [hpending, hfirst, List.cons_append]
    · have := h.released_le
      simp only [List.length_append]
      omega
    · simp only
      rw [List.take_append_of_le_length h.inHand_le]
      exact h.popped_eq
    · exact iff_of_true (hproducer.trans (h.producer_attached.mpr (by simp [hsender]))) (by simp)
    · simp only [hconsumer]
      exact h.consumer_attached

theorem abandon (h : t.Sound) : t.abandon.Sound := by
  unfold Traffic.abandon
  split
  · rename_i p g draft hsender
    refine { h with sender := ?_, producer_attached := ?_ }
    · intro p' g' draft' heq; cases heq
    · simpa [hsender] using h.producer_attached
  · exact h
  · exact h

theorem drop (h : t.Sound) (length : Nat) : (t.drop length).Sound := by
  unfold Traffic.drop
  split
  · exact { h with sender := h.sender, producer_attached := h.producer_attached }
  · exact h
  · exact h

/-! ### Steps of the consumer -/

theorem attachConsumer (h : t.Sound) : t.attachConsumer.Sound := by
  cases hattached : t.ring.consumerAttached with
  | false =>
    -- A consumer that is gone has given its record back.
    have hdetached : t.receiver = .detached := by
      simpa [hattached] using h.consumer_attached
    have hstep : t.attachConsumer
        = { t with ring.consumerAttached := true, receiver := .idle } := by
      simp [Traffic.attachConsumer, Ring.attachConsumer, hattached]
    rw [hstep]
    exact { h with
      sender := h.sender
      receiver := by intro d h; cases h
      popped_eq := by simpa [hdetached, Receiver.inHand] using h.popped_eq
      consumer_attached := by simp }
  | true =>
    have hstep : t.attachConsumer = { t with ring.consumerAttached := true } := by
      simp [Traffic.attachConsumer, Ring.attachConsumer, hattached]
    rw [hstep]
    exact { h with
      sender := h.sender
      receiver := h.receiver
      consumer_attached := by simpa [hattached] using h.consumer_attached }

theorem detachConsumer (h : t.Sound) : t.detachConsumer.Sound := by
  unfold Traffic.detachConsumer
  split
  · rename_i hreceiver
    exact { h with
      sender := h.sender
      receiver := by intro d h; cases h
      popped_eq := by simpa [hreceiver, Receiver.inHand] using h.popped_eq
      consumer_attached := by simp [Ring.detachConsumer] }
  · exact h
  · exact h

/-- What is popped is the oldest record, as it was committed. -/
theorem pop_of_pending (h : t.Sound) {e : Entry} {rest : List Entry}
    (hreceiver : t.receiver = .idle) (hpending : t.pending = e :: rest) :
    t.pop = { t with
      ring.readOffset := e.offset
      receiver := .reading e.delivery
      popped := t.popped ++ [e] } := by
  have hlayout := h.layout
  rw [hpending] at hlayout
  obtain ⟨hpop, hnext, -⟩ := pop_of_layout_cons hlayout
  have hpayload : ({ t.ring with readOffset := e.offset } : Ring size).payload e.delivery
      = e.payload := (hnext.standsIn e (List.mem_cons_self ..)).payload_eq
  simp only [Traffic.pop, hreceiver, hpop, hpayload]
  rfl

theorem pop (h : t.Sound) : t.pop.Sound := by
  cases hreceiver : t.receiver with
  | detached => simpa only [Traffic.pop, hreceiver] using h
  | reading d => simpa only [Traffic.pop, hreceiver] using h
  | idle =>
    have hlayout := h.layout
    cases hpending : t.pending with
    | nil =>
      rw [hpending] at hlayout
      have hstep : t.pop = t := by
        simp only [Traffic.pop, hreceiver, pop_of_layout_nil hlayout]
        rw [← hreceiver]
      rw [hstep]
      exact h
    | cons e rest =>
      rw [hpending] at hlayout
      obtain ⟨-, hnext, hadvance⟩ := pop_of_layout_cons hlayout
      rw [h.pop_of_pending hreceiver hpending]
      refine ⟨?_, ?_, ?_, h.released_le, ?_, h.producer_attached, ?_⟩
      · show Layout _ _ _ t.pending
        rw [hpending]
        exact hnext
      · -- A reservation stays free space when the read offset moves on.
        intro p g draft heq
        obtain ⟨hfits, hdraft⟩ := h.sender p g draft heq
        exact ⟨hfits.advance hadvance, hdraft⟩
      · intro d hd
        cases hd
        exact ⟨e, rest, hpending, rfl, rfl⟩
      · show t.popped ++ [e] = t.committed.take (t.released + 1)
        rw [List.take_add_one, getElem?_committed hpending, h.popped_eq, hreceiver]
        rfl
      · simpa [hreceiver] using h.consumer_attached

theorem release (h : t.Sound) : t.release.Sound := by
  unfold Traffic.release
  split
  · rename_i d hreceiver
    obtain ⟨e, rest, hpending, rfl, hread⟩ := h.receiver d hreceiver
    have hlayout := h.layout
    rw [hpending, hread] at hlayout
    obtain ⟨hrest, hadvance⟩ := hlayout.release
    have hoffset : (t.ring.release e.delivery).readOffset = e.offset + e.span := by
      rw [Entry.span, ← Nat.add_assoc]
      rfl
    have hpending' : t.committed.drop (t.released + 1) = rest := by
      have := congrArg List.tail hpending
      rwa [pending, List.tail_drop] at this
    refine ⟨?_, ?_, ?_, released_lt hpending, ?_, h.producer_attached, ?_⟩
    · show Layout t.ring.storage (t.ring.release e.delivery).readOffset t.ring.writeOffset
        (t.committed.drop (t.released + 1))
      rw [hoffset, hpending']
      exact hrest
    · intro p g draft heq
      obtain ⟨hfits, hdraft⟩ := h.sender p g draft heq
      rw [hread] at hfits
      refine ⟨?_, hdraft⟩
      rw [hoffset]
      exact hfits.advance hadvance
    · intro d hd; cases hd
    · simpa [hreceiver, Receiver.inHand] using h.popped_eq
    · exact iff_of_true (h.consumer_attached.mpr (by simp [hreceiver])) (by simp)
  · exact h
  · exact h

/-! ### Runs -/

/-- Only a ring that nobody is attached to is emptied, and then it is as good as new. -/
theorem reset (hsize : Admits size) (h : t.Sound) : t.reset.Sound := by
  cases hattached : t.ring.producerAttached || t.ring.consumerAttached with
  | true => simpa only [Traffic.reset, Ring.reset, hattached, if_true] using h
  | false =>
    rw [Bool.or_eq_false_iff] at hattached
    have hsender : t.sender = .detached := by simpa [hattached.1] using h.producer_attached
    have hreceiver : t.receiver = .detached := by simpa [hattached.2] using h.consumer_attached
    simp only [Traffic.reset, Ring.reset, hattached.1, hattached.2, Bool.or_self, if_neg,
      Bool.false_eq_true, not_false_eq_true]
    refine ⟨?_, ?_, ?_, Nat.le_refl _, by simp, ?_, ?_⟩
    · exact Layout.nil (by have := hsize.1; show 0 + headerSize ≤ size; omega)
    · intro p g draft heq; simp [hsender] at heq
    · intro d hd; simp [hreceiver] at hd
    · simpa [hattached.1] using h.producer_attached
    · simpa [hattached.2] using h.consumer_attached

/-- Every step keeps the invariant. -/
theorem step (hsize : Admits size) (h : t.Sound) (a : Action) : (t.step a).Sound := by
  cases a with
  | attachProducer => exact h.attachProducer
  | detachProducer => exact h.detachProducer
  | reserve length => exact h.reserve length
  | fill octets => exact h.fill octets
  | commit => exact h.commit hsize
  | abandon => exact h.abandon
  | drop length => exact h.drop length
  | attachConsumer => exact h.attachConsumer
  | detachConsumer => exact h.detachConsumer
  | pop => exact h.pop
  | release => exact h.release
  | reset => exact h.reset hsize

/-- Every run keeps the invariant. -/
theorem run (hsize : Admits size) (h : t.Sound) (actions : List Action) :
    (Traffic.run actions t).Sound := by
  induction actions generalizing t with
  | nil => exact h
  | cons a rest ih => exact ih (h.step hsize a)

end Sound

/-! ### What both sides may rely on -/

/-- What the two sides of a ring may rely on at any time. -/
structure Faithful (t : Traffic size) : Prop where
  /-- Records are popped in the order in which they were committed, each of them once, and with the
  number and the octets that were committed. -/
  in_order : t.popped <+: t.committed
  /-- A record reads as it was committed for as long as the consumer holds it. -/
  held : ∀ d, t.receiver = .reading d →
    ∃ e, t.popped.getLast? = some e ∧ d = e.delivery ∧ t.ring.payload d = e.payload
  /-- The next record to be popped is the oldest one that was not popped yet.  If there is none,
  nothing is popped, whatever else was reserved. -/
  next : t.receiver = .idle →
    t.ring.pop.2 = (t.committed[t.popped.length]?).map Entry.delivery
  /-- Reserved space is inside the buffer and touches no record that was not given back. -/
  apart : ∀ p g draft, t.sender = .writing p g draft → ∀ i, g.Covers i →
    i < size ∧ ∀ e ∈ t.pending, ¬ e.Covers i
  /-- Nothing is written but the reserved space. -/
  confined : ∀ p g draft, t.sender = .writing p g draft → ∀ i, ¬ g.Covers i →
    (∀ octets, (t.ring.fill g octets).storage[i]? = t.ring.storage[i]?) ∧
      (t.ring.commit g p).1.storage[i]? = t.ring.storage[i]?
  /-- There is never more than one producer, nor more than one consumer. -/
  attached : (t.ring.producerAttached = true ↔ t.sender ≠ .detached) ∧
    (t.ring.consumerAttached = true ↔ t.receiver ≠ .detached)

namespace Sound

variable {t : Traffic size}

/-- The record in the hands of the consumer is the last one that was popped. -/
theorem getLast?_popped (h : t.Sound) {d : Delivery} (hreceiver : t.receiver = .reading d)
    {e : Entry} {rest : List Entry} (hpending : t.pending = e :: rest) :
    t.popped.getLast? = some e := by
  rw [h.popped_eq, hreceiver]
  simp only [Receiver.inHand, List.take_add_one, getElem?_committed hpending]
  simp

/-- While the consumer holds nothing, the records that were not popped are those that were not given
back. -/
theorem length_popped (h : t.Sound) (hreceiver : t.receiver = .idle) :
    t.popped.length = t.released := by
  rw [h.popped_eq, hreceiver, List.length_take]
  have := h.released_le
  simp only [Receiver.inHand]
  omega

theorem faithful (h : t.Sound) : t.Faithful where
  in_order := by rw [h.popped_eq]; exact List.take_prefix _ _
  held := by
    intro d hreceiver
    obtain ⟨e, rest, hpending, rfl, hread⟩ := h.receiver d hreceiver
    have hmem : e ∈ t.pending := by rw [hpending]; exact List.mem_cons_self ..
    exact ⟨e, h.getLast?_popped hreceiver hpending, rfl, (h.layout.standsIn e hmem).payload_eq⟩
  next := by
    intro hreceiver
    have hlayout := h.layout
    have hfirst : t.committed[t.popped.length]? = t.pending[0]? := by
      rw [h.length_popped hreceiver, pending, List.getElem?_drop, Nat.add_zero]
    rw [hfirst]
    cases hpending : t.pending with
    | nil => rw [hpending] at hlayout; rw [pop_of_layout_nil hlayout]; rfl
    | cons e rest => rw [hpending] at hlayout; rw [(pop_of_layout_cons hlayout).1]; rfl
  apart := by
    intro p g draft hsender i hi
    obtain ⟨hfits, -⟩ := h.sender p g draft hsender
    exact ⟨hfits.lt_size h.layout.offsets.2 hi,
      fun e he => h.layout.not_covers hfits he hi⟩
  confined := fun _ _ _ _ _ hi => ⟨fun _ => getElem?_fill hi, getElem?_commit hi⟩
  attached := ⟨h.producer_attached, h.consumer_attached⟩

end Sound

/-- Whatever steps both sides take in whatever order, records arrive in order, once and unchanged,
none of them gets lost, and nobody writes where a record is still in use. -/
theorem faithful_run (hsize : Admits size) (actions : List Action) :
    (run actions (start size)).Faithful :=
  ((Sound.start hsize).run hsize actions).faithful

/-- Steps by which each side goes on while the other one holds something, until a record lies behind
a wrap marker. -/
def overlappingSteps : List Action :=
  [.attachProducer, .attachConsumer, .reserve 3, .fill [1, 2, 3], .commit, .pop, .reserve 1,
    .fill [9], .release, .commit, .reserve 2, .pop, .release, .fill [5, 6], .commit, .reserve 0,
    .abandon, .pop]

theorem faithful_run_overlappingSteps :
    Admits 16 ∧
      (run overlappingSteps (start 16)).popped
        = [⟨0, 0, [1, 2, 3]⟩, ⟨7, 1, [9]⟩, ⟨0, 2, [5, 6]⟩] ∧
      (run overlappingSteps (start 16)).Faithful :=
  ⟨⟨by decide, by decide⟩, by decide, faithful_run ⟨by decide, by decide⟩ overlappingSteps⟩

end Traffic

end WlanControl.Ring
