import WlanControl.Proofs.RingTraffic

namespace WlanControl.Ring

/-!
# Rings — room in a drained ring

A record is never split, so an empty ring has room for it only where enough octets stand together:
in front of the end of the buffer or at its start.  Once the consumer has given everything back,
both offsets are in the same place, and they stay there until the next record is committed.  A
record that does not fit on either side of that place is refused as often as it is tried, although
the refusal is the one that says "not now" rather than "never".

* `HasRoom` — room for a payload in an empty ring whose offsets are at a given place;
* `reserve_of_hasRoom`, `reserve_of_not_hasRoom` — what the producer is told there;
* `Action.Waits` — the steps that leave the place alone, and `Traffic.run_waits` for any number of
  them;
* `Traffic.oneRecord` — the steps after which a record of the same length as the one before finds no
  room.

Main statement: `Traffic.room_of_drained`, which says for which payloads a drained ring has room,
that the others never get in by waiting, and that room is certain for just those payloads of which
two fit into the buffer side by side.
-/

variable {size : Nat}

/-- In an empty ring with both offsets at `offset`, a payload of `length` octets fits in front of
the end of the buffer, or in front of the offset. -/
def HasRoom (size offset length : Nat) : Prop :=
  offset + (headerSize + length) + headerSize ≤ size ∨ headerSize + length < offset

instance (size offset length : Nat) : Decidable (HasRoom size offset length) :=
  inferInstanceAs (Decidable (_ ∨ _))

section Drained

variable {r : Ring size} {length : Nat}

/-- The payload gets its place if there is one. -/
theorem reserve_of_hasRoom (hsame : r.readOffset = r.writeOffset)
    (hlength : length ≤ maxPayload size) (hroom : HasRoom size r.writeOffset length) :
    ∃ g, r.reserve length = .ok g := by
  unfold reserve
  rw [if_neg (Nat.not_lt_of_le hlength)]
  simp only
  rw [if_pos (Nat.le_of_eq hsame)]
  by_cases hend : r.writeOffset + (headerSize + length) + headerSize ≤ size
  · rw [if_pos hend]
    exact ⟨_, rfl⟩
  · have hstart : headerSize + length < r.readOffset := hsame ▸ hroom.resolve_left hend
    rw [if_neg hend, if_pos hstart]
    exact ⟨_, rfl⟩

/-- Without such a place the ring claims to be full. -/
theorem reserve_of_not_hasRoom (hsame : r.readOffset = r.writeOffset)
    (hlength : length ≤ maxPayload size) (hroom : ¬ HasRoom size r.writeOffset length) :
    r.reserve length = .error .full := by
  obtain ⟨hend, hstart⟩ := not_or.mp hroom
  rw [← hsame] at hstart
  unfold reserve
  rw [if_neg (Nat.not_lt_of_le hlength)]
  simp only
  rw [if_pos (Nat.le_of_eq hsame), if_neg hend, if_neg hstart]

end Drained

/-- Wherever the offsets are, there is room for a payload of which two fit side by side. -/
theorem hasRoom_of_twice {length : Nat} (htwice : 2 * length + 3 * headerSize ≤ size)
    (offset : Nat) : HasRoom size offset length := by
  unfold HasRoom
  omega

/-- The steps of both sides that neither commit a record nor empty the ring.  All that a producer
does while it waits for room is among them. -/
def Action.Waits : Action → Prop
  | .commit | .reset => False
  | .attachProducer | .detachProducer | .reserve _ | .fill _ | .abandon | .drop _
  | .attachConsumer | .detachConsumer | .pop | .release => True

namespace Traffic

variable {t : Traffic size}

namespace Sound

/-! ### Waiting at a drained ring -/

/-- In a drained ring the consumer holds nothing. -/
theorem not_reading (h : t.Sound) (hdrained : t.pending = []) (d : Delivery) :
    t.receiver ≠ .reading d := by
  intro hreceiver
  obtain ⟨e, rest, hpending, -, -⟩ := h.receiver d hreceiver
  rw [hdrained] at hpending
  cases hpending

/-- In a drained ring nothing is popped. -/
theorem pop_of_drained (h : t.Sound) (hdrained : t.pending = []) : t.pop = t := by
  have hpop : t.ring.pop = (t.ring, none) := pop_of_layout_nil (hdrained ▸ h.layout)
  cases hreceiver : t.receiver with
  | idle =>
    simp only [Traffic.pop, hreceiver, hpop]
    rw [← hreceiver]
  | detached | reading d => simp only [Traffic.pop, hreceiver]

/-- A drained ring stays drained while the producer waits, and its offsets stay where they are. -/
theorem step_waits (h : t.Sound) (hdrained : t.pending = []) {a : Action} (ha : a.Waits) :
    (t.step a).pending = [] ∧ (t.step a).ring.writeOffset = t.ring.writeOffset := by
  -- Only steps of the consumer could move an offset, and it has nothing to take or to give back.
  cases a with
  | commit => cases ha
  | reset => cases ha
  | pop =>
    rw [Traffic.step, h.pop_of_drained hdrained]
    exact ⟨hdrained, rfl⟩
  | release =>
    simp only [Traffic.step, Traffic.release]
    split
    · exact absurd ‹_› (h.not_reading hdrained _)
    · exact ⟨hdrained, rfl⟩
    · exact ⟨hdrained, rfl⟩
  | attachProducer =>
    refine ⟨?_, (congrArg Ring.writeOffset (ring_attachProducer t)).trans rfl⟩
    simp only [Traffic.step, Traffic.attachProducer]
    split <;> exact hdrained
  | detachProducer =>
    simp only [Traffic.step, Traffic.detachProducer]
    split <;> exact ⟨hdrained, rfl⟩
  | reserve length =>
    simp only [Traffic.step, Traffic.reserve]
    split <;> exact ⟨hdrained, rfl⟩
  | fill octets =>
    simp only [Traffic.step, Traffic.fill]
    split <;> exact ⟨hdrained, rfl⟩
  | abandon =>
    simp only [Traffic.step, Traffic.abandon]
    split <;> exact ⟨hdrained, rfl⟩
  | drop length =>
    simp only [Traffic.step, Traffic.drop]
    split <;> exact ⟨hdrained, rfl⟩
  | attachConsumer =>
    refine ⟨?_, (congrArg Ring.writeOffset (ring_attachConsumer t)).trans rfl⟩
    simp only [Traffic.step, Traffic.attachConsumer]
    split <;> exact hdrained
  | detachConsumer =>
    simp only [Traffic.step, Traffic.detachConsumer]
    split <;> exact ⟨hdrained, rfl⟩

/-- The same for any number of steps. -/
theorem run_waits (hsize : Admits size) (h : t.Sound) (hdrained : t.pending = [])
    {waiting : List Action} (hwaiting : ∀ a ∈ waiting, a.Waits) :
    (Traffic.run waiting t).pending = [] ∧
      (Traffic.run waiting t).ring.writeOffset = t.ring.writeOffset := by
  induction waiting generalizing t with
  | nil => exact ⟨hdrained, rfl⟩
  | cons a rest ih =>
    obtain ⟨hstill, hwrite⟩ := h.step_waits hdrained (hwaiting a (List.mem_cons_self ..))
    obtain ⟨hfinal, hwrite'⟩ :=
      ih (h.step hsize a) hstill fun b hb => hwaiting b (List.mem_cons_of_mem _ hb)
    exact ⟨hfinal, hwrite'.trans hwrite⟩

/-- The verdict on a payload is the same however long the producer waits at a drained ring. -/
theorem reserve_waits (hsize : Admits size) (h : t.Sound) (hdrained : t.pending = [])
    {length : Nat} (hlength : length ≤ maxPayload size)
    (hroom : ¬ HasRoom size t.ring.writeOffset length) {waiting : List Action}
    (hwaiting : ∀ a ∈ waiting, a.Waits) :
    (Traffic.run waiting t).ring.reserve length = .error .full := by
  obtain ⟨hstill, hwrite⟩ := h.run_waits hsize hdrained hwaiting
  have hsame := (hstill ▸ (h.run hsize waiting).layout).eq_of_nil
  exact reserve_of_not_hasRoom hsame hlength (hwrite ▸ hroom)

/-! ### One record through the ring -/

/-- A record that gets its place in a drained ring is popped and given back, and leaves both offsets
behind it. -/
theorem pass (hsize : Admits size) (h : t.Sound) (hdrained : t.pending = []) {p : Producer}
    (hsender : t.sender = .idle p) (hreceiver : t.receiver = .idle) {length : Nat}
    {g : Reservation} (hg : t.ring.reserve length = .ok g) :
    (Traffic.run [.reserve length, .commit, .pop, .release] t).pending = [] ∧
      (Traffic.run [.reserve length, .commit, .pop, .release] t).ring.writeOffset
        = g.offset + headerSize + g.length := by
  generalize hdraft : readOctets t.ring.storage (g.offset + headerSize) g.length = draft
  generalize he : (⟨g.offset, p.sequence, draft⟩ : Entry) = e
  -- All records before this one were given back, so it is the only one after its commit.
  have hreleased : t.released = t.committed.length :=
    Nat.le_antisymm h.released_le (List.drop_eq_nil_iff.mp hdrained)
  have hcommitted : Traffic.run [.reserve length, .commit] t = { t with
      ring := (t.ring.commit g p).1
      sender := .idle (t.ring.commit g p).2
      committed := t.committed ++ [e] } := by
    simp only [Traffic.run, List.foldl_cons, List.foldl_nil, Traffic.step, Traffic.reserve,
      hsender, hg, hdraft, Traffic.commit, he]
  have hsound := h.run hsize [.reserve length, .commit]
  have hpending : (Traffic.run [.reserve length, .commit] t).pending = [e] := by
    rw [hcommitted]
    simp only [pending]
    rw [hreleased, List.drop_left]
  have hpop := hsound.pop_of_pending (by rw [hcommitted]; exact hreceiver) hpending
  have hrun : Traffic.run [.reserve length, .commit, .pop, .release] t
      = ((Traffic.run [.reserve length, .commit] t).pop).release := rfl
  rw [hrun, hpop, hcommitted]
  refine ⟨?_, (offsets_commit t.ring g p).2.1⟩
  simp only [Traffic.release, pending]
  rw [hreleased]
  exact List.drop_eq_nil_of_le (by simp)

end Sound

/-- The steps by which a new ring gets its two sides and one record goes through it. -/
def oneRecord (length : Nat) : List Action :=
  [.attachProducer, .attachConsumer, .reserve length, .commit, .pop, .release]

/-- Every record that fits at all goes through a new ring, and leaves both offsets behind it. -/
theorem run_oneRecord (hsize : Admits size) {length : Nat} (hlength : length ≤ maxPayload size) :
    (run (oneRecord length) (start size)).pending = [] ∧
      (run (oneRecord length) (start size)).ring.writeOffset = headerSize + length := by
  have hend : 0 + (headerSize + length) + headerSize ≤ size := by
    have := hsize.1
    unfold maxPayload headerSize at *
    omega
  have hreserve : (run [.attachProducer, .attachConsumer] (start size)).ring.reserve length
      = .ok ⟨0, length, none⟩ := by
    unfold Ring.reserve
    rw [if_neg (Nat.not_lt_of_le hlength)]
    exact (if_pos (Nat.le_refl 0)).trans (if_pos hend)
  have hpass := ((Sound.start hsize).run hsize [.attachProducer, .attachConsumer]).pass hsize rfl
    rfl rfl hreserve
  rw [Nat.zero_add] at hpass
  exact hpass

/-! ### Which payloads get in -/

/-- What a producer may rely on that waits with a payload until the consumer has given everything
back.  Whether the payload gets in depends on where the offsets are by then, and if it does not, no
waiting helps.  It is certain to get in only if two of its kind fit into the buffer side by side. -/
theorem room_of_drained (hsize : Admits size) {length : Nat} (hlength : length ≤ maxPayload size) :
    (∀ actions, (run actions (start size)).pending = [] →
      ((∃ g, (run actions (start size)).ring.reserve length = .ok g) ↔
        HasRoom size (run actions (start size)).ring.writeOffset length) ∧
      (¬ HasRoom size (run actions (start size)).ring.writeOffset length →
        ∀ waiting : List Action, (∀ a ∈ waiting, a.Waits) →
          (run (actions ++ waiting) (start size)).ring.reserve length = .error .full)) ∧
    ((∀ actions, (run actions (start size)).pending = [] →
        ∃ g, (run actions (start size)).ring.reserve length = .ok g) ↔
      2 * length + 3 * headerSize ≤ size) := by
  have hsound (actions : List Action) : (run actions (start size)).Sound :=
    (Sound.start hsize).run hsize actions
  have hverdict : ∀ actions, (run actions (start size)).pending = [] →
      ((∃ g, (run actions (start size)).ring.reserve length = .ok g) ↔
        HasRoom size (run actions (start size)).ring.writeOffset length) := by
    intro actions hdrained
    have hsame := (hdrained ▸ (hsound actions).layout).eq_of_nil
    refine ⟨fun ⟨g, hg⟩ => Decidable.of_not_not fun hroom => ?_, reserve_of_hasRoom hsame hlength⟩
    rw [reserve_of_not_hasRoom hsame hlength hroom] at hg
    cases hg
  refine ⟨fun actions hdrained => ⟨hverdict actions hdrained, ?_⟩, ?_, ?_⟩
  · intro hroom waiting hwaiting
    rw [run, List.foldl_append]
    exact (hsound actions).reserve_waits hsize hdrained hlength hroom hwaiting
  · -- One record of the same length before it is enough to leave too little on either side.
    intro hcertain
    obtain ⟨hdrained, hwrite⟩ := run_oneRecord hsize hlength
    have hroom := (hverdict _ hdrained).mp (hcertain _ hdrained)
    rw [hwrite] at hroom
    unfold HasRoom at hroom
    omega
  · intro htwice actions hdrained
    exact (hverdict actions hdrained).mpr (hasRoom_of_twice htwice _)

theorem room_of_drained_halfFilled :
    Admits 16 ∧ 3 ≤ maxPayload 16 ∧
      (run (oneRecord 3) (start 16)).pending = [] ∧
      ¬ HasRoom 16 (run (oneRecord 3) (start 16)).ring.writeOffset 3 ∧
      ∀ waiting : List Action, (∀ a ∈ waiting, a.Waits) →
        (run (oneRecord 3 ++ waiting) (start 16)).ring.reserve 3 = .error .full := by
  have hdrained : (run (oneRecord 3) (start 16)).pending = [] := by decide
  have hroom : ¬ HasRoom 16 (run (oneRecord 3) (start 16)).ring.writeOffset 3 := by decide
  exact ⟨⟨by decide, by decide⟩, by decide, hdrained, hroom,
    ((room_of_drained ⟨by decide, by decide⟩ (by decide)).1 _ hdrained).2 hroom⟩

/-- A drained ring need not have room for every payload that fits into an empty one. -/
theorem no_room_behind_one_record :
    ¬ ∀ size, Admits size → ∀ actions, (run actions (start size)).pending = [] →
      ∀ length ≤ maxPayload size, ∃ g, (run actions (start size)).ring.reserve length = .ok g := by
  intro hclaim
  obtain ⟨g, hg⟩ := hclaim 16 ⟨by decide, by decide⟩ (oneRecord 3) (by decide) 3 (by decide)
  have hfull : (run (oneRecord 3) (start 16)).ring.reserve 3 = .error .full :=
    reserve_of_not_hasRoom (by decide) (by decide) (by decide)
  rw [hfull] at hg
  cases hg

end Traffic

end WlanControl.Ring
