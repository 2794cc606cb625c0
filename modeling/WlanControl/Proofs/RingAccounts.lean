import Mathlib.Algebra.GroupWithZero.Nat
import Mathlib.Data.List.TakeWhile
import WlanControl.Proofs.RingTraffic

namespace WlanControl.Ring

/-!
# Rings — what a ring counts

The fill level of a ring and its counters are nothing but the records that went through it, summed
up.  The fill level counts the records that were not given back yet and, while the consumer still
has to pass a wrap marker, the octets behind that marker.

* `inFront`, `behind` — the records in front of the wrap marker that the consumer has still to pass,
  and those behind it;
* `skipped` — the octets behind that marker;
* `Layout.used_eq` — the distance of the two offsets, in terms of the records between them;
* `Traffic.Counted` — the counters, in terms of the records since the ring was emptied last;
* `Traffic.pushing` — the steps of a producer that pushes one record, with steps of the consumer in
  between.

Main statement: `Traffic.accounted_run`, after any steps of both sides the fill level and the
counters tell the truth, and a push counts as dropped just what it refuses.
-/

variable {size : Nat}

/-! ### The fill level -/

/-- The records that a consumer at offset `read` finds before it has to pass a wrap marker. -/
def inFront (read : Nat) (entries : List Entry) : List Entry :=
  entries.takeWhile fun e => read ≤ e.offset

/-- The records that were placed behind a wrap marker which a consumer at offset `read` did not pass
yet. -/
def behind (read : Nat) (entries : List Entry) : List Entry :=
  entries.dropWhile fun e => read ≤ e.offset

/-- Where the last of some records ends that stand one after the other from an offset on. -/
def endOf (offset : Nat) (entries : List Entry) : Nat :=
  offset + (entries.map Entry.span).sum

/-- The octets at the end of the buffer that no record takes up, if there are records behind a wrap
marker which a consumer at offset `read` did not pass yet. -/
def skipped (size read : Nat) (entries : List Entry) : Nat :=
  if behind read entries = [] then 0 else size - endOf read (inFront read entries)

namespace Entry

theorem span_pos (e : Entry) : 0 < e.span := by
  unfold span headerSize
  omega

end Entry

section Layouts

variable {storage : Vector UInt8 size} {read write : Nat} {entries : List Entry}

/-- Records that follow each other fill the space between the two offsets. -/
theorem Consecutive.endOf_eq {start finish : Nat} (h : Consecutive storage start entries finish) :
    endOf start entries = finish := by
  unfold endOf
  induction h with
  | nil => rfl
  | cons hoffset hstands hrest ih =>
    rw [List.map_cons, List.sum_cons]
    omega

namespace Layout

/-- The parts of a ring whose records follow each other without a wrap marker. -/
theorem parts_straight (hall : Consecutive storage read entries write) :
    inFront read entries = entries ∧ behind read entries = [] := by
  have hfront : ∀ e ∈ entries, decide (read ≤ e.offset) = true :=
    fun e he => decide_eq_true (hall.within e he).1
  exact ⟨List.takeWhile_eq_self_iff.mpr hfront, List.dropWhile_eq_nil_iff.mpr hfront⟩

/-- The parts of a ring with a wrap marker. -/
theorem parts_wrapped {front back : List Entry} {marker : Nat}
    (hfront : Consecutive storage read front marker) (hback : Consecutive storage 0 back write)
    (hpos : 0 < write) (hlt : write < read) :
    inFront read (front ++ back) = front ∧ behind read (front ++ back) = back ∧ back ≠ [] := by
  have hin : ∀ e ∈ front, decide (read ≤ e.offset) = true :=
    fun e he => decide_eq_true (hfront.within e he).1
  cases hback with
  | nil => omega
  | @cons _ _ e rest hoffset hstands hrest =>
    have hout : decide (read ≤ e.offset) = false := decide_eq_false (by omega)
    refine ⟨?_, ?_, List.cons_ne_nil _ _⟩
    · unfold inFront
      rw [List.takeWhile_append_of_pos hin]
      simp only [List.takeWhile_cons, hout, Bool.false_eq_true, if_false, List.append_nil]
    · unfold behind
      rw [List.dropWhile_append_of_pos hin]
      simp only [List.dropWhile_cons, hout, Bool.false_eq_true, if_false]

/-- The distance of the offsets is what the records between them take up, with what is skipped on
the way. -/
theorem used_eq (h : Layout storage read write entries) :
    (write + size - read) % size = (entries.map Entry.span).sum + skipped size read entries := by
  cases h with
  | straight hall hwrite =>
    -- The distance does not go round the end, and nothing is skipped.
    have hle := hall.le
    have hend := hall.endOf_eq
    obtain ⟨-, hbehind⟩ := parts_straight hall
    have hheader : headerSize = 4 := rfl
    unfold endOf at hend
    rw [skipped, if_pos hbehind]
    have hdistance : write + size - read = size + (write - read) := by omega
    rw [hdistance, Nat.add_mod_left, Nat.mod_eq_of_lt (by omega)]
    omega
  | wrapped hfront hmarker hfit hback hpos hlt =>
    -- It goes round the end, past the octets that no record takes up.
    have hle := hfront.le
    have hend := hfront.endOf_eq
    have hend' := hback.endOf_eq
    obtain ⟨hin, hbehind, hne⟩ := parts_wrapped hfront hback hpos hlt
    have hheader : headerSize = 4 := rfl
    rw [skipped, hbehind, if_neg hne, hin, hend, List.map_append, List.sum_append,
      Nat.mod_eq_of_lt (by omega)]
    unfold endOf at hend hend'
    omega

/-- Where octets are skipped there is a wrap marker. -/
theorem marked (h : Layout storage read write entries) (hbehind : behind read entries ≠ []) :
    readOctets storage (endOf read (inFront read entries)) headerSize = wrapMarker := by
  cases h with
  | straight hall hwrite => exact absurd (parts_straight hall).2 hbehind
  | wrapped hfront hmarker hfit hback hpos hlt =>
    rw [(parts_wrapped hfront hback hpos hlt).1, hfront.endOf_eq]
    exact hmarker

/-- The offsets are in different places while there are records between them. -/
theorem used_eq_zero_iff (h : Layout storage read write entries) :
    (write + size - read) % size = 0 ↔ entries = [] := by
  rw [h.used_eq]
  constructor
  · intro hzero
    cases entries with
    | nil => rfl
    | cons e rest =>
      have := e.span_pos
      rw [List.map_cons, List.sum_cons] at hzero
      omega
  · rintro rfl
    rfl

/-- Nothing is popped just if there is nothing. -/
theorem pop_eq_none_iff {r : Ring size} (h : Layout r.storage r.readOffset r.writeOffset entries) :
    r.pop.2 = none ↔ entries = [] := by
  cases entries with
  | nil => simp [pop_of_layout_nil h]
  | cons e rest => simp [(pop_of_layout_cons h).1]

end Layout

end Layouts

/-! ### Pushes as operations of the ring -/

/-- A push writes a given payload over whatever is there. -/
theorem push_eq_pushWith (r : Ring size) (p : Producer) (payload : List UInt8) :
    r.push payload p = r.pushWith payload.length (fun _ => payload) p := by
  unfold push pushWith
  cases r.reserve payload.length <;> rfl

/-- A push refuses what there is no place for. -/
theorem pushWith_eq_error_iff (r : Ring size) (p : Producer) (length : Nat)
    (write : List UInt8 → List UInt8) (e : RingError) :
    (r.pushWith length write p).2.2 = .error e ↔ r.reserve length = .error e := by
  unfold pushWith
  cases r.reserve length <;> simp

/-- The steps of the consumer. -/
def Action.IsConsumers : Action → Prop
  | .attachConsumer | .detachConsumer | .pop | .release => True
  | .attachProducer | .detachProducer | .reserve _ | .fill _ | .commit | .abandon | .drop _
  | .reset => False

/-- Taking a record moves the read offset and nothing else. -/
theorem pop_fst (r : Ring size) : r.pop.1 = { r with readOffset := r.pop.1.readOffset } := by
  unfold pop
  split_ifs
  · rfl
  · simp only
    split_ifs <;> rfl
  · rfl

namespace Traffic

variable {t t' : Traffic size}

theorem ring_pop (t : Traffic size) :
    t.pop.ring = { t.ring with readOffset := t.pop.ring.readOffset } := by
  have hpopped := pop_fst t.ring
  unfold pop
  split
  · rename_i hpop
    rw [hpop] at hpopped
    exact hpopped
  · rename_i hpop
    rw [hpop] at hpopped
    exact hpopped
  · rfl

/-! ### The counters -/

/-- The counters are those of the records since the ring was emptied last.  They have thirty-two
bits each. -/
def Counted (t : Traffic size) : Prop :=
  t.ring.counters = {
    packets := .ofNat t.committed.length
    bytes := .ofNat (t.committed.map (·.payload.length)).sum
    droppedPackets := .ofNat t.dropped.length
    droppedBytes := .ofNat t.dropped.sum }

/-- What the producer has done and holds is the same in two states. -/
structure SameProducer (t t' : Traffic size) : Prop where
  sender_eq : t'.sender = t.sender
  committed_eq : t'.committed = t.committed
  dropped_eq : t'.dropped = t.dropped
  counters_eq : t'.ring.counters = t.ring.counters

theorem SameProducer.refl (t : Traffic size) : t.SameProducer t := ⟨rfl, rfl, rfl, rfl⟩

theorem SameProducer.trans {t'' : Traffic size} (h : t.SameProducer t') (h' : t'.SameProducer t'') :
    t.SameProducer t'' :=
  ⟨h'.sender_eq.trans h.sender_eq, h'.committed_eq.trans h.committed_eq,
    h'.dropped_eq.trans h.dropped_eq, h'.counters_eq.trans h.counters_eq⟩

/-- No step of the consumer touches the side of the producer. -/
theorem sameProducer_step (t : Traffic size) {a : Action} (ha : a.IsConsumers) :
    t.SameProducer (t.step a) := by
  cases a with
  | attachConsumer =>
    refine ⟨?_, ?_, ?_, (congrArg Ring.counters (ring_attachConsumer t)).trans rfl⟩ <;>
      simp only [step, attachConsumer] <;> split <;> rfl
  | detachConsumer =>
    simp only [step, detachConsumer]
    split <;> exact ⟨rfl, rfl, rfl, rfl⟩
  | pop =>
    refine ⟨?_, ?_, ?_, (congrArg Ring.counters (ring_pop t)).trans rfl⟩ <;>
      simp only [step, pop] <;> split <;> rfl
  | release =>
    simp only [step, release]
    split <;> exact ⟨rfl, rfl, rfl, rfl⟩
  | _ => cases ha

/-- Nor do any number of them. -/
theorem sameProducer_run (t : Traffic size) {actions : List Action}
    (hactions : ∀ a ∈ actions, a.IsConsumers) : t.SameProducer (run actions t) := by
  induction actions generalizing t with
  | nil => exact .refl t
  | cons a rest ih =>
    exact (t.sameProducer_step (hactions a (List.mem_cons_self ..))).trans
      (ih (t.step a) fun b hb => hactions b (List.mem_cons_of_mem _ hb))

/-- The payload that the producer is about to commit has the length that it has reserved. -/
theorem Sound.length_draft (h : t.Sound) {p : Producer} {g : Reservation} {draft : List UInt8}
    (hsender : t.sender = .writing p g draft) : draft.length = g.length := by
  rw [← (h.sender p g draft hsender).2, length_readOctets]

namespace Counted

theorem congr (h : t.Counted) (hcounters : t'.ring.counters = t.ring.counters)
    (hcommitted : t'.committed = t.committed) (hdropped : t'.dropped = t.dropped) : t'.Counted := by
  unfold Counted
  rw [hcounters, hcommitted, hdropped]
  exact h

theorem sameProducer (h : t.Counted) (hsame : t.SameProducer t') : t'.Counted :=
  h.congr hsame.counters_eq hsame.committed_eq hsame.dropped_eq

theorem commit (hsound : t.Sound) (h : t.Counted) : t.commit.Counted := by
  unfold Traffic.commit
  split
  · rename_i p g draft hsender
    have hlength := hsound.length_draft hsender
    unfold Counted at h ⊢
    simp only [Ring.commit, Ring.publish, List.length_append, List.map_append, List.sum_append,
      List.map_cons, List.map_nil, List.sum_cons, List.sum_nil, List.length_singleton,
      Nat.add_zero, hlength, UInt32.ofNat_add]
    rw [h]
    rfl
  · exact h
  · exact h

theorem drop (h : t.Counted) (length : Nat) : (t.drop length).Counted := by
  unfold Traffic.drop
  split
  · unfold Counted at h ⊢
    simp only [recordDrop, List.length_append, List.sum_append, List.sum_cons, List.sum_nil,
      List.length_singleton, Nat.add_zero, UInt32.ofNat_add]
    rw [h]
    rfl
  · exact h
  · exact h

theorem reset (h : t.Counted) : t.reset.Counted := by
  unfold Traffic.reset
  split
  · rename_i ring hreset
    unfold Ring.reset at hreset
    split at hreset
    · cases hreset
    · cases hreset
      rfl
  · rename_i ring e hreset
    unfold Ring.reset at hreset
    split at hreset
    · cases hreset
      exact h
    · cases hreset

/-- Every step counts what it does. -/
theorem step (hsound : t.Sound) (h : t.Counted) (a : Action) : (t.step a).Counted := by
  cases a with
  | commit => exact h.commit hsound
  | drop length => exact h.drop length
  | reset => exact h.reset
  | attachConsumer | detachConsumer | pop | release =>
    exact h.sameProducer (t.sameProducer_step trivial)
  | attachProducer =>
    refine h.congr ((congrArg Ring.counters (ring_attachProducer t)).trans rfl) ?_ ?_ <;>
      simp only [Traffic.step, Traffic.attachProducer] <;> split <;> rfl
  | detachProducer =>
    simp only [Traffic.step, Traffic.detachProducer]
    split <;> exact h
  | reserve length =>
    simp only [Traffic.step, Traffic.reserve]
    split <;> exact h
  | fill octets =>
    simp only [Traffic.step, Traffic.fill]
    split <;> exact h
  | abandon =>
    simp only [Traffic.step, Traffic.abandon]
    split <;> exact h

theorem run (hsize : Admits size) (hsound : t.Sound) (h : t.Counted) (actions : List Action) :
    (Traffic.run actions t).Counted := by
  induction actions generalizing t with
  | nil => exact h
  | cons a rest ih => exact ih (hsound.step hsize a) (h.step hsound a)

end Counted

/-! ### Pushing -/

/-- A push with some steps in between: those that are taken `early`, before the payload is written,
and those that are taken `late`, before the record is committed. -/
def pushing (length : Nat) (write : List UInt8 → List UInt8) (early late : List Action)
    (t : Traffic size) : Traffic size :=
  let reserved := t.reserve length
  match reserved.sender with
  | .writing _ _ found => (run late ((run early reserved).fill (write found))).commit
  | .detached | .idle _ => reserved.drop length

/-- What became of a push: one record more, if there was a place for it, and else one record that
was dropped. -/
structure Pushes (length : Nat) (t t' : Traffic size) : Prop where
  counted : t'.Counted
  taken : ∀ g, t.ring.reserve length = .ok g →
    ∃ e, e.payload.length = length ∧ t'.committed = t.committed ++ [e] ∧ t'.dropped = t.dropped
  refused : ∀ e, t.ring.reserve length = .error e →
    t'.committed = t.committed ∧ t'.dropped = t.dropped ++ [length]

section Pushing

variable {p : Producer} {length : Nat} {write : List UInt8 → List UInt8} {early late : List Action}

/-- A record that gets its place is ready to be committed at the end of a push, and until then
nothing is added to the history. -/
theorem exists_ready (hsize : Admits size) (hsound : t.Sound) (hcounted : t.Counted)
    (hsender : t.sender = .idle p) (write : List UInt8 → List UInt8)
    (hearly : ∀ a ∈ early, a.IsConsumers) (hlate : ∀ a ∈ late, a.IsConsumers) {g : Reservation}
    (hg : t.ring.reserve length = .ok g) :
    ∃ (ready : Traffic size) (draft : List UInt8), ready.Sound ∧ ready.Counted ∧
      ready.sender = .writing p g draft ∧ ready.committed = t.committed ∧
      ready.dropped = t.dropped ∧ t.pushing length write early late = ready.commit := by
  generalize hfound : readOctets t.ring.storage (g.offset + headerSize) g.length = found
  have hreserved : t.reserve length = { t with sender := .writing p g found } := by
    simp only [Traffic.reserve, hsender, hg, hfound]
  -- The consumer may take steps before the payload is written and after that.
  have hwaited := sameProducer_run (t.reserve length) hearly
  generalize hwaiting : run early (t.reserve length) = waiting at hwaited
  have hfilled := sameProducer_run (waiting.fill (write found)) hlate
  generalize hready : run late (waiting.fill (write found)) = ready at hfilled
  have hrun : run ([.reserve length] ++ early ++ [.fill (write found)] ++ late) t = ready := by
    subst hwaiting hready
    simp only [run, List.foldl_append, List.foldl_cons, List.foldl_nil, step]
  have hwriting : waiting.sender = .writing p g found := by
    rw [hwaited.sender_eq, hreserved]
  have hpushing : t.pushing length write early late = ready.commit := by
    subst hwaiting hready
    simp only [pushing, hreserved]
  have hfill : waiting.fill (write found) = { waiting with
      ring := waiting.ring.fill g (write found)
      sender :=
        .writing p g ((write found).take g.length ++ found.drop (write found).length) } := by
    simp only [Traffic.fill, hwriting]
  rw [hfill] at hfilled
  refine ⟨ready, (write found).take g.length ++ found.drop (write found).length,
    hrun ▸ hsound.run hsize _, hrun ▸ hcounted.run hsize hsound _, hfilled.sender_eq,
    hfilled.committed_eq.trans ?_, hfilled.dropped_eq.trans ?_, hpushing⟩
  · rw [hwaited.committed_eq, hreserved]
  · rw [hwaited.dropped_eq, hreserved]

/-- Without a place for it a record is dropped at once. -/
theorem pushing_of_error {e : RingError} (hsender : t.sender = .idle p)
    (he : t.ring.reserve length = .error e) :
    t.pushing length write early late = t.drop length := by
  simp only [pushing, Traffic.reserve, hsender, he]

/-- A push commits a record or counts it as dropped, whatever the consumer does meanwhile. -/
theorem pushes_pushing (hsize : Admits size) (hsound : t.Sound) (hcounted : t.Counted)
    (hsender : t.sender = .idle p) (hearly : ∀ a ∈ early, a.IsConsumers)
    (hlate : ∀ a ∈ late, a.IsConsumers) :
    t.Pushes length (t.pushing length write early late) := by
  cases hreserve : t.ring.reserve length with
  | ok g =>
    obtain ⟨ready, draft, hready, hcounts, hwriting, hcommitted, hdropped, hpushing⟩ :=
      exists_ready hsize hsound hcounted hsender write hearly hlate hreserve
    -- The producer may have written less than it reserved, but what it commits has that length.
    have hlength := (hready.length_draft hwriting).trans
      (Reservation.fits_of_reserve hsound.layout.offsets.1 hreserve).2
    rw [hpushing]
    refine ⟨hcounts.commit hready, fun g' _ => ⟨⟨g.offset, p.sequence, draft⟩, hlength, ?_, ?_⟩,
      fun e he => ?_⟩
    · simp only [Traffic.commit, hwriting, hcommitted]
    · simp only [Traffic.commit, hwriting, hdropped]
    · rw [hreserve] at he
      cases he
  | error e =>
    rw [pushing_of_error hsender hreserve]
    refine ⟨hcounted.drop length, fun g hg => ?_, fun _ _ => ?_⟩
    · rw [hreserve] at hg
      cases hg
    · simp only [Traffic.drop, hsender, and_self]

/-- Without steps in between a push is one operation of the ring. -/
theorem pushing_eq_pushWith (hsender : t.sender = .idle p) :
    (t.pushing length write [] []).ring = (t.ring.pushWith length write p).1 := by
  cases hreserve : t.ring.reserve length with
  | ok g =>
    simp only [pushing, Traffic.reserve, hsender, hreserve, run, List.foldl_nil, Traffic.fill,
      Traffic.commit, Ring.pushWith]
  | error e =>
    rw [pushing_of_error hsender hreserve]
    simp only [Traffic.drop, hsender, Ring.pushWith, hreserve]

end Pushing

/-! ### What the ring tells of itself -/

/-- Whoever looks at a ring learns what is in it and what went through it since it was emptied
last. -/
structure Accounted (t : Traffic size) : Prop where
  /-- There is always room for a header behind the offsets. -/
  offsets : t.ring.writeOffset ≤ size - headerSize ∧ t.ring.readOffset ≤ size - headerSize
  /-- The fill level is what the records take up that were not given back, and what is skipped. -/
  used : t.ring.bytesUsed
    = (t.pending.map Entry.span).sum + skipped size t.ring.readOffset t.pending
  /-- Where octets are skipped there is a wrap marker in front of them. -/
  marked : behind t.ring.readOffset t.pending ≠ [] →
    readOctets t.ring.storage (endOf t.ring.readOffset (inFront t.ring.readOffset t.pending))
      headerSize = wrapMarker
  /-- A ring is empty just if every record was given back, -/
  isEmpty_iff : t.ring.isEmpty = true ↔ t.pending = []
  /-- and just then there is nothing to take. -/
  pop_iff : t.ring.pop.2 = none ↔ t.pending = []
  /-- Each record is counted, as committed or as dropped. -/
  counted : t.Counted
  /-- A push counts as dropped what it refuses and nothing else, also if the consumer takes steps in
  the course of it. -/
  pushes : ∀ p, t.sender = .idle p → ∀ length write early late,
    (∀ a ∈ early, a.IsConsumers) → (∀ a ∈ late, a.IsConsumers) →
    t.Pushes length (t.pushing length write early late)
  /-- Without such steps it is the operation of the ring of that name, -/
  pushWith_eq : ∀ p, t.sender = .idle p → ∀ length write,
    (t.pushing length write [] []).ring = (t.ring.pushWith length write p).1
  /-- which tells what it refuses, -/
  pushWith_error : ∀ p length write e,
    (t.ring.pushWith length write p).2.2 = .error e ↔ t.ring.reserve length = .error e
  /-- and of which the simple push is a case. -/
  push_eq : ∀ p payload,
    t.ring.push payload p = t.ring.pushWith payload.length (fun _ => payload) p

/-- Whatever steps both sides take in whatever order, the fill level and the counters are those of
the records that went through the ring. -/
theorem accounted_run (hsize : Admits size) (actions : List Action) :
    (run actions (start size)).Accounted := by
  have hsound := (Sound.start hsize).run hsize actions
  have hcounted := Counted.run hsize (Sound.start hsize) rfl actions
  generalize run actions (start size) = t at hsound hcounted
  have hlayout := hsound.layout
  exact {
    offsets := ⟨Nat.le_sub_of_add_le hlayout.offsets.2, Nat.le_sub_of_add_le hlayout.offsets.1⟩
    used := hlayout.used_eq
    marked := hlayout.marked
    isEmpty_iff := beq_iff_eq.trans hlayout.used_eq_zero_iff
    pop_iff := hlayout.pop_eq_none_iff
    counted := hcounted
    pushes := fun p hsender _ _ _ _ hearly hlate =>
      pushes_pushing hsize hsound hcounted hsender hearly hlate
    pushWith_eq := fun p hsender _ _ => pushing_eq_pushWith hsender
    pushWith_error := pushWith_eq_error_iff t.ring
    push_eq := push_eq_pushWith t.ring }

/-- Steps after which four octets are skipped at the end of the buffer and one record was
dropped. -/
def wrappingSteps : List Action :=
  [.attachProducer, .attachConsumer, .reserve 3, .commit, .reserve 1, .commit, .pop, .release,
    .reserve 2, .fill [8, 9], .commit, .drop 6]

theorem accounted_run_wrappingSteps :
    Admits 16 ∧
      (run wrappingSteps (start 16)).ring.bytesUsed = (4 + 1) + (4 + 2) + 4 ∧
      (run wrappingSteps (start 16)).ring.counters = ⟨3, 6, 1, 6⟩ ∧
      (run wrappingSteps (start 16)).Accounted :=
  ⟨⟨by decide, by decide⟩, by decide, by decide,
    accounted_run ⟨by decide, by decide⟩ wrappingSteps⟩

end Traffic

end WlanControl.Ring
