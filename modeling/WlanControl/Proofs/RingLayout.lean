import WlanControl.Proofs.RingStorage

/-!
# Rings — how the records lie in the buffer

Between the read and the write offset the records of a ring stand one after the other, in the order
in which they were committed.  Where the end of the buffer comes in between, a wrap marker stands
behind the last record that fits in front of it, and the others follow from the start of the buffer.

* `Ring.Entry` — a committed record with its place, and `Ring.Entry.StandsIn` for a buffer that
  holds it;
* `Ring.Consecutive` — records that follow each other without a gap;
* `Ring.Layout` — all records between the two offsets, across the wrap marker if there is one;
* `Reservation.Fits` — a reservation that still lies in free space, however far the consumer has
  come since it was made;
* `Ring.Advances` — how the consumer may move the read offset.

Each step of either side then has one lemma: `Ring.pop_of_layout_cons` and `Ring.Layout.release` for
the consumer, `Ring.fits_of_reserve`, `Ring.Layout.congr_of_fits` and `Ring.Layout.commit` for the
producer.  A reservation survives the steps of the consumer by `Reservation.Fits.advance`.
-/

namespace WlanControl.Ring

variable {size : Nat} {storage storage' : Vector UInt8 size}

/-! ### Records in their places -/

/-- A committed record: where its header is, its number and its payload. -/
structure Entry where
  offset : Nat
  sequence : UInt8
  payload : List UInt8
deriving DecidableEq, Repr

namespace Entry

/-- The number of octets that the record takes up in the buffer. -/
def span (e : Entry) : Nat := headerSize + e.payload.length

/-- The octets of the buffer that belong to the record. -/
def Covers (e : Entry) (i : Nat) : Prop := e.offset ≤ i ∧ i < e.offset + e.span

/-- What the consumer gets to know of the record when it takes it. -/
def delivery (e : Entry) : Delivery := ⟨e.offset, e.payload.length, e.sequence⟩

/-- The buffer holds the record in its place. -/
structure StandsIn (e : Entry) (storage : Vector UInt8 size) : Prop where
  header_eq : readOctets storage e.offset headerSize = header e.payload.length e.sequence
  payload_eq : readOctets storage (e.offset + headerSize) e.payload.length = e.payload
  length_lt : e.payload.length < 65536

/-- A record stays in place for as long as its own octets do. -/
theorem StandsIn.congr {e : Entry} (h : e.StandsIn storage)
    (hsame : ∀ i, e.offset ≤ i → i < e.offset + e.span → storage'[i]? = storage[i]?) :
    e.StandsIn storage' := by
  have hspan : e.span = headerSize + e.payload.length := rfl
  refine ⟨?_, ?_, h.length_lt⟩
  · rw [← h.header_eq]
    exact readOctets_congr fun i hlow hhigh => hsame i hlow (by omega)
  · rw [readOctets_congr fun i hlow hhigh => hsame i (by omega) (by omega)]
    exact h.payload_eq

end Entry

/-! ### Records one after the other -/

/-- Records that follow each other from an offset up to another one. -/
inductive Consecutive (storage : Vector UInt8 size) : Nat → List Entry → Nat → Prop
  | nil (offset : Nat) : Consecutive storage offset [] offset
  | cons {start finish : Nat} {e : Entry} {rest : List Entry} (hoffset : e.offset = start)
      (hstands : e.StandsIn storage)
      (hrest : Consecutive storage (e.offset + e.span) rest finish) :
      Consecutive storage start (e :: rest) finish

namespace Consecutive

theorem le {start finish : Nat} {entries : List Entry}
    (h : Consecutive storage start entries finish) : start ≤ finish := by
  induction h with
  | nil => exact Nat.le_refl _
  | cons _ _ _ ih => omega

/-- Every one of the records lies within the two offsets. -/
theorem within {start finish : Nat} {entries : List Entry}
    (h : Consecutive storage start entries finish) :
    ∀ e ∈ entries, start ≤ e.offset ∧ e.offset + e.span ≤ finish := by
  induction h with
  | nil => intro e he; cases he
  | cons hoffset hstands hrest ih =>
    intro e he
    rcases List.mem_cons.mp he with rfl | he
    · exact ⟨by omega, hrest.le⟩
    · have := ih e he
      omega

/-- The records stay in place for as long as the octets between the two offsets do. -/
theorem congr {start finish : Nat} {entries : List Entry}
    (h : Consecutive storage start entries finish)
    (hsame : ∀ i, start ≤ i → i < finish → storage'[i]? = storage[i]?) :
    Consecutive storage' start entries finish := by
  induction h with
  | nil => exact .nil _
  | cons hoffset hstands hrest ih =>
    have hle := hrest.le
    refine .cons hoffset (hstands.congr fun i hlow hhigh => hsame i (by omega) (by omega)) ?_
    exact ih fun i hlow hhigh => hsame i (by omega) hhigh

theorem standsIn {start finish : Nat} {entries : List Entry}
    (h : Consecutive storage start entries finish) : ∀ e ∈ entries, e.StandsIn storage := by
  induction h with
  | nil => intro e he; cases he
  | cons hoffset hstands hrest ih =>
    intro e he
    rcases List.mem_cons.mp he with rfl | he
    · exact hstands
    · exact ih e he

/-- One more record may follow. -/
theorem snoc {start finish : Nat} {entries : List Entry} {e : Entry}
    (h : Consecutive storage start entries finish) (hoffset : e.offset = finish)
    (hstands : e.StandsIn storage) :
    Consecutive storage start (entries ++ [e]) (finish + e.span) := by
  induction h with
  | nil offset => subst hoffset; exact .cons rfl hstands (.nil _)
  | cons hstart hfirst hrest ih => exact .cons hstart hfirst (ih hoffset)

end Consecutive

/-! ### The records of a ring -/

/-- The records that lie between the read and the write offset, oldest first.  The write offset
stays away from the end of the buffer, so that there is room for a wrap marker. -/
inductive Layout (storage : Vector UInt8 size) (read write : Nat) : List Entry → Prop
  | straight {entries : List Entry} (hall : Consecutive storage read entries write)
      (hwrite : write + headerSize ≤ size) : Layout storage read write entries
  | wrapped {front back : List Entry} {marker : Nat}
      (hfront : Consecutive storage read front marker)
      (hmarker : readOctets storage marker headerSize = wrapMarker)
      (hfit : marker + headerSize ≤ size) (hback : Consecutive storage 0 back write)
      (hpos : 0 < write) (hlt : write < read) : Layout storage read write (front ++ back)

/-- How the consumer may move the read offset: forward without passing the write offset, or past a
wrap marker to the start of the buffer. -/
inductive Advances (write read : Nat) : Nat → Prop
  | forward {read' : Nat} (hle : read ≤ read') (hbehind : read ≤ write → read' ≤ write) :
      Advances write read read'
  | wrap (hlt : write < read) : Advances write read 0

namespace Layout

variable {read write : Nat} {entries : List Entry}

/-- An empty ring has its offsets in the same place. -/
theorem nil {offset : Nat} (hfit : offset + headerSize ≤ size) :
    Layout storage offset offset [] :=
  .straight (.nil offset) hfit

/-- Behind either offset there is room for a header. -/
theorem offsets (h : Layout storage read write entries) :
    read + headerSize ≤ size ∧ write + headerSize ≤ size := by
  cases h with
  | straight hall hwrite => have := hall.le; omega
  | wrapped hfront _ hfit _ _ hlt => have := hfront.le; omega

/-- The buffer holds all of the records. -/
theorem standsIn (h : Layout storage read write entries) : ∀ e ∈ entries, e.StandsIn storage := by
  cases h with
  | straight hall _ => exact hall.standsIn
  | wrapped hfront _ _ hback _ _ =>
    intro e he
    rcases List.mem_append.mp he with he | he
    · exact hfront.standsIn e he
    · exact hback.standsIn e he

/-- Without records both offsets are in the same place. -/
theorem eq_of_nil (h : Layout storage read write []) : read = write := by
  generalize hentries : ([] : List Entry) = entries at h
  cases h with
  | straight hall _ =>
    subst hentries
    cases hall
    rfl
  | wrapped _ _ _ hback hpos _ =>
    obtain ⟨-, rfl⟩ := List.append_eq_nil_iff.mp hentries.symm
    cases hback
    omega

/-- A record that the consumer has in its hands gives its space back. -/
theorem release {e : Entry} {rest : List Entry}
    (h : Layout storage e.offset write (e :: rest)) :
    Layout storage (e.offset + e.span) write rest ∧
      Advances write e.offset (e.offset + e.span) := by
  generalize hentries : e :: rest = entries at h
  cases h with
  | straight hall hwrite =>
    subst hentries
    cases hall with
    | cons _ _ hrest => exact ⟨.straight hrest hwrite, .forward (by omega) fun _ => hrest.le⟩
  | wrapped hfront hmarker hfit hback hpos hlt =>
    cases hfront with
    | nil =>
      -- Behind the marker the first record is at the start, in front of the write offset.
      rw [List.nil_append] at hentries
      subst hentries
      cases hback
      omega
    | cons _ _ hrest =>
      cases hentries
      exact ⟨.wrapped hrest hmarker hfit hback hpos (by omega), .forward (by omega) (by omega)⟩

end Layout

/-! ### Taking a record -/

/-- The header of a record in its place tells the record. -/
theorem deliveryAt_of_standsIn {r : Ring size} {e : Entry} (h : e.StandsIn r.storage) :
    r.deliveryAt e.offset = e.delivery :=
  deliveryAt_of_header h.length_lt h.header_eq

/-- A record in its place is no wrap marker. -/
theorem ne_wrapMarker_of_standsIn {e : Entry} (h : e.StandsIn storage) :
    readOctets storage e.offset headerSize ≠ wrapMarker := by
  rw [h.header_eq]
  exact header_ne_wrapMarker _ _

/-- Without records there is nothing to take. -/
theorem pop_of_layout_nil {r : Ring size}
    (h : Layout r.storage r.readOffset r.writeOffset []) : r.pop = (r, none) := by
  rw [pop, if_pos h.eq_of_nil]

/-- A record that stands at the read offset is the one that is taken. -/
theorem pop_of_standsIn {r : Ring size} {e : Entry} (hread : e.offset = r.readOffset)
    (hne : r.readOffset ≠ r.writeOffset) (hstands : e.StandsIn r.storage) :
    r.pop = ({ r with readOffset := e.offset }, some e.delivery) := by
  rw [pop, if_neg hne, ← hread, if_neg (ne_wrapMarker_of_standsIn hstands),
    deliveryAt_of_standsIn hstands, hread]

/-- Behind a wrap marker the record at the start of the buffer is taken. -/
theorem pop_of_wrapMarker {r : Ring size} {e : Entry}
    (hmarker : readOctets r.storage r.readOffset headerSize = wrapMarker)
    (hne : r.readOffset ≠ r.writeOffset) (hpos : r.writeOffset ≠ 0) (hstart : e.offset = 0)
    (hstands : e.StandsIn r.storage) :
    r.pop = ({ r with readOffset := e.offset }, some e.delivery) := by
  have hdelivery :
      ({ r with readOffset := e.offset } : Ring size).deliveryAt e.offset = e.delivery :=
    deliveryAt_of_standsIn hstands
  rw [pop, if_neg hne, if_pos hmarker]
  simp only
  rw [if_neg hpos, ← hstart, hdelivery]

/-- The oldest record is the one that is taken.  The read offset then is at this record, for which
it may have had to pass a wrap marker. -/
theorem pop_of_layout_cons {r : Ring size} {e : Entry} {rest : List Entry}
    (h : Layout r.storage r.readOffset r.writeOffset (e :: rest)) :
    r.pop = ({ r with readOffset := e.offset }, some e.delivery) ∧
      Layout r.storage e.offset r.writeOffset (e :: rest) ∧
      Advances r.writeOffset r.readOffset e.offset := by
  have hspan : 0 < e.span := by simp only [Entry.span, headerSize]; omega
  generalize hentries : e :: rest = entries at h ⊢
  cases h with
  | straight hall hwrite =>
    subst hentries
    cases hall with
    | cons hoffset hstands hrest =>
      have hle := hrest.le
      exact ⟨pop_of_standsIn hoffset (by omega) hstands, .straight (.cons rfl hstands hrest) hwrite,
        .forward (by omega) (by omega)⟩
  | wrapped hfront hmarker hfit hback hpos hlt =>
    cases hfront with
    | cons hoffset hstands hrest =>
      cases hentries
      exact ⟨pop_of_standsIn hoffset (by omega) hstands,
        .wrapped (.cons rfl hstands hrest) hmarker hfit hback hpos (by omega),
        .forward (by omega) (by omega)⟩
    | nil =>
      -- All records in front of the marker were taken, so the next one is at the start.
      rw [List.nil_append] at hentries ⊢
      subst hentries
      cases hback with
      | cons hoffset hstands hrest =>
        refine ⟨pop_of_wrapMarker hmarker (by omega) (by omega) hoffset hstands,
          .straight (.cons rfl hstands hrest) (by omega), ?_⟩
        rw [hoffset]
        exact .wrap hlt

end WlanControl.Ring

namespace WlanControl.Reservation

open WlanControl.Ring

variable {size read write : Nat} {g : Reservation}

/-! ### Space that was set aside -/

/-- The octets that the producer may write for a reservation: the record and, if there is one, the
wrap marker in front of it. -/
def Covers (g : Reservation) (i : Nat) : Prop :=
  g.offset ≤ i ∧ i < g.offset + headerSize + g.length ∨
    ∃ marker, g.wrapAt = some marker ∧ marker ≤ i ∧ i < marker + headerSize

/-- The reservation lies in the free space of the ring, and still does so after the consumer has
gone on.  It follows the last record, or it is at the start of the buffer and a marker follows the
last record. -/
inductive Fits (size read write : Nat) : Reservation → Prop
  | next {length : Nat} (hend : write + headerSize + length + headerSize ≤ size)
      (hroom : read ≤ write ∨ write + headerSize + length < read) :
      Fits size read write ⟨write, length, none⟩
  | atStart {length : Nat} (hroom : headerSize + length < read) (hbehind : read ≤ write) :
      Fits size read write ⟨0, length, some write⟩

/-- A reservation that was made lies in free space and is as long as was asked for. -/
theorem fits_of_reserve {r : Ring size} {length : Nat}
    (hread : r.readOffset + headerSize ≤ size) (hg : r.reserve length = .ok g) :
    g.Fits size r.readOffset r.writeOffset ∧ g.length = length := by
  unfold Ring.reserve at hg
  split at hg
  · cases hg
  · simp only at hg
    split at hg
    · -- The free space is behind the write offset and in front of the read offset.
      rename_i hle
      split at hg
      · cases hg
        exact ⟨.next (by omega) (.inl hle), rfl⟩
      · split at hg
        · cases hg
          exact ⟨.atStart (by omega) hle, rfl⟩
        · cases hg
    · -- The free space is between the two offsets.
      split at hg
      · cases hg
        exact ⟨.next (by omega) (.inr (by omega)), rfl⟩
      · cases hg

namespace Fits

/-- The consumer never takes free space away. -/
theorem advance {read' : Nat} (h : g.Fits size read write) (hadvance : Advances write read read') :
    g.Fits size read' write := by
  cases h with
  | next hend hroom =>
    cases hadvance with
    | forward hle hbehind => exact .next hend (by omega)
    | wrap hlt => exact .next hend (.inl (by omega))
  | atStart hroom hbehind =>
    -- The consumer has not wrapped yet, so it cannot do so before the producer does.
    cases hadvance with
    | forward hle hbehind' => exact .atStart (by omega) (by omega)
    | wrap hlt => omega

/-- The reserved record ends in front of the end of the buffer. -/
theorem finish_le (h : g.Fits size read write) (hread : read + headerSize ≤ size) :
    g.offset + headerSize + g.length ≤ size := by
  cases h with
  | next hend _ => simp only; omega
  | atStart hroom _ => simp only; omega

/-- Nothing is written behind the end of the buffer. -/
theorem lt_size {i : Nat} (h : g.Fits size read write) (hwrite : write + headerSize ≤ size)
    (hi : g.Covers i) : i < size := by
  rcases hi with hi | ⟨marker, hmarker, hi⟩
  · cases h with
    | next hend _ => simp only at hi; omega
    | atStart hroom hbehind => simp only at hi; omega
  · cases h with
    | next _ _ => cases hmarker
    | atStart _ _ => cases hmarker; omega

end Fits

end WlanControl.Reservation

namespace WlanControl.Ring

variable {size read write : Nat} {r : Ring size} {g : Reservation}

/-! ### What the producer writes -/

/-- Filling a reservation writes nowhere else. -/
theorem getElem?_fill {octets : List UInt8} {i : Nat} (hi : ¬ g.Covers i) :
    (r.fill g octets).storage[i]? = r.storage[i]? := by
  have hout : ¬ (g.offset ≤ i ∧ i < g.offset + headerSize + g.length) := fun h => hi (.inl h)
  have hlength := List.length_take_le g.length octets
  exact getElem?_writeOctets_of_outside _ (by omega)

/-- Committing a reservation writes nowhere else. -/
theorem getElem?_commit {p : Producer} {i : Nat} (hi : ¬ g.Covers i) :
    (r.commit g p).1.storage[i]? = r.storage[i]? := by
  have hout : ¬ (g.offset ≤ i ∧ i < g.offset + headerSize + g.length) := fun h => hi (.inl h)
  unfold commit publish
  simp only
  rw [getElem?_writeOctets_of_outside _ (by rw [length_header]; omega)]
  split
  · rename_i marker hmarker
    have hout : ¬ (marker ≤ i ∧ i < marker + headerSize) := fun h => hi (.inr ⟨marker, hmarker, h⟩)
    exact getElem?_writeOctets_of_outside _ (by rw [length_wrapMarker]; omega)
  · rfl

/-- Filling a reservation changes the first octets of its payload. -/
theorem readOctets_fill {octets draft : List UInt8}
    (hfit : g.offset + headerSize + g.length ≤ size)
    (hdraft : readOctets r.storage (g.offset + headerSize) g.length = draft) :
    readOctets (r.fill g octets).storage (g.offset + headerSize) g.length
      = octets.take g.length ++ draft.drop octets.length := by
  have hlength : draft.length = g.length := by rw [← hdraft, length_readOctets]
  have hwritten := readOctets_writeOctets_prefix r.storage
    (List.length_take_le g.length octets) hfit
  rw [hdraft] at hwritten
  rw [fill, hwritten]
  congr 1
  -- Octets that go beyond the payload are not written, and then nothing of it is left.
  rcases Nat.le_total octets.length g.length with hle | hle
  · rw [List.take_of_length_le hle]
  · rw [List.length_take, Nat.min_eq_left hle, List.drop_of_length_le (by omega),
      List.drop_of_length_le (by omega)]

/-- Committing a reservation moves the write offset behind it, and moves nothing else. -/
theorem offsets_commit (r : Ring size) (g : Reservation) (p : Producer) :
    (r.commit g p).1.readOffset = r.readOffset ∧
      (r.commit g p).1.writeOffset = g.offset + headerSize + g.length ∧
      (r.commit g p).1.producerAttached = r.producerAttached ∧
      (r.commit g p).1.consumerAttached = r.consumerAttached := by
  simp only [commit, publish, and_self]

/-- A committed record is in the buffer, and so is the wrap marker in front of it. -/
theorem standsIn_commit {p : Producer} {draft : List UInt8} (hsize : size ≤ 65535)
    (hwrite : write + headerSize ≤ size) (hg : g.Fits size read write)
    (hread : read + headerSize ≤ size)
    (hdraft : readOctets r.storage (g.offset + headerSize) g.length = draft) :
    (⟨g.offset, p.sequence, draft⟩ : Entry).StandsIn (r.commit g p).1.storage ∧
      ∀ marker, g.wrapAt = some marker →
        readOctets (r.commit g p).1.storage marker headerSize = wrapMarker := by
  have hlength : draft.length = g.length := by rw [← hdraft, length_readOctets]
  -- The header is written last, so that it stands whatever was written before.
  have hheader (s : Vector UInt8 size) (hfit : g.offset + headerSize ≤ size) :
      readOctets (writeOctets (header g.length p.sequence) g.offset s) g.offset headerSize
        = header draft.length p.sequence := by
    rw [hlength]
    exact readOctets_writeOctets_self s hfit
  cases hg with
  | @next length hend hroom =>
    refine ⟨⟨hheader _ (by simp only; omega), ?_, by simp only at hlength ⊢; omega⟩, ?_⟩
    · show readOctets (writeOctets _ write r.storage) (write + headerSize) draft.length = draft
      rw [readOctets_writeOctets_of_disjoint _ (by rw [length_header]; omega), hlength]
      exact hdraft
    · intro marker hmarker; cases hmarker
  | @atStart length hroom hbehind =>
    -- The marker is behind the read offset, and the record in front of it.
    refine ⟨⟨hheader _ (by simp only; omega), ?_, by simp only at hlength ⊢; omega⟩, ?_⟩
    · show readOctets (writeOctets _ 0 (writeOctets wrapMarker write r.storage)) (0 + headerSize)
        draft.length = draft
      simp only at hlength
      rw [readOctets_writeOctets_of_disjoint _ (by rw [length_header]; omega),
        readOctets_writeOctets_of_disjoint _ (by omega), hlength]
      exact hdraft
    · intro marker hmarker
      cases hmarker
      show readOctets (writeOctets _ 0 (writeOctets wrapMarker write r.storage)) write headerSize
        = wrapMarker
      rw [readOctets_writeOctets_of_disjoint _ (by rw [length_header]; omega)]
      exact readOctets_writeOctets_self r.storage hwrite

end WlanControl.Ring

namespace WlanControl.Ring.Layout

variable {size read write : Nat} {storage storage' : Vector UInt8 size} {entries : List Entry}
  {g : Reservation}

/-! ### Writing into free space -/

/-- A reservation has no octet in common with a record. -/
theorem not_covers (h : Layout storage read write entries) (hg : g.Fits size read write) {e : Entry}
    (he : e ∈ entries) {i : Nat} (hi : g.Covers i) : ¬ e.Covers i := by
  rintro ⟨hlow, hhigh⟩
  cases h with
  | straight hall hwrite =>
    have := hall.within e he
    rcases hi with hi | ⟨marker, hmarker, hi⟩
    · cases hg <;> simp only at hi <;> omega
    · cases hg <;> cases hmarker
      omega
  | wrapped hfront _ hfit hback _ hlt =>
    have hle := hfront.le
    rcases hi with hi | ⟨marker, hmarker, hi⟩
    · rcases List.mem_append.mp he with he | he
      · have := hfront.within e he
        cases hg <;> simp only at hi <;> omega
      · have := hback.within e he
        cases hg <;> simp only at hi <;> omega
    · cases hg <;> cases hmarker
      omega

/-- The records stay in place, whatever is written for a reservation. -/
theorem congr_of_fits (h : Layout storage read write entries) (hg : g.Fits size read write)
    (hsame : ∀ i, ¬ g.Covers i → storage'[i]? = storage[i]?) :
    Layout storage' read write entries := by
  -- It is enough that no octet of a range was reserved.
  have houtside {low high : Nat} (hfree : ∀ i, g.Covers i → i < low ∨ high ≤ i) (i : Nat)
      (hlow : low ≤ i) (hhigh : i < high) : storage'[i]? = storage[i]? :=
    hsame i fun hi => by have := hfree i hi; omega
  cases h with
  | straight hall hwrite =>
    refine .straight (hall.congr (houtside fun i hi => ?_)) hwrite
    rcases hi with hi | ⟨marker, hmarker, hi⟩
    · cases hg <;> simp only at hi <;> omega
    · cases hg <;> cases hmarker
      omega
  | @wrapped front back marker hfront hmarker hfit hback hpos hlt =>
    -- While a marker is in the buffer, all free space lies between the offsets.
    have hle := hfront.le
    have hfree : ∀ i, g.Covers i → write ≤ i ∧ i < read := by
      rintro i (hi | ⟨marker, hmarker, hi⟩)
      · cases hg <;> simp only at hi <;> omega
      · cases hg <;> cases hmarker
        omega
    refine .wrapped (hfront.congr (houtside fun i hi => ?_)) ?_ hfit
      (hback.congr (houtside fun i hi => ?_)) hpos hlt
    · have := hfree i hi; omega
    · rw [readOctets_congr (houtside fun i hi => ?_)]
      · exact hmarker
      · have := hfree i hi; omega
    · have := hfree i hi; omega

/-- A record in the place of a reservation is the last one, once the write offset is behind it. -/
theorem extend {e : Entry} (h : Layout storage read write entries) (hg : g.Fits size read write)
    (hoffset : e.offset = g.offset) (hlength : e.payload.length = g.length)
    (hstands : e.StandsIn storage)
    (hmarker : ∀ marker, g.wrapAt = some marker →
      readOctets storage marker headerSize = wrapMarker) :
    Layout storage read (g.offset + headerSize + g.length) (entries ++ [e]) := by
  have hspan : e.span = headerSize + g.length := by rw [Entry.span, hlength]
  rw [Nat.add_assoc, ← hspan]
  cases hg with
  | @next length hend hroom =>
    have hspan : e.span = headerSize + length := hspan
    show Layout storage read (write + e.span) _
    cases h with
    | straight hall hwrite => exact .straight (hall.snoc hoffset hstands) (by omega)
    | wrapped hfront hmarker' hfit hback hpos hlt =>
      -- The records behind the marker get one more.
      rw [List.append_assoc]
      exact .wrapped hfront hmarker' hfit (hback.snoc hoffset hstands) (by omega) (by omega)
  | @atStart length hroom hbehind =>
    have hspan : e.span = headerSize + length := hspan
    show Layout storage read (0 + e.span) _
    cases h with
    | straight hall hwrite =>
      -- The record is the first one behind the new marker.
      have hback := (Consecutive.nil 0).snoc hoffset hstands
      exact .wrapped hall (hmarker _ rfl) hwrite hback (by simp only [headerSize] at hspan; omega)
        (by omega)
    | wrapped _ _ _ _ _ hlt => omega

/-- A reservation that is committed holds the last record from then on. -/
theorem commit {r : Ring size} {p : Producer} {draft : List UInt8} (hsize : size ≤ 65535)
    (h : Layout r.storage r.readOffset r.writeOffset entries)
    (hg : g.Fits size r.readOffset r.writeOffset)
    (hdraft : readOctets r.storage (g.offset + headerSize) g.length = draft) :
    Layout (r.commit g p).1.storage (r.commit g p).1.readOffset (r.commit g p).1.writeOffset
      (entries ++ [⟨g.offset, p.sequence, draft⟩]) := by
  obtain ⟨hread, hwrite⟩ := h.offsets
  have hlength : draft.length = g.length := by rw [← hdraft, length_readOctets]
  -- The new record stands, and the others still do.
  have hstands := standsIn_commit (p := p) hsize hwrite hg hread hdraft
  have hkept := h.congr_of_fits hg fun i hi => getElem?_commit (p := p) hi
  exact hkept.extend hg rfl hlength hstands.1 hstands.2

end WlanControl.Ring.Layout
