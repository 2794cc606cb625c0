import WlanControl.Proofs.RingTraffic

namespace WlanControl.Ring

/-!
# Rings — what a ring holds

For those who put whole records into a ring and take whole records out of it, it is a queue of
payloads, wherever they lie in the buffer.

* `Holds` — the payloads in a ring, oldest first;
* `HasRoomFor` — a ring that can take some payloads, one after the other;
* `Unused.holds`, `Unused.room` — a ring into which nothing was put;
* `Holds.push`, `Holds.push_cases` — one payload more, with or without knowing of room for it;
* `Holds.take_cons`, `take_of_holds_nil` — one payload less;
* `Holds.discard`, `Holds.discardAll` — the oldest payloads less, or all of them.

Main statement: `Traffic.holds_run`, however both sides go on, a ring holds what was committed and
not given back.
-/

variable {size : Nat} {r : Ring size} {payload : List UInt8} {payloads : List (List UInt8)}

/-- The ring holds records with these payloads, oldest first. -/
def Holds (r : Ring size) (payloads : List (List UInt8)) : Prop :=
  ∃ entries, Layout r.storage r.readOffset r.writeOffset entries ∧
    entries.map Entry.payload = payloads

/-- There is room for all of the payloads, one after the other. -/
def HasRoomFor : List (List UInt8) → Producer → Ring size → Prop
  | [], _, _ => True
  | payload :: rest, p, r =>
    (∃ g, r.reserve payload.length = .ok g) ∧
      HasRoomFor rest (r.push payload p).2.1 (r.push payload p).1

/-- Nothing was put into the ring since it was emptied. -/
structure Unused (r : Ring size) : Prop where
  readOffset : r.readOffset = 0
  writeOffset : r.writeOffset = 0

/-- A ring into which nothing was put holds nothing. -/
theorem Unused.holds (hsize : Admits size) (h : r.Unused) : r.Holds [] := by
  refine ⟨[], ?_, rfl⟩
  rw [h.readOffset, h.writeOffset]
  exact .nil (by have := hsize.1; omega)

/-- A ring into which nothing was put has room for every record that ever fits. -/
theorem Unused.room (hsize : Admits size) (h : r.Unused) {length : Nat}
    (hlength : length ≤ maxPayload size) : ∃ g, r.reserve length = .ok g := by
  have hend : 0 + (headerSize + length) + headerSize ≤ size := by
    have := hsize.1
    unfold maxPayload headerSize at *
    omega
  unfold reserve
  rw [h.readOffset, h.writeOffset, if_neg (Nat.not_lt_of_le hlength)]
  simp only
  rw [if_pos (Nat.le_refl 0), if_pos hend]
  exact ⟨_, rfl⟩

/-- A record that there is room for comes last. -/
theorem Holds.push (hsize : Admits size) (h : r.Holds payloads)
    (hroom : ∃ g, r.reserve payload.length = .ok g) (p : Producer) :
    ∃ r' p', r.push payload p = (r', p', .ok ()) ∧ r'.Holds (payloads ++ [payload]) := by
  obtain ⟨entries, hlayout, rfl⟩ := h
  obtain ⟨g, hg⟩ := hroom
  obtain ⟨hfits, hlength⟩ := Reservation.fits_of_reserve hlayout.offsets.1 hg
  -- All of the reserved space is filled, whatever was there.
  have hfilled : Layout (r.fill g payload).storage r.readOffset r.writeOffset entries :=
    hlayout.congr_of_fits hfits fun i hi => getElem?_fill hi
  have hdraft : readOctets (r.fill g payload).storage (g.offset + headerSize) g.length =
      payload := by
    rw [readOctets_fill (hfits.finish_le hlayout.offsets.1) rfl, hlength, List.take_length,
      List.drop_of_length_le (Nat.le_of_eq (length_readOctets _ _ _)), List.append_nil]
  have hpush : r.push payload p =
      (((r.fill g payload).commit g p).1, ((r.fill g payload).commit g p).2, .ok ()) := by
    unfold Ring.push
    rw [hg]
  exact ⟨_, _, hpush, _, hfilled.commit hsize.2 hfits hdraft, List.map_append ..⟩

/-- A record comes last, or it is dropped and all else stays. -/
theorem Holds.push_cases (hsize : Admits size) (h : r.Holds payloads) (payload : List UInt8)
    (p : Producer) : (r.push payload p).1.Holds (payloads ++ [payload]) ∨
      (r.push payload p).1.Holds payloads := by
  cases hreserve : r.reserve payload.length with
  | ok g =>
    obtain ⟨r', p', hpush, hholds⟩ := h.push hsize ⟨g, hreserve⟩ p
    left
    rw [hpush]
    exact hholds
  | error e =>
    have hpush : r.push payload p = (r.recordDrop payload.length, p, .error e) := by
      unfold Ring.push
      rw [hreserve]
    right
    rw [hpush]
    exact h

/-- The oldest record is the one that is taken. -/
theorem Holds.take_cons (h : r.Holds (payload :: payloads)) :
    ∃ r', r.take = (r', some payload) ∧ r'.Holds payloads := by
  obtain ⟨entries, hlayout, hpayloads⟩ := h
  obtain ⟨e, rest, rfl, rfl, rfl⟩ := List.map_eq_cons_iff.mp hpayloads
  obtain ⟨hpop, hnext, -⟩ := pop_of_layout_cons hlayout
  have hpayload : ({ r with readOffset := e.offset } : Ring size).payload e.delivery = e.payload :=
    (hnext.standsIn e (List.mem_cons_self ..)).payload_eq
  have htake : r.take = ({ r with readOffset := e.offset + e.span }, some e.payload) := by
    unfold Ring.take
    rw [hpop]
    simp only [hpayload]
    rw [Ring.release, Entry.span, ← Nat.add_assoc]
    rfl
  exact ⟨_, htake, rest, hnext.release.1, rfl⟩

/-- A ring that holds nothing has nothing to take. -/
theorem take_of_holds_nil (h : r.Holds []) : r.take = (r, none) := by
  obtain ⟨entries, hlayout, hpayloads⟩ := h
  obtain rfl := List.map_eq_nil_iff.mp hpayloads
  unfold Ring.take
  rw [pop_of_layout_nil hlayout]

/-- Each record takes up some of the buffer. -/
theorem Consecutive.length_le {storage : Vector UInt8 size} {start finish : Nat}
    {entries : List Entry} (h : Consecutive storage start entries finish) :
    start + entries.length ≤ finish := by
  induction h with
  | nil => exact Nat.le_refl _
  | cons hoffset hstands hrest ih =>
    have hspan : ∀ e : Entry, 1 ≤ e.span := by
      intro e
      unfold Entry.span headerSize
      omega
    rename_i e rest
    have := hspan e
    rw [List.length_cons]
    omega

/-- There are fewer records in a ring than octets in its buffer. -/
theorem Holds.length_lt (h : r.Holds payloads) : payloads.length < size := by
  obtain ⟨entries, hlayout, rfl⟩ := h
  rw [List.length_map]
  have hheader : headerSize = 4 := rfl
  cases hlayout with
  | straight hall hwrite =>
    have := hall.length_le
    omega
  | wrapped hfront hmarker hfit hback hpos hlt =>
    have hbefore := hfront.length_le
    have hbehind := hback.length_le
    rw [List.length_append]
    omega

/-- The oldest records are the ones that are thrown away. -/
theorem Holds.discard (most : Nat) (h : r.Holds payloads) :
    (r.discard most).Holds (payloads.drop most) := by
  induction most generalizing r payloads with
  | zero => exact h
  | succ most ih =>
    unfold Ring.discard
    cases payloads with
    | nil =>
      rw [take_of_holds_nil h]
      exact h
    | cons payload rest =>
      obtain ⟨r', htake, hrest⟩ := h.take_cons
      rw [htake]
      exact ih hrest

/-- All records are thrown away. -/
theorem Holds.discardAll (h : r.Holds payloads) : r.discardAll.Holds [] := by
  have hdropped := h.discard size
  rw [List.drop_eq_nil_of_le (Nat.le_of_lt h.length_lt)] at hdropped
  exact hdropped

namespace Traffic

/-- However both sides go on, the ring holds what was committed and not given back. -/
theorem holds_run (hsize : Admits size) (actions : List Action) :
    (run actions (start size)).ring.Holds ((run actions (start size)).pending.map Entry.payload) :=
  ⟨_, ((Sound.start hsize).run hsize actions).layout, rfl⟩

end Traffic

end WlanControl.Ring
