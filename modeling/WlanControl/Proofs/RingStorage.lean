import WlanControl.Ring.Basic

namespace WlanControl.Ring

/-!
# Rings — octets written to the buffer and read back

The buffer of a ring is written and read in ranges.  Two facts carry everything that is said about
its records:

* `getElem?_writeOctets` — a write changes exactly the octets of its range;
* `readOctets_congr` — what is read depends on the octets of the range only.

From them follow `readOctets_writeOctets_self` (what was written is read back),
`readOctets_writeOctets_of_disjoint` (a write elsewhere is not noticed) and
`readOctets_writeOctets_prefix` (a write to the first part of a range leaves its rest).

`deliveryAt_of_header` and `header_ne_wrapMarker` do the same for the header of a record: it is
decoded as it was encoded, and it is never taken for a wrap marker.
-/

variable {size : Nat}

/-! ### Single octets -/

/-- A write changes exactly the octets of its range, as far as they are in the buffer. -/
theorem getElem?_writeOctets (octets : List UInt8) (offset : Nat) (storage : Vector UInt8 size)
    (i : Nat) :
    (writeOctets octets offset storage)[i]?
      = if offset ≤ i ∧ i < offset + octets.length ∧ i < size then octets[i - offset]?
        else storage[i]? := by
  -- `writeOctets` writes the first octet and goes on behind it with the rest.
  induction octets generalizing offset storage with
  | nil =>
    have hout : ¬ (offset ≤ i ∧ i < offset + ([] : List UInt8).length ∧ i < size) := by
      simp only [List.length_nil]; omega
    rw [if_neg hout]; rfl
  | cons octet rest ih =>
    rw [writeOctets, ih]
    by_cases hi : i = offset
    · subst hi
      -- The first octet goes here, and the rest starts behind it.
      rw [if_neg (by omega)]
      by_cases hsize : i < size
      · simp [hsize]
      · simp [hsize]
    · have hkeep : (storage.setIfInBounds offset octet)[i]? = storage[i]? := by
        rw [Vector.getElem?_setIfInBounds, if_neg (Ne.symm hi)]
      rw [hkeep]
      by_cases hin : offset + 1 ≤ i ∧ i < offset + 1 + rest.length ∧ i < size
      · have hin' : offset ≤ i ∧ i < offset + (octet :: rest).length ∧ i < size := by
          simp only [List.length_cons]; omega
        rw [if_pos hin, if_pos hin']
        have hsucc : i - offset = (i - (offset + 1)) + 1 := by omega
        rw [hsucc, List.getElem?_cons_succ]
      · have hout : ¬ (offset ≤ i ∧ i < offset + (octet :: rest).length ∧ i < size) := by
          simp only [List.length_cons]; omega
        rw [if_neg hin, if_neg hout]

/-- A write leaves the octets outside of its range alone. -/
theorem getElem?_writeOctets_of_outside {octets : List UInt8} {offset i : Nat}
    (storage : Vector UInt8 size) (hout : i < offset ∨ offset + octets.length ≤ i) :
    (writeOctets octets offset storage)[i]? = storage[i]? := by
  rw [getElem?_writeOctets, if_neg (by omega)]

/-! ### Ranges -/

@[simp] theorem length_readOctets (storage : Vector UInt8 size) (offset length : Nat) :
    (readOctets storage offset length).length = length := by
  simp [readOctets]

/-- What is read depends on the octets of the range only. -/
theorem readOctets_congr {storage storage' : Vector UInt8 size} {offset length : Nat}
    (hsame : ∀ i, offset ≤ i → i < offset + length → storage'[i]? = storage[i]?) :
    readOctets storage' offset length = readOctets storage offset length := by
  unfold readOctets
  apply List.map_congr_left
  intro i hi
  rw [List.mem_range] at hi
  rw [hsame (offset + i) (by omega) (by omega)]

/-- A range is read in two parts. -/
theorem readOctets_add (storage : Vector UInt8 size) (offset m n : Nat) :
    readOctets storage offset (m + n)
      = readOctets storage offset m ++ readOctets storage (offset + m) n := by
  simp [readOctets, List.range_add, Nat.add_assoc, Function.comp_def]

/-- A write elsewhere is not noticed. -/
theorem readOctets_writeOctets_of_disjoint {octets : List UInt8} {offset start length : Nat}
    (storage : Vector UInt8 size)
    (hdisjoint : start + length ≤ offset ∨ offset + octets.length ≤ start) :
    readOctets (writeOctets octets offset storage) start length
      = readOctets storage start length := by
  apply readOctets_congr
  intro i hlow hhigh
  exact getElem?_writeOctets_of_outside storage (by omega)

/-- What was written is read back, if it is in the buffer. -/
theorem readOctets_writeOctets_self {octets : List UInt8} {offset : Nat}
    (storage : Vector UInt8 size) (hfit : offset + octets.length ≤ size) :
    readOctets (writeOctets octets offset storage) offset octets.length = octets := by
  apply List.ext_getElem
  · rw [length_readOctets]
  · intro i hi hi'
    rw [length_readOctets] at hi
    simp only [readOctets, List.getElem_map, List.getElem_range]
    rw [getElem?_writeOctets, if_pos (by omega), Nat.add_sub_cancel_left,
      List.getElem?_eq_getElem hi', Option.getD_some]

/-- A write to the first part of a range leaves the rest of the range as it was. -/
theorem readOctets_writeOctets_prefix {octets : List UInt8} {offset length : Nat}
    (storage : Vector UInt8 size) (hle : octets.length ≤ length) (hfit : offset + length ≤ size) :
    readOctets (writeOctets octets offset storage) offset length
      = octets ++ (readOctets storage offset length).drop octets.length := by
  -- The range is read up to the end of the write, and from there on.
  obtain ⟨rest, rfl⟩ := Nat.exists_eq_add_of_le hle
  rw [readOctets_add, readOctets_writeOctets_self storage (by omega),
    readOctets_writeOctets_of_disjoint storage (by omega), readOctets_add storage,
    List.drop_left' (length_readOctets storage offset octets.length)]

/-! ### Headers -/

@[simp] theorem length_header (length : Nat) (sequence : UInt8) :
    (header length sequence).length = headerSize := rfl

@[simp] theorem length_wrapMarker : wrapMarker.length = headerSize := rfl

/-- The last octet of a header is zero, that of a wrap marker is not. -/
theorem header_ne_wrapMarker (length : Nat) (sequence : UInt8) :
    header length sequence ≠ wrapMarker := by
  intro h
  have hlast := congrArg (fun octets => octets[3]?) h
  simp [header, wrapMarker, littleEndian16] at hlast

/-- A header is decoded as it was encoded, if the length fits into its two octets. -/
theorem deliveryAt_of_header {r : Ring size} {offset length : Nat} {sequence : UInt8}
    (hlength : length < 65536)
    (hread : readOctets r.storage offset headerSize = header length sequence) :
    r.deliveryAt offset = ⟨offset, length, sequence⟩ := by
  simp only [readOctets, headerSize, header, littleEndian16, List.range_succ, List.range_zero,
    List.map_cons, List.map_nil, List.nil_append, List.cons_append, List.cons.injEq] at hread
  obtain ⟨hlow, hhigh, hnumber, -⟩ := hread
  -- The length is not cut off, so that the two octets give it back.
  have hword : (UInt16.ofNat length).toNat = length := by
    rw [UInt16.toNat_ofNat']; exact Nat.mod_eq_of_lt hlength
  unfold deliveryAt
  simp only [hlow, hhigh, hnumber]
  rw [word16_split, hword]

end WlanControl.Ring
