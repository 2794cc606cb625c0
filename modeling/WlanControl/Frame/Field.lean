import WlanControl.Frame.Error

namespace WlanControl.Frame

/-!
# Writing frames into bounded space

A frame to be sent is a list of fields, and a writer is a stretch of space that is filled from its
start.  Writing stops at the first slice that does not fit, and what was written before it stays.

* `Field` — a run of octets, or an information element with its identifier and its length;
* `Writer` — the space and what has been written to it;
* `Writer.put`, `Writer.putAll` — write one field, or one after the other;
* `encode?` — a whole frame, if it fits.

Main statement: `putSlices_spec`, the writer holds the longest run of slices that fits.
-/

/-- The length of the longest frame that can be sent. -/
def maxFrameLength : Nat := 1600

/-- A part of a frame. -/
inductive Field
  /-- Octets as they stand. -/
  | octets (run : List UInt8)
  /-- An information element.  Its contents are counted by one octet. -/
  | element (id : UInt8) (contents : List UInt8)
deriving DecidableEq, Repr

/-- The slices of a field, each of which is written as a whole or not at all. -/
def Field.slices : Field → List (List UInt8)
  | .octets run => [run]
  | .element id contents => [[id], [UInt8.ofNat contents.length], contents]

/-- Whether the field can be written at all: one octet has to count the contents of an element. -/
def Field.isCountable : Field → Bool
  | .octets _ => true
  | .element _ contents => contents.length ≤ 255

/-- All octets of a field. -/
def Field.encoding (field : Field) : List UInt8 := field.slices.flatten

/-- Space for a frame, filled from its start. -/
structure Writer where
  capacity : Nat
  written : List UInt8
deriving DecidableEq, Repr

namespace Writer

/-- Space in which nothing was written yet. -/
def ofCapacity (capacity : Nat) : Writer := ⟨capacity, []⟩

/-- The number of octets written. -/
def length (w : Writer) : Nat := w.written.length

/-- Whether nothing was written yet. -/
def isEmpty (w : Writer) : Bool := w.written.isEmpty

/-- Writes slices one after the other, up to the first one that does not fit. -/
def putSlices : List (List UInt8) → Writer → Writer × Except Error Unit
  | [], w => (w, .ok ())
  | slice :: rest, w =>
    if w.written.length + slice.length ≤ w.capacity then
      putSlices rest { w with written := w.written ++ slice }
    else (w, .error .bufferTooSmall)

/-- Writes one field, or as many of its slices as fit. -/
def put (field : Field) (w : Writer) : Writer × Except Error Unit :=
  if field.isCountable then putSlices field.slices w else (w, .error .bufferTooSmall)

/-- Writes fields one after the other, up to the first one that cannot be written. -/
def putAll : List Field → Writer → Writer × Except Error Unit
  | [], w => (w, .ok ())
  | field :: rest, w =>
    match put field w with
    | (w, .ok ()) => putAll rest w
    | (w, .error e) => (w, .error e)

/-- What is written is what was there before followed by the first slices.  All of them are written
if they fit, and else as many as fit. -/
theorem putSlices_spec (slices : List (List UInt8)) (w : Writer) :
    ∃ done rest, slices = done ++ rest ∧
      (putSlices slices w).1 = { w with written := w.written ++ done.flatten } ∧
      ((putSlices slices w).2 = .ok () ∧ rest = [] ∨
        (putSlices slices w).2 = .error .bufferTooSmall ∧
          ∃ slice more, rest = slice :: more ∧
            w.capacity < w.written.length + done.flatten.length + slice.length) := by
  induction slices generalizing w with
  | nil => exact ⟨[], [], rfl, by simp [putSlices], .inl ⟨rfl, rfl⟩⟩
  | cons slice rest ih =>
    unfold putSlices
    split
    · obtain ⟨done, left, rfl, writes, outcome⟩ := ih { w with written := w.written ++ slice }
      refine ⟨slice :: done, left, rfl, by simp [writes], ?_⟩
      simpa [Nat.add_assoc] using outcome
    · refine ⟨[], slice :: rest, rfl, by simp, .inr ⟨rfl, slice, rest, rfl, ?_⟩⟩
      simp
      omega

end Writer

/-- The octets of a frame made of `fields`, if it fits into `capacity` octets. -/
def encode? (capacity : Nat) (fields : List Field) : Option (List UInt8) :=
  match Writer.putAll fields (Writer.ofCapacity capacity) with
  | (w, .ok ()) => some w.written
  | (_, .error _) => none

end WlanControl.Frame
