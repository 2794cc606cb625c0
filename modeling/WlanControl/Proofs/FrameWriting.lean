import WlanControl.Proofs.FrameDrafts

namespace WlanControl.Frame

/-!
# Frames — what is written where space may be short

A frame is written slice by slice into memory that somebody else provides.  As long as there is
room, a slice is copied behind those before it.  The first one without room ends the frame, and
leaves a part of it that is no frame.

* `Writer.putAll_eq_putSlices` — fields that can be counted are no more than their slices;
* `Writer.putAll_of_short` — what is written of fields for which there is no room;
* `Attempt`, `Writer.history` — the copying of slices that a sequence of puts comes to;
* `Writer.putEach_eq` — what is written after any sequence of puts;
* `Buffer` — the memory itself, into which slices are copied in place;
* `Writer.Mirrors` — a writer tells what becomes of the memory;
* `Composition` — all that can be written, also what nobody here reads.

Main statement: `composition_written`.
-/

/-! ### Slices of fields -/

namespace Writer

theorem putSlices_of_room {slice : List UInt8} {w : Writer}
    (h : w.written.length + slice.length ≤ w.capacity) (rest : List (List UInt8)) :
    putSlices (slice :: rest) w = putSlices rest { w with written := w.written ++ slice } :=
  if_pos h

theorem putSlices_of_full {slice : List UInt8} {w : Writer}
    (h : ¬ w.written.length + slice.length ≤ w.capacity) (rest : List (List UInt8)) :
    putSlices (slice :: rest) w = (w, .error .bufferTooSmall) :=
  if_neg h

/-- If all slices are written, those behind them are next. -/
theorem putSlices_append_of_ok {slices : List (List UInt8)} {w : Writer}
    (h : (putSlices slices w).2 = .ok ()) (rest : List (List UInt8)) :
    putSlices (slices ++ rest) w = putSlices rest (putSlices slices w).1 := by
  induction slices generalizing w with
  | nil => rfl
  | cons slice more ih =>
    rw [List.cons_append]
    by_cases hroom : w.written.length + slice.length ≤ w.capacity
    · rw [putSlices_of_room hroom] at h ⊢
      rw [putSlices_of_room hroom]
      exact ih h
    · rw [putSlices_of_full hroom] at h
      cases h

/-- If not all slices are written, nothing of those behind them is. -/
theorem putSlices_append_of_error {slices : List (List UInt8)} {w : Writer} {e : Error}
    (h : (putSlices slices w).2 = .error e) (rest : List (List UInt8)) :
    putSlices (slices ++ rest) w = putSlices slices w := by
  induction slices generalizing w with
  | nil => cases h
  | cons slice more ih =>
    rw [List.cons_append]
    by_cases hroom : w.written.length + slice.length ≤ w.capacity
    · rw [putSlices_of_room hroom] at h ⊢
      rw [putSlices_of_room hroom]
      exact ih h
    · rw [putSlices_of_full hroom, putSlices_of_full hroom]

/-- Fields that can be counted are written as the slices that they have together. -/
theorem putAll_eq_putSlices {fields : List Field}
    (hcount : ∀ field ∈ fields, field.isCountable = true) (w : Writer) :
    putAll fields w = putSlices (fields.flatMap Field.slices) w := by
  induction fields generalizing w with
  | nil => rfl
  | cons field rest ih =>
    obtain ⟨hfield, hrest⟩ := List.forall_mem_cons.mp hcount
    have hput : put field w = putSlices field.slices w := if_pos hfield
    rw [List.flatMap_cons]
    unfold putAll
    rw [hput]
    split
    · rename_i w' hw
      rw [putSlices_append_of_ok (by rw [hw]), hw]
      exact ih hrest w'
    · rename_i w' e hw
      rw [putSlices_append_of_error (by rw [hw]), hw]

theorem flatten_slices (fields : List Field) :
    (fields.flatMap Field.slices).flatten = fields.flatMap Field.encoding := by
  rw [← List.flatMap_id, List.flatMap_assoc]
  simp only [List.flatMap_id]
  rfl

/-- Where there is no room for all fields, as many slices are written as there is room for. -/
theorem putAll_of_short {fields : List Field} {w : Writer}
    (hcount : ∀ field ∈ fields, field.isCountable = true) (hw : w.written.length ≤ w.capacity)
    (h : w.capacity < w.written.length + (fields.flatMap Field.encoding).length) :
    ∃ done rest, fields.flatMap Field.encoding = done ++ rest ∧ rest ≠ [] ∧
      putAll fields w = ({ w with written := w.written ++ done }, .error .bufferTooSmall) := by
  have hle : (putSlices (fields.flatMap Field.slices) w).1.written.length ≤ w.capacity :=
    (length_putSlices_le hw).1
  rw [putAll_eq_putSlices hcount, ← flatten_slices]
  rw [← flatten_slices] at h
  obtain ⟨done, rest, hslices, hwritten, houtcome⟩ :=
    putSlices_spec (fields.flatMap Field.slices) w
  rw [hwritten, List.length_append] at hle
  rw [hslices, List.flatten_append, List.length_append] at h
  -- What is written fits, so there is something left.
  have hleft : rest.flatten ≠ [] := by
    intro hnone
    rw [hnone, List.length_nil] at h
    omega
  rcases houtcome with ⟨-, rfl⟩ | ⟨herror, -⟩
  · exact absurd rfl hleft
  · exact ⟨done.flatten, rest.flatten, by rw [hslices, List.flatten_append], hleft,
      Prod.ext hwritten herror⟩

end Writer

/-! ### Puts that succeed -/

/-- The put of one slice, and what came of it. -/
structure Attempt where
  slice : List UInt8
  outcome : Except Error Unit

namespace Attempt

/-- Whether the slice was written. -/
def succeeded (attempt : Attempt) : Bool := attempt.outcome.isOk

/-- What some attempts have copied, one slice behind the other. -/
def copied (attempts : List Attempt) : List UInt8 := (attempts.filter succeeded).flatMap slice

theorem copied_of_ok (slice : List UInt8) (rest : List Attempt) :
    copied (⟨slice, .ok ()⟩ :: rest) = slice ++ copied rest := rfl

theorem copied_of_error (slice : List UInt8) (e : Error) (rest : List Attempt) :
    copied (⟨slice, .error e⟩ :: rest) = copied rest := rfl

theorem succeeded_of_ok (slice : List UInt8) : succeeded ⟨slice, .ok ()⟩ = true := rfl

theorem succeeded_of_error (slice : List UInt8) (e : Error) :
    succeeded ⟨slice, .error e⟩ = false := rfl

theorem copied_append (first second : List Attempt) :
    copied (first ++ second) = copied first ++ copied second := by
  unfold copied
  rw [List.filter_append, List.flatMap_append]

end Attempt

namespace Writer

/-- The attempts that are made for some slices.  The first that fails is the last. -/
def attempts : List (List UInt8) → Writer → List Attempt
  | [], _ => []
  | slice :: rest, w =>
    let after := put (.octets slice) w
    ⟨slice, after.2⟩ :: if after.2.isOk then attempts rest after.1 else []

/-- The attempts that are made for one field.  An element that cannot be counted is not tried. -/
def attemptsOf (field : Field) (w : Writer) : List Attempt :=
  if field.isCountable then attempts field.slices w else []

/-- Puts one field after the other, whatever becomes of those before. -/
def putEach (fields : List Field) (w : Writer) : Writer :=
  fields.foldl (fun w field => (put field w).1) w

/-- All attempts that are made, while fields are put one after the other. -/
def history : List Field → Writer → List Attempt
  | [], _ => []
  | field :: rest, w => attemptsOf field w ++ history rest (put field w).1

theorem attempts_of_room {slice : List UInt8} {w : Writer}
    (h : w.written.length + slice.length ≤ w.capacity) (rest : List (List UInt8)) :
    attempts (slice :: rest) w =
      ⟨slice, .ok ()⟩ :: attempts rest { w with written := w.written ++ slice } := by
  have hput : put (.octets slice) w = ({ w with written := w.written ++ slice }, .ok ()) :=
    putSlices_of_room h []
  rw [attempts, hput]
  rfl

theorem attempts_of_full {slice : List UInt8} {w : Writer}
    (h : ¬ w.written.length + slice.length ≤ w.capacity) (rest : List (List UInt8)) :
    attempts (slice :: rest) w = [⟨slice, .error .bufferTooSmall⟩] := by
  have hput : put (.octets slice) w = (w, .error .bufferTooSmall) := putSlices_of_full h []
  rw [attempts, hput]
  rfl

/-- What is written of some slices are those whose attempts succeed, and all of them are written if
no attempt fails. -/
theorem putSlices_eq_copied (slices : List (List UInt8)) (w : Writer) :
    (putSlices slices w).1 =
        { w with written := w.written ++ Attempt.copied (attempts slices w) } ∧
      ((putSlices slices w).2 = .ok () ↔ ∀ attempt ∈ attempts slices w, attempt.succeeded) := by
  induction slices generalizing w with
  | nil => simp [putSlices, attempts, Attempt.copied]
  | cons slice rest ih =>
    by_cases hroom : w.written.length + slice.length ≤ w.capacity
    · obtain ⟨hwritten, houtcome⟩ := ih { w with written := w.written ++ slice }
      rw [putSlices_of_room hroom, attempts_of_room hroom, Attempt.copied_of_ok, hwritten, houtcome]
      simp [Attempt.succeeded_of_ok]
    · rw [putSlices_of_full hroom, attempts_of_full hroom, Attempt.copied_of_error]
      simp [Attempt.succeeded_of_error, Attempt.copied]

theorem put_eq_copied (field : Field) (w : Writer) :
    (put field w).1 =
        { w with written := w.written ++ Attempt.copied (attemptsOf field w) } ∧
      ((put field w).2 = .ok () ↔
        field.isCountable = true ∧ ∀ attempt ∈ attemptsOf field w, attempt.succeeded) := by
  unfold put attemptsOf
  by_cases hcount : field.isCountable
  · rw [if_pos hcount, if_pos hcount]
    simpa [hcount] using putSlices_eq_copied field.slices w
  · rw [if_neg hcount, if_neg hcount]
    simp [hcount, Attempt.copied]

/-- After any sequence of puts, the slices are written whose attempts succeeded, and no others. -/
theorem putEach_eq (fields : List Field) (w : Writer) :
    putEach fields w = { w with written := w.written ++ Attempt.copied (history fields w) } := by
  induction fields generalizing w with
  | nil => simp [putEach, history, Attempt.copied]
  | cons field rest ih =>
    have hstep : putEach (field :: rest) w = putEach rest (put field w).1 := rfl
    unfold history
    rw [hstep, ih, (put_eq_copied field w).1, Attempt.copied_append]
    simp

end Writer

/-! ### The memory itself -/

/-- Memory for a frame, of which the first octets are filled. -/
structure Buffer where
  octets : List UInt8
  filled : Nat

namespace Buffer

/-- Copies a slice behind the octets that are filled, if it ends within the memory. -/
def putSlice (slice : List UInt8) (b : Buffer) : Buffer × Except Error Unit :=
  if b.filled + slice.length ≤ b.octets.length then
    (⟨b.octets.take b.filled ++ slice ++ b.octets.drop (b.filled + slice.length),
      b.filled + slice.length⟩, .ok ())
  else (b, .error .bufferTooSmall)

/-- Puts one thing after the other, up to the first that cannot be put. -/
def inTurn {α : Type} (step : α → Buffer → Buffer × Except Error Unit) :
    List α → Buffer → Buffer × Except Error Unit
  | [], b => (b, .ok ())
  | a :: rest, b =>
    match step a b with
    | (b, .ok ()) => inTurn step rest b
    | (b, .error e) => (b, .error e)

/-- Copies the slices of a field. -/
def put (field : Field) (b : Buffer) : Buffer × Except Error Unit :=
  if field.isCountable then inTurn putSlice field.slices b else (b, .error .bufferTooSmall)

end Buffer

namespace Writer

/-- The memory of a writer, which held `space` before anything was written. -/
def buffer (space : List UInt8) (w : Writer) : Buffer :=
  ⟨w.written ++ space.drop w.written.length, w.written.length⟩

/-- The writer writes into a memory as large as `space`. -/
structure Within (space : List UInt8) (w : Writer) : Prop where
  capacity : w.capacity = space.length
  written : w.written.length ≤ space.length

/-- What a writer does is what happens to its memory. -/
def Mirrors (space : List UInt8) (onWriter : Writer → Writer × Except Error Unit)
    (onBuffer : Buffer → Buffer × Except Error Unit) : Prop :=
  ∀ w : Writer, w.Within space → (onWriter w).1.Within space ∧
    onBuffer (w.buffer space) = ((onWriter w).1.buffer space, (onWriter w).2)

variable {space : List UInt8}

/-- A slice is copied to where the writer has it. -/
theorem mirrors_putSlice (slice : List UInt8) :
    Mirrors space (putSlices [slice]) (Buffer.putSlice slice) := by
  intro w hw
  have hcapacity := hw.capacity
  have hwritten := hw.written
  -- The memory keeps its size, so it has room for a slice exactly if the writer has.
  have hlength : (w.buffer space).octets.length = space.length := by
    simp [buffer]
    omega
  unfold Buffer.putSlice
  rw [hlength]
  by_cases hroom : w.written.length + slice.length ≤ w.capacity
  · rw [putSlices_of_room hroom, if_pos (by rw [← hcapacity]; exact hroom)]
    refine ⟨⟨hcapacity, by simpa [putSlices] using by omega⟩, ?_⟩
    simp [putSlices, buffer, List.drop_append]
  · rw [putSlices_of_full hroom, if_neg (by rw [← hcapacity]; exact hroom)]
    exact ⟨hw, rfl⟩

/-- One after the other, what is done to the memory stays what the writer does. -/
theorem mirrors_putSlices (slices : List (List UInt8)) :
    Mirrors space (putSlices slices) (Buffer.inTurn Buffer.putSlice slices) := by
  induction slices with
  | nil =>
    intro w hw
    exact ⟨hw, rfl⟩
  | cons slice rest ih =>
    intro w hw
    obtain ⟨hwithin, hbuffer⟩ := mirrors_putSlice slice w hw
    unfold Buffer.inTurn
    rw [hbuffer]
    by_cases hroom : w.written.length + slice.length ≤ w.capacity
    · rw [putSlices_of_room hroom] at hwithin ⊢
      rw [putSlices_of_room hroom]
      exact ih _ hwithin
    · rw [putSlices_of_full hroom, putSlices_of_full hroom]
      exact ⟨hw, rfl⟩

theorem mirrors_put (field : Field) : Mirrors space (put field) (Buffer.put field) := by
  intro w hw
  unfold put Buffer.put
  split
  · exact mirrors_putSlices field.slices w hw
  · exact ⟨hw, rfl⟩

theorem mirrors_putAll (fields : List Field) :
    Mirrors space (putAll fields) (Buffer.inTurn Buffer.put fields) := by
  induction fields with
  | nil =>
    intro w hw
    exact ⟨hw, rfl⟩
  | cons field rest ih =>
    intro w hw
    obtain ⟨hwithin, hbuffer⟩ := mirrors_put field w hw
    unfold putAll Buffer.inTurn
    rw [hbuffer]
    cases hput : put field w with
    | mk w' outcome =>
      rw [hput] at hwithin
      cases outcome with
      | ok done => exact ih w' hwithin
      | error e => exact ⟨hwithin, rfl⟩

/-- The memory after any sequence of puts is that of the writer. -/
theorem foldl_put_buffer (fields : List Field) {w : Writer} (hw : w.Within space) :
    fields.foldl (fun b field => (Buffer.put field b).1) (w.buffer space) =
      (putEach fields w).buffer space := by
  induction fields generalizing w with
  | nil => rfl
  | cons field rest ih =>
    obtain ⟨hwithin, hbuffer⟩ := mirrors_put field w hw
    rw [List.foldl_cons, hbuffer]
    exact ih hwithin

theorem within_ofCapacity (space : List UInt8) : (ofCapacity space.length).Within space :=
  ⟨rfl, Nat.zero_le _⟩

end Writer

/-! ### All frames -/

/-- A frame that can be written. -/
inductive Composition
  /-- A frame that is read as what it was made from. -/
  | drafted (draft : Draft)
  /-- A farewell, which is given any subtype. -/
  | farewell (subtype : ManagementSubtype) (receiver transmitter bssid : MacAddress)
    (reason : ReasonCode)
  /-- A data frame without a body. -/
  | nullData (bssid transmitter : MacAddress)

namespace Composition

/-- The fields of the frame with a number. -/
def fields (number : UInt16) : Composition → List Field
  | .drafted draft => draft.fields number
  | .farewell subtype receiver transmitter bssid reason =>
    deauthentication subtype receiver transmitter bssid number reason
  | .nullData bssid transmitter => Frame.nullData bssid transmitter number

/-- What the elements hold can be counted by one octet. -/
def IsCountable : Composition → Prop
  | .drafted draft => draft.IsCountable
  | .farewell _ _ _ _ _ | .nullData _ _ => True

theorem countable_fields {composition : Composition} (h : composition.IsCountable)
    (number : UInt16) : ∀ field ∈ composition.fields number, field.isCountable = true := by
  cases composition with
  | drafted draft => exact Draft.countable_fields h number
  | farewell subtype receiver transmitter bssid reason =>
    unfold fields deauthentication
    rw [List.forall_mem_append]
    exact ⟨Header.isCountable_fields _, by simp [Field.isCountable]⟩
  | nullData bssid transmitter => exact Header.isCountable_fields _

/-- Every frame starts with a header that holds its number. -/
theorem exists_fields_eq (composition : Composition) (number : UInt16) : ∃ header rest,
    composition.fields number = Header.fields header ++ rest ∧
      header.sequenceControl = Header.sequenceWord number := by
  cases composition with
  | drafted draft => exact draft.exists_fields_eq number
  | farewell => exact ⟨_, _, rfl, rfl⟩
  | nullData => exact ⟨_, [], (List.append_nil _).symm, rfl⟩

/-- The octets of the frame with a number. -/
def encoding (composition : Composition) (number : UInt16) : List UInt8 :=
  (composition.fields number).flatMap Field.encoding

/-- What becomes of a frame that is written into memory which held `space`. -/
structure Fills (composition : Composition) (number : UInt16) (space : List UInt8) : Prop where
  /-- If there is room for the frame, it is there from the start of the memory. -/
  whole : (composition.encoding number).length ≤ space.length →
    Writer.putAll (composition.fields number) (.ofCapacity space.length) =
        (⟨space.length, composition.encoding number⟩, .ok ()) ∧
      Buffer.inTurn Buffer.put (composition.fields number) ⟨space, 0⟩ =
        (⟨composition.encoding number ++ space.drop (composition.encoding number).length,
          (composition.encoding number).length⟩, .ok ())
  /-- If not, some part of it is, and nothing is changed behind this part. -/
  part : space.length < (composition.encoding number).length →
    ∃ done rest, composition.encoding number = done ++ rest ∧ rest ≠ [] ∧
      Writer.putAll (composition.fields number) (.ofCapacity space.length) =
        (⟨space.length, done⟩, .error .bufferTooSmall) ∧
      Buffer.inTurn Buffer.put (composition.fields number) ⟨space, 0⟩ =
        (⟨done ++ space.drop done.length, done.length⟩, .error .bufferTooSmall)

end Composition

/-- Each frame whose elements can be counted is written as a whole, if there is room for it, and
else in part.  Any sequence of puts leaves the slices that were put with success, in their order,
and nothing else.  A field is put with success if it can be counted and all of its slices are. -/
theorem composition_written :
    (∀ (composition : Composition) (number : UInt16) (space : List UInt8),
      composition.IsCountable → composition.Fills number space) ∧
    (∀ (fields : List Field) (space : List UInt8),
      let copied := Attempt.copied (Writer.history fields (.ofCapacity space.length))
      Writer.putEach fields (.ofCapacity space.length) = ⟨space.length, copied⟩ ∧
        fields.foldl (fun b field => (Buffer.put field b).1) ⟨space, 0⟩ =
          ⟨copied ++ space.drop copied.length, copied.length⟩) ∧
    ∀ (field : Field) (w : Writer), (Writer.put field w).2 = .ok () ↔
      field.isCountable = true ∧ ∀ attempt ∈ Writer.attemptsOf field w, attempt.succeeded := by
  refine ⟨?_, ?_, fun field w => (Writer.put_eq_copied field w).2⟩
  · intro composition number space hcount
    have hfields := Composition.countable_fields hcount number
    obtain ⟨-, hbuffer⟩ := Writer.mirrors_putAll (composition.fields number)
      (.ofCapacity space.length) (Writer.within_ofCapacity space)
    have hempty : (Writer.ofCapacity space.length).written.length = 0 := rfl
    refine ⟨fun hroom => ?_, fun hshort => ?_⟩
    · have hput : Writer.putAll (composition.fields number) (.ofCapacity space.length) =
          (⟨space.length, composition.encoding number⟩, .ok ()) :=
        Writer.putAll_of_fits hfields (by rw [hempty, Nat.zero_add]; exact hroom)
      refine ⟨hput, ?_⟩
      rw [hput] at hbuffer
      exact hbuffer
    · obtain ⟨done, rest, hencoding, hrest, hput⟩ :=
        Writer.putAll_of_short (w := .ofCapacity space.length) hfields (Nat.zero_le _)
          (by rw [hempty, Nat.zero_add]; exact hshort)
      refine ⟨done, rest, hencoding, hrest, hput, ?_⟩
      rw [hput] at hbuffer
      exact hbuffer
  · intro fields space
    have hputs := Writer.putEach_eq fields (.ofCapacity space.length)
    refine ⟨hputs, ?_⟩
    have hmemory := Writer.foldl_put_buffer fields (Writer.within_ofCapacity space)
    rw [hputs] at hmemory
    exact hmemory

theorem composition_written_challenging :
    (Composition.drafted challenging).IsCountable ∧
      ((Composition.drafted challenging).encoding 0x1234).length = 34 ∧
      Buffer.inTurn Buffer.put ((Composition.drafted challenging).fields 0x1234)
          ⟨List.replicate 35 0xee, 0⟩ =
        (⟨(Composition.drafted challenging).encoding 0x1234 ++ [0xee], 34⟩, .ok ()) ∧
      ∃ done rest, (Composition.drafted challenging).encoding 0x1234 = done ++ rest ∧ rest ≠ [] ∧
        Writer.putAll ((Composition.drafted challenging).fields 0x1234) (.ofCapacity 33) =
          (⟨33, done⟩, .error .bufferTooSmall) := by
  have hcount : (Composition.drafted challenging).IsCountable := by
    rintro challenge ⟨⟩
    decide
  have hlength : ((Composition.drafted challenging).encoding 0x1234).length = 34 := by decide
  have hwhole := (composition_written.1 _ 0x1234 (List.replicate 35 0xee) hcount).whole
    (by rw [hlength]; decide)
  obtain ⟨done, rest, hencoding, hrest, hput, -⟩ :=
    (composition_written.1 _ 0x1234 (List.replicate 33 0xee) hcount).part (by rw [hlength]; decide)
  rw [hlength] at hwhole
  exact ⟨hcount, hlength, hwhole.2, done, rest, hencoding, hrest, hput⟩

end WlanControl.Frame
