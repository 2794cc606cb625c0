import WlanControl.Link.Hosting

namespace WlanControl

/-!
# The link layer — sending frames

Whatever frames are sent, they change little: the number of the next frame, the times of the last
frames, the statistics, the radio and the log.

* `Frame.ofOctets?_data` — what is read of a data frame that was written;
* `Link.log_send` — what is logged of a frame;
* `Link.Transmits` — a link before and after frames were sent;
* `Link.transmits_send`, `Link.transmits_leaveAp`, … — the operations that do nothing else.
-/

namespace Frame

/-- All fields stand one after the other in what was written. -/
theorem Writer.written_putAll {fields : List Field} {w w' : Writer}
    (h : Writer.putAll fields w = (w', .ok ())) :
    w'.written = w.written ++ fields.flatMap Field.encoding := by
  induction fields generalizing w with
  | nil =>
    cases h
    simp
  | cons field rest ih =>
    unfold Writer.putAll Writer.put at h
    split at h
    · rename_i put hput
      split at hput
      · -- No slice of the field was left out.
        obtain ⟨done, left, hslices, hwritten, ⟨_, rfl⟩ | ⟨herror, _⟩⟩ :=
          Writer.putSlices_spec field.slices w
        · rw [hput] at hwritten
          cases hwritten
          rw [ih h]
          simp [Field.encoding, hslices]
        · rw [hput] at herror
          cases herror
      · cases hput
    · cases h

/-- A frame that fits is made of all its fields. -/
theorem eq_of_encode? {capacity : Nat} {fields : List Field} {frame : List UInt8}
    (h : encode? capacity fields = some frame) : frame = fields.flatMap Field.encoding := by
  unfold encode? at h
  split at h
  · rename_i w hput
    cases h
    exact Writer.written_putAll hput
  · cases h

/-- The header of a data frame is read back from the frame. -/
theorem ofOctets?_data {capacity : Nat} {direction : Direction}
    {bssid destination source : MacAddress} {sequenceNumber type : UInt16} {encrypted : Bool}
    {payload frame : List UInt8}
    (h : encode? capacity (data direction bssid destination source sequenceNumber encrypted type
      payload) = some frame) :
    ∃ body, Header.ofOctets? frame =
      some (dataHeader direction bssid destination source sequenceNumber encrypted, body) := by
  rw [eq_of_encode? h, data, List.flatMap_append]
  exact ⟨_, Header.ofOctets?_encoding _ _⟩

end Frame

namespace Link

open WlanControl.Frame (AuthAlgorithm Field ReasonCode StatusCode encode? maxFrameLength)

variable {σ : Type} {l l₁ l₂ l₃ : Link σ}

/-- What is logged of a frame, be it sent or not. -/
def Event.isTransmission : Event → Bool
  | .sent _ _ | .unsendable => true
  | _ => false

/-- From one link to the other nothing happened but that frames were sent. -/
structure Transmits (l l' : Link σ) : Prop where
  machine_eq : l'.machine = { l.machine with
    sequenceNumber := l'.machine.sequenceNumber
    lastSent := l'.machine.lastSent
    handshake.sentAt := l'.machine.handshake.sentAt }
  shared_eq : l'.shared = { l.shared with statistics := l'.shared.statistics }
  log_eq : ∃ events, l'.log = events ++ l.log ∧ ∀ e ∈ events, e.isTransmission = true

namespace Transmits

theorem refl (l : Link σ) : Transmits l l where
  machine_eq := rfl
  shared_eq := rfl
  log_eq := ⟨[], rfl, by simp⟩

theorem trans (h : Transmits l₁ l₂) (h' : Transmits l₂ l₃) : Transmits l₁ l₃ where
  machine_eq := by
    rw [h'.machine_eq, h.machine_eq]
  shared_eq := by
    rw [h'.shared_eq, h.shared_eq]
  log_eq := by
    obtain ⟨events, hlog, hevents⟩ := h.log_eq
    obtain ⟨events', hlog', hevents'⟩ := h'.log_eq
    refine ⟨events' ++ events, by rw [hlog', hlog, List.append_assoc], ?_⟩
    intro e he
    rcases List.mem_append.mp he with he | he
    · exact hevents' e he
    · exact hevents e he

end Transmits

variable (env : Surroundings σ)

/-- It is logged of a frame that it was handed to the radio, or that it would be too long. -/
theorem log_send (build : UInt16 → List Field) (l : Link σ) :
    (l.send env build).log = .unsendable :: l.log ∨
      ∃ frame accepted, encode? maxFrameLength (build l.machine.sequenceNumber) = some frame ∧
        (l.send env build).log = .sent frame accepted :: l.log := by
  unfold send
  simp only
  split
  · rename_i frame hframe
    refine .inr ?_
    unfold transmit
    split
    · exact ⟨frame, true, hframe, rfl⟩
    · exact ⟨frame, false, hframe, rfl⟩
  · exact .inl rfl

theorem transmits_transmit (frame : List UInt8) (l : Link σ) :
    Transmits l (l.transmit env frame) := by
  unfold transmit
  split
  · exact ⟨rfl, rfl, [.sent frame true], rfl, by simp [Event.isTransmission]⟩
  · exact ⟨rfl, rfl, [.sent frame false], rfl, by simp [Event.isTransmission]⟩

theorem transmits_send (build : UInt16 → List Field) (l : Link σ) :
    Transmits l (l.send env build) := by
  -- The number is used up even if the frame turns out to be too long.
  have hnumber : Transmits l
      { l with machine.sequenceNumber := nextNumber l.machine.sequenceNumber } :=
    ⟨rfl, rfl, [], rfl, by simp⟩
  refine hnumber.trans ?_
  unfold send
  simp only
  split
  · exact transmits_transmit env _ _
  · exact ⟨rfl, rfl, [.unsendable], rfl, by simp [Event.isTransmission]⟩

theorem transmits_leaveAp (l : Link σ) : Transmits l (l.leaveAp env) := by
  unfold leaveAp
  split
  · exact .refl l
  · split
    · exact transmits_send env _ l
    · exact .refl l

theorem transmits_sendAway (peers : List MacAddress) (reason : ReasonCode) (l : Link σ) :
    Transmits l (l.sendAway env peers reason) := by
  induction peers generalizing l with
  | nil => exact .refl l
  | cons peer rest ih => exact (transmits_send env _ l).trans (ih _)

theorem transmits_sendHandshakeFrame (l : Link σ) : Transmits l (l.sendHandshakeFrame env) := by
  have hsentAt (l : Link σ) : Transmits l { l with machine.handshake.sentAt := l.machine.now } :=
    ⟨rfl, rfl, [], rfl, by simp⟩
  unfold sendHandshakeFrame
  split
  · exact .refl l
  · refine .trans ?_ (hsentAt _)
    split
    · exact transmits_send env _ l
    · exact .refl l

theorem transmits_sendDataToAp (destination : MacAddress) (type : UInt16) (payload : List UInt8)
    (l : Link σ) : Transmits l (l.sendDataToAp env destination type payload) := by
  unfold sendDataToAp
  split
  · exact .refl l
  · exact transmits_send env _ l

theorem transmits_sendNullData (l : Link σ) : Transmits l (l.sendNullData env) := by
  unfold sendNullData
  split
  · exact .refl l
  · exact transmits_send env _ l

theorem transmits_sendProbeRequest (l : Link σ) : Transmits l (l.sendProbeRequest env) :=
  transmits_send env _ l

theorem transmits_answerAuthentication (peer : MacAddress) (algorithm : AuthAlgorithm)
    (status : StatusCode) (l : Link σ) :
    Transmits l (l.answerAuthentication env peer algorithm status) := by
  unfold answerAuthentication
  exact transmits_send env _ l

theorem transmits_answerAssociation (peer : MacAddress) (status : StatusCode) (aid : UInt16)
    (l : Link σ) : Transmits l (l.answerAssociation env peer status aid) := by
  unfold answerAssociation
  exact transmits_send env _ l

theorem transmits_sendBeacon (l : Link σ) : Transmits l (l.sendBeacon env) := by
  unfold sendBeacon
  split
  · exact .refl l
  · exact transmits_send env _ l

end Link

end WlanControl
