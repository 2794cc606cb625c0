import WlanControl.Proofs.FrameDrafts
import WlanControl.Proofs.FrameReading

namespace WlanControl.Frame

/-!
# Frames — which kind a frame is

A frame is read as one of the kind that its control word tells, whatever stands behind its header.
So a frame that was written is read as one of its own kind or not at all.

* `Draft.subtype?` — the kind of a draft, with `Draft.exists_management` for its control word;
* `Received.subtype_of_associationRequest`, `Received.subtype_of_deauthentication`,
  `Received.subtype_of_data` — the control word of a frame that was read;
* `isData`, `isDeauthentication` — whether a frame is a data frame with a body, or sends a station
  away;
* `claimedRates?` — the rates that a request to join a network claims for the station.

Main statements: `Draft.isData_eq` and `Draft.claimedRates?_eq`, for all frames that are written
from drafts.
-/

variable {octets body frame : List UInt8} {header : Header} {capacity : Nat} {number : UInt16}

/-! ### Control words -/

/-- The kind of a draft, if it is a management frame. -/
def Draft.subtype? : Draft → Option ManagementSubtype
  | .probeRequest _ _ => some .probeRequest
  | .authentication _ _ _ _ _ => some .authentication
  | .associationRequest _ _ _ _ _ => some .associationRequest
  | .associationResponse _ _ _ _ => some .associationResponse
  | .deauthentication _ _ _ _ => some .deauthentication
  | .disassociation _ _ _ _ => some .disassociation
  | .beacon _ => some .beacon
  | .data _ _ _ _ _ _ _ => none

/-- A management frame starts with a header that tells its kind. -/
theorem Draft.exists_management {draft : Draft} {subtype : ManagementSubtype}
    (h : draft.subtype? = some subtype) (number : UInt16) : ∃ header rest,
      draft.fields number = Header.fields header ++ rest ∧
        header.control.IsManagement subtype := by
  cases draft with
  | probeRequest | associationRequest | associationResponse | deauthentication | disassociation =>
    cases h
    exact ⟨_, _, rfl, (isManagement_management _ (by simp)).1⟩
  | authentication receiver transmitter bssid body encrypted =>
    cases h
    exact ⟨_, _, List.append_assoc _ _ _, (isManagement_management _ (by simp)).2 encrypted⟩
  | beacon =>
    cases h
    exact ⟨_, _, (List.append_assoc _ _ _).trans (List.append_assoc _ _ _),
      (isManagement_management _ (by simp)).1⟩
  | data => cases h

namespace Received

/-- Only frames of these kinds are read as requests to join a network. -/
theorem subtype_of_associationRequest {header' : Header} {capabilities : Capabilities}
    {ssid : Option Ssid}
    (h : ofBody? header body = some (.associationRequest header' capabilities ssid)) :
    header.control.IsManagement .associationRequest ∨
      header.control.IsManagement .reassociationRequest := by
  unfold ofBody? at h
  split at h
  · rename_i htype
    unfold ofManagement? at h
    split at h
    all_goals
      simp only [bind, Option.bind_eq_some_iff, Option.some.injEq] at h
      grind [Header.managementSubtype, FrameControl.IsManagement, Header.frameType]
  · split at h
    · cases h
    · cases h
  · cases h

/-- Only frames of this kind are read as sending a station away. -/
theorem subtype_of_deauthentication {header' : Header} {reason : ReasonCode}
    (h : ofBody? header body = some (.deauthentication header' reason)) :
    header.control.IsManagement .deauthentication := by
  unfold ofBody? at h
  split at h
  · rename_i htype
    unfold ofManagement? at h
    split at h
    all_goals
      simp only [bind, Option.bind_eq_some_iff, Option.some.injEq] at h
      grind [Header.managementSubtype, FrameControl.IsManagement, Header.frameType]
  · split at h
    · cases h
    · cases h
  · cases h

/-- Only data frames with a body are read as such. -/
theorem subtype_of_data {header' : Header} {body' : List UInt8}
    (h : ofBody? header body = some (.data header' body')) :
    header.frameType = .data ∧ header.dataSubtype = .data := by
  unfold ofBody? at h
  split at h
  · exact absurd rfl ((spec_ofManagement? h).2 header' body')
  · rename_i htype
    split at h
    · rename_i hsubtype
      exact ⟨htype, hsubtype⟩
    · cases h
  · cases h

end Received

/-! ### Data frames -/

/-- Whether a frame is a data frame with a body. -/
def isData (frame : List UInt8) : Bool :=
  match Received.ofOctets frame with
  | .ok (.data _ _) => true
  | _ => false

/-- A frame whose control word says otherwise is no data frame with a body. -/
theorem isData_of_header (h : Header.ofOctets? frame = some (header, body))
    (hother : header.frameType ≠ .data ∨ header.dataSubtype ≠ .data) : isData frame = false := by
  unfold isData
  split
  · rename_i hread
    obtain ⟨found, rest, hfound, hbody⟩ := Received.exists_of_ofOctets hread
    cases h.symm.trans hfound
    obtain ⟨htype, hsubtype⟩ := Received.subtype_of_data hbody
    rcases hother with hother | hother
    · exact absurd htype hother
    · exact absurd hsubtype hother
  · rfl

/-- Of the frames that are written from drafts those of data are data frames. -/
theorem Draft.isData_eq {draft : Draft} (h : encode? capacity (draft.fields number) = some frame) :
    isData frame = draft.subtype?.isNone := by
  cases hsubtype : draft.subtype? with
  | none =>
    have hcanonical : draft.IsCanonical := by
      cases draft with
      | data => trivial
      | probeRequest | authentication | associationRequest | associationResponse
      | deauthentication | disassociation | beacon => cases hsubtype
    have hread := ofOctets_fields hcanonical number
    rw [eq_of_encode? h, isData, hread]
    cases draft with
    | data => rfl
    | probeRequest | authentication | associationRequest | associationResponse | deauthentication
    | disassociation | beacon => cases hsubtype
  | some subtype =>
    obtain ⟨header, rest, hfields, hkind⟩ := exists_management hsubtype number
    rw [hfields] at h
    have htype : header.frameType = .management := hkind.1
    rw [eq_of_encode? h, List.flatMap_append]
    exact isData_of_header (Header.ofOctets?_encoding header _) (.inl (by simp [htype]))

/-- A data frame without a body is none with a body. -/
theorem isData_nullData {bssid transmitter : MacAddress}
    (h : encode? capacity (nullData bssid transmitter number) = some frame) :
    isData frame = false := by
  have hsubtype : DataSubtype.ofNumber
      ((FrameControl.data .null).set .toDs true).subtypeNumber ≠ .data := by decide
  rw [eq_of_encode? h, ← List.append_nil (List.flatMap _ _)]
  exact isData_of_header (Header.ofOctets?_encoding _ []) (.inr hsubtype)

/-! ### Frames that send a station away -/

/-- Whether a frame sends a station away. -/
def isDeauthentication (frame : List UInt8) : Bool :=
  match Received.ofOctets frame with
  | .ok (.deauthentication _ _) => true
  | _ => false

/-- A frame whose control word says otherwise sends nobody away. -/
theorem isDeauthentication_of_header (h : Header.ofOctets? frame = some (header, body))
    (hother : ¬ header.control.IsManagement .deauthentication) :
    isDeauthentication frame = false := by
  unfold isDeauthentication
  split
  · rename_i hread
    obtain ⟨found, rest, hfound, hbody⟩ := Received.exists_of_ofOctets hread
    cases h.symm.trans hfound
    exact absurd (Received.subtype_of_deauthentication hbody) hother
  · rfl

/-- Drafts of other kinds send nobody away. -/
theorem Draft.isDeauthentication_eq_false {draft : Draft}
    (h : encode? capacity (draft.fields number) = some frame)
    (hother : draft.subtype? ≠ some .deauthentication) : isDeauthentication frame = false := by
  cases hsubtype : draft.subtype? with
  | none =>
    cases draft with
    | data direction bssid destination source encrypted type payload =>
      have hread := (Draft.data direction bssid destination source encrypted type
        payload).ofOctets_fields trivial number
      rw [eq_of_encode? h, isDeauthentication, hread]
      rfl
    | probeRequest | authentication | associationRequest | associationResponse | deauthentication
    | disassociation | beacon => cases hsubtype
  | some subtype =>
    obtain ⟨header, rest, hfields, hkind⟩ := exists_management hsubtype number
    rw [hfields] at h
    rw [eq_of_encode? h, List.flatMap_append]
    refine isDeauthentication_of_header (Header.ofOctets?_encoding header _) fun hsame => ?_
    exact hother (hsubtype.trans (congrArg some (hkind.2.symm.trans hsame.2)))

/-! ### Requests to join a network -/

/-- The rates that a request to join a network claims for the station.  They stand behind the
header, two fixed fields and the name of the network. -/
def claimedRates? (frame : List UInt8) : Option (List UInt8) :=
  match Received.ofOctets frame with
  | .ok (.associationRequest _ _ _) => contentsOf? ratesId (frame.drop (Header.size + 4))
  | _ => none

/-- A frame whose control word says otherwise is no request. -/
theorem claimedRates?_of_header (h : Header.ofOctets? frame = some (header, body))
    (hother : ¬ header.control.IsManagement .associationRequest)
    (hother' : ¬ header.control.IsManagement .reassociationRequest) :
    claimedRates? frame = none := by
  unfold claimedRates?
  split
  · rename_i hread
    obtain ⟨found, rest, hfound, hbody⟩ := Received.exists_of_ofOctets hread
    cases h.symm.trans hfound
    rcases Received.subtype_of_associationRequest hbody with hkind | hkind
    · exact absurd hkind hother
    · exact absurd hkind hother'
  · rfl

/-- The rates that a draft claims, if it asks to join a network. -/
def Draft.rates? : Draft → Option (List UInt8)
  | .associationRequest _ _ _ _ rateSet => some rateSet.octets
  | _ => none

/-- The rates are found behind the name of the network. -/
theorem contentsOf?_rates (ssid : Ssid) (rateSet : RateSet) :
    contentsOf? ratesId ((Field.element ssidId ssid.octets).encoding ++
      ((Field.element ratesId rateSet.octets).encoding ++ [])) = some rateSet.octets := by
  have hname : ssid.octets.length ≤ 255 := by
    have := ssid.length_le
    omega
  have hrates : rateSet.octets.length ≤ 255 := by cases rateSet <;> decide
  unfold contentsOf?
  rw [elements_append hname, elements_append hrates]
  simp [ssidId, ratesId]

theorem claimedRates?_associationRequest {bssid transmitter : MacAddress} {ssid : Ssid}
    {privacy : Bool} {rateSet : RateSet}
    (h : encode? capacity (associationRequest bssid transmitter number ssid privacy rateSet) =
      some frame) : claimedRates? frame = some rateSet.octets := by
  have hread : Received.ofOctets frame = .ok
      ((Draft.associationRequest bssid transmitter ssid privacy rateSet).received number) := by
    rw [eq_of_encode? h]
    exact (Draft.associationRequest bssid transmitter ssid privacy rateSet).ofOctets_fields trivial
      number
  obtain ⟨fixed, hfixed, hframe⟩ : ∃ fixed : List UInt8, fixed.length = Header.size + 4 ∧
      frame = fixed ++ ((Field.element ssidId ssid.octets).encoding ++
        ((Field.element ratesId rateSet.octets).encoding ++ [])) := by
    rw [eq_of_encode? h]
    unfold associationRequest
    simp only [List.flatMap_append, List.flatMap_cons, List.flatMap_nil, ← List.append_assoc]
    exact ⟨_, rfl, rfl⟩
  have hrequest : claimedRates? frame = contentsOf? ratesId (frame.drop (Header.size + 4)) := by
    unfold claimedRates?
    rw [hread]
    rfl
  rw [hrequest, hframe, List.drop_left' hfixed]
  exact contentsOf?_rates ssid rateSet

/-- Of the frames that are written from drafts the requests claim the rates that they are to
claim. -/
theorem Draft.claimedRates?_eq {draft : Draft}
    (h : encode? capacity (draft.fields number) = some frame) :
    claimedRates? frame = draft.rates? := by
  have hother {subtype : ManagementSubtype} (hsubtype : draft.subtype? = some subtype)
      (hne : subtype ≠ .associationRequest) (hne' : subtype ≠ .reassociationRequest) :
      claimedRates? frame = none := by
    obtain ⟨header, rest, hfields, hkind⟩ := exists_management hsubtype number
    rw [hfields] at h
    rw [eq_of_encode? h, List.flatMap_append]
    exact claimedRates?_of_header (Header.ofOctets?_encoding header _)
      (fun hreq => hne (hkind.2.symm.trans hreq.2)) (fun hreq => hne' (hkind.2.symm.trans hreq.2))
  cases draft with
  | associationRequest => exact claimedRates?_associationRequest h
  | data direction bssid destination source encrypted type payload =>
    have hread := (Draft.data direction bssid destination source encrypted type
      payload).ofOctets_fields trivial number
    rw [eq_of_encode? h, claimedRates?, hread]
    rfl
  | probeRequest | authentication | associationResponse | deauthentication | disassociation
  | beacon => exact hother rfl (by simp) (by simp)

theorem claimedRates?_nullData {bssid transmitter : MacAddress}
    (h : encode? capacity (nullData bssid transmitter number) = some frame) :
    claimedRates? frame = none := by
  have hkind : ¬ ((FrameControl.data .null).set .toDs true).IsManagement .associationRequest ∧
      ¬ ((FrameControl.data .null).set .toDs true).IsManagement .reassociationRequest := by
    decide
  rw [eq_of_encode? h, ← List.append_nil (List.flatMap _ _)]
  exact claimedRates?_of_header (Header.ofOctets?_encoding _ []) hkind.1 hkind.2

end WlanControl.Frame
