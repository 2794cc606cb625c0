import WlanControl.Proofs.ElementChains
import WlanControl.Proofs.FrameDrafts
import WlanControl.Proofs.FramePositions

namespace WlanControl.Frame

/-!
# Frames — the ones that are too short

A frame cannot be read if its header is not complete, or if it is a management frame that lacks a
fixed field of its kind.  Nothing else makes it unreadable.  Elements are read as far as they are
there, and one that is cut short is no different from one that was never begun.

* `kindOf?` — the kind of a management frame, as the first octet tells it;
* `ManagementSubtype.fixedSize` — how many octets the fields of a kind need that have to be there;
* `ManagementSubtype.elementsAt` — where the elements of a kind start;
* `IsTooShort` — the frame ends inside of its header or of the fields that have to be there;
* `Received.ofOctets_eq_error_iff` — these are the frames that cannot be read;
* `Received.ofManagement?_congr` — behind the fixed fields only the elements count.

Main statement: `refused_iff_tooShort`.
-/

/-! ### Kinds and their fields -/

/-- The kind of the management frame that starts with the given octets, if it is one.  The first
octet holds a version in its lowest two bits, a type in the next two and a subtype in the others. -/
def kindOf? (octets : List UInt8) : Option ManagementSubtype :=
  octets.head?.bind fun first =>
    if first.toNat / 4 % 4 = 0 then some (.ofNumber (UInt8.ofNat (first.toNat / 16))) else none

namespace ManagementSubtype

/-- The number of octets that the body of such a frame has to have. -/
def fixedSize : ManagementSubtype → Nat
  | .beacon | .probeResponse => 12
  | .authentication | .associationResponse | .reassociationResponse => 6
  | .associationRequest | .reassociationRequest | .deauthentication | .disassociation => 2
  | .probeRequest | .action | .other _ => 0

/-- The number of octets in front of the elements, if there are elements.  Requests to join may end
before that. -/
def elementsAt : ManagementSubtype → Nat
  | .associationRequest => 4
  | .reassociationRequest => 10
  | kind => kind.fixedSize

end ManagementSubtype

/-- The frame ends before its header does, or before the last field that its kind has to have. -/
def IsTooShort (octets : List UInt8) : Prop :=
  octets.length < Header.size ∨
    ∃ kind ∈ kindOf? octets, octets.length < Header.size + kind.fixedSize

instance (octets : List UInt8) : Decidable (IsTooShort octets) :=
  inferInstanceAs (Decidable (_ ∨ _))

/-- What stands behind the first octet does not change the kind of a frame. -/
theorem kindOf?_append {front : List UInt8} (h : front ≠ []) (tail : List UInt8) :
    kindOf? (front ++ tail) = kindOf? front := by
  obtain ⟨first, rest, rfl⟩ := List.exists_cons_of_ne_nil h
  rfl

theorem FrameType.ofNumber_eq_management_iff (n : UInt8) :
    FrameType.ofNumber n = .management ↔ n = 0 := by
  constructor
  · intro h
    rw [← FrameType.number_ofNumber n, h]
    rfl
  · rintro rfl
    rfl

/-- The header tells the same kind as the first octet. -/
theorem kindOf?_of_header {octets body : List UInt8} {header : Header}
    (h : Header.ofOctets? octets = some (header, body)) :
    kindOf? octets =
      if header.frameType = .management then some header.managementSubtype else none := by
  unfold Header.ofOctets? at h
  split at h
  · rename_i c₀ c₁ _ _ _ _ _ _ _ _ _ _ _ _ _ _ _ _ _ _ _ _ _ _ _
    cases h
    have hlow := c₀.toNat_lt
    -- The second octet holds the flags, so type and subtype stand in the first one.
    have htype : (c₀.toNat + 256 * c₁.toNat) / 4 % 4 = c₀.toNat / 4 % 4 := by omega
    have hsubtype : (c₀.toNat + 256 * c₁.toNat) / 16 % 16 = c₀.toNat / 16 := by omega
    unfold kindOf? Header.frameType Header.managementSubtype FrameControl.typeNumber
      FrameControl.subtypeNumber
    simp only [List.head?_cons, Option.bind_some, toNat_word16, htype, hsubtype,
      FrameType.ofNumber_eq_management_iff]
    have hzero : UInt8.ofNat (c₀.toNat / 4 % 4) = 0 ↔ c₀.toNat / 4 % 4 = 0 := by
      rw [← UInt8.toNat_inj, UInt8.toNat_ofNat']
      simp only [UInt8.toNat_zero]
      omega
    simp only [hzero]
  · cases h

/-! ### Frames that cannot be read -/

namespace Received

/-- A management frame cannot be read exactly if its body is too short for its kind. -/
theorem ofManagement?_eq_none_iff (header : Header) (body : List UInt8) :
    ofManagement? header body = none ↔ body.length < header.managementSubtype.fixedSize := by
  -- Each kind reads its words in order, and the last one ends where the fixed fields do.
  have hword (offset : Nat) : word16At? body offset = none ↔ body.length < offset + 2 :=
    word16At?_eq_none_iff body offset
  unfold ofManagement?
  cases header.managementSubtype with
  | beacon | probeResponse =>
    have hbeacon := BeaconInfo.ofBody?_eq_none_iff header body
    cases hinfo : BeaconInfo.ofBody? header body with
    | none => exact iff_of_true rfl (hbeacon.mp hinfo)
    | some info => exact iff_of_false (by simp) (mt hbeacon.mpr (by simp [hinfo]))
  | probeRequest | action | other => simp [ManagementSubtype.fixedSize]
  | associationRequest | reassociationRequest | deauthentication | disassociation =>
    cases hfirst : word16At? body 0 with
    | none => exact iff_of_true rfl ((hword 0).mp hfirst)
    | some word => exact iff_of_false (by simp) (mt (hword 0).mpr (by simp [hfirst]))
  | authentication =>
    show _ ↔ body.length < 6
    cases hfirst : word16At? body 0 with
    | none =>
      have hshort := (hword 0).mp hfirst
      exact iff_of_true rfl (by omega)
    | some algorithm =>
      cases hsecond : word16At? body 2 with
      | none =>
        have hshort := (hword 2).mp hsecond
        exact iff_of_true rfl (by omega)
      | some sequence =>
        cases hthird : word16At? body 4 with
        | none => exact iff_of_true rfl ((hword 4).mp hthird)
        | some status => exact iff_of_false (by simp) (mt (hword 4).mpr (by simp [hthird]))
  | associationResponse | reassociationResponse =>
    show _ ↔ body.length < 6
    cases hfirst : word16At? body 2 with
    | none =>
      have hshort := (hword 2).mp hfirst
      exact iff_of_true rfl (by omega)
    | some status =>
      cases hsecond : word16At? body 4 with
      | none => exact iff_of_true rfl ((hword 4).mp hsecond)
      | some aid => exact iff_of_false (by simp) (mt (hword 4).mpr (by simp [hsecond]))

/-- Only management frames have fields that can be missing. -/
theorem ofBody?_eq_none_iff (header : Header) (body : List UInt8) :
    ofBody? header body = none ↔
      header.frameType = .management ∧ body.length < header.managementSubtype.fixedSize := by
  unfold ofBody?
  cases header.frameType with
  | management => simpa using ofManagement?_eq_none_iff header body
  | data => cases header.dataSubtype <;> simp
  | control | other => simp

theorem ofOctets_eq_error_iff_none (octets : List UInt8) (e : Error) :
    ofOctets octets = .error e ↔ e = .truncated ∧
      (Header.ofOctets? octets).bind (fun found => ofBody? found.1 found.2) = none := by
  unfold ofOctets
  cases (Header.ofOctets? octets).bind fun found => ofBody? found.1 found.2 with
  | none =>
    constructor
    · rintro ⟨⟩
      exact ⟨rfl, rfl⟩
    · rintro ⟨rfl, -⟩
      rfl
  | some frame => exact iff_of_false (by simp) (by simp)

/-- A frame cannot be read exactly if it is too short, and the error says so. -/
theorem ofOctets_eq_error_iff (octets : List UInt8) (e : Error) :
    ofOctets octets = .error e ↔ e = .truncated ∧ IsTooShort octets := by
  rw [ofOctets_eq_error_iff_none]
  refine and_congr_right fun _ => ?_
  unfold IsTooShort
  cases hread : Header.ofOctets? octets with
  | none => exact iff_of_true rfl (.inl ((Header.ofOctets?_eq_none_iff octets).mp hread))
  | some found =>
    obtain ⟨header, body⟩ := found
    have hlength : octets.length = Header.size + body.length := by
      rw [Header.encoding_of_ofOctets? hread, List.length_append, Header.length_encoding]
    show ofBody? header body = none ↔ _
    rw [ofBody?_eq_none_iff, kindOf?_of_header hread, hlength]
    constructor
    · rintro ⟨hmanagement, hshort⟩
      exact .inr ⟨_, if_pos hmanagement, by omega⟩
    · rintro (hshort | ⟨kind, hkind, hshort⟩)
      · omega
      · split at hkind
        · rename_i hmanagement
          cases hkind
          exact ⟨hmanagement, by omega⟩
        · cases hkind

end Received

/-- A frame is only made longer by what stands behind it. -/
theorem IsTooShort.of_append {front tail : List UInt8} (h : IsTooShort (front ++ tail)) :
    IsTooShort front := by
  by_cases hheader : front.length < Header.size
  · exact .inl hheader
  · have hfront : front ≠ [] := by
      rintro rfl
      exact hheader (by decide)
    unfold IsTooShort at h ⊢
    rw [kindOf?_append hfront, List.length_append] at h
    rcases h with hshort | ⟨kind, hkind, hshort⟩
    · omega
    · exact .inr ⟨kind, hkind, by omega⟩

/-- What stands behind a frame that can be read does not make it unreadable. -/
theorem Received.exists_ofOctets_append {front : List UInt8} (h : ¬ IsTooShort front)
    (tail : List UInt8) : ∃ frame, ofOctets (front ++ tail) = .ok frame := by
  cases hread : ofOctets (front ++ tail) with
  | ok frame => exact ⟨frame, rfl⟩
  | error e =>
    have hshort := ((ofOctets_eq_error_iff _ e).mp hread).2
    exact absurd hshort.of_append h

/-! ### Elements that are cut short -/

section

variable {header : Header} {head rest rest' : List UInt8}

theorem BeaconInfo.ofBody?_congr (hhead : head.length = fixedSize)
    (h : elements rest = elements rest') :
    ofBody? header (head ++ rest) = ofBody? header (head ++ rest') := by
  have hsize : fixedSize = 12 := rfl
  unfold ofBody?
  rw [List.drop_left' hhead, List.drop_left' hhead, h, word16At?_append (by omega),
    word16At?_append (by omega), word16At?_append (by omega), word16At?_append (by omega)]

theorem contentsOf?_congr (id : UInt8) (h : elements rest = elements rest') :
    contentsOf? id rest = contentsOf? id rest' := by
  unfold contentsOf?
  rw [h]

theorem Received.ssidIn?_congr (h : elements rest = elements rest') :
    ssidIn? rest = ssidIn? rest' := by
  unfold ssidIn?
  rw [contentsOf?_congr ssidId h]

/-- Behind the fixed fields of a management frame only the elements count. -/
theorem Received.ofManagement?_congr (hhead : head.length = header.managementSubtype.elementsAt)
    (h : elements rest = elements rest') :
    ofManagement? header (head ++ rest) = ofManagement? header (head ++ rest') := by
  -- All words stand in front of the elements.
  have hword (offset : Nat) (hoffset : offset + 2 ≤ head.length) (tail : List UInt8) :
      word16At? (head ++ tail) offset = word16At? head offset :=
    word16At?_append hoffset tail
  unfold ofManagement?
  cases hkind : header.managementSubtype with
  | beacon | probeResponse =>
    rw [hkind] at hhead
    simp only [BeaconInfo.ofBody?_congr hhead h]
  | probeRequest =>
    rw [hkind] at hhead
    rw [List.eq_nil_of_length_eq_zero hhead, List.nil_append, List.nil_append, ssidIn?_congr h]
  | authentication =>
    rw [hkind] at hhead
    have hlength : head.length = 6 := hhead
    simp only [hword 0 (by omega), hword 2 (by omega), hword 4 (by omega),
      List.drop_left' hlength, contentsOf?_congr challengeId h]
  | associationRequest =>
    rw [hkind] at hhead
    have hlength : head.length = 4 := hhead
    simp only [hword 0 (by omega), List.drop_left' hlength, ssidIn?_congr h]
  | reassociationRequest =>
    rw [hkind] at hhead
    have hlength : head.length = 10 := hhead
    simp only [hword 0 (by omega), List.drop_left' hlength, ssidIn?_congr h]
  | associationResponse | reassociationResponse =>
    rw [hkind] at hhead
    have hlength : head.length = 6 := hhead
    simp only [hword 2 (by omega), hword 4 (by omega)]
  | deauthentication | disassociation =>
    rw [hkind] at hhead
    have hlength : head.length = 2 := hhead
    simp only [hword 0 (by omega)]
  | action | other => rfl

/-- What stands behind the fixed fields of a management frame may be cut short, or not be there. -/
theorem Received.ofOctets_congr {front : List UInt8} {kind : ManagementSubtype}
    (hkind : kindOf? front = some kind) (hfront : front.length = Header.size + kind.elementsAt)
    (h : elements rest = elements rest') :
    ofOctets (front ++ rest) = ofOctets (front ++ rest') := by
  cases hread : Header.ofOctets? front with
  | none =>
    have hshort := (Header.ofOctets?_eq_none_iff front).mp hread
    omega
  | some found =>
    obtain ⟨header, head⟩ := found
    rw [kindOf?_of_header hread] at hkind
    split at hkind
    · rename_i hmanagement
      cases hkind
      have hencoding := Header.encoding_of_ofOctets? hread
      rw [hencoding, List.length_append, Header.length_encoding] at hfront
      have hbody (tail : List UInt8) :
          ofBody? header (head ++ tail) = ofManagement? header (head ++ tail) := by
        unfold ofBody?
        rw [hmanagement]
      rw [hencoding, List.append_assoc, List.append_assoc, ofOctets_encoding, ofOctets_encoding,
        hbody, hbody, ofManagement?_congr (by omega) h]
    · cases hkind

end

/-- A frame is refused exactly if it is too short, and is then said to be truncated.  Nothing out of
range is ever asked for.  A frame that can be read can still be read with anything behind it, and an
element that is cut short changes nothing. -/
theorem refused_iff_tooShort :
    (∀ octets : List UInt8,
      Reading.frame octets = .ofExcept (Received.ofOctets octets) ∧
        Reading.frame octets ≠ .outOfRange) ∧
    (∀ (octets : List UInt8) (e : Error),
      Received.ofOctets octets = .error e ↔ e = .truncated ∧ IsTooShort octets) ∧
    (∀ front tail : List UInt8, ¬ IsTooShort front →
      ∃ frame, Received.ofOctets (front ++ tail) = .ok frame) ∧
    ∀ (front : List UInt8) (kind : ManagementSubtype) (es : List Element) (cut : List UInt8),
      kindOf? front = some kind → front.length = Header.size + kind.elementsAt →
      (∀ element ∈ es, element.IsCountable) → CutShort cut →
      Received.ofOctets (front ++ (chain es ++ cut)) = Received.ofOctets (front ++ chain es) := by
  refine ⟨?_, Received.ofOctets_eq_error_iff, ?_, ?_⟩
  · intro octets
    exact ⟨Reading.frame_eq octets, Reading.frame_ne_outOfRange octets⟩
  · intro front tail hlong
    exact Received.exists_ofOctets_append hlong tail
  · intro front kind es cut hkind hfront hes hcut
    apply Received.ofOctets_congr hkind hfront
    have hwhole := elements_chain hes .nothing
    rw [List.append_nil] at hwhole
    rw [elements_chain hes hcut, hwhole]

/-- The second frame of a handshake up to its elements. -/
def challengeOpening : List UInt8 :=
  (Header.management .authentication ⟨2, 0, 0, 0, 0, 1⟩ ⟨2, 0, 0, 0, 0, 2⟩ ⟨2, 0, 0, 0, 0, 2⟩
    7).encoding ++ [1, 0, 2, 0, 0, 0]

theorem refused_iff_tooShort_challengeOpening :
    (Received.ofOctets challengeOpening.dropLast = .error .truncated ∧
      IsTooShort challengeOpening.dropLast) ∧
    (¬ IsTooShort challengeOpening ∧
      ∃ frame, Received.ofOctets (challengeOpening ++ [16, 200]) = .ok frame) ∧
    (kindOf? challengeOpening = some .authentication ∧
      challengeOpening.length = Header.size + ManagementSubtype.authentication.elementsAt ∧
      (∀ element ∈ [(⟨16, [0xca, 0xfe]⟩ : Element)], element.IsCountable) ∧ CutShort [16, 5, 1] ∧
      Received.ofOctets (challengeOpening ++ (chain [⟨16, [0xca, 0xfe]⟩] ++ [16, 5, 1])) =
        Received.ofOctets (challengeOpening ++ chain [⟨16, [0xca, 0xfe]⟩])) := by
  have hshort : IsTooShort challengeOpening.dropLast := by decide
  have hlong : ¬ IsTooShort challengeOpening := by decide
  have hkind : kindOf? challengeOpening = some .authentication := by decide
  have hlength : challengeOpening.length =
      Header.size + ManagementSubtype.authentication.elementsAt := by decide
  have hcount : ∀ element ∈ [(⟨16, [0xca, 0xfe]⟩ : Element)], element.IsCountable := by decide
  have hcut : CutShort [16, 5, 1] := .withoutEnd (by decide)
  obtain ⟨-, herror, hreadable, helements⟩ := refused_iff_tooShort
  exact ⟨⟨(herror _ .truncated).mpr ⟨rfl, hshort⟩, hshort⟩,
    ⟨hlong, hreadable challengeOpening [16, 200] hlong⟩, hkind, hlength, hcount, hcut,
    helements challengeOpening .authentication _ _ hkind hlength hcount hcut⟩

end WlanControl.Frame
