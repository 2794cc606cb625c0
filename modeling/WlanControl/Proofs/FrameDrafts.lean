import WlanControl.Proofs.LinkFrames

namespace WlanControl.Frame

/-!
# Frames — what is read of what was written

A frame that is written from its parts is read as just these parts, however much space there is
around it.  A request for the beacons of all networks is the only one that cannot be told from
another frame: it is read as a request for the network without a name.

* `encode?_of_fits` — fields that can be counted are written, if there is space for them;
* `Draft` — a frame to be written, with `Draft.received` for what should be read of it;
* `Draft.IsCanonical` — the codes of the draft are those that are read of their numbers;
* `Received.ofBody?_authentication` and the like — what is read of the body of each kind;
* `BeaconTemplate.foldl_absorb_chain` — what is read of the elements of a beacon.

Main statements: `draft_readsBack`, every canonical draft is read back, and
`wildcard_reads_as_nameless`, the exception.
-/

/-! ### Writing -/

namespace Writer

theorem putSlices_of_fits {slices : List (List UInt8)} {w : Writer}
    (h : w.written.length + slices.flatten.length ≤ w.capacity) :
    putSlices slices w = ({ w with written := w.written ++ slices.flatten }, .ok ()) := by
  obtain ⟨done, rest, rfl, hwritten, ⟨hok, rfl⟩ | ⟨-, slice, more, rfl, hfull⟩⟩ :=
    putSlices_spec slices w
  · rw [List.append_nil] at hwritten hok ⊢
    exact Prod.ext hwritten hok
  · simp only [List.flatten_append, List.flatten_cons, List.length_append] at h
    omega

theorem putAll_of_fits {fields : List Field} {w : Writer}
    (hcount : ∀ field ∈ fields, field.isCountable = true)
    (h : w.written.length + (fields.flatMap Field.encoding).length ≤ w.capacity) :
    putAll fields w =
      ({ w with written := w.written ++ fields.flatMap Field.encoding }, .ok ()) := by
  induction fields generalizing w with
  | nil =>
    unfold putAll
    rw [List.flatMap_nil, List.append_nil]
  | cons field rest ih =>
    obtain ⟨hfield, hrest⟩ := List.forall_mem_cons.mp hcount
    rw [List.flatMap_cons, List.length_append] at h
    have hput : put field w = ({ w with written := w.written ++ field.encoding }, .ok ()) := by
      unfold put
      rw [if_pos hfield]
      exact putSlices_of_fits (Nat.le_trans (Nat.add_le_add_left (Nat.le_add_right _ _) _) h)
    unfold putAll
    rw [hput]
    simp only
    rw [ih hrest]
    · rw [List.flatMap_cons, List.append_assoc]
    · show (w.written ++ field.encoding).length + _ ≤ w.capacity
      rw [List.length_append]
      omega

theorem length_putSlices_le {slices : List (List UInt8)} {w : Writer}
    (h : w.written.length ≤ w.capacity) :
    (putSlices slices w).1.written.length ≤ w.capacity ∧
      (putSlices slices w).1.capacity = w.capacity := by
  induction slices generalizing w with
  | nil => exact ⟨h, rfl⟩
  | cons slice rest ih =>
    unfold putSlices
    split
    · rename_i hfits
      exact ih (w := { w with written := w.written ++ slice })
        (by rw [List.length_append]; exact hfits)
    · exact ⟨h, rfl⟩

theorem length_putAll_le {fields : List Field} {w : Writer} (h : w.written.length ≤ w.capacity) :
    (putAll fields w).1.written.length ≤ w.capacity := by
  induction fields generalizing w with
  | nil => exact h
  | cons field rest ih =>
    have hput : (put field w).1.written.length ≤ w.capacity ∧
        (put field w).1.capacity = w.capacity := by
      unfold put
      split
      · exact length_putSlices_le h
      · exact ⟨h, rfl⟩
    unfold putAll
    split
    · rename_i w' hw
      rw [hw] at hput
      exact hput.2 ▸ ih (hput.2 ▸ hput.1)
    · rename_i w' e hw
      rw [hw] at hput
      exact hput.1

end Writer

/-- No frame is longer than the space for it. -/
theorem length_le_of_encode? {capacity : Nat} {fields : List Field} {frame : List UInt8}
    (h : encode? capacity fields = some frame) : frame.length ≤ capacity := by
  have hle : (Writer.putAll fields (.ofCapacity capacity)).1.written.length ≤ capacity :=
    Writer.length_putAll_le (Nat.zero_le capacity)
  unfold encode? at h
  split at h
  · rename_i w hput
    cases h
    rwa [hput] at hle
  · cases h

/-- Fields that can be counted are written, if there is space for them. -/
theorem encode?_of_fits {capacity : Nat} {fields : List Field}
    (hcount : ∀ field ∈ fields, field.isCountable = true)
    (h : (fields.flatMap Field.encoding).length ≤ capacity) :
    encode? capacity fields = some (fields.flatMap Field.encoding) := by
  unfold encode?
  rw [Writer.putAll_of_fits hcount]
  · rfl
  · show 0 + _ ≤ capacity
    omega

/-! ### Drafts -/

/-- A frame to be written. -/
inductive Draft
  | probeRequest (transmitter : MacAddress) (ssid : Option Ssid)
  | authentication (receiver transmitter bssid : MacAddress) (body : Authentication)
    (encrypted : Bool)
  | associationRequest (bssid transmitter : MacAddress) (ssid : Ssid) (privacy : Bool)
    (rateSet : RateSet)
  | associationResponse (receiver bssid : MacAddress) (status : StatusCode) (aid : UInt16)
  | deauthentication (receiver transmitter bssid : MacAddress) (reason : ReasonCode)
  | disassociation (receiver transmitter bssid : MacAddress) (reason : ReasonCode)
  | beacon (template : BeaconTemplate)
  | data (direction : Direction) (bssid destination source : MacAddress) (encrypted : Bool)
    (type : UInt16) (payload : List UInt8)

namespace Draft

/-- The fields of the frame with a number. -/
def fields (number : UInt16) : Draft → List Field
  | .probeRequest transmitter ssid => Frame.probeRequest transmitter ssid number
  | .authentication receiver transmitter bssid body encrypted =>
    Frame.authentication receiver transmitter bssid number body encrypted
  | .associationRequest bssid transmitter ssid privacy rateSet =>
    Frame.associationRequest bssid transmitter number ssid privacy rateSet
  | .associationResponse receiver bssid status aid =>
    Frame.associationResponse receiver bssid number status aid
  | .deauthentication receiver transmitter bssid reason =>
    Frame.deauthentication .deauthentication receiver transmitter bssid number reason
  | .disassociation receiver transmitter bssid reason =>
    Frame.deauthentication .disassociation receiver transmitter bssid number reason
  | .beacon template => Frame.beacon template number
  | .data direction bssid destination source encrypted type payload =>
    Frame.data direction bssid destination source number encrypted type payload

/-- Each code of the draft is the one that its number stands for, what an element holds can be
counted by one octet, and an identifier leaves the two bits free that are always set. -/
def IsCanonical : Draft → Prop
  | .probeRequest _ _ | .associationRequest _ _ _ _ _ | .data _ _ _ _ _ _ _ => True
  | .authentication _ _ _ body _ =>
    AuthAlgorithm.ofNumber body.algorithm.number = body.algorithm ∧
      StatusCode.ofNumber body.status.number = body.status ∧
      ∀ challenge, body.challenge = some challenge → challenge.length ≤ 255
  | .associationResponse _ _ status aid =>
    StatusCode.ofNumber status.number = status ∧ aid < 0x4000
  | .deauthentication _ _ _ reason | .disassociation _ _ _ reason =>
    ReasonCode.ofNumber reason.number = reason
  | .beacon template => template.rates.length ≤ 255 ∧ template.extraElements = []

/-- What the elements of the draft hold can be counted by one octet.  Only a challenge and the rates
of a beacon can be too long for that. -/
def IsCountable : Draft → Prop
  | .authentication _ _ _ body _ =>
    ∀ challenge, body.challenge = some challenge → challenge.length ≤ 255
  | .beacon template => template.rates.length ≤ 255
  | _ => True

/-- What is to be read of the frame with a number. -/
def received (number : UInt16) : Draft → Received
  | .probeRequest transmitter ssid => .probeRequest transmitter (some (ssid.getD .empty))
  | .authentication receiver transmitter bssid body encrypted =>
    let header := Header.management .authentication receiver transmitter bssid number
    .authentication { header with control := header.control.set .encrypted encrypted } body
  | .associationRequest bssid transmitter ssid privacy _ =>
    .associationRequest (.management .associationRequest bssid transmitter bssid number)
      (((Capabilities.none.set .ess true).set .privacy privacy).set .shortPreamble true) (some ssid)
  | .associationResponse receiver bssid status aid =>
    .associationResponse (.management .associationResponse receiver bssid bssid number) status aid
  | .deauthentication receiver transmitter bssid reason =>
    .deauthentication (.management .deauthentication receiver transmitter bssid number) reason
  | .disassociation receiver transmitter bssid reason =>
    .disassociation (.management .disassociation receiver transmitter bssid number) reason
  | .beacon template =>
    .beacon {
      bssid := template.bssid
      transmitter := template.bssid
      capabilities := template.capabilities
      interval := template.interval
      ssid := some template.ssid
      channel := some template.channel
      compatible := basicRatesNative template.rates
      security :=
        if template.capabilities.has .privacy then ⟨.wep, .wep40, .wep40, .disabled⟩ else .plain
      advertisement := template.advertisement }
  | .data direction bssid destination source encrypted type payload =>
    .data (dataHeader direction bssid destination source number encrypted)
      (llcSnap ++ bigEndian16 type ++ payload)

end Draft

/-! ### Reading -/

/-- A frame is read by its header. -/
theorem ofOctets_encoding (header : Header) (body : List UInt8) :
    Received.ofOctets (header.encoding ++ body) =
      match Received.ofBody? header body with
      | some frame => .ok frame
      | none => .error .truncated := by
  unfold Received.ofOctets
  rw [Header.ofOctets?_encoding]
  rfl

/-- The element that comes first is found. -/
theorem contentsOf?_append {id : UInt8} {contents : List UInt8} (h : contents.length ≤ 255)
    (rest : List UInt8) :
    contentsOf? id ((Field.element id contents).encoding ++ rest) = some contents := by
  unfold contentsOf?
  rw [elements_append h]
  simp

theorem ssidIn?_append (ssid : Ssid) (rest : List UInt8) :
    Received.ssidIn? ((Field.element ssidId ssid.octets).encoding ++ rest) = some ssid := by
  have hlength := ssid.length_le
  unfold Received.ssidIn?
  rw [contentsOf?_append (by omega)]
  exact Ssid.ofOctets?_octets ssid

theorem word16At?_second (w w' : UInt16) (rest : List UInt8) :
    word16At? (littleEndian16 w ++ (littleEndian16 w' ++ rest)) 2 = some w' :=
  word16At?_littleEndian16 w' rest

theorem word16At?_third (w w' w'' : UInt16) (rest : List UInt8) :
    word16At? (littleEndian16 w ++ (littleEndian16 w' ++ (littleEndian16 w'' ++ rest))) 4 =
      some w'' :=
  word16At?_littleEndian16 w'' rest

/-! ### Kinds of frames -/

/-- The header of a data frame tells which way it goes, for which network and between whom. -/
theorem spec_dataHeader (direction : Direction) (bssid destination source : MacAddress)
    (number : UInt16) (encrypted : Bool) :
    let header := dataHeader direction bssid destination source number encrypted
    header.control.has .toDs = decide (direction = .toDs) ∧
      header.control.has .fromDs = decide (direction = .fromDs) ∧ header.network = bssid ∧
      header.destination = destination ∧ header.source = source := by
  refine ⟨?_, ?_, network_dataHeader direction bssid destination source number encrypted,
    endpoints_dataHeader direction bssid destination source number encrypted⟩
  · cases direction <;> simp [dataHeader]
  · cases direction <;> simp [dataHeader]

/-- Whether the control word is that of a management frame of the given kind. -/
def FrameControl.IsManagement (control : FrameControl) (subtype : ManagementSubtype) : Prop :=
  FrameType.ofNumber control.typeNumber = .management ∧
    ManagementSubtype.ofNumber control.subtypeNumber = subtype

instance (control : FrameControl) (subtype : ManagementSubtype) :
    Decidable (control.IsManagement subtype) :=
  inferInstanceAs (Decidable (_ ∧ _))

/-- The control words of all drafts tell what they are made for, whether they are marked or not. -/
theorem isManagement_management : ∀ subtype ∈ [ManagementSubtype.probeRequest, .authentication,
      .associationRequest, .associationResponse, .deauthentication, .disassociation, .beacon],
    (FrameControl.management subtype).IsManagement subtype ∧
      ∀ on, ((FrameControl.management subtype).set .encrypted on).IsManagement subtype := by
  decide

namespace Received

/-- A management frame is read as one of its kind. -/
theorem ofBody?_of_isManagement {header : Header} {subtype : ManagementSubtype}
    (h : header.control.IsManagement subtype) (body : List UInt8) :
    ofBody? header body = ofManagement? header body ∧ header.managementSubtype = subtype := by
  have htype : header.frameType = .management := h.1
  unfold ofBody?
  rw [htype]
  exact ⟨rfl, h.2⟩

theorem ofBody?_probeRequest {header : Header} (h : header.control.IsManagement .probeRequest)
    (ssid : Ssid) (rest : List UInt8) :
    ofBody? header ((Field.element ssidId ssid.octets).encoding ++ rest) =
      some (.probeRequest header.address₂ (some ssid)) := by
  obtain ⟨hbody, hsubtype⟩ := ofBody?_of_isManagement h _
  rw [hbody]
  unfold ofManagement?
  rw [hsubtype]
  simp only
  rw [ssidIn?_append]

/-- The challenge of an authentication frame is an element, if there is one. -/
theorem contentsOf?_challenge {challenge : Option (List UInt8)}
    (h : ∀ contents, challenge = some contents → contents.length ≤ 255) :
    contentsOf? challengeId
      ((challenge.map (Field.element challengeId ·)).toList.flatMap Field.encoding) =
        challenge := by
  cases challenge with
  | none => simp [contentsOf?]
  | some contents =>
    show contentsOf? challengeId ((Field.element challengeId contents).encoding ++ []) = _
    exact contentsOf?_append (h contents rfl) []

theorem ofBody?_authentication {header : Header} (h : header.control.IsManagement .authentication)
    (algorithm sequence status : UInt16) (rest : List UInt8) :
    ofBody? header
      (littleEndian16 algorithm ++ (littleEndian16 sequence ++ (littleEndian16 status ++ rest))) =
      some (.authentication header {
        algorithm := .ofNumber algorithm
        sequence
        status := .ofNumber status
        challenge := contentsOf? challengeId rest }) := by
  obtain ⟨hbody, hsubtype⟩ := ofBody?_of_isManagement h _
  rw [hbody]
  unfold ofManagement?
  rw [hsubtype]
  simp only [word16At?_littleEndian16, word16At?_second, word16At?_third]
  rfl

theorem ofBody?_associationRequest {header : Header}
    (h : header.control.IsManagement .associationRequest) (word interval : UInt16) (ssid : Ssid)
    (rest : List UInt8) :
    ofBody? header (littleEndian16 word ++ (littleEndian16 interval ++
      ((Field.element ssidId ssid.octets).encoding ++ rest))) =
        some (.associationRequest header ⟨word⟩ (some ssid)) := by
  obtain ⟨hbody, hsubtype⟩ := ofBody?_of_isManagement h _
  rw [hbody]
  unfold ofManagement?
  rw [hsubtype]
  simp only [word16At?_littleEndian16]
  show some (Received.associationRequest header ⟨word⟩ (ssidIn? (_ ++ rest))) = _
  rw [ssidIn?_append]

theorem ofBody?_associationResponse {header : Header}
    (h : header.control.IsManagement .associationResponse) (capabilities status word : UInt16)
    (rest : List UInt8) :
    ofBody? header
      (littleEndian16 capabilities ++ (littleEndian16 status ++ (littleEndian16 word ++ rest))) =
        some (.associationResponse header (.ofNumber status) (aidOf word)) := by
  obtain ⟨hbody, hsubtype⟩ := ofBody?_of_isManagement h _
  rw [hbody]
  unfold ofManagement?
  rw [hsubtype]
  simp only [word16At?_second, word16At?_third]
  rfl

theorem ofBody?_deauthentication {header : Header}
    (h : header.control.IsManagement .deauthentication) (reason : UInt16) (rest : List UInt8) :
    ofBody? header (littleEndian16 reason ++ rest) =
      some (.deauthentication header (.ofNumber reason)) := by
  obtain ⟨hbody, hsubtype⟩ := ofBody?_of_isManagement h _
  rw [hbody]
  unfold ofManagement?
  rw [hsubtype]
  simp only [word16At?_littleEndian16]
  rfl

theorem ofBody?_disassociation {header : Header}
    (h : header.control.IsManagement .disassociation) (reason : UInt16) (rest : List UInt8) :
    ofBody? header (littleEndian16 reason ++ rest) =
      some (.disassociation header (.ofNumber reason)) := by
  obtain ⟨hbody, hsubtype⟩ := ofBody?_of_isManagement h _
  rw [hbody]
  unfold ofManagement?
  rw [hsubtype]
  simp only [word16At?_littleEndian16]
  rfl

theorem ofBody?_data (direction : Direction) (bssid destination source : MacAddress)
    (number : UInt16) (encrypted : Bool) (body : List UInt8) :
    ofBody? (dataHeader direction bssid destination source number encrypted) body =
      some (.data (dataHeader direction bssid destination source number encrypted) body) := by
  have hkind : ∀ on, ∀ flag ∈ [FrameFlag.toDs, .fromDs],
      FrameType.ofNumber (((FrameControl.data .data).set .encrypted on).set flag true).typeNumber =
        .data ∧
      DataSubtype.ofNumber
        (((FrameControl.data .data).set .encrypted on).set flag true).subtypeNumber = .data := by
    decide
  have hheader : (dataHeader direction bssid destination source number encrypted).frameType =
      .data ∧
      (dataHeader direction bssid destination source number encrypted).dataSubtype = .data := by
    cases direction with
    | toDs => exact hkind encrypted .toDs (by simp)
    | fromDs => exact hkind encrypted .fromDs (by simp)
  unfold ofBody?
  rw [hheader.1]
  simp only
  rw [hheader.2]

/-- The two highest bits of the word are no part of the identifier. -/
theorem aidOf_or {aid : UInt16} (h : aid < 0x4000) : aidOf (aid ||| 0xc000) = aid := by
  have hlt : aid.toNat < 2 ^ 14 := UInt16.lt_iff_toNat_lt.mp h
  refine UInt16.toNat_inj.mp ?_
  unfold aidOf
  rw [UInt16.toNat_and, UInt16.toNat_or]
  show (aid.toNat ||| 0xc000) &&& (2 ^ 14 - 1) = aid.toNat
  rw [Nat.and_two_pow_sub_one_eq_mod, Nat.or_mod_two_pow, Nat.mod_eq_of_lt hlt]
  exact Nat.or_zero _

end Received

/-! ### Beacons -/

namespace Announcement

/-- What the elements that every beacon has say. -/
theorem foldl_absorb_named (privacy : Bool) (ssid : Ssid) (rates traffic : List UInt8)
    (channel : UInt8) (rest : List Element) :
    (⟨ssidId, ssid.octets⟩ :: ⟨ratesId, rates⟩ :: ⟨channelId, [channel]⟩ :: ⟨trafficId, traffic⟩ ::
      rest).foldl absorb (.ofPrivacy privacy) =
        rest.foldl absorb { ofPrivacy privacy with
          ssid := some ssid
          channel := some channel
          hasRates := true
          ratesNative := basicRatesNative rates } := by
  simp [absorb, ofPrivacy, ssidId, ratesId, channelId, trafficId, rsnId, vendorId]

end Announcement

namespace Advertisement

/-- The contents of the element. -/
def contents (a : Advertisement) : List UInt8 :=
  Oui.session.octets ++ [marker] ++ a.payload.flatten

/-- Field by field, an element is written. -/
theorem encoding_fields (a : Advertisement) :
    a.fields.flatMap Field.encoding = (Field.element vendorId a.contents).encoding := rfl

theorem elements_fields (a? : Option Advertisement) :
    elements (((a?.map fields).getD []).flatMap Field.encoding) =
      (a?.map fun a => ⟨vendorId, a.contents⟩).toList := by
  cases a? with
  | none => exact elements_nil
  | some a =>
    show elements (a.fields.flatMap Field.encoding) = [⟨vendorId, a.contents⟩]
    rw [encoding_fields, ← List.append_nil (Field.encoding _), elements_append, elements_nil]
    show 17 ≤ 255
    decide

/-- An announcement takes in the advertisement that was written. -/
theorem absorb_contents (a : Advertisement) (announced : Announcement) :
    announced.absorb ⟨vendorId, a.contents⟩ = { announced with advertisement := some a } := by
  have hread : ofContents? a.contents = some a := ofContents?_payload a
  show announced.absorbVendor a.contents = _
  show { announced with advertisement := ofContents? a.contents } = _
  rw [hread]

end Advertisement

namespace BeaconTemplate

/-- The elements of the beacon, as they stand one after the other. -/
def chain (template : BeaconTemplate) : List UInt8 :=
  (Field.element ssidId template.ssid.octets).encoding ++
    ((Field.element ratesId template.rates).encoding ++
      ((Field.element channelId [template.channel]).encoding ++
        ((Field.element trafficId [0, 1, 0, 0]).encoding ++
          ((template.advertisement.map Advertisement.fields).getD []).flatMap Field.encoding)))

/-- What the elements of the beacon say. -/
def announcement (template : BeaconTemplate) : Announcement :=
  { Announcement.ofPrivacy (template.capabilities.has .privacy) with
    ssid := some template.ssid
    channel := some template.channel
    hasRates := true
    ratesNative := basicRatesNative template.rates
    advertisement := template.advertisement }

theorem foldl_absorb_chain {template : BeaconTemplate} (hrates : template.rates.length ≤ 255) :
    (elements template.chain).foldl Announcement.absorb
      (.ofPrivacy (template.capabilities.has .privacy)) = template.announcement := by
  have hssid : template.ssid.octets.length ≤ 255 :=
    Nat.le_trans template.ssid.length_le (by decide)
  have hchannel : [template.channel].length ≤ 255 := by simp
  unfold chain
  rw [elements_append hssid, elements_append hrates, elements_append hchannel,
    elements_append (by decide), Advertisement.elements_fields, Announcement.foldl_absorb_named]
  unfold announcement
  -- The advertisement comes last, if there is one.
  cases template.advertisement with
  | none => rfl
  | some a => exact Advertisement.absorb_contents a _

/-- The cipher of a network that encrypts is not announced. -/
theorem security_announcement (template : BeaconTemplate) :
    BeaconInfo.withWepCipher template.announcement.security =
      if template.capabilities.has .privacy then ⟨.wep, .wep40, .wep40, .disabled⟩
      else .plain := by
  unfold announcement Announcement.ofPrivacy
  cases template.capabilities.has .privacy <;> rfl

end BeaconTemplate

/-- What a body with all of its fixed fields says. -/
theorem BeaconInfo.ofBody?_of_fixed {header : Header} {body : List UInt8} {interval word : UInt16}
    {announced : Announcement} (hinterval : word16At? body 8 = some interval)
    (hword : word16At? body 10 = some word)
    (hannounced : (elements (body.drop fixedSize)).foldl Announcement.absorb
      (.ofPrivacy ((Capabilities.mk word).has .privacy)) = announced) :
    ofBody? header body = some {
      bssid := header.address₃
      transmitter := header.address₂
      capabilities := ⟨word⟩
      interval
      ssid := announced.ssid
      channel := announced.channel
      compatible := announced.ratesNative && announced.hasRates
      security := withWepCipher announced.security
      advertisement := announced.advertisement } := by
  unfold ofBody?
  rw [hinterval, hword, ← hannounced]
  rfl

theorem Received.ofBody?_beacon {header : Header} (h : header.control.IsManagement .beacon)
    {template : BeaconTemplate} (hrates : template.rates.length ≤ 255) :
    ofBody? header (List.replicate 8 0 ++ (littleEndian16 template.interval ++
      (littleEndian16 template.capabilities.word ++ template.chain))) =
      some (.beacon {
        bssid := header.address₃
        transmitter := header.address₂
        capabilities := template.capabilities
        interval := template.interval
        ssid := some template.ssid
        channel := some template.channel
        compatible := basicRatesNative template.rates
        security :=
          if template.capabilities.has .privacy then ⟨.wep, .wep40, .wep40, .disabled⟩ else .plain
        advertisement := template.advertisement }) := by
  obtain ⟨hbody, hsubtype⟩ := ofBody?_of_isManagement h _
  rw [hbody]
  unfold ofManagement?
  rw [hsubtype]
  simp only
  have hcompatible : (template.announcement.ratesNative && template.announcement.hasRates) =
      basicRatesNative template.rates := Bool.and_true _
  -- Eight octets for the timestamp stand in front of the interval.
  generalize hoctets : List.replicate 8 0 ++ (littleEndian16 template.interval ++
    (littleEndian16 template.capabilities.word ++ template.chain)) = octets
  have hinterval : word16At? octets 8 = some template.interval := by
    rw [← hoctets]
    exact word16At?_littleEndian16 template.interval
      (littleEndian16 template.capabilities.word ++ template.chain)
  have hcapabilities : word16At? octets 10 = some template.capabilities.word := by
    rw [← hoctets]
    exact word16At?_littleEndian16 template.capabilities.word template.chain
  have hannounced : (elements (octets.drop BeaconInfo.fixedSize)).foldl Announcement.absorb
      (.ofPrivacy ((Capabilities.mk template.capabilities.word).has .privacy)) =
        template.announcement := by
    rw [← hoctets]
    exact BeaconTemplate.foldl_absorb_chain hrates
  rw [BeaconInfo.ofBody?_of_fixed hinterval hcapabilities hannounced,
    template.security_announcement, hcompatible]
  rfl

/-! ### All drafts -/

theorem Field.encoding_octets (run : List UInt8) : (Field.octets run).encoding = run := by
  simp [Field.encoding, Field.slices]

/-- There are no elements in a header. -/
theorem Header.isCountable_fields (header : Header) :
    ∀ field ∈ header.fields, field.isCountable = true := by
  simp [Header.fields, Field.isCountable]

namespace Draft

theorem IsCanonical.isCountable {draft : Draft} (h : draft.IsCanonical) : draft.IsCountable := by
  cases draft with
  | authentication => exact h.2.2
  | beacon => exact h.1
  | probeRequest | associationRequest | associationResponse | deauthentication | disassociation
  | data => trivial

/-- Every field of a draft can be counted, if what its elements hold can. -/
theorem countable_fields {draft : Draft} (h : draft.IsCountable) (number : UInt16) :
    ∀ field ∈ draft.fields number, field.isCountable = true := by
  have hheader := Header.isCountable_fields
  have hssid (ssid : Ssid) : ssid.octets.length ≤ 255 := Nat.le_trans ssid.length_le (by decide)
  have hrates (set : RateSet) : set.octets.length ≤ 255 := by cases set <;> decide
  cases draft with
  | probeRequest transmitter ssid =>
    have hname : ((ssid.map Ssid.octets).getD []).length ≤ 255 := by
      cases ssid with
      | none => simp
      | some ssid => exact hssid ssid
    unfold fields Frame.probeRequest
    rw [List.forall_mem_append]
    exact ⟨hheader _, by simp [Field.isCountable, hname, hrates]⟩
  | authentication receiver transmitter bssid body encrypted =>
    unfold fields Frame.authentication
    rw [List.forall_mem_append, List.forall_mem_append]
    have hcount : ∀ challenge, body.challenge = some challenge → challenge.length ≤ 255 := h
    refine ⟨⟨hheader _, by simp [Field.isCountable]⟩, ?_⟩
    simpa [Field.isCountable] using hcount
  | associationRequest bssid transmitter ssid privacy rateSet =>
    unfold fields Frame.associationRequest
    rw [List.forall_mem_append]
    exact ⟨hheader _, by simp [Field.isCountable, hssid, hrates]⟩
  | associationResponse receiver bssid status aid =>
    unfold fields Frame.associationResponse
    rw [List.forall_mem_append]
    exact ⟨hheader _, by simp [Field.isCountable, hrates]⟩
  | deauthentication receiver transmitter bssid reason
  | disassociation receiver transmitter bssid reason =>
    unfold fields Frame.deauthentication
    rw [List.forall_mem_append]
    exact ⟨hheader _, by simp [Field.isCountable]⟩
  | beacon template =>
    have hadvertisement : ∀ field ∈ (template.advertisement.map Advertisement.fields).getD [],
        field.isCountable = true := by
      cases template.advertisement with
      | none => simp
      | some a => simp [Advertisement.fields, Field.isCountable]
    unfold fields Frame.beacon
    rw [List.forall_mem_append, List.forall_mem_append, List.forall_mem_append]
    have hcount : template.rates.length ≤ 255 := h
    exact ⟨⟨⟨hheader _, by simp [Field.isCountable, hssid, hcount]⟩, hadvertisement⟩,
      by simp [Field.isCountable]⟩
  | data direction bssid destination source encrypted type payload =>
    unfold fields Frame.data
    rw [List.forall_mem_append]
    exact ⟨hheader _, by simp [Field.isCountable]⟩

/-- The parts of every canonical draft can be counted. -/
theorem isCountable_fields {draft : Draft} (h : draft.IsCanonical) (number : UInt16) :
    ∀ field ∈ draft.fields number, field.isCountable = true :=
  countable_fields h.isCountable number

/-- What is written of a canonical draft is read as what the draft is. -/
theorem ofOctets_fields {draft : Draft} (h : draft.IsCanonical) (number : UInt16) :
    Received.ofOctets ((draft.fields number).flatMap Field.encoding) =
      .ok (draft.received number) := by
  have hread {header : Header} {body : List UInt8} {frame : Received}
      (hbody : Received.ofBody? header body = some frame) :
      Received.ofOctets (header.fields.flatMap Field.encoding ++ body) = .ok frame := by
    rw [show header.fields.flatMap Field.encoding = header.encoding from rfl, ofOctets_encoding,
      hbody]
  cases draft with
  | probeRequest transmitter ssid =>
    have hssid : (ssid.map Ssid.octets).getD [] = (ssid.getD .empty).octets := by
      cases ssid <;> rfl
    unfold fields Frame.probeRequest
    simp only [List.flatMap_append, List.flatMap_cons, hssid]
    refine hread (Received.ofBody?_probeRequest ?_ _ _)
    exact (isManagement_management _ (by simp)).1
  | authentication receiver transmitter bssid body encrypted =>
    obtain ⟨halgorithm, hstatus, hchallenge⟩ := h
    unfold fields Frame.authentication
    simp only [List.flatMap_append, List.flatMap_cons, List.flatMap_nil, Field.encoding_octets,
      List.append_assoc, List.nil_append]
    refine hread ?_
    rw [Received.ofBody?_authentication, halgorithm, hstatus,
      Received.contentsOf?_challenge hchallenge]
    · rfl
    · exact (isManagement_management .authentication (by simp)).2 encrypted
  | associationRequest bssid transmitter ssid privacy rateSet =>
    unfold fields Frame.associationRequest
    simp only [List.flatMap_append, List.flatMap_cons, Field.encoding_octets]
    refine hread (Received.ofBody?_associationRequest ?_ _ _ _ _)
    exact (isManagement_management _ (by simp)).1
  | associationResponse receiver bssid status aid =>
    obtain ⟨hstatus, haid⟩ := h
    unfold fields Frame.associationResponse
    simp only [List.flatMap_append, List.flatMap_cons, Field.encoding_octets]
    refine hread ?_
    rw [Received.ofBody?_associationResponse, hstatus, Received.aidOf_or haid]
    · rfl
    · exact (isManagement_management .associationResponse (by simp)).1
  | deauthentication receiver transmitter bssid reason =>
    have hreason : ReasonCode.ofNumber reason.number = reason := h
    unfold fields Frame.deauthentication
    simp only [List.flatMap_append, List.flatMap_cons, Field.encoding_octets]
    refine hread ?_
    rw [Received.ofBody?_deauthentication, hreason]
    · rfl
    · exact (isManagement_management .deauthentication (by simp)).1
  | disassociation receiver transmitter bssid reason =>
    have hreason : ReasonCode.ofNumber reason.number = reason := h
    unfold fields Frame.deauthentication
    simp only [List.flatMap_append, List.flatMap_cons, Field.encoding_octets]
    refine hread ?_
    rw [Received.ofBody?_disassociation, hreason]
    · rfl
    · exact (isManagement_management .disassociation (by simp)).1
  | beacon template =>
    obtain ⟨hrates, hextra⟩ := h
    unfold fields Frame.beacon
    simp only [List.flatMap_append, List.flatMap_cons, List.flatMap_nil, Field.encoding_octets,
      List.append_assoc, List.append_nil, hextra]
    refine hread (Received.ofBody?_beacon ?_ hrates)
    exact (isManagement_management .beacon (by simp)).1
  | data direction bssid destination source encrypted type payload =>
    unfold fields Frame.data
    simp only [List.flatMap_append, List.flatMap_cons, List.flatMap_nil, Field.encoding_octets,
      List.append_nil]
    refine hread ?_
    rw [Received.ofBody?_data, ← List.append_assoc]
    rfl

/-- The number of a frame stands above the four bits that number its fragments. -/
theorem toNat_sequenceWord (number : UInt16) :
    (Header.sequenceWord number).toNat = (number.toNat <<< 4) % 65536 := by
  unfold Header.sequenceWord
  rw [UInt16.toNat_mul, Nat.shiftLeft_eq, Nat.mul_comm]
  rfl

/-- Every draft starts with a header that holds its number. -/
theorem exists_fields_eq (draft : Draft) (number : UInt16) : ∃ header rest,
    draft.fields number = Header.fields header ++ rest ∧
      header.sequenceControl = Header.sequenceWord number := by
  cases draft with
  | probeRequest | associationRequest | associationResponse | deauthentication | disassociation =>
    exact ⟨_, _, rfl, rfl⟩
  | authentication => exact ⟨_, _, List.append_assoc _ _ _, rfl⟩
  | beacon =>
    exact ⟨_, _, (List.append_assoc _ _ _).trans (List.append_assoc _ _ _), rfl⟩
  | data direction =>
    refine ⟨_, _, rfl, ?_⟩
    cases direction <;> rfl

/-- What is read of a frame that was written. -/
structure ReadsBack (draft : Draft) (number : UInt16) (frame : List UInt8) : Prop where
  /-- It is what the draft describes. -/
  received : Received.ofOctets frame = .ok (draft.received number)
  /-- Its header holds the number. -/
  sequenceControl : ∃ header body, Header.ofOctets? frame = some (header, body) ∧
    header.sequenceControl.toNat = (number.toNat <<< 4) % 65536
  /-- A data frame holds what it was to carry, and names the network and both ends. -/
  carries : ∀ {direction bssid destination source encrypted type payload},
    draft = .data direction bssid destination source encrypted type payload →
    ∃ header body, Received.ofOctets frame = .ok (.data header body) ∧ header.network = bssid ∧
      header.destination = destination ∧ header.source = source ∧
      stripLlcSnap? body = some (type, payload)

theorem readsBack_fields {draft : Draft} (h : draft.IsCanonical) (number : UInt16) :
    draft.ReadsBack number ((draft.fields number).flatMap Field.encoding) where
  received := ofOctets_fields h number
  sequenceControl := by
    obtain ⟨header, rest, hfields, hnumber⟩ := draft.exists_fields_eq number
    rw [hfields, List.flatMap_append]
    refine ⟨header, _, Header.ofOctets?_encoding header _, ?_⟩
    rw [hnumber, toNat_sequenceWord]
  carries := by
    rintro direction bssid destination source encrypted type payload rfl
    obtain ⟨-, -, hnetwork, hdestination, hsource⟩ :=
      spec_dataHeader direction bssid destination source number encrypted
    exact ⟨_, _, ofOctets_fields h number, hnetwork, hdestination, hsource,
      stripLlcSnap?_append type payload⟩

end Draft

/-- Every canonical draft is written wherever there is space for it, and read back as what it is.
The same goes for every header, and whatever is long enough starts with the octets of a header. -/
theorem draft_readsBack :
    (∀ (draft : Draft) (number : UInt16) (capacity : Nat), draft.IsCanonical →
      ((draft.fields number).flatMap Field.encoding).length ≤ capacity →
      ∃ frame, encode? capacity (draft.fields number) = some frame ∧
        draft.ReadsBack number frame) ∧
    (∀ (header : Header) (body : List UInt8) (capacity : Nat), Header.size ≤ capacity →
      ∃ octets, encode? capacity header.fields = some octets ∧
        Header.ofOctets? (octets ++ body) = some (header, body)) ∧
    ∀ (octets : List UInt8) (capacity : Nat), Header.size ≤ octets.length →
      Header.size ≤ capacity → ∃ header body, Header.ofOctets? octets = some (header, body) ∧
        (encode? capacity header.fields).map (· ++ body) = some octets := by
  have hheader (header : Header) {capacity : Nat} (h : Header.size ≤ capacity) :
      encode? capacity header.fields = some header.encoding :=
    encode?_of_fits (by simp [Header.fields, Field.isCountable]) h
  refine ⟨?_, ?_, ?_⟩
  · intro draft number capacity hcanonical hroom
    exact ⟨_, encode?_of_fits (draft.isCountable_fields hcanonical number) hroom,
      Draft.readsBack_fields hcanonical number⟩
  · intro header body capacity hroom
    exact ⟨_, hheader header hroom, Header.ofOctets?_encoding header body⟩
  · intro octets capacity hlong hroom
    cases hread : Header.ofOctets? octets with
    | none =>
      have hshort := (Header.ofOctets?_eq_none_iff octets).mp hread
      omega
    | some found =>
      refine ⟨found.1, found.2, rfl, ?_⟩
      rw [hheader found.1 hroom, Header.encoding_of_ofOctets? hread]
      rfl

/-- The draft of a challenge to a station. -/
def challenging : Draft :=
  .authentication ⟨2, 0, 0, 0, 0, 1⟩ ⟨2, 0, 0, 0, 0, 2⟩ ⟨2, 0, 0, 0, 0, 2⟩
    ⟨.sharedKey, 2, .success, some [0xca, 0xfe]⟩ false

theorem draft_readsBack_challenging : challenging.IsCanonical ∧ Header.size ≤ 34 ∧
    (∃ frame, encode? 34 (challenging.fields 0x1234) = some frame ∧
      challenging.ReadsBack 0x1234 frame) ∧
    ∃ header body, Header.ofOctets? (List.replicate 24 0xff) = some (header, body) ∧
      (encode? 34 header.fields).map (· ++ body) = some (List.replicate 24 0xff) := by
  have hcanonical : challenging.IsCanonical := by
    refine ⟨rfl, rfl, ?_⟩
    rintro challenge ⟨⟩
    decide
  exact ⟨hcanonical, by decide,
    draft_readsBack.1 challenging 0x1234 34 hcanonical (by decide),
    draft_readsBack.2.2 (List.replicate 24 0xff) 34 (by decide) (by decide)⟩

/-- The octets of a request for the beacons of all networks. -/
def wildcardRequest : List UInt8 :=
  (Draft.probeRequest ⟨2, 0, 0, 0, 0, 1⟩ none).fields 0 |>.flatMap Field.encoding

/-- A request for the beacons of all networks is read as one for the network without a name, as it
must be, since both are written alike. -/
theorem wildcard_reads_as_nameless :
    encode? maxFrameLength ((Draft.probeRequest ⟨2, 0, 0, 0, 0, 1⟩ none).fields 0) =
      some wildcardRequest ∧
    Received.ofOctets wildcardRequest = .ok (.probeRequest ⟨2, 0, 0, 0, 0, 1⟩ (some .empty)) ∧
    Received.ofOctets wildcardRequest ≠ .ok (.probeRequest ⟨2, 0, 0, 0, 0, 1⟩ none) := by
  have hread :
      Received.ofOctets wildcardRequest = .ok (.probeRequest ⟨2, 0, 0, 0, 0, 1⟩ (some .empty)) :=
    (Draft.probeRequest ⟨2, 0, 0, 0, 0, 1⟩ none).ofOctets_fields trivial 0
  refine ⟨by decide, hread, ?_⟩
  rw [hread]
  simp

end WlanControl.Frame
