import WlanControl.Frame.Received

namespace WlanControl.Frame

/-!
# Frames — reading them by positions

A frame comes from the air, and may end anywhere.  Here it is read the way a program reads it that
asks for octets by their positions, some of them only after a look at the length.  A position that
is asked for without being there is a fault, which no frame leads to.

* `Reading` — what comes of such a reading;
* `Reading.octet`, `Reading.slice`, `Reading.suffix` — what stands at some positions, if anything;
* `Reading.sure` — for positions that have to be there;
* `Reading.header`, `Reading.security`, `Reading.beacon` and the like — the readers of the parts;
* `Reading.frame` — the reader of a whole frame.

Main statement: `Reading.frame_eq`, which says that reading by positions comes to what a frame is
read as, so that nothing out of range is ever asked for.
-/

/-- What comes of a reading by positions. -/
inductive Reading (α : Type)
  | found (a : α)
  /-- What was looked for is not there, as is the case in many good frames. -/
  | absent
  /-- The frame is no good. -/
  | refused (e : Error)
  /-- An octet was asked for that the frame does not have. -/
  | outOfRange

namespace Reading

variable {α β : Type}

instance : Monad Reading where
  pure := found
  bind reading next :=
    match reading with
    | found a => next a
    | absent => absent
    | refused e => refused e
    | outOfRange => outOfRange

@[simp] theorem found_bind (a : α) (next : α → Reading β) : (found a >>= next) = next a := rfl

@[simp] theorem pure_eq (a : α) : (pure a : Reading α) = found a := rfl

/-! ### What may be missing, and what may not -/

/-- The reading that finds what is there. -/
def ofOption : Option α → Reading α
  | some a => found a
  | none => absent

/-- The reading that comes to what is read. -/
def ofExcept : Except Error α → Reading α
  | .ok a => found a
  | .error e => refused e

/-- Does without what is not there. -/
def orNone : Reading α → Reading (Option α)
  | found a => found (some a)
  | absent => found none
  | refused e => refused e
  | outOfRange => outOfRange

/-- What is not there makes the frame too short. -/
def required : Reading α → Reading α
  | absent => refused .truncated
  | reading => reading

/-- What is not there was out of range. -/
def sure : Reading α → Reading α
  | absent => outOfRange
  | reading => reading

@[simp] theorem sure_found (a : α) : sure (found a) = found a := rfl

@[simp] theorem required_found (a : α) : required (found a) = found a := rfl

@[simp] theorem orNone_ofOption (a : Option α) : (ofOption a).orNone = found a := by
  cases a <;> rfl

/-! ### Positions -/

/-- The octet at a position. -/
def octet (octets : List UInt8) (position : Nat) : Reading UInt8 := ofOption octets[position]?

/-- The octets from one position up to another. -/
def slice (octets : List UInt8) (start stop : Nat) : Reading (List UInt8) :=
  if start ≤ stop ∧ stop ≤ octets.length then found ((octets.drop start).take (stop - start))
  else absent

/-- The octets from a position on. -/
def suffix (octets : List UInt8) (start : Nat) : Reading (List UInt8) :=
  if start ≤ octets.length then found (octets.drop start) else absent

/-- The little endian word at a position. -/
def word (octets : List UInt8) (position : Nat) : Reading UInt16 := do
  let low ← sure (octet octets position)
  let high ← sure (octet octets (position + 1))
  pure (word16 low high)

theorem slice_of_le {octets : List UInt8} {start stop : Nat} (h : start ≤ stop)
    (hstop : stop ≤ octets.length) :
    slice octets start stop = found ((octets.drop start).take (stop - start)) :=
  if_pos ⟨h, hstop⟩

theorem slice_of_lt {octets : List UInt8} {start stop : Nat} (h : octets.length < stop) :
    slice octets start stop = absent :=
  if_neg fun hle => absurd hle.2 (by omega)

theorem suffix_of_le {octets : List UInt8} {start : Nat} (h : start ≤ octets.length) :
    suffix octets start = found (octets.drop start) :=
  if_pos h

theorem suffix_of_lt {octets : List UInt8} {start : Nat} (h : octets.length < start) :
    suffix octets start = absent :=
  if_neg (by omega)

/-- A word that is there is found. -/
theorem word_of_le (octets : List UInt8) (position : Nat) (h : position + 2 ≤ octets.length) :
    ∃ w, word16At? octets position = some w ∧ word octets position = found w := by
  have hlow : octets[position]? = (octets.drop position)[0]? := by rw [List.getElem?_drop]; rfl
  have hhigh : octets[position + 1]? = (octets.drop position)[1]? := by rw [List.getElem?_drop]
  obtain ⟨low, high, rest, hdrop⟩ := exists_drop_eq h
  unfold word16At? word octet
  rw [hlow, hhigh, hdrop]
  exact ⟨word16 low high, rfl, rfl⟩

/-! ### Headers -/

/-- The address at a position. -/
def address (octets : List UInt8) (position : Nat) : Reading MacAddress := do
  let rest ← sure (suffix octets position)
  pure ((MacAddress.ofOctets? rest).getD .zero)

/-- The header at the start of a frame and the octets behind it. -/
def header (octets : List UInt8) : Reading (Header × List UInt8) :=
  if octets.length < Header.size then refused .truncated
  else do
    let control ← word octets 0
    let duration ← word octets 2
    let address₁ ← address octets 4
    let address₂ ← address octets 10
    let address₃ ← address octets 16
    let sequenceControl ← word octets 22
    let body ← sure (suffix octets Header.size)
    pure ({ control := ⟨control⟩, duration, address₁, address₂, address₃, sequenceControl }, body)

theorem header_eq (octets : List UInt8) :
    header octets = required (ofOption (Header.ofOctets? octets)) := by
  unfold header
  split
  · rename_i hshort
    rw [(Header.ofOctets?_eq_none_iff octets).mpr hshort]
    rfl
  · rename_i hlong
    cases hread : Header.ofOctets? octets with
    | none => exact absurd ((Header.ofOctets?_eq_none_iff octets).mp hread) hlong
    | some found =>
      -- What a header is read from starts with its octets, so every position is one of them.
      unfold Header.ofOctets? at hread
      split at hread
      · cases hread
        simp [word, octet, address, suffix, ofOption, MacAddress.ofOctets?, Header.size]
      · cases hread

/-! ### Elements -/

/-- The element at the start of some octets and the octets behind it, if it is not cut short. -/
def element : List UInt8 → Reading (Option (Element × List UInt8))
  | id :: length :: rest =>
    match slice rest 0 length.toNat with
    | found contents => do
      let rest ← sure (suffix rest length.toNat)
      pure (some (⟨id, contents⟩, rest))
    | _ => pure none
  | _ => pure none

theorem element_of_le {id length : UInt8} {rest : List UInt8} (h : length.toNat ≤ rest.length) :
    element (id :: length :: rest) =
      found (some (⟨id, rest.take length.toNat⟩, rest.drop length.toNat)) := by
  simp only [element, slice_of_le (Nat.zero_le _) h, suffix_of_le h, sure_found, found_bind,
    pure_eq, List.drop_zero, Nat.sub_zero]

theorem element_of_lt {id length : UInt8} {rest : List UInt8} (h : rest.length < length.toNat) :
    element (id :: length :: rest) = found none := by
  simp only [element, slice_of_lt h, pure_eq]

/-- An element takes up some of the octets. -/
theorem length_lt_of_element {octets rest : List UInt8} {e : Element}
    (h : element octets = found (some (e, rest))) : rest.length < octets.length := by
  match octets with
  | [] => cases h
  | [_] => cases h
  | id :: length :: behind =>
    by_cases hle : length.toNat ≤ behind.length
    · rw [element_of_le hle] at h
      cases h
      simp only [List.length_cons, List.length_drop]
      omega
    · rw [element_of_lt (by omega)] at h
      cases h

/-- All elements of a chain, one after the other. -/
def elements (octets : List UInt8) : Reading (List Element) :=
  match h : element octets with
  | found (some (first, rest)) => do
    have := length_lt_of_element h
    let more ← elements rest
    pure (first :: more)
  | found none => pure []
  | absent => absent
  | refused e => refused e
  | outOfRange => outOfRange
termination_by octets.length

theorem elements_eq (octets : List UInt8) : elements octets = found (Frame.elements octets) := by
  induction octets using Frame.elements.induct with
  | case1 id length rest hle ih =>
    unfold elements Frame.elements
    rw [if_pos hle]
    split <;> rename_i h <;> rw [element_of_le hle] at h <;> cases h
    rw [ih]
    rfl
  | case2 id length rest hle =>
    unfold elements Frame.elements
    rw [if_neg hle]
    split <;> rename_i h <;> rw [element_of_lt (by omega)] at h <;> cases h
    rfl
  | case3 octets hother =>
    -- Fewer than two octets are no element.
    match octets, hother with
    | [], _ =>
      unfold elements Frame.elements
      rfl
    | [_], _ =>
      unfold elements Frame.elements
      rfl
    | id :: length :: rest, hother => exact absurd rfl (hother id length rest)

/-! ### What elements hold -/

/-- The name with the given octets, which are copied into as much room as any name needs. -/
def ssid (contents : List UInt8) : Reading Ssid :=
  if contents.length > Ssid.maxLength then absent
  else do
    let room ← sure (slice (List.replicate Ssid.maxLength 0) 0 contents.length)
    if room.length = contents.length then ofOption (Ssid.ofOctets? contents) else outOfRange

theorem ssid_eq (contents : List UInt8) : ssid contents = ofOption (Ssid.ofOctets? contents) := by
  unfold ssid
  split
  · rename_i hlong
    rw [(Ssid.ofOctets?_eq_none_iff contents).mpr hlong]
    rfl
  · rename_i hshort
    have hroom : contents.length ≤ (List.replicate Ssid.maxLength (0 : UInt8)).length := by
      rw [List.length_replicate]
      omega
    rw [slice_of_le (Nat.zero_le _) hroom, sure_found, found_bind, if_pos]
    rw [List.length_replicate] at hroom
    simp
    omega

/-- The advertisement that an element holds. -/
def advertisement (contents : List UInt8) : Reading Advertisement := do
  let payload ← slice contents 4 17
  let gameId ← sure (slice payload 0 4)
  let gameId ←
    match gameId with
    | [g₀, g₁, g₂, g₃] => pure (word32 g₀ g₁ g₂ g₃)
    | _ => absent
  let streamCode ← word payload 4
  let maxPeers ← sure (octet payload 6)
  let currentPeers ← sure (octet payload 7)
  let accepting ← sure (octet payload 8)
  let hostPacketSize ← word payload 9
  let peerPacketSize ← word payload 11
  pure {
    gameId, streamCode, maxPeers, currentPeers, accepting := accepting != 0, hostPacketSize,
    peerPacketSize }

theorem advertisement_eq (contents : List UInt8) :
    advertisement contents = ofOption (Advertisement.ofContents? contents) := by
  have hlength : (contents.drop 4).length = contents.length - 4 := List.length_drop
  unfold advertisement Advertisement.ofContents?
  split
  · rename_i hrest
    rw [hrest] at hlength
    simp only [List.length_cons] at hlength
    rw [slice_of_le (by omega) (by omega), hrest]
    simp [word, octet, slice, ofOption]
  · rename_i hother
    -- Nothing is found in fewer than thirteen octets of payload.
    rcases Nat.lt_or_ge contents.length 17 with hshort | hlong
    · rw [slice_of_lt hshort]
      rfl
    · exfalso
      generalize contents.drop 4 = rest at hlength hother
      iterate 13
        rcases rest with _ | ⟨_, rest⟩
        · simp only [List.length_nil, List.length_cons] at hlength
          omega
      exact hother _ _ _ _ _ _ _ _ _ _ _ _ _ _ rfl

/-- The number of the suite at the start of some octets, if it belongs to `oui`. -/
def suite (oui : Oui) (octets : List UInt8) : Reading UInt8 := do
  let suite ← slice octets 0 4
  let owner ← sure (slice suite 0 3)
  let number ← sure (octet suite 3)
  if owner = oui.octets then pure number else absent

theorem suite_eq (oui : Oui) (octets : List UInt8) :
    suite oui octets = ofOption (suite? oui octets) := by
  match octets with
  | [] | [_] | [_, _] | [_, _, _] => rfl
  | o₁ :: o₂ :: o₃ :: number :: rest =>
    unfold suite suite?
    rw [slice_of_le (by omega) (by simp), found_bind, slice_of_le (by omega) (by simp), sure_found,
      found_bind]
    show (if [o₁, o₂, o₃] = oui.octets then found number else absent) = _
    simp only [Oui.eq_octets_iff]
    split <;> rfl

theorem suite?_of_short {oui : Oui} {octets : List UInt8} (h : octets.length < 4) :
    suite? oui octets = none := by
  match octets, h with
  | [], _ | [_], _ | [_, _], _ | [_, _, _], _ => rfl

theorem length_of_suite? {oui : Oui} {octets : List UInt8} {number : UInt8}
    (h : suite? oui octets = some number) : 4 ≤ octets.length := by
  rcases Nat.lt_or_ge octets.length 4 with hshort | hlong
  · rw [suite?_of_short hshort] at h
    cases h
  · exact hlong

/-- A suite stands in four octets. -/
theorem suite?_take {oui : Oui} {octets : List UInt8} {n : Nat} (h : 4 ≤ n) :
    suite? oui (octets.take n) = suite? oui octets := by
  obtain ⟨m, rfl⟩ := Nat.exists_eq_add_of_le' h
  match octets with
  | [] | [_] | [_, _] | [_, _, _] => simp [suite?]
  | o₁ :: o₂ :: o₃ :: number :: rest => simp [suite?]

/-- The numbers of those that belong to `oui` among some suites. -/
def suites (oui : Oui) : Nat → List UInt8 → Reading (List UInt8)
  | 0, _ => pure []
  | count + 1, octets => do
    let number ← (suite oui (octets.take 4)).orNone
    let more ← suites oui count (octets.drop 4)
    pure (number.toList ++ more)

theorem suites_eq (oui : Oui) (count : Nat) (octets : List UInt8) :
    suites oui count octets = found (Frame.suites oui count octets) := by
  induction count generalizing octets with
  | zero => rfl
  | succ count ih =>
    unfold suites Frame.suites
    rw [suite_eq, suite?_take (Nat.le_refl 4), orNone_ofOption, found_bind, ih]
    rfl

/-- The suites of a list stand in the octets that they take up. -/
theorem suites_take (oui : Oui) (count : Nat) (octets : List UInt8) :
    Frame.suites oui count (octets.take (4 * count)) = Frame.suites oui count octets := by
  induction count generalizing octets with
  | zero => rfl
  | succ count ih =>
    have hrest : 4 * (count + 1) - 4 = 4 * count := by omega
    unfold Frame.suites
    rw [suite?_take (by omega), List.drop_take, hrest, ih]

/-- The first key management in a counted list of them. -/
def keyManagement (oui : Oui) (octets : List UInt8) : Reading UInt8 := do
  let octets ← slice octets 2 6
  suite oui octets

theorem keyManagement_eq (oui : Oui) (octets : List UInt8) :
    keyManagement oui octets = ofOption (suite? oui (octets.drop 2)) := by
  unfold keyManagement
  by_cases hlong : 6 ≤ octets.length
  · rw [slice_of_le (by omega) hlong, found_bind, suite_eq, suite?_take (Nat.le_refl 4)]
  · have hshort : (octets.drop 2).length < 4 := by
      rw [List.length_drop]
      omega
    rw [slice_of_lt (by omega), suite?_of_short hshort]
    rfl

/-- What the body of an RSN or WPA element with suites of `oui` says. -/
def security (oui : Oui) (kind : Security) (contents : List UInt8) : Reading SecurityInfo := do
  -- The version has no meaning.
  let rest ← suffix contents 2
  let group ← suite oui rest
  let rest ← suffix rest 4
  let low ← octet rest 0
  let high ← octet rest 1
  let count := (word16 low high).toNat
  let rest ← suffix rest 2
  let pairwise ← slice rest 0 (4 * count)
  let offered ← suites oui count pairwise
  -- The suites are there, so what stands behind them may be nothing, but is not out of range.
  let rest ← sure (suffix rest (4 * count))
  let management ← (keyManagement oui rest).orNone
  let groupCipher := Cipher.ofNumber group
  pure {
    security := kind
    groupCipher
    pairwiseCipher := (strongest (offered.map Cipher.ofNumber)).getD groupCipher
    keyManagement := (management.map KeyManagement.ofNumber).getD .psk }

theorem security_eq (oui : Oui) (kind : Security) (contents : List UInt8) :
    security oui kind contents = ofOption (SecurityInfo.ofSuites? oui kind contents) := by
  unfold security SecurityInfo.ofSuites?
  by_cases htwo : 2 ≤ contents.length
  · rw [suffix_of_le htwo, found_bind, suite_eq]
    cases hgroup : suite? oui (contents.drop 2) with
    | none => rfl
    | some group =>
      show (suffix (contents.drop 2) 4 >>= _) = _
      rw [suffix_of_le (length_of_suite? hgroup), found_bind, List.drop_drop]
      have height : contents.drop 8 = (contents.drop 6).drop 2 := by rw [List.drop_drop]
      unfold word16At?
      rw [height]
      -- The count needs two more octets, and the suites as many as it says.
      match contents.drop 6 with
      | [] | [_] => rfl
      | low :: high :: rest =>
        simp only [Option.bind_eq_bind, Option.bind_some, List.drop_succ_cons, List.drop_zero]
        show (slice rest 0 (4 * (word16 low high).toNat) >>= _) = _
        generalize (word16 low high).toNat = count
        by_cases hroom : 4 * count ≤ rest.length
        · have hbehind : suffix (List.drop 2 (low :: high :: rest)) (4 * count) =
              found (rest.drop (4 * count)) := suffix_of_le hroom
          rw [slice_of_le (Nat.zero_le _) hroom, found_bind, suites_eq, found_bind, hbehind,
            sure_found, found_bind, keyManagement_eq, orNone_ofOption, found_bind,
            if_neg (by omega), Nat.sub_zero, List.drop_zero, suites_take]
          rfl
        · rw [slice_of_lt (by omega), if_pos (by omega)]
          rfl
  · have hnone : suite? oui (contents.drop 2) = none := by
      apply suite?_of_short
      rw [List.length_drop]
      omega
    rw [suffix_of_lt (by omega), hnone]
    rfl

/-! ### Beacons -/

/-- Takes in a vendor element of a beacon. -/
def vendor (a : Announcement) (contents : List UInt8) : Reading Announcement :=
  match contents with
  | o₁ :: o₂ :: o₃ :: kind :: suites =>
    if (⟨o₁, o₂, o₃⟩ : Oui) = Oui.wpa ∧ kind = 1 then
      if a.security.security = .wpa2 then pure a
      else do
        let info ← (security .wpa .wpa suites).orNone
        pure { a with security := info.getD a.security }
    else if (⟨o₁, o₂, o₃⟩ : Oui) = Oui.session ∧ kind = Advertisement.marker then do
      let advertisement ← (advertisement contents).orNone
      pure { a with advertisement }
    else pure a
  | _ => pure a

theorem vendor_eq (a : Announcement) (contents : List UInt8) :
    vendor a contents = found (a.absorbVendor contents) := by
  unfold vendor Announcement.absorbVendor
  match contents with
  | [] | [_] | [_, _] | [_, _, _] => rfl
  | o₁ :: o₂ :: o₃ :: kind :: suites =>
    simp only [security_eq, advertisement_eq, orNone_ofOption, found_bind, pure_eq, apply_ite found]

/-- Takes in one more element of a beacon. -/
def announcement (a : Announcement) (e : Element) : Reading Announcement :=
  if e.id = ssidId then do
    let ssid ← (ssid e.contents).orNone
    pure { a with ssid }
  else if e.id = ratesId then
    pure { a with
      hasRates := true
      ratesNative := a.ratesNative && basicRatesNative e.contents }
  else if e.id = channelId then do
    let channel ← (octet e.contents 0).orNone
    pure { a with channel }
  else if e.id = rsnId then do
    let info ← (security .rsn .wpa2 e.contents).orNone
    pure { a with security := info.getD a.security }
  else if e.id = vendorId then vendor a e.contents
  else pure a

theorem announcement_eq (a : Announcement) (e : Element) :
    announcement a e = found (a.absorb e) := by
  unfold announcement Announcement.absorb octet
  simp only [ssid_eq, security_eq, vendor_eq, orNone_ofOption, found_bind, pure_eq,
    List.head?_eq_getElem?, apply_ite found]

/-- Takes in all elements of a beacon. -/
def announcements (a : Announcement) : List Element → Reading Announcement
  | [] => pure a
  | e :: rest => do
    let a ← announcement a e
    announcements a rest

theorem announcements_eq (a : Announcement) (es : List Element) :
    announcements a es = found (es.foldl Announcement.absorb a) := by
  induction es generalizing a with
  | nil => rfl
  | cons e rest ih =>
    unfold announcements
    rw [announcement_eq, found_bind, ih]
    rfl

/-- What the body of a beacon or probe response says. -/
def beacon (header : Header) (body : List UInt8) : Reading BeaconInfo :=
  if body.length < BeaconInfo.fixedSize then refused .truncated
  else do
    let capabilities ← word body 10
    let interval ← word body 8
    let capabilities := Capabilities.mk capabilities
    let rest ← sure (suffix body BeaconInfo.fixedSize)
    let es ← elements rest
    let announced ← announcements (.ofPrivacy (capabilities.has .privacy)) es
    pure {
      bssid := header.address₃
      transmitter := header.address₂
      capabilities
      interval
      ssid := announced.ssid
      channel := announced.channel
      compatible := announced.ratesNative && announced.hasRates
      security := BeaconInfo.withWepCipher announced.security
      advertisement := announced.advertisement }

theorem beacon_eq (header : Header) (body : List UInt8) :
    beacon header body = required (ofOption (BeaconInfo.ofBody? header body)) := by
  unfold beacon
  split
  · rename_i hshort
    rw [(BeaconInfo.ofBody?_eq_none_iff header body).mpr hshort]
    rfl
  · rename_i hlong
    rw [Nat.not_lt] at hlong
    have hsize : BeaconInfo.fixedSize = 12 := rfl
    obtain ⟨capabilities, hcapabilities, hten⟩ := word_of_le body 10 (by omega)
    obtain ⟨interval, hinterval, height⟩ := word_of_le body 8 (by omega)
    rw [hten, height, suffix_of_le hlong]
    simp only [found_bind, sure_found, elements_eq, announcements_eq]
    unfold BeaconInfo.ofBody?
    rw [hcapabilities, hinterval]
    rfl

/-! ### Whole frames -/

/-- A word that a frame has to have in its body. -/
def field (body : List UInt8) (position : Nat) : Reading UInt16 := do
  let octets ← required (slice body position (position + 2))
  word octets 0

theorem field_eq (body : List UInt8) (position : Nat) :
    field body position = required (ofOption (word16At? body position)) := by
  unfold field
  by_cases hlong : position + 2 ≤ body.length
  · obtain ⟨low, high, rest, hdrop⟩ := exists_drop_eq hlong
    rw [slice_of_le (by omega) hlong, Nat.add_sub_cancel_left]
    unfold word16At?
    rw [hdrop]
    rfl
  · rw [slice_of_lt (by omega), (word16At?_eq_none_iff body position).mpr (by omega)]
    rfl

/-- What stands behind a position, which may be nothing. -/
def behind (body : List UInt8) (position : Nat) : Reading (List UInt8) := do
  let rest ← (suffix body position).orNone
  pure (rest.getD [])

theorem behind_eq (body : List UInt8) (position : Nat) :
    behind body position = found (body.drop position) := by
  unfold behind
  rcases Nat.lt_or_ge body.length position with hshort | hlong
  · rw [suffix_of_lt hshort, List.drop_eq_nil_of_le (by omega)]
    rfl
  · rw [suffix_of_le hlong]
    rfl

/-- The contents of the first element with the given identifier. -/
def contentsOf (id : UInt8) (octets : List UInt8) : Reading (Option (List UInt8)) := do
  let es ← elements octets
  pure ((es.find? fun e => e.id == id).map Element.contents)

theorem contentsOf_eq (id : UInt8) (octets : List UInt8) :
    contentsOf id octets = found (contentsOf? id octets) := by
  unfold contentsOf
  rw [elements_eq]
  rfl

/-- The name of a network that a chain of elements gives. -/
def ssidIn (octets : List UInt8) : Reading (Option Ssid) := do
  let contents ← contentsOf ssidId octets
  match contents with
  | some contents => (ssid contents).orNone
  | none => pure none

theorem ssidIn_eq (octets : List UInt8) : ssidIn octets = found (Received.ssidIn? octets) := by
  unfold ssidIn Received.ssidIn?
  rw [contentsOf_eq, found_bind]
  cases contentsOf? ssidId octets with
  | none => rfl
  | some contents =>
    simp only [ssid_eq, orNone_ofOption]
    rfl

/-- A management frame. -/
def management (header : Header) (body : List UInt8) : Reading Received :=
  match header.managementSubtype with
  | .beacon => do
    let info ← beacon header body
    pure (.beacon info)
  | .probeResponse => do
    let info ← beacon header body
    pure (.probeResponse info)
  | .probeRequest => do
    let ssid ← ssidIn body
    pure (.probeRequest header.address₂ ssid)
  | .authentication => do
    let algorithm ← field body 0
    let sequence ← field body 2
    let status ← field body 4
    let rest ← behind body 6
    let challenge ← contentsOf challengeId rest
    pure (.authentication header
      { algorithm := .ofNumber algorithm, sequence, status := .ofNumber status, challenge })
  | .associationRequest => do
    let capabilities ← field body 0
    let rest ← behind body 4
    let ssid ← ssidIn rest
    pure (.associationRequest header ⟨capabilities⟩ ssid)
  | .reassociationRequest => do
    let capabilities ← field body 0
    let rest ← behind body 10
    let ssid ← ssidIn rest
    pure (.associationRequest header ⟨capabilities⟩ ssid)
  | .associationResponse | .reassociationResponse => do
    let status ← field body 2
    let aid ← field body 4
    pure (.associationResponse header (.ofNumber status) (Received.aidOf aid))
  | .deauthentication => do
    let reason ← field body 0
    pure (.deauthentication header (.ofNumber reason))
  | .disassociation => do
    let reason ← field body 0
    pure (.disassociation header (.ofNumber reason))
  | .action | .other _ => pure .other

theorem management_eq (header : Header) (body : List UInt8) :
    management header body = required (ofOption (Received.ofManagement? header body)) := by
  unfold management Received.ofManagement?
  simp only [beacon_eq, field_eq, behind_eq, contentsOf_eq, ssidIn_eq]
  -- On both sides the first field that is missing ends the reading.
  cases header.managementSubtype with
  | beacon | probeResponse => cases BeaconInfo.ofBody? header body <;> rfl
  | probeRequest | action | other => rfl
  | associationRequest | reassociationRequest | deauthentication | disassociation =>
    cases word16At? body 0 <;> rfl
  | authentication =>
    cases word16At? body 0 with
    | none => rfl
    | some algorithm =>
      cases word16At? body 2 with
      | none => rfl
      | some sequence => cases word16At? body 4 <;> rfl
  | associationResponse | reassociationResponse =>
    cases word16At? body 2 with
    | none => rfl
    | some status => cases word16At? body 4 <;> rfl

/-- A frame. -/
def frame (octets : List UInt8) : Reading Received := do
  let (header, body) ← header octets
  match header.frameType with
  | .management => management header body
  | .data =>
    match header.dataSubtype with
    | .data => pure (.data header body)
    | _ => pure .other
  | _ => pure .other

/-- Reading a frame by positions comes to what the frame is read as. -/
theorem frame_eq (octets : List UInt8) :
    frame octets = ofExcept (Received.ofOctets octets) := by
  unfold frame Received.ofOctets
  rw [header_eq]
  cases Header.ofOctets? octets with
  | none => rfl
  | some found =>
    obtain ⟨header, body⟩ := found
    simp only [ofOption, required_found, found_bind, Option.bind_some]
    unfold Received.ofBody?
    cases header.frameType with
    | management =>
      simp only [management_eq]
      cases Received.ofManagement? header body <;> rfl
    | data => cases header.dataSubtype <;> rfl
    | control | other => rfl

/-- Nothing out of range is asked for, whatever the frame is. -/
theorem frame_ne_outOfRange (octets : List UInt8) : frame octets ≠ outOfRange := by
  rw [frame_eq]
  cases Received.ofOctets octets <;> simp [ofExcept]

end Reading

end WlanControl.Frame
