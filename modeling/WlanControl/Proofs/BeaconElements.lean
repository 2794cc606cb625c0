import WlanControl.Proofs.ElementChains
import WlanControl.Proofs.FrameDrafts

namespace WlanControl.Frame

/-!
# Beacons — what their elements say

An access point sends the elements of a beacon in an order of its own.  What is read of them
depends on the order only between elements on one topic, where a later one overrides an earlier
one, and RSN elements override WPA elements wherever these stand.

* `Topic`, `Element.topic?` — what an element is about, if another one can contradict it;
* `Element.rsn?`, `Element.wpa?` — the security that a well-formed element announces;
* `Announcement.ssid_absorb` and the like — what one element does to each part of what is known;
* `Announcement.absorb_comm` — elements on different topics can be taken in in either order;
* `Announcement.security_foldl`, `Announcement.rates_foldl` — what all elements together say of
  security and rates;
* `BeaconInfo.Tells` — what a beacon tells, by its elements.

Main statement: `BeaconInfo.told_by_elements`, for every list of elements in a beacon.
-/

/-! ### Topics -/

/-- What an element of a beacon may be about.  Rates are left out, since lists of rates add up. -/
inductive Topic
  /-- The name of the network. -/
  | name
  /-- The channel of the network. -/
  | channel
  /-- Security, as RSN elements announce it. -/
  | rsn
  /-- Security, as WPA elements announce it. -/
  | wpa
  /-- A multiplayer session. -/
  | session
deriving DecidableEq, Repr

/-- What the element is about, if it is about any of these. -/
def Element.topic? (e : Element) : Option Topic :=
  if e.id = ssidId then some .name
  else if e.id = channelId then some .channel
  else if e.id = rsnId then some .rsn
  else if e.id = vendorId ∧ e.contents.take 4 = Oui.wpa.octets ++ [1] then some .wpa
  else if e.id = vendorId ∧ e.contents.take 4 = Oui.session.octets ++ [Advertisement.marker] then
    some .session
  else none

/-- The security that the element announces, if it is a well-formed RSN element. -/
def Element.rsn? (e : Element) : Option SecurityInfo :=
  if e.topic? = some .rsn then SecurityInfo.ofSuites? .rsn .wpa2 e.contents else none

/-- The security that the element announces, if it is a well-formed WPA element. -/
def Element.wpa? (e : Element) : Option SecurityInfo :=
  if e.topic? = some .wpa then SecurityInfo.ofSuites? .wpa .wpa (e.contents.drop 4) else none

/-- Suites are read as security of the class that is asked for. -/
theorem SecurityInfo.security_of_ofSuites? {oui : Oui} {security : Security} {body : List UInt8}
    {info : SecurityInfo} (h : ofSuites? oui security body = some info) :
    info.security = security := by
  unfold ofSuites? at h
  simp only [bind, Option.bind_eq_some_iff] at h
  obtain ⟨group, -, count, -, h⟩ := h
  split at h
  · cases h
  · cases h
    rfl

theorem Element.security_of_rsn? {e : Element} {info : SecurityInfo} (h : e.rsn? = some info) :
    info.security = .wpa2 := by
  unfold rsn? at h
  split at h
  · exact SecurityInfo.security_of_ofSuites? h
  · cases h

theorem Element.security_of_wpa? {e : Element} {info : SecurityInfo} (h : e.wpa? = some info) :
    info.security = .wpa := by
  unfold wpa? at h
  split at h
  · exact SecurityInfo.security_of_ofSuites? h
  · cases h

/-! ### One element -/

/-- The element is a list of rates. -/
def Element.IsRates (e : Element) : Prop := e.id = ratesId

instance (e : Element) : Decidable e.IsRates := inferInstanceAs (Decidable (_ = _))

/-- Lists of rates are about none of the topics. -/
theorem Element.topic?_of_isRates {e : Element} (h : e.IsRates) : e.topic? = none := by
  have hid : e.id = ratesId := h
  unfold topic?
  rw [hid]
  simp [ratesId, ssidId, channelId, rsnId, vendorId]

/-- Octets that start with four given ones. -/
theorem eq_of_take_four {contents : List UInt8} {o₁ o₂ o₃ kind : UInt8}
    (h : contents.take 4 = [o₁, o₂, o₃, kind]) :
    contents = o₁ :: o₂ :: o₃ :: kind :: contents.drop 4 := by
  have hsplit := List.take_append_drop 4 contents
  rw [h] at hsplit
  exact hsplit.symm

namespace Announcement

variable {a : Announcement} {e : Element}

theorem absorb_of_name (h : e.topic? = some .name) :
    a.absorb e = { a with ssid := Ssid.ofOctets? e.contents } := by
  unfold Element.topic? at h
  unfold absorb
  grind

theorem absorb_of_channel (h : e.topic? = some .channel) :
    a.absorb e = { a with channel := e.contents.head? } := by
  unfold Element.topic? at h
  unfold absorb
  grind [ratesId, channelId]

theorem absorb_of_rsn (h : e.topic? = some .rsn) :
    a.absorb e = { a with
      security := (SecurityInfo.ofSuites? .rsn .wpa2 e.contents).getD a.security } := by
  unfold Element.topic? at h
  unfold absorb
  grind [ratesId, rsnId]

theorem absorb_of_wpa (h : e.topic? = some .wpa) :
    a.absorb e = if a.security.security = .wpa2 then a else { a with
      security := (SecurityInfo.ofSuites? .wpa .wpa (e.contents.drop 4)).getD a.security } := by
  unfold Element.topic? at h
  have hvendor : e.id = vendorId ∧ e.contents.take 4 = Oui.wpa.octets ++ [1] := by grind
  have hcontents := eq_of_take_four hvendor.2
  unfold absorb
  rw [hvendor.1]
  show a.absorbVendor e.contents = _
  rw [hcontents]
  rfl

theorem absorb_of_session (h : e.topic? = some .session) :
    a.absorb e = { a with advertisement := Advertisement.ofContents? e.contents } := by
  unfold Element.topic? at h
  have hvendor : e.id = vendorId ∧
      e.contents.take 4 = Oui.session.octets ++ [Advertisement.marker] := by grind
  have hcontents := eq_of_take_four hvendor.2
  unfold absorb
  rw [hvendor.1]
  show a.absorbVendor e.contents = _
  rw [hcontents]
  rfl

theorem absorbVendor_of_other {contents : List UInt8}
    (hwpa : contents.take 4 ≠ Oui.wpa.octets ++ [1])
    (hsession : contents.take 4 ≠ Oui.session.octets ++ [Advertisement.marker]) :
    a.absorbVendor contents = a := by
  unfold absorbVendor
  split
  · rw [if_neg, if_neg]
    · rintro ⟨howner, rfl⟩
      cases howner
      exact hsession rfl
    · rintro ⟨howner, rfl⟩
      cases howner
      exact hwpa rfl
  · rfl

theorem absorb_of_isRates (h : e.IsRates) : a.absorb e = { a with
    hasRates := true
    ratesNative := a.ratesNative && basicRatesNative e.contents } := by
  have hid : e.id = ratesId := h
  unfold absorb
  rw [if_neg (by rw [hid]; decide), if_pos hid]

/-- An element that is on no topic and no list of rates says nothing. -/
theorem absorb_of_other (htopic : e.topic? = none) (hrates : ¬ e.IsRates) : a.absorb e = a := by
  have hid : e.id ≠ ratesId := hrates
  unfold Element.topic? at htopic
  unfold absorb
  have hvendor : e.id = vendorId → a.absorbVendor e.contents = a := fun h =>
    absorbVendor_of_other (by grind) (by grind)
  grind

/-- All that one element does to what is known. -/
theorem absorb_eq (a : Announcement) (e : Element) : a.absorb e = {
    ssid := if e.topic? = some .name then Ssid.ofOctets? e.contents else a.ssid
    channel := if e.topic? = some .channel then e.contents.head? else a.channel
    hasRates := a.hasRates || e.IsRates
    ratesNative := a.ratesNative && (!e.IsRates || basicRatesNative e.contents)
    security := e.rsn?.getD
      (if a.security.security = .wpa2 then a.security else e.wpa?.getD a.security)
    advertisement :=
      if e.topic? = some .session then Advertisement.ofContents? e.contents
      else a.advertisement } := by
  cases htopic : e.topic? with
  | some topic =>
    have hrates : ¬ e.IsRates := fun h => by simp [Element.topic?_of_isRates h] at htopic
    cases topic with
    | name => simp [absorb_of_name htopic, Element.rsn?, Element.wpa?, htopic, hrates]
    | channel => simp [absorb_of_channel htopic, Element.rsn?, Element.wpa?, htopic, hrates]
    | rsn => simp [absorb_of_rsn htopic, Element.rsn?, Element.wpa?, htopic, hrates]
    | wpa =>
      rw [absorb_of_wpa htopic]
      simp [Element.rsn?, Element.wpa?, htopic, hrates]
      split
      · rfl
      · rfl
    | session => simp [absorb_of_session htopic, Element.rsn?, Element.wpa?, htopic, hrates]
  | none =>
    by_cases hrates : e.IsRates
    · simp [absorb_of_isRates hrates, Element.rsn?, Element.wpa?, htopic, hrates]
    · simp [absorb_of_other htopic hrates, Element.rsn?, Element.wpa?, htopic, hrates]

/-- Of two elements on different topics at most one is on a given topic, so that it does not matter
which of them has its say first. -/
theorem ite_comm_of_ne {β : Type} {x y : Element} (h : x.topic? = none ∨ x.topic? ≠ y.topic?)
    (topic : Topic) (b b₁ b₂ : β) :
    (if y.topic? = some topic then b₂ else if x.topic? = some topic then b₁ else b) =
      if x.topic? = some topic then b₁ else if y.topic? = some topic then b₂ else b := by
  by_cases hx : x.topic? = some topic
  · have hy : y.topic? ≠ some topic := by
      rintro hy
      rcases h with h | h
      · simp [hx] at h
      · exact h (hx.trans hy.symm)
    rw [if_neg hy, if_pos hx, if_pos hx]
  · rw [if_neg hx, if_neg hx]

/-- Elements that are not on one topic can be taken in in either order. -/
theorem absorb_comm (a : Announcement) {x y : Element}
    (h : x.topic? = none ∨ x.topic? ≠ y.topic?) :
    (a.absorb x).absorb y = (a.absorb y).absorb x := by
  have hrsn : x.rsn? = none ∨ y.rsn? = none := by
    unfold Element.rsn?
    grind
  have hwpa : x.wpa? = none ∨ y.wpa? = none := by
    unfold Element.wpa?
    grind
  rw [absorb_eq, absorb_eq, absorb_eq a y, absorb_eq _ x]
  simp only [Announcement.mk.injEq]
  refine ⟨ite_comm_of_ne h .name .., ite_comm_of_ne h .channel .., Bool.or_right_comm ..,
    Bool.and_right_comm .., ?_, ite_comm_of_ne h .session ..⟩
  -- An RSN element has the last word over a WPA element, before it and behind it.
  cases hx : x.rsn? with
  | some info =>
    have hy : y.rsn? = none := hrsn.resolve_left (by simp [hx])
    have hclass := Element.security_of_rsn? hx
    simp [hy, hclass]
  | none =>
    cases hy : y.rsn? with
    | some info =>
      have hclass := Element.security_of_rsn? hy
      simp [hclass]
    | none =>
      rcases hwpa with hx' | hy'
      · simp [hx']
      · simp [hy']

end Announcement

/-! ### All elements -/

/-- What the last element says of those that say something. -/
def lastOf {β : Type} (say : Element → Option β) (es : List Element) : Option β :=
  (es.filterMap say).getLast?

theorem lastOf_cons {β : Type} (say : Element → Option β) (e : Element) (es : List Element) :
    lastOf say (e :: es) = (lastOf say es).or (say e) := by
  unfold lastOf
  cases hsay : say e with
  | none => simp [hsay]
  | some b => simp [hsay, List.getLast?_cons, Option.or_some]

theorem exists_of_lastOf {β : Type} {say : Element → Option β} {es : List Element} {b : β}
    (h : lastOf say es = some b) : ∃ e ∈ es, say e = some b :=
  List.mem_filterMap.mp (List.mem_of_getLast? h)

namespace Announcement

/-- Two adjacent elements that are not on one topic can be swapped. -/
theorem foldl_absorb_swap (a : Announcement) (before after : List Element) {x y : Element}
    (h : x.topic? = none ∨ x.topic? ≠ y.topic?) :
    (before ++ y :: x :: after).foldl absorb a = (before ++ x :: y :: after).foldl absorb a := by
  rw [List.foldl_append, List.foldl_append, List.foldl_cons, List.foldl_cons, List.foldl_cons,
    List.foldl_cons, absorb_comm _ h]

/-- Security is what the last well-formed RSN element says, else what the last well-formed WPA
element says. -/
theorem security_foldl (a : Announcement) (es : List Element) :
    (es.foldl absorb a).security = (lastOf Element.rsn? es).getD
      (if a.security.security = .wpa2 then a.security
        else (lastOf Element.wpa? es).getD a.security) := by
  induction es generalizing a with
  | nil =>
    show a.security = if _ then a.security else a.security
    rw [ite_self]
  | cons e rest ih =>
    rw [List.foldl_cons, ih, lastOf_cons, lastOf_cons, absorb_eq]
    cases hrsn : e.rsn? with
    | some info =>
      -- From here on no WPA element counts.
      have hclass := Element.security_of_rsn? hrsn
      cases lastOf Element.rsn? rest <;> simp [hclass]
    | none =>
      simp only [Option.or_none, Option.getD_none]
      by_cases hwpa2 : a.security.security = .wpa2
      · simp [hwpa2]
      · cases hwpa : e.wpa? with
        | some info =>
          have hclass := Element.security_of_wpa? hwpa
          cases lastOf Element.wpa? rest <;> simp [hwpa2, hclass]
        | none => simp [hwpa2]

/-- Lists of rates add up. -/
theorem rates_foldl (a : Announcement) (es : List Element) :
    ((es.foldl absorb a).hasRates = true ↔ a.hasRates = true ∨ ∃ e ∈ es, e.IsRates) ∧
      ((es.foldl absorb a).ratesNative = true ↔
        a.ratesNative = true ∧ ∀ e ∈ es, e.IsRates → basicRatesNative e.contents = true) := by
  induction es generalizing a with
  | nil => simp
  | cons e rest ih =>
    rw [List.foldl_cons, (ih _).1, (ih _).2, absorb_eq]
    constructor
    · simp [or_assoc]
    · by_cases hrates : e.IsRates
      · simp [hrates, and_assoc]
      · simp [hrates]

end Announcement

/-! ### Rates -/

/-- The speeds in kbit/s that every station of the network has to support, by a list of rates.  The
highest bit marks a basic rate, and the others count 500 kbit/s. -/
def basicSpeeds (rates : List UInt8) : List Nat :=
  (rates.filter fun rate => 0x80 ≤ rate).map fun rate => 500 * (rate.toNat - 0x80)

theorem Rate.isNative_ofNumber_iff (number : UInt8) :
    (Rate.ofNumber number).isNative = true ↔ number = 2 ∨ number = 4 := by
  unfold ofNumber
  split <;> simp_all [isNative]

/-- The radio itself has the speeds of one and two Mbit/s. -/
theorem basicRatesNative_iff (rates : List UInt8) : basicRatesNative rates = true ↔
    ∀ speed ∈ basicSpeeds rates, speed = 1000 ∨ speed = 2000 := by
  have hrate (rate : UInt8) :
      (rate < 0x80 ∨ (Rate.ofNumber (rate - 0x80)).isNative = true) ↔
        (0x80 ≤ rate → 500 * (rate.toNat - 0x80) = 1000 ∨ 500 * (rate.toNat - 0x80) = 2000) := by
    by_cases hbasic : 0x80 ≤ rate
    · have hsub : (rate - 0x80).toNat = rate.toNat - 0x80 := UInt8.toNat_sub_of_le _ _ hbasic
      have hlt : ¬ rate < 0x80 := UInt8.not_lt.mpr hbasic
      rw [Rate.isNative_ofNumber_iff, ← UInt8.toNat_inj, ← UInt8.toNat_inj, hsub]
      simp only [hlt, hbasic, false_or, true_implies]
      show rate.toNat - 128 = 2 ∨ rate.toNat - 128 = 4 ↔ _
      omega
    · simp [hbasic, UInt8.not_le.mp hbasic]
  unfold basicRatesNative basicSpeeds
  simp only [List.all_eq_true, Bool.or_eq_true, decide_eq_true_eq, List.mem_map, List.mem_filter,
    hrate]
  constructor
  · rintro h speed ⟨rate, ⟨hmem, hbasic⟩, rfl⟩
    exact h rate hmem hbasic
  · intro h rate hmem hbasic
    exact h _ ⟨rate, ⟨hmem, hbasic⟩, rfl⟩

/-! ### Beacons -/

namespace BeaconInfo

/-- The security of a network of which no RSN or WPA element tells. -/
def unannounced (privacy : Bool) : SecurityInfo :=
  if privacy then ⟨.wep, .wep40, .wep40, .disabled⟩ else .plain

/-- What a beacon tells of security and rates, by its elements. -/
structure Tells (info : BeaconInfo) (es : List Element) : Prop where
  /-- The security is that of the last well-formed RSN element if there is one, else that of the
  last well-formed WPA element, else the privacy bit decides. -/
  security_eq : info.security = ((lastOf Element.rsn? es).or (lastOf Element.wpa? es)).getD
    (unannounced (info.capabilities.has .privacy))
  /-- The radio can join if there is a list of rates and none asks for other speeds than one or two
  Mbit/s. -/
  compatible_iff : info.compatible = true ↔ (∃ e ∈ es, e.IsRates) ∧
    ∀ e ∈ es, e.IsRates → ∀ speed ∈ basicSpeeds e.contents, speed = 1000 ∨ speed = 2000

/-- What a beacon with the given fixed fields and elements is read as. -/
def ofElements (header : Header) (interval : UInt16) (capabilities : Capabilities)
    (es : List Element) : BeaconInfo :=
  let announced := es.foldl Announcement.absorb (.ofPrivacy (capabilities.has .privacy))
  { bssid := header.address₃
    transmitter := header.address₂
    capabilities
    interval
    ssid := announced.ssid
    channel := announced.channel
    compatible := announced.ratesNative && announced.hasRates
    security := withWepCipher announced.security
    advertisement := announced.advertisement }

theorem tells_ofElements (header : Header) (interval : UInt16) (capabilities : Capabilities)
    (es : List Element) : (ofElements header interval capabilities es).Tells es where
  security_eq := by
    show withWepCipher (es.foldl Announcement.absorb _).security = _
    have hprivacy : (Announcement.ofPrivacy (capabilities.has .privacy)).security.security ≠
        .wpa2 := by
      cases capabilities.has .privacy <;> decide
    rw [Announcement.security_foldl, if_neg hprivacy]
    -- Only the cipher of a WEP network is filled in.
    cases hrsn : lastOf Element.rsn? es with
    | some info =>
      obtain ⟨e, -, he⟩ := exists_of_lastOf hrsn
      simp [withWepCipher, Element.security_of_rsn? he]
    | none =>
      cases hwpa : lastOf Element.wpa? es with
      | some info =>
        obtain ⟨e, -, he⟩ := exists_of_lastOf hwpa
        simp [withWepCipher, Element.security_of_wpa? he]
      | none =>
        show withWepCipher (Announcement.ofPrivacy (capabilities.has .privacy)).security =
          unannounced (capabilities.has .privacy)
        cases capabilities.has .privacy <;> rfl
  compatible_iff := by
    have hrates := Announcement.rates_foldl
      (.ofPrivacy (capabilities.has .privacy)) es
    show (Announcement.ratesNative _ && Announcement.hasRates _) = true ↔ _
    rw [Bool.and_eq_true, hrates.1, hrates.2]
    simp only [basicRatesNative_iff]
    simp [Announcement.ofPrivacy, and_comm]

/-- The elements of a beacon are read behind its fixed fields. -/
theorem ofBody?_chain (header : Header) {fixed : List UInt8} (hfixed : fixed.length = fixedSize) :
    ∃ interval word, word16At? fixed 10 = some word ∧ ∀ {es : List Element} {cut : List UInt8},
      (∀ e ∈ es, e.IsCountable) → CutShort cut →
        ofBody? header (fixed ++ (chain es ++ cut)) =
          some (ofElements header interval ⟨word⟩ es) := by
  have hlength : fixed.length = 12 := hfixed
  obtain ⟨interval, hinterval⟩ : ∃ word, word16At? fixed 8 = some word :=
    exists_word16At? (by omega)
  obtain ⟨word, hword⟩ : ∃ word, word16At? fixed 10 = some word := exists_word16At? (by omega)
  refine ⟨interval, word, hword, fun {es cut} hes hcut => ?_⟩
  have helements : elements ((fixed ++ (chain es ++ cut)).drop fixedSize) = es := by
    rw [List.drop_left' hfixed, elements_chain hes hcut]
  have hinterval' : word16At? (fixed ++ (chain es ++ cut)) 8 = some interval := by
    rw [word16At?_append (by omega), hinterval]
  have hword' : word16At? (fixed ++ (chain es ++ cut)) 10 = some word := by
    rw [word16At?_append (by omega), hword]
  exact ofBody?_of_fixed hinterval' hword' (by rw [helements])

/-- The elements of a beacon tell its security and whether the radio can join, and what is read of
the beacon stays the same when two adjacent elements on different topics are swapped. -/
theorem told_by_elements (header : Header) (fixed : List UInt8) (es : List Element)
    (cut : List UInt8) (hfixed : fixed.length = fixedSize) (hes : ∀ e ∈ es, e.IsCountable)
    (hcut : CutShort cut) :
    ∃ info, ofBody? header (fixed ++ (chain es ++ cut)) = some info ∧
      word16At? fixed 10 = some info.capabilities.word ∧ info.Tells es ∧
      ∀ before x y after, es = before ++ x :: y :: after →
        (x.topic? = none ∨ x.topic? ≠ y.topic?) →
          ofBody? header (fixed ++ (chain (before ++ y :: x :: after) ++ cut)) = some info := by
  obtain ⟨interval, word, hword, hread⟩ := ofBody?_chain header hfixed
  refine ⟨_, hread hes hcut, hword, tells_ofElements header interval ⟨word⟩ es, ?_⟩
  rintro before x y after rfl htopic
  have hswapped : ∀ e ∈ before ++ y :: x :: after, e.IsCountable := by
    intro e he
    refine hes e ?_
    simp only [List.mem_append, List.mem_cons] at he ⊢
    grind
  rw [hread hswapped hcut]
  unfold ofElements
  rw [Announcement.foldl_absorb_swap _ before after htopic]

/-- A WPA element with TKIP. -/
def tkipWpa : Element :=
  ⟨vendorId, [0x00, 0x50, 0xf2, 1, 1, 0, 0x00, 0x50, 0xf2, 2, 1, 0, 0x00, 0x50, 0xf2, 2]⟩

/-- An RSN element with TKIP for groups and CCMP for pairs. -/
def ccmpRsn : Element :=
  ⟨rsnId, [1, 0, 0x00, 0x0f, 0xac, 2, 1, 0, 0x00, 0x0f, 0xac, 4]⟩

/-- The elements of a network with both kinds of security.  The second RSN element is not
well-formed. -/
def mixedElements : List Element :=
  [⟨ssidId, [0x41]⟩, ⟨ratesId, [0x82, 0x84, 0x0b]⟩, ccmpRsn, tkipWpa, ⟨rsnId, [1, 0]⟩]

theorem told_by_elements_mixed : (List.replicate 12 (0x10 : UInt8)).length = fixedSize ∧
    (∀ e ∈ mixedElements, e.IsCountable) ∧ CutShort [221, 9, 0x00] ∧
    ccmpRsn.topic? ≠ tkipWpa.topic? ∧
    ∃ info, ofBody? (.management .beacon .broadcast .zero .zero 1)
        (List.replicate 12 0x10 ++ (chain mixedElements ++ [221, 9, 0x00])) = some info ∧
      info.security = ⟨.wpa2, .tkip, .ccmp, .psk⟩ ∧ info.compatible = true ∧
      ofBody? (.management .beacon .broadcast .zero .zero 1)
        (List.replicate 12 0x10 ++ (chain [⟨ssidId, [0x41]⟩, ⟨ratesId, [0x82, 0x84, 0x0b]⟩, tkipWpa,
          ccmpRsn, ⟨rsnId, [1, 0]⟩] ++ [221, 9, 0x00])) = some info := by
  have hcount : ∀ e ∈ mixedElements, e.IsCountable := by decide
  have hcut : CutShort [221, 9, 0x00] := .withoutEnd (by decide)
  have htopic : ccmpRsn.topic? ≠ tkipWpa.topic? := by decide
  obtain ⟨info, hread, -, htells, hswap⟩ := told_by_elements
    (.management .beacon .broadcast .zero .zero 1) (List.replicate 12 0x10) mixedElements
    [221, 9, 0x00] rfl hcount hcut
  refine ⟨rfl, hcount, hcut, htopic, info, hread, ?_, ?_, ?_⟩
  · rw [htells.security_eq]
    rfl
  · exact htells.compatible_iff.mpr (by decide)
  · exact hswap [⟨ssidId, [0x41]⟩, ⟨ratesId, [0x82, 0x84, 0x0b]⟩] _ _ _ rfl (.inr htopic)

end BeaconInfo

end WlanControl.Frame
