import WlanControl.Proofs.BeaconElements

namespace WlanControl.Frame

/-!
# Security of networks — lists of suites

The body of an RSN or WPA element is a version, the cipher for groups, a counted list of ciphers for
pairs and whatever follows them, which may start with a counted list of key managements.  The count
comes from the air, and need not fit what is there.

* `Suite`, `suiteBody` — a suite, and the body that is made of suites;
* `strongest_eq` — which of some ciphers is preferred;
* `suites_flatMap` — the suites of one owner are read back from a list of suites;
* `SecurityInfo.Reports` — what is read of a body that was made of suites;
* `IsUnreadable` — the cipher for groups has another owner, or the announced ciphers for pairs are
  not all there;
* `SecurityInfo.ofSuites?_eq_none_iff` — nothing is read of such a body, and of no other.

Main statement: `suites_reported`, for all lists of suites, all bodies and all beacons.
-/

/-! ### Bodies made of suites -/

/-- A suite, which belongs to somebody who gives it a number. -/
structure Suite where
  owner : Oui
  number : UInt8
deriving DecidableEq, Repr

/-- The suite as it is sent. -/
def Suite.octets (suite : Suite) : List UInt8 := suite.owner.octets ++ [suite.number]

/-- The body of an element that announces the given suites, with `trailing` behind the ciphers for
pairs. -/
def suiteBody (version : UInt16) (group : Suite) (pairwise : List Suite) (trailing : List UInt8) :
    List UInt8 :=
  littleEndian16 version ++ (group.octets ++ (littleEndian16 (UInt16.ofNat pairwise.length) ++
    (pairwise.flatMap Suite.octets ++ trailing)))

/-! ### Suites of one owner -/

@[simp] theorem Suite.length_octets (suite : Suite) : suite.octets.length = 4 := rfl

theorem length_flatMap_octets (list : List Suite) :
    (list.flatMap Suite.octets).length = 4 * list.length := by
  induction list with
  | nil => rfl
  | cons suite rest ih =>
    rw [List.flatMap_cons, List.length_append, ih, Suite.length_octets, List.length_cons]
    omega

/-- A suite is read back, if it has the right owner. -/
theorem suite?_octets (oui : Oui) (suite : Suite) (rest : List UInt8) :
    suite? oui (suite.octets ++ rest) = if suite.owner = oui then some suite.number else none :=
  rfl

/-- The suites of one owner are read back from a list of suites. -/
theorem suites_flatMap (oui : Oui) (list : List Suite) (rest : List UInt8) :
    suites oui list.length (list.flatMap Suite.octets ++ rest) =
      (list.filter (·.owner = oui)).map Suite.number := by
  induction list with
  | nil => rfl
  | cons suite list ih =>
    rw [List.flatMap_cons, List.append_assoc, List.length_cons]
    unfold suites
    rw [suite?_octets, List.drop_left' suite.length_octets, ih]
    by_cases howner : suite.owner = oui
    · simp [howner]
    · simp [howner]

/-! ### The preferred cipher -/

theorem Cipher.ofNumber_eq_ccmp_iff (number : UInt8) :
    Cipher.ofNumber number = .ccmp ↔ number = Cipher.ccmp.number := by
  constructor
  · intro h
    rw [← number_ofNumber number, h]
  · rintro rfl
    rfl

theorem Cipher.ofNumber_eq_tkip_iff (number : UInt8) :
    Cipher.ofNumber number = .tkip ↔ number = Cipher.tkip.number := by
  constructor
  · intro h
    rw [← number_ofNumber number, h]
  · rintro rfl
    rfl

theorem Cipher.strength_of_other {cipher : Cipher} (hccmp : cipher ≠ .ccmp)
    (htkip : cipher ≠ .tkip) : cipher.strength = 0 := by
  cases cipher with
  | ccmp => exact absurd rfl hccmp
  | tkip => exact absurd rfl htkip
  | disabled | wep40 | wep104 | other => rfl

/-- CCMP is preferred to TKIP, and TKIP to all others, of which the last one counts. -/
theorem strongest_eq (ciphers : List Cipher) : strongest ciphers =
    if .ccmp ∈ ciphers then some .ccmp
    else if .tkip ∈ ciphers then some .tkip
    else ciphers.getLast? := by
  induction ciphers with
  | nil => rfl
  | cons cipher rest ih =>
    unfold strongest
    rw [ih]
    by_cases hccmp : .ccmp ∈ rest
    · -- Nothing is stronger than what was found behind.
      cases cipher <;> simp [hccmp, Cipher.strength]
    · by_cases htkip : .tkip ∈ rest
      · cases cipher <;> simp [hccmp, htkip, Cipher.strength]
      · cases hlast : rest.getLast? with
        | none =>
          rw [List.getLast?_eq_none_iff.mp hlast]
          cases cipher <;> simp
        | some last =>
          have hmem : last ∈ rest := List.mem_of_getLast? hlast
          have hweak : last.strength = 0 := Cipher.strength_of_other
            (fun h => hccmp (h ▸ hmem)) (fun h => htkip (h ▸ hmem))
          rw [if_neg hccmp, if_neg htkip]
          simp only [hweak]
          cases cipher <;> simp [hccmp, htkip, hlast, Cipher.strength, List.getLast?_cons]

/-! ### What is read of a body -/

namespace SecurityInfo

/-- What is read of a body that was made of suites. -/
structure Reports (info : SecurityInfo) (oui : Oui) (security : Security) (group : UInt8)
    (pairwise : List Suite) (trailing : List UInt8) : Prop where
  security_eq : info.security = security
  groupCipher_eq : info.groupCipher = .ofNumber group
  /-- Of the suites of the right owner CCMP is preferred, then TKIP, then the last one.  Without any
  the cipher for groups is used for pairs. -/
  pairwiseCipher_eq : info.pairwiseCipher =
    if ⟨oui, Cipher.ccmp.number⟩ ∈ pairwise then .ccmp
    else if ⟨oui, Cipher.tkip.number⟩ ∈ pairwise then .tkip
    else ((pairwise.filter (·.owner = oui)).getLast?.map fun suite => .ofNumber suite.number).getD
      (.ofNumber group)
  /-- A suite of the right owner behind the count of key managements is the key management. -/
  keyManagement_eq : ∀ number, (trailing.drop 2).take 4 = (⟨oui, number⟩ : Suite).octets →
    info.keyManagement = .ofNumber number
  /-- Without such a suite the key is shared before. -/
  keyManagement_psk : (∀ number, (trailing.drop 2).take 4 ≠ (⟨oui, number⟩ : Suite).octets) →
    info.keyManagement = .psk

/-- A suite of the given owner is found exactly where its octets stand. -/
theorem suite?_eq_some_iff (oui : Oui) (octets : List UInt8) (number : UInt8) :
    suite? oui octets = some number ↔ octets.take 4 = (⟨oui, number⟩ : Suite).octets := by
  constructor
  · intro h
    unfold suite? at h
    split at h
    · split at h
      · rename_i howner
        cases h
        rw [← howner]
        rfl
      · cases h
    · cases h
  · intro h
    rw [eq_of_take_four h]
    exact if_pos rfl

/-- The suites of a body are read back from it. -/
theorem ofSuites?_suiteBody (oui : Oui) (security : Security) (version : UInt16) (group : UInt8)
    {pairwise : List Suite} (hcount : pairwise.length ≤ 65535) (trailing : List UInt8) :
    ofSuites? oui security (suiteBody version ⟨oui, group⟩ pairwise trailing) = some {
      security
      groupCipher := .ofNumber group
      pairwiseCipher := (strongest (((pairwise.filter (·.owner = oui)).map Suite.number).map
        Cipher.ofNumber)).getD (.ofNumber group)
      keyManagement :=
        ((suite? oui (trailing.drop 2)).map KeyManagement.ofNumber).getD .psk } := by
  generalize hbody : suiteBody version ⟨oui, group⟩ pairwise trailing = body
  have hgroup : suite? oui (body.drop 2) = some group := by
    rw [← hbody]
    exact if_pos rfl
  have hword : word16At? body 6 = some (UInt16.ofNat pairwise.length) := by
    rw [← hbody]
    exact word16At?_littleEndian16 _ (pairwise.flatMap Suite.octets ++ trailing)
  have hpairwise : body.drop 8 = pairwise.flatMap Suite.octets ++ trailing := by
    rw [← hbody]
    rfl
  have htoNat : (UInt16.ofNat pairwise.length).toNat = pairwise.length := by
    rw [UInt16.toNat_ofNat']
    omega
  have hlength : (pairwise.flatMap Suite.octets).length = 4 * pairwise.length :=
    length_flatMap_octets pairwise
  have hroom : ¬ (body.drop 8).length < 4 * (UInt16.ofNat pairwise.length).toNat := by
    rw [hpairwise, List.length_append, htoNat]
    omega
  unfold ofSuites?
  simp only [hgroup, hword, bind, Option.bind_some]
  rw [if_neg hroom, hpairwise, htoNat, suites_flatMap, ← hlength, List.drop_left]

/-- The cipher for pairs, told by the suites themselves. -/
theorem getD_strongest (oui : Oui) (pairwise : List Suite) (group : Cipher) :
    (strongest (((pairwise.filter (·.owner = oui)).map Suite.number).map
      Cipher.ofNumber)).getD group =
      if ⟨oui, Cipher.ccmp.number⟩ ∈ pairwise then .ccmp
      else if ⟨oui, Cipher.tkip.number⟩ ∈ pairwise then .tkip
      else ((pairwise.filter (·.owner = oui)).getLast?.map fun suite =>
        .ofNumber suite.number).getD group := by
  have hmem {cipher : Cipher}
      (hcipher : ∀ number, Cipher.ofNumber number = cipher ↔ number = cipher.number) :
      cipher ∈ ((pairwise.filter (·.owner = oui)).map Suite.number).map Cipher.ofNumber ↔
        ⟨oui, cipher.number⟩ ∈ pairwise := by
    simp only [List.mem_map, List.mem_filter, decide_eq_true_eq, hcipher]
    constructor
    · rintro ⟨_, ⟨suite, ⟨hsuite, rfl⟩, rfl⟩, hnumber⟩
      rw [← hnumber]
      exact hsuite
    · intro h
      exact ⟨_, ⟨_, ⟨h, rfl⟩, rfl⟩, rfl⟩
  rw [strongest_eq]
  simp only [hmem Cipher.ofNumber_eq_ccmp_iff, hmem Cipher.ofNumber_eq_tkip_iff]
  split
  · rfl
  · split
    · rfl
    · rw [List.map_map, List.getLast?_map]
      rfl

theorem exists_reports (oui : Oui) (security : Security) (version : UInt16) (group : UInt8)
    {pairwise : List Suite} (hcount : pairwise.length ≤ 65535) (trailing : List UInt8) :
    ∃ info, ofSuites? oui security (suiteBody version ⟨oui, group⟩ pairwise trailing) = some info ∧
      info.Reports oui security group pairwise trailing := by
  refine ⟨_, ofSuites?_suiteBody oui security version group hcount trailing, ?_⟩
  constructor
  · rfl
  · rfl
  · exact getD_strongest oui pairwise (.ofNumber group)
  · intro number h
    show ((suite? oui (trailing.drop 2)).map KeyManagement.ofNumber).getD .psk = .ofNumber number
    rw [(suite?_eq_some_iff oui (trailing.drop 2) number).mpr h]
    rfl
  · intro h
    have hnone : suite? oui (trailing.drop 2) = none :=
      Option.eq_none_iff_forall_ne_some.mpr fun number hnumber =>
        h number ((suite?_eq_some_iff oui (trailing.drop 2) number).mp hnumber)
    show ((suite? oui (trailing.drop 2)).map KeyManagement.ofNumber).getD .psk = .psk
    rw [hnone]
    rfl

/-! ### Bodies of which nothing is read -/

/-- The body ends before the ciphers for pairs that it announces do, or even before their count. -/
def EndsEarly (body : List UInt8) : Prop :=
  ∀ count, word16At? body 6 = some count → body.length < 8 + 4 * count.toNat

/-- The cipher for groups has another owner, or the body ends early. -/
def IsUnreadable (oui : Oui) (body : List UInt8) : Prop :=
  (body.drop 2).take 3 ≠ oui.octets ∨ EndsEarly body

/-- The owner of a suite stands in front of it. -/
theorem suite?_eq_none_iff (oui : Oui) {octets : List UInt8} (h : 4 ≤ octets.length) :
    suite? oui octets = none ↔ octets.take 3 ≠ oui.octets := by
  match octets, h with
  | o₁ :: o₂ :: o₃ :: number :: rest, _ =>
    show (if (⟨o₁, o₂, o₃⟩ : Oui) = oui then some number else none) = none ↔
      [o₁, o₂, o₃] ≠ oui.octets
    rw [Ne, Oui.eq_octets_iff]
    split
    · simp [*]
    · simp [*]

/-- Nothing is read of a body exactly if the cipher for groups has another owner or the body ends
early. -/
theorem ofSuites?_eq_none_iff (oui : Oui) (security : Security) (body : List UInt8) :
    ofSuites? oui security body = none ↔ IsUnreadable oui body := by
  unfold IsUnreadable
  by_cases hshort : body.length < 8
  · -- The count itself is missing.
    have hcount : word16At? body 6 = none := (word16At?_eq_none_iff body 6).mpr hshort
    have hearly : EndsEarly body := by
      intro count h
      rw [hcount] at h
      cases h
    have hnone : ofSuites? oui security body = none := by
      unfold ofSuites?
      rw [hcount]
      cases suite? oui (body.drop 2) <;> rfl
    simp [hnone, hearly]
  · have hlength : (body.drop 2).length = body.length - 2 := List.length_drop
    have hfour : 4 ≤ (body.drop 2).length := by omega
    cases hcount : word16At? body 6 with
    | none =>
      have := (word16At?_eq_none_iff body 6).mp hcount
      omega
    | some count =>
      have hearly : EndsEarly body ↔ (body.drop 8).length < 4 * count.toNat := by
        unfold EndsEarly
        rw [hcount, List.length_drop]
        simp only [Option.some.injEq, forall_eq']
        omega
      rw [← suite?_eq_none_iff oui hfour, hearly]
      unfold ofSuites?
      rw [hcount]
      cases suite? oui (body.drop 2) with
      | none => exact iff_of_true rfl (.inl rfl)
      | some group =>
        simp only [bind, Option.bind_some, reduceCtorEq, false_or]
        by_cases hroom : (body.drop 8).length < 4 * count.toNat
        · rw [if_pos hroom]
          exact iff_of_true rfl hroom
        · rw [if_neg hroom]
          exact iff_of_false (by simp) hroom

end SecurityInfo

/-! ### Beacons with such elements -/

open SecurityInfo (IsUnreadable)

/-- The element is about security, but nothing can be read of it. -/
def Element.IsMute (e : Element) : Prop :=
  e.topic? = some .rsn ∧ IsUnreadable .rsn e.contents ∨
    e.topic? = some .wpa ∧ IsUnreadable .wpa (e.contents.drop 4)

/-- An element of which nothing can be read is passed over. -/
theorem Announcement.absorb_of_isMute (a : Announcement) {e : Element} (h : e.IsMute) :
    a.absorb e = a := by
  rcases h with ⟨htopic, h⟩ | ⟨htopic, h⟩
  · rw [absorb_of_rsn htopic, (SecurityInfo.ofSuites?_eq_none_iff .rsn .wpa2 e.contents).mpr h]
    rfl
  · rw [absorb_of_wpa htopic,
      (SecurityInfo.ofSuites?_eq_none_iff .wpa .wpa (e.contents.drop 4)).mpr h]
    exact ite_self _

/-- A beacon is read as if such an element were not there. -/
theorem BeaconInfo.ofBody?_of_isMute (header : Header) {fixed cut : List UInt8}
    {before after : List Element} {e : Element} (hfixed : fixed.length = fixedSize)
    (hes : ∀ e' ∈ before ++ e :: after, e'.IsCountable) (hcut : CutShort cut) (h : e.IsMute) :
    ofBody? header (fixed ++ (chain (before ++ e :: after) ++ cut)) =
      ofBody? header (fixed ++ (chain (before ++ after) ++ cut)) := by
  obtain ⟨interval, word, -, hread⟩ := ofBody?_chain header hfixed
  have hothers : ∀ e' ∈ before ++ after, e'.IsCountable := by
    intro e' he'
    refine hes e' ?_
    simp only [List.mem_append, List.mem_cons] at he' ⊢
    exact he'.imp_right .inr
  rw [hread hes hcut, hread hothers hcut]
  unfold ofElements
  rw [List.foldl_append, List.foldl_append, List.foldl_cons, Announcement.absorb_of_isMute _ h]

/-- All suites that were put into a body are reported, and nothing is read of a body exactly if its
cipher for groups has another owner or it ends before the ciphers for pairs that it announces.  Then
a beacon is read as if the element were not there. -/
theorem suites_reported :
    (∀ (oui : Oui) (security : Security) (version : UInt16) (group : UInt8) (pairwise : List Suite)
      (trailing : List UInt8), pairwise.length ≤ 65535 →
      ∃ info, SecurityInfo.ofSuites? oui security
          (suiteBody version ⟨oui, group⟩ pairwise trailing) = some info ∧
        info.Reports oui security group pairwise trailing) ∧
    (∀ (oui : Oui) (security : Security) (body : List UInt8),
      SecurityInfo.ofSuites? oui security body = none ↔ IsUnreadable oui body) ∧
    ∀ (header : Header) (fixed cut : List UInt8) (before after : List Element) (e : Element),
      fixed.length = BeaconInfo.fixedSize → (∀ e' ∈ before ++ e :: after, e'.IsCountable) →
      CutShort cut → e.IsMute →
      BeaconInfo.ofBody? header (fixed ++ (chain (before ++ e :: after) ++ cut)) =
        BeaconInfo.ofBody? header (fixed ++ (chain (before ++ after) ++ cut)) := by
  refine ⟨?_, SecurityInfo.ofSuites?_eq_none_iff, ?_⟩
  · intro oui security version group pairwise trailing hcount
    exact SecurityInfo.exists_reports oui security version group hcount trailing
  · intro header fixed cut before after e hfixed hes hcut hmute
    exact BeaconInfo.ofBody?_of_isMute header hfixed hes hcut hmute

/-- Ciphers for pairs, of which CCMP belongs to somebody else. -/
def foreignCcmp : List Suite := [⟨.wpa, 4⟩, ⟨.rsn, 2⟩, ⟨.rsn, 1⟩]

/-- An RSN element that announces more ciphers for pairs than it has. -/
def overcounted : Element := ⟨rsnId, [1, 0, 0x00, 0x0f, 0xac, 4, 0xff, 0xff, 0x00, 0x0f, 0xac, 4]⟩

theorem suites_reported_foreignCcmp :
    (foreignCcmp.length ≤ 65535 ∧
      ∃ info, SecurityInfo.ofSuites? .rsn .wpa2
          (suiteBody 1 ⟨.rsn, 4⟩ foreignCcmp [1, 0, 0x00, 0x0f, 0xac, 1]) = some info ∧
        info.groupCipher = .ccmp ∧ info.pairwiseCipher = .tkip ∧
        info.keyManagement = .ieee8021X) ∧
    ((List.replicate 12 (0x10 : UInt8)).length = BeaconInfo.fixedSize ∧
      (∀ e ∈ [BeaconInfo.tkipWpa] ++ overcounted :: [], e.IsCountable) ∧ CutShort [] ∧
      overcounted.IsMute ∧
      BeaconInfo.ofBody? (.management .beacon .broadcast .zero .zero 1)
          (List.replicate 12 0x10 ++ (chain ([BeaconInfo.tkipWpa] ++ overcounted :: []) ++ [])) =
        BeaconInfo.ofBody? (.management .beacon .broadcast .zero .zero 1)
          (List.replicate 12 0x10 ++ (chain ([BeaconInfo.tkipWpa] ++ []) ++ []))) := by
  have hmany : foreignCcmp.length ≤ 65535 := by decide
  have hcount : ∀ e ∈ [BeaconInfo.tkipWpa] ++ overcounted :: [], e.IsCountable := by decide
  have hmute : overcounted.IsMute := by
    refine .inl ⟨by decide, .inr fun count h => ?_⟩
    cases h
    decide
  obtain ⟨info, hread, hreports⟩ := suites_reported.1 .rsn .wpa2 1 4 foreignCcmp
    [1, 0, 0x00, 0x0f, 0xac, 1] hmany
  refine ⟨⟨hmany, info, hread, hreports.groupCipher_eq, hreports.pairwiseCipher_eq,
    hreports.keyManagement_eq 1 rfl⟩, rfl, hcount, .nothing, hmute, ?_⟩
  exact suites_reported.2.2 _ (List.replicate 12 0x10) [] [BeaconInfo.tkipWpa] [] overcounted rfl
    hcount .nothing hmute

end WlanControl.Frame
