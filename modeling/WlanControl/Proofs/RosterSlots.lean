import WlanControl.Session.Roster

namespace WlanControl.Session.Roster

/-!
# The roster of a session — who has which slot

* `Roster.address?` — who has a slot, with what `set` does to it;
* `Roster.Orderly` — nobody has two slots, and no more slots are used than allowed.  Every operation
  keeps it (`orderly_authenticate`, `orderly_kick`, …);
* `address?_authenticate`, `address?_kick`, … — a peer keeps its slot until it is removed;
* `pairwise_aid_peers` — the identifiers of peers are in order;
* `Slot.kicked`, `Slot.swept` — what is left of a slot when the host wants peers removed, with
  `getElem?_slots_kick` and `getElem?_slots_kickUnassociated`.
-/

variable {r : Roster} {i k : Nat} {a b : MacAddress} {slot : Slot}

/-- Who has a slot. -/
def address? (i : Nat) (r : Roster) : Option MacAddress := r.slots[i]?.bind Slot.address?

theorem address?_set_self (hk : k < maxPeers) : (r.set k slot).address? k = slot.address? := by
  rw [address?, set, List.getElem?_set_self (by rw [r.length_slots]; exact hk), Option.bind_some]

theorem address?_set_of_ne (h : k ≠ i) : (r.set k slot).address? i = r.address? i := by
  rw [address?, set, List.getElem?_set_ne h]
  rfl

theorem address?_map (f : Slot → Slot) :
    (r.map f).address? i = r.slots[i]?.bind fun slot => (f slot).address? := by
  rw [address?, map, List.getElem?_map, Option.bind_map]
  rfl

/-- A slot that somebody has is one of the fifteen. -/
theorem lt_of_address? (h : r.address? i = some a) : i < maxPeers := by
  obtain ⟨slot, hslot, -⟩ := Option.bind_eq_some_iff.mp h
  rw [← r.length_slots]
  exact (List.getElem?_eq_some_iff.mp hslot).1

/-- Somebody who is not found has no slot. -/
theorem address?_ne_of_position? (h : r.position? a = none) : r.address? i ≠ some a := by
  intro ha
  obtain ⟨slot, hslot, hsame⟩ := Option.bind_eq_some_iff.mp ha
  have hother := List.findIdx?_eq_none_iff.mp h slot (List.mem_of_getElem? hslot)
  simp [hsame] at hother

/-- Somebody whom the roster knows has a slot. -/
theorem exists_address?_of_stateOf (h : r.stateOf a ≠ .disconnected) :
    ∃ i, r.address? i = some a := by
  unfold stateOf at h
  split at h
  · rename_i i hfound
    exact ⟨i, (position_eq_some hfound).2⟩
  · exact absurd rfl h

/-- The first free slot is free. -/
theorem getElem?_of_firstFree? (h : r.firstFree? = some k) : r.slots[k]? = some .free := by
  obtain ⟨hk, hfree, -⟩ := List.findIdx?_eq_some_iff_getElem.mp h
  rw [List.getElem?_eq_getElem hk]
  simpa using hfree

/-- A free slot is one that nobody has. -/
theorem address?_eq_none (h : r.slots[k]? = some .free) : r.address? k = none := by
  rw [address?, h]
  rfl

/-- A peer that takes part has the slot. -/
theorem address?_of_associated? (h : r.slots[k]?.bind Slot.associated? = some a) :
    r.address? k = some a := by
  obtain ⟨slot, hslot, ha⟩ := Option.bind_eq_some_iff.mp h
  rw [address?, hslot, Option.bind_some]
  cases slot with
  | free => cases ha
  | authenticated => cases ha
  | associated => exact ha

/-- A peer is refused, or starts over in its slot, or gets a free one if there is room. -/
theorem authenticate_cases (accepting : Bool) (a : MacAddress) (r : Roster) :
    (∃ e, r.authenticate accepting a = (r, .error e)) ∨
      ∃ k, r.authenticate accepting a = (r.set k (.authenticated a), .ok k) ∧
        (r.position? a = some k ∨
          r.position? a = none ∧ r.slots[k]? = some .free ∧ r.occupied < r.limit) := by
  unfold authenticate
  split
  · rename_i k hfound
    exact .inr ⟨k, rfl, .inl hfound⟩
  · rename_i hnew
    split
    · exact .inl ⟨_, rfl⟩
    · split
      · exact .inl ⟨_, rfl⟩
      · rename_i hroom
        split
        · rename_i k hfree
          exact .inr ⟨k, rfl, .inr ⟨hnew, getElem?_of_firstFree? hfree, Nat.lt_of_not_le hroom⟩⟩
        · exact .inl ⟨_, rfl⟩

/-- There is nobody to kick, or the one who has the slot is told and leaves it. -/
theorem kick_cases (aid : UInt16) (r : Roster) :
    r.kick aid = (r, [], .error .notFound) ∨
      ∃ k a, r.address? k = some a ∧ r.kick aid = (r.set k .free, [a], .ok ()) := by
  unfold kick
  split
  · exact .inl rfl
  · rename_i k _
    split
    · rename_i a ha
      exact .inr ⟨k, a, address?_of_associated? ha, rfl⟩
    · exact .inl rfl

/-! ### How many slots are used -/

/-- Replacing a slot counts the new one in place of the old one. -/
theorem occupied_set {old : Slot} (hold : r.slots[k]? = some old) (slot : Slot) :
    (r.set k slot).occupied + (if old = .free then 0 else 1)
      = r.occupied + (if slot = .free then 0 else 1) := by
  obtain ⟨hk, hget⟩ := List.getElem?_eq_some_iff.mp hold
  have hset : (r.set k slot).occupied
      = r.occupied - (if old ≠ .free then 1 else 0) + (if slot ≠ .free then 1 else 0) := by
    have hcount := List.countP_set (p := (· ≠ Slot.free)) (a := slot) hk
    simp only [hget, decide_eq_true_eq] at hcount
    exact hcount
  have hpos : old ≠ .free → 0 < r.occupied := by
    intro hne
    exact List.countP_pos_iff.mpr ⟨old, List.mem_of_getElem? hold, by simpa using hne⟩
  rw [hset]
  -- The count is cut off at zero, which an old slot that was in use keeps it away from.
  by_cases hfree : old = .free
  · by_cases hslot : slot = .free <;> simp [hfree, hslot]
  · have := hpos hfree
    by_cases hslot : slot = .free <;> simp [hfree, hslot] <;> omega

/-- Emptying slots uses fewer of them. -/
theorem occupied_map_le (f : Slot → Slot) (hf : f .free = .free) :
    (r.map f).occupied ≤ r.occupied := by
  show (r.slots.map f).countP (· ≠ Slot.free) ≤ r.slots.countP (· ≠ Slot.free)
  rw [List.countP_map]
  refine List.countP_mono_left ?_
  intro slot _ hslot
  by_cases hfree : slot = .free
  · rw [hfree, Function.comp, hf] at hslot
    simp at hslot
  · simpa using hfree

/-! ### Nobody has two slots, and no more slots are used than allowed -/

/-- What holds for the roster between two operations. -/
structure Orderly (r : Roster) : Prop where
  /-- Nobody has two slots. -/
  distinct : ∀ i j a, r.address? i = some a → r.address? j = some a → i = j
  /-- No more slots are used than allowed. -/
  occupied_le : r.occupied ≤ r.limit
  /-- There is an identifier for each of them. -/
  limit_le : r.limit ≤ maxPeers

theorem address?_empty (limit i : Nat) : (empty limit).address? i = none := by
  rw [address?, empty, List.getElem?_replicate]
  split <;> rfl

theorem orderly_empty (limit : Nat) : (empty limit).Orderly where
  distinct := by
    intro i j a h
    rw [address?_empty] at h
    cases h
  occupied_le := by
    show (List.replicate maxPeers Slot.free).countP (· ≠ .free) ≤ _
    rw [List.countP_replicate]
    simp
  limit_le := Nat.min_le_right _ _

namespace Orderly

/-- The slot of somebody is the one that is found. -/
theorem position?_eq (h : r.Orderly) (ha : r.address? i = some a) : r.position? a = some i := by
  cases hfound : r.position? a with
  | none => exact absurd ha (address?_ne_of_position? hfound)
  | some k => rw [h.distinct k i a (position_eq_some hfound).2 ha]

/-- Only the peer that has the slot, or a newcomer, may be put into it. -/
private theorem distinct_set (h : r.Orderly) (hk : k < maxPeers)
    (hnew : ∀ i a, slot.address? = some a → r.address? i = some a → i = k) :
    ∀ i j a, (r.set k slot).address? i = some a → (r.set k slot).address? j = some a → i = j := by
  intro i j a hi hj
  -- Each of the two slots is the one that was replaced, or it is as before.
  by_cases hik : k = i
  · subst hik
    rw [address?_set_self hk] at hi
    by_cases hjk : k = j
    · exact hjk
    · rw [address?_set_of_ne hjk] at hj
      exact (hnew j a hi hj).symm
  · rw [address?_set_of_ne hik] at hi
    by_cases hjk : k = j
    · subst hjk
      rw [address?_set_self hk] at hj
      exact hnew i a hj hi
    · rw [address?_set_of_ne hjk] at hj
      exact h.distinct i j a hi hj

/-- A peer may come farther, or start over. -/
theorem set_same (h : r.Orderly) (ha : r.address? k = some a) (hslot : slot.address? = some a) :
    (r.set k slot).Orderly where
  distinct := by
    refine h.distinct_set (lt_of_address? ha) ?_
    intro i a' ha' hi
    rw [hslot] at ha'
    cases ha'
    exact h.distinct i k a hi ha
  occupied_le := by
    obtain ⟨old, hold, haddress⟩ := Option.bind_eq_some_iff.mp ha
    have hset := occupied_set hold slot
    -- A slot in use is replaced by one in use.
    have hne : old ≠ .free := by
      rintro rfl
      cases haddress
    rw [if_neg hne] at hset
    have := h.occupied_le
    show (r.set k slot).occupied ≤ r.limit
    split at hset <;> omega
  limit_le := h.limit_le

/-- A newcomer may get a free slot, if there is room. -/
theorem set_new (h : r.Orderly) (hfree : r.slots[k]? = some .free) (hroom : r.occupied < r.limit)
    (hnew : r.position? a = none) (hslot : slot.address? = some a) : (r.set k slot).Orderly where
  distinct := by
    have hk : k < maxPeers := by
      rw [← r.length_slots]
      exact (List.getElem?_eq_some_iff.mp hfree).1
    refine h.distinct_set hk ?_
    intro i a' ha' hi
    rw [hslot] at ha'
    cases ha'
    exact absurd hi (address?_ne_of_position? hnew)
  occupied_le := by
    -- One more slot is used, for which there is room.
    have hset := occupied_set hfree slot
    rw [if_pos rfl] at hset
    show (r.set k slot).occupied ≤ r.limit
    split at hset <;> omega
  limit_le := h.limit_le

/-- Slots may be emptied. -/
theorem map (h : r.Orderly) {f : Slot → Slot} (hf : ∀ slot, f slot = slot ∨ f slot = .free) :
    (r.map f).Orderly where
  distinct := by
    have hkept : ∀ i a, (r.map f).address? i = some a → r.address? i = some a := by
      intro i a hi
      rw [address?_map] at hi
      obtain ⟨slot, hslot, ha⟩ := Option.bind_eq_some_iff.mp hi
      rw [address?, hslot, Option.bind_some]
      rcases hf slot with hsame | hfree
      · rw [← hsame, ha]
      · rw [hfree] at ha
        cases ha
    intro i j a hi hj
    exact h.distinct i j a (hkept i a hi) (hkept j a hj)
  occupied_le := by
    have hfree : f .free = .free := by
      rcases hf .free with hsame | hfree
      · exact hsame
      · exact hfree
    exact Nat.le_trans (occupied_map_le f hfree) h.occupied_le
  limit_le := h.limit_le

/-- A slot may be emptied. -/
theorem set_free (h : r.Orderly) (hk : k < maxPeers) : (r.set k .free).Orderly where
  distinct := by
    refine h.distinct_set hk ?_
    intro i a ha
    cases ha
  occupied_le := by
    have hlt : k < r.slots.length := by
      rw [r.length_slots]
      exact hk
    have hset := occupied_set (List.getElem?_eq_getElem hlt) .free
    rw [if_pos rfl] at hset
    have := h.occupied_le
    show (r.set k .free).occupied ≤ r.limit
    omega
  limit_le := h.limit_le

theorem authenticate (h : r.Orderly) (accepting : Bool) (a : MacAddress) :
    (r.authenticate accepting a).1.Orderly := by
  rcases authenticate_cases accepting a r with
    ⟨e, hrefused⟩ | ⟨k, hgiven, hfound | ⟨hnew, hfree, hroom⟩⟩
  · rw [hrefused]
    exact h
  · rw [hgiven]
    exact h.set_same (position_eq_some hfound).2 rfl
  · rw [hgiven]
    exact h.set_new hfree hroom hnew rfl

theorem associate (h : r.Orderly) (a : MacAddress) : (r.associate a).1.Orderly := by
  unfold Roster.associate
  split
  · rename_i k hfound
    exact h.set_same (position_eq_some hfound).2 rfl
  · exact h

theorem disconnect (h : r.Orderly) (a : MacAddress) : (r.disconnect a).1.Orderly := by
  unfold Roster.disconnect
  split
  · rename_i k hfound
    exact h.set_free (position_eq_some hfound).1
  · exact h

theorem kick (h : r.Orderly) (aid : UInt16) : (r.kick aid).1.Orderly := by
  rcases kick_cases aid r with hnobody | ⟨k, a, ha, hkicked⟩
  · rw [hnobody]
    exact h
  · rw [hkicked]
    exact h.set_free (lt_of_address? ha)

theorem kickUnassociated (h : r.Orderly) : r.kickUnassociated.1.Orderly := by
  refine h.map ?_
  intro slot
  split
  · exact .inr rfl
  · exact .inl rfl

theorem kickAll (h : r.Orderly) : r.kickAll.1.Orderly := h.map fun _ => .inr rfl

end Orderly

/-! ### The slot that a peer gets -/

/-- A peer that has authenticated itself has the slot that it is told. -/
theorem address?_of_authenticate {accepting : Bool} (h : (r.authenticate accepting a).2 = .ok i) :
    (r.authenticate accepting a).1.address? i = some a := by
  rcases authenticate_cases accepting a r with
    ⟨e, hrefused⟩ | ⟨k, hgiven, hfound | ⟨-, hfree, -⟩⟩
  · rw [hrefused] at h
    cases h
  · rw [hgiven] at h ⊢
    cases h
    exact address?_set_self (position_eq_some hfound).1
  · rw [hgiven] at h ⊢
    cases h
    refine address?_set_self ?_
    rw [← r.length_slots]
    exact (List.getElem?_eq_some_iff.mp hfree).1

/-- A peer starts over in its slot. -/
theorem authenticate_of_position? (h : r.position? a = some i) (accepting : Bool) :
    (r.authenticate accepting a).2 = .ok i := by
  simp only [authenticate, h]

/-- A peer gets the identifier of its slot. -/
theorem associate_eq_ok {aid : UInt16} (h : (r.associate a).2 = .ok aid) :
    ∃ i, r.address? i = some a ∧ aid = aidOf i := by
  unfold associate at h
  split at h
  · rename_i i hfound
    cases h
    exact ⟨i, (position_eq_some hfound).2, rfl⟩
  · cases h

theorem associate_of_position? (h : r.position? a = some i) :
    (r.associate a).2 = .ok (aidOf i) := by
  simp only [associate, h]

/-! ### A peer keeps its slot until it is removed -/

/-- Somebody else's slot may be replaced, and the peer's own as long as it stays in it. -/
private theorem address?_set_of_position? (ha : r.address? i = some a)
    (hfound : r.position? b = some k) (hslot : slot.address? = some b) :
    (r.set k slot).address? i = some a := by
  by_cases hk : k = i
  · subst hk
    rw [address?_set_self (lt_of_address? ha), hslot, ← ha]
    exact (position_eq_some hfound).2.symm
  · rw [address?_set_of_ne hk, ha]

theorem address?_authenticate (ha : r.address? i = some a) (accepting : Bool) (b : MacAddress) :
    (r.authenticate accepting b).1.address? i = some a := by
  rcases authenticate_cases accepting b r with
    ⟨e, hrefused⟩ | ⟨k, hgiven, hfound | ⟨-, hfree, -⟩⟩
  · rw [hrefused]
    exact ha
  · rw [hgiven]
    exact address?_set_of_position? ha hfound rfl
  · -- A newcomer gets a free slot, which is not the peer's.
    have hk : k ≠ i := by
      rintro rfl
      rw [address?_eq_none hfree] at ha
      cases ha
    rw [hgiven, address?_set_of_ne hk, ha]

theorem address?_associate (ha : r.address? i = some a) (b : MacAddress) :
    (r.associate b).1.address? i = some a := by
  unfold associate
  split
  · rename_i k hfound
    exact address?_set_of_position? ha hfound rfl
  · exact ha

theorem address?_disconnect (ha : r.address? i = some a)
    (hstays : b = a → (r.disconnect b).2 ≠ .ok ()) : (r.disconnect b).1.address? i = some a := by
  unfold disconnect at hstays ⊢
  split
  · rename_i k hfound
    have hk : k ≠ i := by
      rintro rfl
      have hsame := (position_eq_some hfound).2
      rw [← address?, ha] at hsame
      cases hsame
      rw [hfound] at hstays
      exact hstays rfl rfl
    rw [address?_set_of_ne hk, ha]
  · exact ha

theorem address?_kick {aid : UInt16} (ha : r.address? i = some a)
    (hstays : a ∉ (r.kick aid).2.1) : (r.kick aid).1.address? i = some a := by
  rcases kick_cases aid r with hnobody | ⟨k, b, hb, hkicked⟩
  · rw [hnobody]
    exact ha
  · rw [hkicked] at hstays ⊢
    have hk : k ≠ i := by
      rintro rfl
      rw [ha] at hb
      cases hb
      exact hstays (List.mem_singleton.mpr rfl)
    rw [address?_set_of_ne hk, ha]

theorem address?_kickUnassociated (ha : r.address? i = some a)
    (hstays : a ∉ r.kickUnassociated.2.1) : r.kickUnassociated.1.address? i = some a := by
  obtain ⟨slot, hslot, hsame⟩ := Option.bind_eq_some_iff.mp ha
  -- A peer that was not associated would have been told.
  have hassociated : slot.unassociated? = none := by
    cases slot with
    | free => rfl
    | authenticated b =>
      refine absurd ?_ hstays
      exact List.mem_filterMap.mpr ⟨.authenticated b, List.mem_of_getElem? hslot, hsame⟩
    | associated b => rfl
  unfold kickUnassociated
  rw [address?_map, hslot, Option.bind_some, hassociated]
  exact hsame

/-- Everybody is told when all are removed. -/
theorem mem_told_kickAll (ha : r.address? i = some a) : a ∈ r.kickAll.2.1 := by
  obtain ⟨slot, hslot, hsame⟩ := Option.bind_eq_some_iff.mp ha
  exact List.mem_filterMap.mpr ⟨slot, List.mem_of_getElem? hslot, hsame⟩

/-! ### Identifiers -/

theorem toNat_aidOf (h : i < maxPeers) : (aidOf i).toNat = i + 1 := by
  rw [aidOf, UInt16.toNat_ofNat']
  simp [maxPeers] at h
  omega

/-- Different slots have different identifiers. -/
theorem aidOf_inj (hi : i < maxPeers) (hk : k < maxPeers) (h : aidOf i = aidOf k) : i = k := by
  have hnat := congrArg UInt16.toNat h
  rw [toNat_aidOf hi, toNat_aidOf hk] at hnat
  omega

/-- A peer that takes part has the identifier of its slot. -/
theorem mem_peers {p : Peer} :
    p ∈ r.peers ↔ ∃ i, r.slots[i]? = some (.associated p.address) ∧ p.aid = aidOf i := by
  unfold peers
  rw [List.mem_filterMap]
  constructor
  · rintro ⟨⟨slot, i⟩, hmem, hp⟩
    obtain ⟨a, ha, rfl⟩ := Option.map_eq_some_iff.mp hp
    refine ⟨i, ?_, rfl⟩
    rw [List.mem_zipIdx_iff_getElem?.mp hmem]
    cases slot with
    | free => cases ha
    | authenticated => cases ha
    | associated => cases ha; rfl
  · rintro ⟨i, hslot, haid⟩
    refine ⟨(.associated p.address, i), List.mem_zipIdx_iff_getElem?.mpr hslot, ?_⟩
    show some (Peer.mk p.address (aidOf i)) = some p
    rw [← haid]

/-- The identifiers of the peers that take part go up. -/
theorem pairwise_aid_peers (r : Roster) :
    r.peers.Pairwise fun p q => p.aid.toNat < q.aid.toNat := by
  unfold peers
  rw [List.pairwise_filterMap]
  have hsorted : r.slots.zipIdx.Pairwise fun x y => x.2 < y.2 := by
    rw [← List.pairwise_map (f := Prod.snd) (R := (· < ·)), List.zipIdx_map_snd]
    exact List.pairwise_lt_range'
  -- Slots are below sixteen, so that identifiers do not wrap around.
  refine hsorted.imp_of_mem ?_
  rintro ⟨slot, i⟩ ⟨slot', k⟩ hi hk hlt p hp q hq
  obtain ⟨_, _, rfl⟩ := Option.map_eq_some_iff.mp hp
  obtain ⟨_, _, rfl⟩ := Option.map_eq_some_iff.mp hq
  have hi' : i < maxPeers := by
    rw [← r.length_slots]
    exact (List.mem_zipIdx' hi).1
  have hk' : k < maxPeers := by
    rw [← r.length_slots]
    exact (List.mem_zipIdx' hk).1
  show (aidOf i).toNat < (aidOf k).toNat
  rw [toNat_aidOf hi', toNat_aidOf hk']
  have : i < k := hlt
  omega

end WlanControl.Session.Roster

namespace WlanControl.Session

/-! ### What is left of slots -/

namespace Slot

/-- What is left of a slot whose peer is removed by its identifier. -/
def kicked (slot : Slot) : Slot := if slot.associated?.isSome then .free else slot

/-- What is left of a slot when the peers are removed that were not associated. -/
def swept (slot : Slot) : Slot := if slot.unassociated?.isSome then .free else slot

theorem kicked_kicked (slot : Slot) : slot.kicked.kicked = slot.kicked := by
  cases slot <;> rfl

theorem unassociated?_kicked (slot : Slot) : slot.kicked.unassociated? = slot.unassociated? := by
  cases slot <;> rfl

end Slot

namespace Roster

variable {r r' : Roster} {i : Nat}

/-- The peer that takes part in a slot is removed by the identifier that goes with it, after it was
told. -/
theorem kick_of_member (hi : i < maxPeers) {a : MacAddress}
    (ha : r.slots[i]?.bind Slot.associated? = some a) :
    r.kick (aidOf i) = (r.set i .free, [a], .ok ()) := by
  unfold kick
  rw [slotOf?_aidOf hi]
  simp only [ha]

/-- Nothing happens to a slot in which nobody takes part. -/
theorem kick_of_nobody (hi : i < maxPeers) (hnobody : r.slots[i]?.bind Slot.associated? = none) :
    r.kick (aidOf i) = (r, [], .error .notFound) := by
  unfold kick
  rw [slotOf?_aidOf hi]
  simp only [hnobody]

theorem told_kick (hi : i < maxPeers) (r : Roster) :
    (r.kick (aidOf i)).2.1 = (r.slots[i]?.bind Slot.associated?).toList := by
  cases hmember : r.slots[i]?.bind Slot.associated? with
  | some a => rw [kick_of_member hi hmember, Option.toList_some]
  | none => rw [kick_of_nobody hi hmember, Option.toList_none]

/-- The roster itself is never busy. -/
theorem kick_ne_busy (aid : UInt16) (r : Roster) : (r.kick aid).2.2 ≠ .error .busy := by
  obtain hnobody | ⟨k, a, -, hkicked⟩ := kick_cases aid r
  · rw [hnobody]
    simp
  · rw [hkicked]
    simp

/-- No other slot changes. -/
theorem getElem?_slots_kick (hi : i < maxPeers) (r : Roster) (k : Nat) :
    (r.kick (aidOf i)).1.slots[k]? =
      if k = i then r.slots[k]?.map Slot.kicked else r.slots[k]? := by
  have hlength : i < r.slots.length := by rw [r.length_slots]; exact hi
  have hslot : r.slots[i]? = some r.slots[i] := List.getElem?_eq_getElem hlength
  cases hmember : r.slots[i]?.bind Slot.associated? with
  | some a =>
    rw [kick_of_member hi hmember]
    by_cases hk : k = i
    · subst hk
      rw [hslot, Option.bind_some] at hmember
      rw [if_pos rfl, hslot, Option.map_some, Slot.kicked, hmember]
      exact List.getElem?_set_self hlength
    · rw [if_neg hk]
      exact List.getElem?_set_ne (Ne.symm hk)
  | none =>
    rw [kick_of_nobody hi hmember]
    by_cases hk : k = i
    · subst hk
      rw [hslot, Option.bind_some] at hmember
      rw [if_pos rfl, hslot, Option.map_some, Slot.kicked, hmember]
      rfl
    · rw [if_neg hk]

/-- All peers are removed at once that were not associated. -/
theorem getElem?_slots_kickUnassociated (r : Roster) (k : Nat) :
    r.kickUnassociated.1.slots[k]? = r.slots[k]?.map Slot.swept := List.getElem?_map

/-- Who is not associated stays so while associated peers are removed. -/
theorem filterMap_unassociated?_congr
    (h : ∀ k : Nat, r'.slots[k]? = r.slots[k]? ∨ r'.slots[k]? = r.slots[k]?.map Slot.kicked) :
    r'.slots.filterMap Slot.unassociated? = r.slots.filterMap Slot.unassociated? := by
  have hsame : r'.slots.map Slot.unassociated? = r.slots.map Slot.unassociated? := by
    refine List.ext_getElem? fun k => ?_
    rw [List.getElem?_map, List.getElem?_map]
    obtain hslot | hslot := h k
    · rw [hslot]
    · rw [hslot, Option.map_map]
      exact Option.map_congr fun slot _ => Slot.unassociated?_kicked slot
  have hlist (slots : List Slot) : slots.filterMap Slot.unassociated? =
      (slots.map Slot.unassociated?).filterMap id := by
    rw [List.filterMap_map]
    rfl
  rw [hlist, hsame, ← hlist]

end Roster

end WlanControl.Session
