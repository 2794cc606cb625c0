import WlanControl.Proofs.TableOrigins

namespace WlanControl.Discovery

/-!
# The table of access points — which slot an observation goes to

One pass over the slots finds the one that an observation is written to.  This file says which one
that is and what becomes of each slot, in terms of what readers get.  An entry that is masked counts
as none, since its slot is freed on the way.

* `Slot.reported?` — the entry of a slot that readers get, unless somebody uses the slot;
* `Slot.takeIn` — a slot after an observation was written to it, with `Table.slot_record` for what
  an observation does to each slot, and `Table.get_of_record` for what is read of it afterwards;
* `Table.Destination` — the slot for an observation: the one that has the access point, else the
  first free one, else the first one of the oldest.

Main statement: `Table.settles_run`, while nobody uses a slot every observation is written to its
destination, and readers of the other slots do not notice.
-/

/-! ### Slots -/

namespace Slot

variable {s : Slot} {o : Observation} {r : Record}

/-- The entry of the slot, unless it is masked. -/
def reported? (s : Slot) : Option Record := if s.stale then none else s.entry

/-- What the slot remembers of the observed access point, which is nothing if it reports another one
or none. -/
def memory (o : Observation) (s : Slot) : Record :=
  (s.reported?.filter fun r => r.bssid = o.bssid).getD (.blank o.bssid)

/-- The slot after an observation was written to it. -/
def takeIn (o : Observation) (s : Slot) : Slot :=
  { s.purge with entry := some ((s.memory o).update o) }

theorem entry_purge (s : Slot) : s.purge.entry = s.reported? := by
  unfold purge reported?
  split <;> rfl

@[simp] theorem reported?_purge (s : Slot) : s.purge.reported? = s.reported? := by
  rw [reported?, stale_purge, entry_purge]
  rfl

/-- The entry of the access point is updated. -/
theorem memory_of_bssid (h : s.reported? = some r) (hbssid : r.bssid = o.bssid) :
    s.memory o = r := by
  rw [memory, h, Option.filter_some, if_pos (decide_eq_true hbssid), Option.getD_some]

/-- An entry of another access point is forgotten. -/
theorem memory_of_other (h : ∀ r, s.reported? = some r → r.bssid ≠ o.bssid) :
    s.memory o = .blank o.bssid := by
  have hnone : (s.reported?.filter fun r => r.bssid = o.bssid) = none := by
    rw [Option.filter_eq_none_iff]
    exact fun r hr hbssid => h r hr (of_decide_eq_true hbssid)
  rw [memory, hnone, Option.getD_none]

@[simp] theorem bssid_memory (o : Observation) (s : Slot) : (s.memory o).bssid = o.bssid := by
  by_cases h : ∃ r, s.reported? = some r ∧ r.bssid = o.bssid
  · obtain ⟨r, hr, hbssid⟩ := h
    rw [memory_of_bssid hr hbssid, hbssid]
  · rw [memory_of_other fun r hr hbssid => h ⟨r, hr, hbssid⟩]
    rfl

theorem reported?_takeIn (o : Observation) (s : Slot) :
    (s.takeIn o).reported? = some ((s.memory o).update o) := by
  rw [reported?, takeIn, stale_purge]
  rfl

@[simp] theorem isHeld_takeIn (o : Observation) (s : Slot) : (s.takeIn o).isHeld = s.isHeld :=
  isHeld_purge s

theorem reported?_eq_some_iff : s.reported? = some r ↔ s.Reports r := by
  unfold reported? Reports
  cases s.stale <;> simp

theorem bssid?_of_reported? (h : s.reported? = some r) : s.bssid? = some r.bssid := by
  rw [bssid?, (reported?_eq_some_iff.mp h).2, Option.map_some]

/-- What readers get is the entry that is reported, if nobody uses the slot. -/
theorem read_eq_ok_iff : s.read = .ok r ↔ s.isHeld = false ∧ s.reported? = some r := by
  unfold read reported?
  cases s.isHeld <;> cases s.stale <;> cases s.entry <;> simp

theorem read_of_reported?_none (hfree : s.isHeld = false) (h : s.reported? = none) :
    s.read = .error .notFound := by
  unfold read
  unfold reported? at h
  rw [hfree]
  cases hstale : s.stale <;> cases hentry : s.entry <;> simp_all

/-- What is written to the slot of the access point. -/
theorem takeIn_of_bssid? (h : s.purge.bssid? = some o.bssid) :
    s.takeIn o = s.purge.write o true := by
  obtain ⟨r, hentry, hbssid⟩ := Option.map_eq_some_iff.mp h
  have hmemory : s.memory o = r := memory_of_bssid ((entry_purge s).symm.trans hentry) hbssid
  simp only [takeIn, write, hmemory, hentry, if_true, Option.getD_some]

/-- What is written to the slot for a new access point. -/
theorem takeIn_of_bssid?_ne (h : s.purge.bssid? ≠ some o.bssid) :
    s.takeIn o = s.purge.write o false := by
  have hmemory : s.memory o = .blank o.bssid := by
    refine memory_of_other fun r hr hbssid => h ?_
    rw [bssid?, entry_purge, hr, Option.map_some, hbssid]
  simp only [takeIn, write, hmemory]
  rfl

end Slot

/-! ### The choice -/

/-- Where a new entry goes to a slot without one, all slots before it have one. -/
theorem Survey.Describes.entry_ne_none {v : Survey} {seen : List Slot} {i j : Nat}
    {slot slot' : Slot} (h : v.Describes seen) (hchoice : v.choice? = some i)
    (hslot : seen[i]? = some slot) (hentry : slot.entry = none) (hlt : j < i)
    (hslot' : seen[j]? = some slot') : slot'.entry ≠ none := by
  unfold Survey.choice? at hchoice
  cases hfree : v.free with
  | some k =>
    rw [hfree] at hchoice
    cases hchoice
    rw [h.free_eq] at hfree
    obtain ⟨hi, -, hbefore⟩ := List.findIdx?_eq_some_iff_getElem.mp hfree
    obtain ⟨hj, rfl⟩ := List.getElem?_eq_some_iff.mp hslot'
    simpa using hbefore j hlt
  | none =>
    -- Then there is no slot without an entry at all.
    rw [h.free_eq] at hfree
    have hnone := List.findIdx?_eq_none_iff.mp hfree slot (List.mem_of_getElem? hslot)
    rw [hentry] at hnone
    cases hnone

/-- One slot to look at is enough for a choice. -/
theorem exists_survey_of_free {bssid : MacAddress} {slots : List Slot} {index : Nat} {v : Survey}
    (hfree : ∀ slot ∈ slots, slot.isHeld = false) (hsome : slots ≠ [] ∨ v.choice?.isSome = true) :
    ∃ found, (survey bssid slots index v).2 = .ok found := by
  fun_induction survey bssid slots index v with
  | case1 _ v i hchoice => exact ⟨_, rfl⟩
  | case2 _ v hchoice => simp [hchoice] at hsome
  | case3 first rest index v hheld =>
    rw [hfree first List.mem_cons_self] at hheld
    cases hheld
  | case4 first rest index v hheld slot hentry purged found hfound ih =>
    rw [hfound] at ih
    refine ih (fun s hs => hfree s (List.mem_cons_of_mem _ hs)) (.inr ?_)
    unfold Survey.choice? Survey.seeFree
    cases v.free <;> rfl
  | case5 => exact ⟨_, rfl⟩
  | case6 first rest index v hheld slot record hentry hbssid purged found hfound ih =>
    rw [hfound] at ih
    refine ih (fun s hs => hfree s (List.mem_cons_of_mem _ hs)) (.inr ?_)
    have hold : (v.seeEntry index record.age).oldest.isSome = true := by
      unfold Survey.seeEntry
      split
      · rfl
      · split <;> simp_all
    unfold Survey.choice?
    cases (v.seeEntry index record.age).free with
    | some k => rfl
    | none => simpa using hold

namespace Table

variable {t : Table} {o : Observation} {seized : Nat → Bool} {i j : Nat} {slot : Slot} {r : Record}

/-! ### What an observation does to each slot -/

theorem getElem?_modify_self (f : Slot → Slot) (hslot : t.slots[i]? = some slot) :
    (t.modify i f).slots[i]? = some (f slot) := by
  simp [modify, hslot]

theorem getElem?_modify_of_ne (f : Slot → Slot) (h : j ≠ i) :
    (t.modify j f).slots[i]? = t.slots[i]? := by
  simp [modify, h]

/-- The slot that is written to is the one that the radio has chosen. -/
theorem exists_survey_of_record (h : (t.record o seized).2 = .ok i) :
    ∃ known, (survey o.bssid t.slots 0 .start).2 = .ok (i, known) ∧
      (t.record o seized).1 = (t.surveyed o).modify i (Slot.write o known) := by
  revert h
  unfold record
  simp only
  split
  · intro h
    cases h
  · rename_i k known hfound
    split
    · intro h
      cases h
    · intro h
      cases h
      exact ⟨known, hfound, rfl⟩

/-- The slot that is chosen was looked at, so that nobody used it, and purged.  It has the access
point just if the radio says so. -/
theorem slot_of_survey {known : Bool} (hslot : t.slots[i]? = some slot)
    (h : (survey o.bssid t.slots 0 .start).2 = .ok (i, known)) :
    slot.isHeld = false ∧ (t.surveyed o).slots[i]? = some slot.purge ∧
      (known = true ↔ slot.purge.bssid? = some o.bssid) := by
  cases known with
  | true =>
    obtain ⟨k, seen, hk, hseen, hbssid, hfree, hstale⟩ := survey_known h
    obtain rfl : i = k := by omega
    rcases getElem?_surveyed (o := o) hslot with hsame | ⟨hheld, hpurged⟩
    · obtain rfl : slot = seen := Option.some.inj (hsame.symm.trans hseen)
      rw [Slot.purge_of_fresh hstale]
      exact ⟨hfree, hsame, iff_of_true rfl hbssid⟩
    · obtain rfl : slot.purge = seen := Option.some.inj (hpurged.symm.trans hseen)
      exact ⟨hheld, hpurged, iff_of_true rfl hbssid⟩
  | false =>
    obtain ⟨hpurged, hnew⟩ := survey_new h [] rfl .start
    have hmem := List.mem_of_getElem? hslot
    refine ⟨hnew.free slot hmem, ?_, iff_of_false Bool.false_ne_true (hnew.other slot hmem)⟩
    show (survey o.bssid t.slots 0 .start).1[i]? = _
    rw [hpurged, List.getElem?_map, hslot, Option.map_some]

/-- An observation is written to the slot whose number is returned, and any other slot is left alone
or purged. -/
theorem slot_record (o : Observation) (seized : Nat → Bool) (hslot : t.slots[i]? = some slot) :
    ((t.record o seized).2 = .ok i ∧ slot.isHeld = false ∧
        (t.record o seized).1.slots[i]? = some (slot.takeIn o)) ∨
      ((t.record o seized).2 ≠ .ok i ∧
        ((t.record o seized).1.slots[i]? = some slot ∨
          (t.record o seized).1.slots[i]? = some slot.purge)) := by
  have hseen : (t.surveyed o).slots[i]? = some slot ∨
      (t.surveyed o).slots[i]? = some slot.purge :=
    (getElem?_surveyed hslot).imp_right And.right
  cases hwritten : (t.record o seized).2 with
  | error e =>
    right
    rw [record_of_error hwritten]
    refine ⟨?_, hseen⟩
    intro h
    cases h
  | ok k =>
    obtain ⟨known, hfound, htable⟩ := exists_survey_of_record hwritten
    rw [htable]
    by_cases hk : k = i
    · subst hk
      left
      obtain ⟨hfree, hpurged, hknown⟩ := slot_of_survey hslot hfound
      refine ⟨rfl, hfree, ?_⟩
      rw [getElem?_modify_self _ hpurged]
      cases known with
      | true => rw [Slot.takeIn_of_bssid? (hknown.mp rfl)]
      | false => rw [Slot.takeIn_of_bssid?_ne fun h => Bool.false_ne_true (hknown.mpr h)]
    · right
      rw [getElem?_modify_of_ne _ hk]
      exact ⟨fun h => hk (Except.ok.inj h), hseen⟩

/-- There is a slot with every number that is returned. -/
theorem exists_slot_of_record (h : (t.record o seized).2 = .ok i) :
    ∃ slot, t.slots[i]? = some slot := by
  obtain ⟨known, hfound, -⟩ := exists_survey_of_record h
  cases known with
  | true =>
    obtain ⟨k, seen, hk, hseen, -⟩ := survey_known hfound
    obtain rfl : i = k := by omega
    have hlt := (List.getElem?_eq_some_iff.mp hseen).1
    rw [length_survey] at hlt
    exact ⟨_, List.getElem?_eq_getElem hlt⟩
  | false =>
    obtain ⟨-, hnew⟩ := survey_new hfound [] rfl .start
    obtain ⟨v, hv, hchoice⟩ := hnew.choice
    obtain ⟨seen, hseen, -⟩ := hv.of_choice hchoice
    rw [List.nil_append, List.getElem?_map] at hseen
    obtain ⟨slot, hslot, -⟩ := Option.map_eq_some_iff.mp hseen
    exact ⟨slot, hslot⟩

theorem get_of_slot (hslot : t.slots[i]? = some slot) : t.get i = slot.read := by
  rw [get, hslot]

/-- What was written can be read at once. -/
theorem get_record_self (hslot : t.slots[i]? = some slot) (h : (t.record o seized).2 = .ok i) :
    (t.record o seized).1.get i = .ok ((slot.memory o).update o) := by
  rcases slot_record o seized hslot with ⟨-, hfree, hwritten⟩ | ⟨hother, -⟩
  · rw [get_of_slot hwritten]
    exact Slot.read_eq_ok_iff.mpr ⟨by rw [Slot.isHeld_takeIn, hfree], slot.reported?_takeIn o⟩
  · exact absurd h hother

/-- Readers of the other slots do not notice. -/
theorem get_record_of_ne (h : (t.record o seized).2 ≠ .ok i) :
    (t.record o seized).1.get i = t.get i := by
  cases hslot : t.slots[i]? with
  | none =>
    have hnone : (t.record o seized).1.slots[i]? = none := by
      rw [List.getElem?_eq_none_iff, length_slots] at hslot ⊢
      exact hslot
    rw [get, get, hslot, hnone]
  | some slot =>
    rcases slot_record o seized hslot with ⟨hwritten, -⟩ | ⟨-, hsame | hpurged⟩
    · exact absurd hwritten h
    · rw [get_of_slot hslot, get_of_slot hsame]
    · rw [get_of_slot hslot, get_of_slot hpurged, Slot.read_purge]

theorem get_of_record (h : (t.record o seized).2 = .ok i) :
    ∃ r, (t.record o seized).1.get i = .ok r ∧ r.bssid = o.bssid := by
  obtain ⟨slot, hslot⟩ := exists_slot_of_record h
  exact ⟨_, get_record_self hslot h, slot.bssid_memory o⟩

/-! ### Where an observation goes -/

/-- Slot `i` is the one for an observation, by what readers get while nobody uses a slot. -/
inductive Destination (o : Observation) (i : Nat) (t : Table) : Prop
  /-- It has the access point. -/
  | known {r : Record} (hget : t.get i = .ok r) (hbssid : r.bssid = o.bssid)
  /-- No slot has the access point, and this is the first one without an entry, be it that there is
  none or that it is masked. -/
  | vacant (hnew : ∀ j r, t.get j = .ok r → r.bssid ≠ o.bssid) (hlt : i < tableSize)
      (hget : t.get i = .error .notFound) (hfirst : ∀ j < i, ∃ r, t.get j = .ok r)
  /-- All slots have entries of other access points, and this is the first one of the oldest. -/
  | evicted (hevicts : t.Evicts o i)

theorem bssid?_of_get (h : t.get i = .ok r) : t.bssid? i = some r.bssid := by
  obtain ⟨slot, hslot, hentry, -⟩ := get_eq_ok h
  rw [bssid?, hslot, Option.bind_some, Slot.bssid?, hentry, Option.map_some]

theorem lt_of_slot (hslot : t.slots[i]? = some slot) : i < tableSize := by
  rw [← t.length_slots]
  exact (List.getElem?_eq_some_iff.mp hslot).1

theorem exists_slot_of_lt (h : i < tableSize) : ∃ slot, t.slots[i]? = some slot := by
  rw [← t.length_slots] at h
  exact ⟨_, List.getElem?_eq_getElem h⟩

namespace Destination

theorem lt (h : t.Destination o i) : i < tableSize := by
  cases h with
  | known hget hbssid =>
    obtain ⟨slot, hslot, -⟩ := get_eq_ok hget
    exact lt_of_slot hslot
  | vacant hnew hlt hget hfirst => exact hlt
  | evicted hevicts =>
    obtain ⟨r, hget, -⟩ := hevicts
    obtain ⟨slot, hslot, -⟩ := get_eq_ok hget
    exact lt_of_slot hslot

/-- Where all entries are of other access points, none of them is of the observed one. -/
theorem not_known_of_evicts (h : t.Evicts o j) (hget : t.get i = .ok r) : r.bssid ≠ o.bssid := by
  obtain ⟨slot, hslot, -⟩ := get_eq_ok hget
  obtain ⟨oldest, -, hall⟩ := h
  obtain ⟨r', hget', hbssid, -⟩ := hall i (lt_of_slot hslot)
  obtain rfl : r = r' := Except.ok.inj (hget.symm.trans hget')
  exact hbssid

theorem not_vacant_of_evicts (h : t.Evicts o j) (hlt : i < tableSize) :
    t.get i ≠ .error .notFound := by
  obtain ⟨oldest, -, hall⟩ := h
  obtain ⟨r, hget, -⟩ := hall i hlt
  rw [hget]
  exact fun h => by cases h

/-- Only one of the oldest entries is the first of them. -/
theorem not_lt_of_evicts (hi : t.Evicts o i) (hj : t.Evicts o j) : ¬ i < j := by
  intro hlt
  obtain ⟨r, hget, hall⟩ := hi
  obtain ⟨r', hget', hall'⟩ := hj
  obtain ⟨slot', hslot', -⟩ := get_eq_ok hget'
  obtain ⟨s', hs', -, hle, -⟩ := hall j (lt_of_slot hslot')
  obtain ⟨s, hs, -, -, hage⟩ := hall' i (Nat.lt_trans hlt (lt_of_slot hslot'))
  obtain rfl : r' = s' := Except.ok.inj (hget'.symm.trans hs')
  obtain rfl : r = s := Except.ok.inj (hget.symm.trans hs)
  exact Nat.not_lt_of_le hle (hage hlt)

/-- There is one slot for an observation at most. -/
theorem unique (hdistinct : t.Distinct) (hi : t.Destination o i) (hj : t.Destination o j) :
    i = j := by
  cases hi with
  | known hget hbssid =>
    cases hj with
    | known hget' hbssid' =>
      exact hdistinct i j o.bssid (hbssid ▸ bssid?_of_get hget) (hbssid' ▸ bssid?_of_get hget')
    | vacant hnew => exact absurd hbssid (hnew i _ hget)
    | evicted hevicts => exact absurd hbssid (not_known_of_evicts hevicts hget)
  | vacant hnew hlt hget hfirst =>
    cases hj with
    | known hget' hbssid' => exact absurd hbssid' (hnew j _ hget')
    | vacant _ _ hget' hfirst' =>
      -- The first of two vacant slots would have an entry, if the other one came first.
      rcases Nat.lt_trichotomy i j with h | h | h
      · obtain ⟨r, hr⟩ := hfirst' i h
        rw [hget] at hr
        cases hr
      · exact h
      · obtain ⟨r, hr⟩ := hfirst j h
        rw [hget'] at hr
        cases hr
    | evicted hevicts => exact absurd hget (not_vacant_of_evicts hevicts hlt)
  | evicted hevicts =>
    cases hj with
    | known hget' hbssid' => exact absurd hbssid' (not_known_of_evicts hevicts hget')
    | vacant _ hlt' hget' _ => exact absurd hget' (not_vacant_of_evicts hevicts hlt')
    | evicted hevicts' =>
      have := not_lt_of_evicts hevicts hevicts'
      have := not_lt_of_evicts hevicts' hevicts
      omega

end Destination

/-- While nobody uses a slot, an observation that is written goes to its destination. -/
theorem destination_of_record (hfree : ∀ slot ∈ t.slots, slot.isHeld = false)
    (h : (t.record o seized).2 = .ok i) : t.Destination o i := by
  obtain ⟨slot, hslot⟩ := exists_slot_of_record h
  obtain ⟨known, hfound, -⟩ := exists_survey_of_record h
  obtain ⟨hheld, -, hknown⟩ := slot_of_survey hslot hfound
  cases known with
  | true =>
    obtain ⟨r, hentry, hbssid⟩ := Option.map_eq_some_iff.mp (hknown.mp rfl)
    exact .known (get_eq_ok_of_purge hslot hheld hentry) hbssid
  | false =>
    obtain ⟨-, hnew⟩ := survey_new hfound [] rfl .start
    cases hentry : slot.purge.entry with
    | some r => exact .evicted (evicts_of_newIn hnew hslot hentry)
    | none =>
      refine .vacant ?_ (lt_of_slot hslot) ?_ ?_
      · intro j r hget hbssid
        obtain ⟨other, hother, hsome, -, hstale⟩ := get_eq_ok hget
        refine hnew.other other (List.mem_of_getElem? hother) ?_
        rw [Slot.purge_of_fresh hstale, Slot.bssid?, hsome, Option.map_some, hbssid]
      · rw [get_of_slot hslot]
        exact Slot.read_of_reported?_none hheld ((Slot.entry_purge slot).symm.trans hentry)
      · intro j hlt
        obtain ⟨other, hother⟩ := exists_slot_of_lt (t := t) (Nat.lt_trans hlt (lt_of_slot hslot))
        obtain ⟨v, hv, hchoice⟩ := hnew.choice
        have hne : other.purge.entry ≠ none := by
          refine hv.entry_ne_none hchoice ?_ hentry hlt ?_
          · simp only [List.nil_append, List.getElem?_map, hslot, Option.map_some]
          · simp only [List.nil_append, List.getElem?_map, hother, Option.map_some]
        obtain ⟨r, hr⟩ := Option.ne_none_iff_exists'.mp hne
        exact ⟨r, get_eq_ok_of_purge hother (hfree other (List.mem_of_getElem? hother)) hr⟩

/-- While nobody uses a slot, no observation is dropped. -/
theorem exists_record_of_free (hfree : ∀ slot ∈ t.slots, slot.isHeld = false) (o : Observation) :
    ∃ i, (t.record o fun _ => false).2 = .ok i := by
  have hne : t.slots ≠ [] := List.ne_nil_of_length_pos (by rw [t.length_slots]; decide)
  obtain ⟨⟨k, known⟩, hfound⟩ : ∃ found, (survey o.bssid t.slots 0 .start).2 = .ok found :=
    exists_survey_of_free hfree (.inl hne)
  refine ⟨k, ?_⟩
  unfold record
  simp only [hfound]
  rfl

end Table

/-- The record tells what was observed last. -/
structure Record.Reflects (o : Observation) (r : Record) : Prop where
  bssid_eq : r.bssid = o.bssid
  transmitter_eq : r.transmitter = o.transmitter
  channel_eq : r.channel = o.channel
  security_eq : r.security = o.security
  compatible_eq : r.compatible = o.compatible
  interval_eq : r.interval = o.interval
  advertisement_eq : r.advertisement = o.advertisement
  age_eq : r.age = 0

theorem Record.reflects_update {o : Observation} {r : Record} (h : r.bssid = o.bssid) :
    (r.update o).Reflects o :=
  ⟨h, rfl, rfl, rfl, rfl, rfl, rfl, rfl⟩

namespace Table

variable {t : Table} {o : Observation} {i j : Nat} {slot : Slot} {r : Record}

/-- What becomes of an observation while nobody uses a slot. -/
structure Settles (o : Observation) (t : Table) : Prop where
  exists_destination : ∃ i, t.Destination o i
  /-- It is written to its destination, -/
  record_eq : ∀ i, t.Destination o i → (t.record o fun _ => false).2 = .ok i
  /-- which tells it from then on. -/
  reflects : ∀ i, t.Destination o i →
    ∃ r, (t.record o fun _ => false).1.get i = .ok r ∧ r.Reflects o
  /-- An entry of the access point is updated. -/
  updated : ∀ i r, t.get i = .ok r → r.bssid = o.bssid →
    (t.record o fun _ => false).1.get i = .ok (r.update o)
  /-- A new entry is made of the observation alone, whatever the slot had before. -/
  created : ∀ i, t.Destination o i → (∀ r, t.get i = .ok r → r.bssid ≠ o.bssid) →
    (t.record o fun _ => false).1.get i = .ok ((Record.blank o.bssid).update o)
  /-- Nothing changes in the other slots. -/
  others : ∀ i j, t.Destination o i → j ≠ i →
    (t.record o fun _ => false).1.get j = t.get j

theorem settles_of_free (hdistinct : t.Distinct) (hfree : ∀ slot ∈ t.slots, slot.isHeld = false)
    (o : Observation) : t.Settles o := by
  obtain ⟨k, hwritten⟩ := exists_record_of_free hfree o
  have hrecord : ∀ i, t.Destination o i → (t.record o fun _ => false).2 = .ok i := by
    intro i hi
    rw [hi.unique hdistinct (destination_of_record hfree hwritten)]
    exact hwritten
  -- What is reported of a slot can be read, as nobody uses it.
  have hread {i : Nat} {slot : Slot} (hslot : t.slots[i]? = some slot) (r : Record)
      (hr : slot.reported? = some r) : t.get i = .ok r := by
    rw [get_of_slot hslot]
    exact Slot.read_eq_ok_iff.mpr ⟨hfree slot (List.mem_of_getElem? hslot), hr⟩
  refine ⟨⟨k, destination_of_record hfree hwritten⟩, hrecord, ?_, ?_, ?_, ?_⟩
  · intro i hi
    obtain ⟨slot, hslot⟩ := exists_slot_of_lt hi.lt
    exact ⟨_, get_record_self hslot (hrecord i hi), Record.reflects_update (slot.bssid_memory o)⟩
  · intro i r hget hbssid
    obtain ⟨slot, hslot, -⟩ := get_eq_ok hget
    rw [get_record_self hslot (hrecord i (.known hget hbssid))]
    rw [get_of_slot hslot] at hget
    rw [Slot.memory_of_bssid (Slot.read_eq_ok_iff.mp hget).2 hbssid]
  · intro i hi hother
    obtain ⟨slot, hslot⟩ := exists_slot_of_lt hi.lt
    rw [get_record_self hslot (hrecord i hi),
      Slot.memory_of_other fun r hr => hother r (hread hslot r hr)]
  · intro i j hi hne
    refine get_record_of_ne fun h => hne ?_
    exact Except.ok.inj (h.symm.trans (hrecord i hi))

/-- After any operations, while nobody uses a slot, every observation is written to the slot that
has the access point, else to the first one without an entry, else in place of the first one of the
oldest entries, and readers get of the other slots what they got before. -/
theorem settles_run (actions : List Action) (o : Observation)
    (hfree : ∀ slot ∈ (run actions empty).slots, slot.isHeld = false) :
    (run actions empty).Settles o :=
  settles_of_free (distinct_run distinct_empty actions) hfree o

/-- An observation of the access point whose address ends in the given octet. -/
def sighting (octet : UInt8) (rssi : Option UInt8) : Observation where
  bssid := ⟨2, 0, 0, 0, 0, octet⟩
  transmitter := ⟨2, 0, 0, 0, 0, octet⟩
  ssid := none
  channel := 6
  rssi
  security := .plain
  compatible := true
  interval := 100
  advertisement := none

/-- The sightings of some access points, one after the other. -/
def sightings (octets : List Nat) : List Action :=
  octets.map fun octet => .record (sighting (.ofNat octet) none) fun _ => false

/-- As many access points as there are slots, of which all but two are seen again a tick later. -/
def crowdedActions : List Action :=
  sightings (List.range 32) ++ [.tick] ++
    sightings ((List.range 32).filter fun octet => octet ≠ 3 ∧ octet ≠ 7)

theorem settles_run_crowded :
    (∀ slot ∈ (run crowdedActions empty).slots, slot.isHeld = false) ∧
      ((run crowdedActions empty).record (sighting 100 none) fun _ => false).2.toOption = some 3 ∧
      (run crowdedActions empty).Settles (sighting 100 none) := by
  have hfree : ∀ slot ∈ (run crowdedActions empty).slots, slot.isHeld = false := by decide +kernel
  exact ⟨hfree, by decide +kernel, settles_run crowdedActions (sighting 100 none) hfree⟩

end Table

end WlanControl.Discovery
