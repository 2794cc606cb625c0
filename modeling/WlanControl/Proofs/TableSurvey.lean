import WlanControl.Discovery.Table

namespace WlanControl.Discovery

/-!
# The table of access points — where an observation goes

Before the radio writes an observation it looks at one slot after the other (`survey`).  This file
says what it finds out:

* `getElem?_survey` — a slot that was looked at is left alone or purged, so that no reader notices;
* `survey_known` — the slot it ends at holds the access point already;
* `survey_new` — otherwise every slot was seen and purged, none holds the access point, and the
  choice is the first free slot or else the first one of the oldest entries (`Survey.Describes`).

`Table.recorded_record` puts this together: it lists all that may become of the table when an
observation is taken in.
-/

/-! ### Purging a slot -/

namespace Slot

/-- The access point in the slot, be it reported or not. -/
def bssid? (s : Slot) : Option MacAddress := s.entry.map Record.bssid

@[simp] theorem isHeld_purge (s : Slot) : s.purge.isHeld = s.isHeld := by
  unfold purge
  split <;> rfl

@[simp] theorem stale_purge (s : Slot) : s.purge.stale = false := by
  unfold purge
  split
  · rfl
  · simp_all

theorem purge_of_fresh {s : Slot} (h : s.stale = false) : s.purge = s := by
  simp [purge, h]

theorem entry_purge_of_stale {s : Slot} (h : s.stale = true) : s.purge.entry = none := by
  simp [purge, h]

/-- No reader notices that a slot was purged. -/
@[simp] theorem read_purge (s : Slot) : s.purge.read = s.read := by
  cases hstale : s.stale with
  | false => rw [purge_of_fresh hstale]
  | true =>
    have hentry := entry_purge_of_stale hstale
    have hheld := isHeld_purge s
    unfold read
    rw [hheld, hentry]
    cases s.entry <;> simp [hstale]

/-- A slot without a holder whose entry is not stale is read as it is. -/
theorem read_eq_ok {s : Slot} {r : Record} (hfree : s.isHeld = false) (hstale : s.stale = false)
    (hentry : s.entry = some r) : s.read = .ok r := by
  simp [read, hfree, hstale, hentry]

end Slot

/-! ### The notes of the radio -/

/-- An element of a list with one more at its end is one of the list or the new one. -/
private theorem getElem?_append_singleton {α : Type} {l : List α} {a b : α} {j : Nat}
    (h : (l ++ [a])[j]? = some b) : l[j]? = some b ∨ (j = l.length ∧ b = a) := by
  rw [List.getElem?_append] at h
  split at h
  · exact .inl h
  · rename_i hle
    right
    obtain ⟨hlt, hb⟩ := List.getElem?_eq_some_iff.mp h
    have hj : j = l.length := by simp at hlt; omega
    subst hj
    exact ⟨rfl, by simpa using hb.symm⟩

/-- Slot `i` has an entry of the given age, which is older than the entries before it and at least
as old as the others. -/
def IsOldest (seen : List Slot) (i age : Nat) : Prop :=
  (∃ slot r, seen[i]? = some slot ∧ slot.entry = some r ∧ r.age = age) ∧
    ∀ (j : Nat) (slot : Slot) (r : Record), seen[j]? = some slot → slot.entry = some r →
      r.age ≤ age ∧ (j < i → r.age < age)

/-- What the radio knows about the slots that it has purged and looked at. -/
structure Survey.Describes (v : Survey) (seen : List Slot) : Prop where
  /-- The first free slot. -/
  free_eq : v.free = seen.findIdx? fun slot => slot.entry.isNone
  /-- Without an oldest entry there is none at all. -/
  none_of_oldest : v.oldest = none → ∀ slot ∈ seen, slot.entry = none
  isOldest : ∀ i age, v.oldest = some (i, age) → IsOldest seen i age

namespace Survey.Describes

variable {v : Survey} {seen : List Slot} {slot : Slot}

theorem start : Survey.start.Describes [] where
  free_eq := rfl
  none_of_oldest := by intro _ slot h; cases h
  isOldest := by intro i age h; cases h

/-- One more free slot. -/
theorem seeFree (h : v.Describes seen) (hentry : slot.entry = none) :
    (v.seeFree seen.length).Describes (seen ++ [slot]) where
  free_eq := by
    rw [List.findIdx?_append, ← h.free_eq]
    simp [Survey.seeFree, hentry]
  none_of_oldest := by
    intro holdest s hs
    rcases List.mem_append.mp hs with hs | hs
    · exact h.none_of_oldest holdest s hs
    · rw [List.mem_singleton.mp hs]
      exact hentry
  isOldest := by
    intro i age holdest
    obtain ⟨⟨s, r, hget, hs, hage⟩, hall⟩ := h.isOldest i age holdest
    refine ⟨⟨s, r, ?_, hs, hage⟩, ?_⟩
    · rw [List.getElem?_append_left (List.getElem?_eq_some_iff.mp hget).1]
      exact hget
    · intro j s' r' hget' hs'
      rcases getElem?_append_singleton hget' with hget' | ⟨-, rfl⟩
      · exact hall j s' r' hget' hs'
      · rw [hentry] at hs'
        cases hs'

/-- The entry that was just seen is older than all before it. -/
private theorem isOldest_last {record : Record} (hentry : slot.entry = some record)
    (hall : ∀ (j : Nat) (s : Slot) (r : Record), seen[j]? = some s → s.entry = some r →
      r.age < record.age) :
    IsOldest (seen ++ [slot]) seen.length record.age := by
  refine ⟨⟨slot, record, List.getElem?_concat_length, hentry, rfl⟩, ?_⟩
  intro j s r hget hs
  rcases getElem?_append_singleton hget with hget | ⟨rfl, rfl⟩
  · have hlt := hall j s r hget hs
    exact ⟨Nat.le_of_lt hlt, fun _ => hlt⟩
  · rw [hentry] at hs
    cases hs
    exact ⟨Nat.le_refl _, fun hlt => absurd hlt (Nat.lt_irrefl _)⟩

/-- One more entry. -/
theorem seeEntry {record : Record} (h : v.Describes seen) (hentry : slot.entry = some record) :
    (v.seeEntry seen.length record.age).Describes (seen ++ [slot]) where
  free_eq := by
    have hfree : (v.seeEntry seen.length record.age).free = v.free := by
      unfold Survey.seeEntry
      split
      · rfl
      · split <;> rfl
    rw [List.findIdx?_append, ← h.free_eq, hfree]
    simp [hentry]
  none_of_oldest := by
    intro holdest
    unfold Survey.seeEntry at holdest
    split at holdest
    · cases holdest
    · split at holdest
      · cases holdest
      · simp_all
  isOldest := by
    intro i age holdest
    unfold Survey.seeEntry at holdest
    split at holdest
    · -- There was no entry before.
      rename_i hnone
      cases holdest
      refine isOldest_last hentry ?_
      intro j s r hget hs
      rw [h.none_of_oldest hnone s (List.mem_of_getElem? hget)] at hs
      cases hs
    · rename_i i' greatest hsome
      obtain ⟨⟨s, r, hget, hs, hage⟩, hall⟩ := h.isOldest i' greatest hsome
      split at holdest
      · -- The new entry is older than the oldest one before.
        rename_i hlt
        cases holdest
        refine isOldest_last hentry ?_
        intro j s r hget hs
        exact Nat.lt_of_le_of_lt (hall j s r hget hs).1 hlt
      · -- The oldest one stays the oldest, also among equals.
        rename_i hle
        rw [hsome] at holdest
        cases holdest
        have hi := (List.getElem?_eq_some_iff.mp hget).1
        refine ⟨⟨s, r, by rw [List.getElem?_append_left hi]; exact hget, hs, hage⟩, ?_⟩
        intro j s' r' hget' hs'
        rcases getElem?_append_singleton hget' with hget' | ⟨rfl, rfl⟩
        · exact hall j s' r' hget' hs'
        · rw [hentry] at hs'
          cases hs'
          exact ⟨Nat.le_of_not_lt hle, fun hlt => absurd hlt (by omega)⟩

/-- A new entry goes to a slot that is free, or else in place of the first one of the oldest
entries. -/
theorem of_choice {i : Nat} (h : v.Describes seen) (hchoice : v.choice? = some i) :
    ∃ slot, seen[i]? = some slot ∧
      ∀ r, slot.entry = some r →
        ∀ j s, seen[j]? = some s →
          ∃ r', s.entry = some r' ∧ r'.age ≤ r.age ∧ (j < i → r'.age < r.age) := by
  unfold Survey.choice? at hchoice
  cases hfree : v.free with
  | some k =>
    rw [hfree] at hchoice
    cases hchoice
    rw [h.free_eq] at hfree
    obtain ⟨hi, hnone, -⟩ := List.findIdx?_eq_some_iff_getElem.mp hfree
    refine ⟨seen[i], List.getElem?_eq_getElem hi, ?_⟩
    -- The chosen slot has no entry at all.
    intro r hr
    rw [hr] at hnone
    cases hnone
  | none =>
    rw [hfree] at hchoice
    obtain ⟨⟨k, age⟩, hold, rfl⟩ := Option.map_eq_some_iff.mp hchoice
    obtain ⟨⟨slot, r, hget, hr, rfl⟩, hall⟩ := h.isOldest k age hold
    refine ⟨slot, hget, ?_⟩
    intro r' hr' j s hs
    rw [hr] at hr'
    cases hr'
    -- No slot is free, so that each one has an entry.
    rw [h.free_eq] at hfree
    have hnone := List.findIdx?_eq_none_iff.mp hfree s (List.mem_of_getElem? hs)
    obtain ⟨e, he⟩ := Option.isSome_iff_exists.mp (by simpa using hnone)
    exact ⟨e, he, hall j s e hs he⟩

end Survey.Describes

/-! ### Looking at one slot after the other -/

variable {bssid : MacAddress}

/-- A slot is left alone, or nobody uses it and it is purged. -/
theorem getElem?_survey (slots : List Slot) (index : Nat) (v : Survey) :
    ∀ (j : Nat) (slot : Slot), slots[j]? = some slot →
      (survey bssid slots index v).1[j]? = some slot ∨
        (slot.isHeld = false ∧ (survey bssid slots index v).1[j]? = some slot.purge) := by
  -- The first slot is purged if nobody uses it, and the rest is left alone where the radio stops.
  fun_induction survey bssid slots index v with
  | case1 => intro j slot h; cases h
  | case2 => intro j slot h; cases h
  | case3 => intro j slot h; exact .inl h
  | case4 first rest index v hheld _ _ seen found hfound ih
  | case6 first rest index v hheld _ _ _ _ seen found hfound ih =>
    intro j slot h
    cases j with
    | zero => cases h; exact .inr ⟨by simpa using hheld, rfl⟩
    | succ j => simpa [hfound] using ih j slot h
  | case5 first rest index v hheld =>
    intro j slot h
    cases j with
    | zero => cases h; exact .inr ⟨by simpa using hheld, rfl⟩
    | succ j => exact .inl h

/-- The access point is found in the slot where the radio stops, which it has purged. -/
theorem survey_known {slots : List Slot} {index : Nat} {v : Survey} {k : Nat}
    (h : (survey bssid slots index v).2 = .ok (k, true)) :
    ∃ j slot, k = index + j ∧ (survey bssid slots index v).1[j]? = some slot ∧
      slot.bssid? = some bssid ∧ slot.isHeld = false ∧ slot.stale = false := by
  fun_induction survey bssid slots index v with
  | case1 => cases h
  | case2 => cases h
  | case3 => cases h
  | case4 first rest index v _ _ _ seen found hfound ih
  | case6 first rest index v _ _ _ _ _ seen found hfound ih =>
    obtain ⟨j, slot, hk, hslot, hknown⟩ := ih (by rw [hfound]; exact h)
    exact ⟨j + 1, slot, by omega, by simpa [hfound] using hslot, hknown⟩
  | case5 first rest index v hheld slot record hentry hbssid =>
    cases h
    refine ⟨0, slot, rfl, rfl, ?_, by simpa [slot] using hheld, first.stale_purge⟩
    rw [Slot.bssid?, hentry, Option.map_some, hbssid]

/-- The access point is new: nobody uses one of the slots, none of them holds it once they are
purged, and what is known of all slots leads to the choice. -/
structure NewIn (bssid : MacAddress) (seen slots : List Slot) (k : Nat) : Prop where
  free : ∀ slot ∈ slots, slot.isHeld = false
  other : ∀ slot ∈ slots, slot.purge.bssid? ≠ some bssid
  choice : ∃ v : Survey, v.Describes (seen ++ slots.map Slot.purge) ∧ v.choice? = some k

/-- A slot that does not hold the access point was seen before the others. -/
private theorem NewIn.cons {seen slots : List Slot} {slot : Slot} {k : Nat}
    (h : NewIn bssid (seen ++ [slot.purge]) slots k) (hheld : slot.isHeld = false)
    (hbssid : slot.purge.bssid? ≠ some bssid) : NewIn bssid seen (slot :: slots) k where
  free := by
    intro s hs
    rcases List.mem_cons.mp hs with rfl | hs
    · exact hheld
    · exact h.free s hs
  other := by
    intro s hs
    rcases List.mem_cons.mp hs with rfl | hs
    · exact hbssid
    · exact h.other s hs
  choice := by simpa using h.choice

/-- All slots are seen and purged before an access point counts as new. -/
theorem survey_new {slots : List Slot} {index : Nat} {v : Survey} {k : Nat}
    (h : (survey bssid slots index v).2 = .ok (k, false)) :
    ∀ seen : List Slot, index = seen.length → v.Describes seen →
      (survey bssid slots index v).1 = slots.map Slot.purge ∧ NewIn bssid seen slots k := by
  -- The slots in `seen` come before the others, so that numbers are places in both lists together.
  fun_induction survey bssid slots index v with
  | case1 _ v i hchoice =>
    cases h
    intro seen _ hv
    exact ⟨rfl, by simp, by simp, v, by simpa using hv, hchoice⟩
  | case2 => cases h
  | case3 => cases h
  | case4 first rest index v hheld slot hentry purged found hfound ih =>
    intro seen hindex hv
    subst hindex
    obtain ⟨hpurged, hnew⟩ := ih (by rw [hfound]; exact h) (seen ++ [slot]) (by simp)
      (hv.seeFree hentry)
    refine ⟨?_, hnew.cons (by simpa using hheld) ?_⟩
    · rw [hfound] at hpurged
      rw [List.map_cons, ← hpurged]
    · show slot.bssid? ≠ some bssid
      rw [Slot.bssid?, hentry]
      simp
  | case5 => cases h
  | case6 first rest index v hheld slot record hentry hbssid purged found hfound ih =>
    intro seen hindex hv
    subst hindex
    obtain ⟨hpurged, hnew⟩ := ih (by rw [hfound]; exact h) (seen ++ [slot]) (by simp)
      (hv.seeEntry hentry)
    refine ⟨?_, hnew.cons (by simpa using hheld) ?_⟩
    · rw [hfound] at hpurged
      rw [List.map_cons, ← hpurged]
    · show slot.bssid? ≠ some bssid
      rw [Slot.bssid?, hentry]
      simpa using hbssid

/-! ### Taking in an observation -/

/-- The slot with what was observed.  Its entry is kept only if it is `known` to be one of the
access point. -/
def Slot.write (o : Observation) (known : Bool) (slot : Slot) : Slot :=
  let record := if known then slot.entry.getD (.blank o.bssid) else .blank o.bssid
  { slot with entry := some (record.update o) }

/-- A new entry is one of the observed access point. -/
@[simp] theorem Slot.bssid?_write_new (o : Observation) (slot : Slot) :
    (slot.write o false).bssid? = some o.bssid := rfl

/-- An entry stays with its access point. -/
theorem Slot.bssid?_write_known {o : Observation} {slot : Slot} (h : slot.bssid? = some o.bssid) :
    (slot.write o true).bssid? = some o.bssid := by
  obtain ⟨r, hentry, hbssid⟩ := Option.map_eq_some_iff.mp h
  simp [Slot.bssid?, Slot.write, hentry, hbssid]

namespace Table

variable {t : Table} {o : Observation} {i : Nat}

/-- The access point in a slot, be it reported or not. -/
def bssid? (i : Nat) (t : Table) : Option MacAddress := t.slots[i]?.bind Slot.bssid?

theorem length_surveyed (o : Observation) (t : Table) :
    (survey o.bssid t.slots 0 .start).1.length = tableSize := by
  rw [length_survey, t.length_slots]

/-- The table after the radio looked at its slots. -/
def surveyed (o : Observation) (t : Table) : Table :=
  ⟨(survey o.bssid t.slots 0 .start).1, length_surveyed o t⟩

theorem getElem?_surveyed {slot : Slot} (h : t.slots[i]? = some slot) :
    (t.surveyed o).slots[i]? = some slot ∨
      (slot.isHeld = false ∧ (t.surveyed o).slots[i]? = some slot.purge) :=
  getElem?_survey t.slots 0 .start i slot h

theorem getElem?_surveyed_eq_none (h : t.slots[i]? = none) : (t.surveyed o).slots[i]? = none := by
  rw [List.getElem?_eq_none_iff, length_slots] at h ⊢
  exact h

/-- What may become of the table when an observation is taken in. -/
inductive Recorded (o : Observation) (t : Table) : Table × Except TableError Nat → Prop
  /-- Somebody used a slot that was needed. -/
  | refused (e : TableError) : Recorded o t (t.surveyed o, .error e)
  /-- The access point had an entry. -/
  | updated (i : Nat) (hknown : (t.surveyed o).bssid? i = some o.bssid) :
      Recorded o t ((t.surveyed o).modify i (Slot.write o true), .ok i)
  /-- The access point was new. -/
  | created (i : Nat) (hpurged : t.surveyed o = t.map Slot.purge)
      (hnew : NewIn o.bssid [] t.slots i) :
      Recorded o t ((t.surveyed o).modify i (Slot.write o false), .ok i)

/-- Nothing else becomes of it. -/
theorem recorded_record (o : Observation) (seized : Nat → Bool) (t : Table) :
    Recorded o t (t.record o seized) := by
  unfold record
  simp only
  split
  · exact .refused _
  · rename_i k known hfound
    split
    · -- The host got hold of the slot after the radio had looked at it.
      exact .refused .busy
    · cases known with
      | true =>
        obtain ⟨j, slot, hk, hslot, hbssid, -⟩ := survey_known hfound
        obtain rfl : k = j := by omega
        refine .updated k ?_
        show (survey o.bssid t.slots 0 .start).1[k]?.bind Slot.bssid? = _
        rw [hslot, Option.bind_some, hbssid]
      | false =>
        obtain ⟨hslots, hnew⟩ := survey_new hfound [] rfl .start
        refine .created k ?_ hnew
        simp only [surveyed, hslots]
        rfl

end Table

end WlanControl.Discovery
