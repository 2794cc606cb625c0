import WlanControl.Proofs.TableSurvey

namespace WlanControl.Discovery

open Sync (Processor)

/-!
# The table of access points — all runs

The radio takes in observations, lets the entries age and forgets them, while slots get into other
hands and out of them at any time.  An operation looks at a slot once, and once more if it writes to
it.  What the host does to a slot in the meantime therefore has the effect of doing it before or
after the operation, but for getting hold of the slot between the two looks.

* `Action`, `Table.run` — the runs;
* `Table.Vacates` — a step in which a slot loses its access point;
* `Table.Consistent` — what holds in between.

Main statement: `Table.consistent_run`, an access point has one slot and keeps it, and an
observation that is dropped goes unnoticed.
-/

/-- What happens to a table. -/
inductive Action
  /-- The radio takes in an observation, and the host gets hold of some of the slots that were
  looked at. -/
  | record (o : Observation) (seized : Nat → Bool)
  /-- The radio lets the entries age. -/
  | tick
  /-- The radio forgets the entries. -/
  | clear
  /-- A processor takes a slot, if nobody uses it. -/
  | hold (who : Processor) (i : Nat)
  /-- A slot is given back. -/
  | release (i : Nat)

namespace Table

/-- The table after one more action. -/
def step (t : Table) : Action → Table
  | .record o seized => (t.record o seized).1
  | .tick => t.tick.1
  | .clear => t.clear
  | .hold who i => (t.hold? who i).getD t
  | .release i => t.release i

/-- The table after some actions. -/
def run (actions : List Action) (t : Table) : Table := actions.foldl step t

/-- An observation of an access point without a slot has none left: all of them hold entries that
are reported, and slot `i` holds the first one of the oldest. -/
def Evicts (o : Observation) (i : Nat) (t : Table) : Prop :=
  ∃ r, t.get i = .ok r ∧ ∀ j < tableSize, ∃ r', t.get j = .ok r' ∧ r'.bssid ≠ o.bssid ∧
    r'.age ≤ r.age ∧ (j < i → r'.age < r.age)

/-- Slot `i` loses its access point. -/
inductive Vacates (i : Nat) (t : Table) : Action → Prop
  /-- The slot is freed. -/
  | freed {a : Action} (hfree : (t.step a).bssid? i = none) : Vacates i t a
  /-- The slot is freed, since its entry was not to be reported any more, and written to again. -/
  | purged {o : Observation} {seized : Nat → Bool} {slot : Slot} (hslot : t.slots[i]? = some slot)
      (hstale : slot.stale = true) (hwritten : (t.record o seized).2 = .ok i) :
      Vacates i t (.record o seized)
  /-- The entry is evicted. -/
  | evicted {o : Observation} {seized : Nat → Bool} (hevicts : t.Evicts o i)
      (hwritten : (t.record o seized).2 = .ok i) : Vacates i t (.record o seized)

variable {t : Table} {i k : Nat} {b : MacAddress} {o : Observation} {seized : Nat → Bool}

/-! ### Operations on slots -/

/-- An operation on slots frees a slot, or leaves the access point in it. -/
def Spares (f : Slot → Slot) : Prop :=
  ∀ slot, (f slot).bssid? = none ∨ (f slot).bssid? = slot.bssid?

theorem spares_purge : Spares Slot.purge := by
  intro slot
  cases hstale : slot.stale with
  | true => exact .inl (by rw [Slot.bssid?, Slot.entry_purge_of_stale hstale, Option.map_none])
  | false => exact .inr (by rw [Slot.purge_of_fresh hstale])

theorem spares_tick : Spares fun slot => slot.tick.1 := by
  intro slot
  show slot.tick.1.bssid? = none ∨ slot.tick.1.bssid? = slot.bssid?
  unfold Slot.tick
  split
  · exact .inr rfl
  · simp only
    split
    · rename_i hentry
      left
      rw [Slot.bssid?, hentry, Option.map_none]
    · rename_i r hentry
      split
      · exact .inl rfl
      · rcases spares_purge slot with h | h
        · rw [Slot.bssid?, hentry] at h
          cases h
        · right
          rw [← h, Slot.bssid?, Slot.bssid?, hentry]
          rfl

theorem spares_clear : Spares Slot.clear := by
  intro slot
  unfold Slot.clear
  split
  · exact .inr rfl
  · exact .inl rfl

/-- Who holds a slot does not matter for what is in it. -/
theorem spares_holder (who : Option Processor) : Spares fun slot => { slot with holder := who } :=
  fun _ => .inr rfl

theorem bssid?_map (f : Slot → Slot) :
    (t.map f).bssid? i = t.slots[i]?.bind fun slot => (f slot).bssid? := by
  rw [bssid?, map, List.getElem?_map, Option.bind_map]
  rfl

theorem bssid?_modify_self (f : Slot → Slot) :
    (t.modify i f).bssid? i = t.slots[i]?.bind fun slot => (f slot).bssid? := by
  rw [bssid?, modify, List.getElem?_modify]
  cases t.slots[i]? <;> simp

theorem bssid?_modify_of_ne (f : Slot → Slot) (h : k ≠ i) :
    (t.modify k f).bssid? i = t.bssid? i := by
  rw [bssid?, bssid?, modify, List.getElem?_modify]
  cases t.slots[i]? <;> simp [h]

/-- Changing a slot by an operation that spares slots, looked at in that slot or any other. -/
theorem Spares.bind {f : Slot → Slot} (hf : Spares f) (slot? : Option Slot) :
    (slot?.bind fun slot => (f slot).bssid?) = none ∨
      (slot?.bind fun slot => (f slot).bssid?) = slot?.bind Slot.bssid? := by
  cases slot? with
  | none => exact .inl rfl
  | some slot => exact hf slot

theorem Spares.map {f : Slot → Slot} (hf : Spares f) :
    (t.map f).bssid? i = none ∨ (t.map f).bssid? i = t.bssid? i := by
  rw [bssid?_map]
  exact hf.bind t.slots[i]?

theorem Spares.modify {f : Slot → Slot} (hf : Spares f) :
    (t.modify k f).bssid? i = none ∨ (t.modify k f).bssid? i = t.bssid? i := by
  by_cases hk : k = i
  · subst hk
    rw [bssid?_modify_self]
    exact hf.bind t.slots[k]?
  · exact .inr (bssid?_modify_of_ne f hk)

/-- Looking at slots frees some of them. -/
theorem bssid?_surveyed (o : Observation) (i : Nat) (t : Table) :
    (t.surveyed o).bssid? i = none ∨ (t.surveyed o).bssid? i = t.bssid? i := by
  unfold bssid?
  cases hslot : t.slots[i]? with
  | none => exact .inl (by rw [getElem?_surveyed_eq_none hslot, Option.bind_none])
  | some slot =>
    rcases getElem?_surveyed hslot with hsame | ⟨-, hpurged⟩
    · exact .inr (by rw [hsame])
    · rw [hpurged]
      exact spares_purge slot

/-- Nobody but an observation puts an access point into a slot. -/
theorem record_or_spares (t : Table) (a : Action) :
    (∃ o seized, a = .record o seized) ∨
      ∀ i, (t.step a).bssid? i = none ∨ (t.step a).bssid? i = t.bssid? i := by
  cases a with
  | record o seized => exact .inl ⟨o, seized, rfl⟩
  | tick => exact .inr fun _ => spares_tick.map
  | clear => exact .inr fun _ => spares_clear.map
  | hold who k =>
    right
    intro i
    show ((t.hold? who k).getD t).bssid? i = none ∨ ((t.hold? who k).getD t).bssid? i = _
    unfold hold?
    split
    · split
      · exact .inr rfl
      · exact (spares_holder (some who)).modify
    · exact .inr rfl
  | release k => exact .inr fun _ => (spares_holder none).modify

/-! ### One slot for each access point -/

/-- No access point is in two slots. -/
def Distinct (t : Table) : Prop :=
  ∀ i j b, t.bssid? i = some b → t.bssid? j = some b → i = j

theorem distinct_empty : Distinct empty := by
  intro i j b h
  rw [bssid?, empty, List.getElem?_replicate] at h
  split at h
  · cases h
  · cases h

/-- An observation puts its access point into one slot at most. -/
theorem bssid?_record (h : (t.record o seized).1.bssid? i = some b) :
    t.bssid? i = some b ∨ ∀ j, (t.record o seized).1.bssid? j = some b → j = i := by
  have hseen : ∀ j, (t.surveyed o).bssid? j = some b → t.bssid? j = some b := by
    intro j hj
    rcases bssid?_surveyed o j t with hnone | hsame
    · rw [hnone] at hj
      cases hj
    · rw [← hsame, hj]
  -- By cases on what may become of the table, all of which is known of the result.
  generalize hresult : t.record o seized = result at h ⊢
  have hrecorded := recorded_record o seized t
  rw [hresult] at hrecorded
  cases hrecorded with
  | refused e => exact .inl (hseen i h)
  | updated k hknown =>
    left
    by_cases hk : k = i
    · subst hk
      rw [bssid?_modify_self] at h
      obtain ⟨slot, hslot, hbssid⟩ := Option.bind_eq_some_iff.mp hknown
      rw [hslot, Option.bind_some, Slot.bssid?_write_known hbssid] at h
      exact hseen k (by rw [hknown, h])
    · rw [bssid?_modify_of_ne _ hk] at h
      exact hseen i h
  | created k hpurged hnew =>
    by_cases hk : k = i
    · subst hk
      right
      intro j hj
      rw [bssid?_modify_self] at h
      obtain ⟨slot, hslot, hbssid⟩ := Option.bind_eq_some_iff.mp h
      rw [Slot.bssid?_write_new] at hbssid
      cases hbssid
      -- All slots were looked at, and none of them held the access point.
      by_cases hjk : k = j
      · exact hjk.symm
      · rw [bssid?_modify_of_ne _ hjk, hpurged, bssid?_map] at hj
        obtain ⟨other, hother, hsame⟩ := Option.bind_eq_some_iff.mp hj
        exact absurd hsame (hnew.other other (List.mem_of_getElem? hother))
    · left
      rw [bssid?_modify_of_ne _ hk] at h
      exact hseen i h

/-- An action puts at most one access point into a slot, and then it is in no other. -/
theorem bssid?_step {a : Action} (h : (t.step a).bssid? i = some b) :
    t.bssid? i = some b ∨ ∀ j, (t.step a).bssid? j = some b → j = i := by
  rcases record_or_spares t a with ⟨o, seized, rfl⟩ | hspares
  · exact bssid?_record h
  · left
    rcases hspares i with hnone | hsame
    · rw [hnone] at h
      cases h
    · rw [← hsame, h]

theorem distinct_step (h : t.Distinct) (a : Action) : (t.step a).Distinct := by
  intro i j b hi hj
  rcases bssid?_step hi with hi' | honly
  · rcases bssid?_step hj with hj' | honly
    · exact h i j b hi' hj'
    · exact honly i hi
  · exact (honly j hj).symm

theorem distinct_run (h : t.Distinct) (actions : List Action) : (run actions t).Distinct := by
  induction actions generalizing t with
  | nil => exact h
  | cons a rest ih => exact ih (distinct_step h a)

/-! ### A slot keeps its access point -/

/-- A slot that is read once it is purged is read already. -/
theorem get_eq_ok_of_purge {slot : Slot} {r : Record} (hslot : t.slots[i]? = some slot)
    (hfree : slot.isHeld = false) (hentry : slot.purge.entry = some r) : t.get i = .ok r := by
  have hread : slot.purge.read = .ok r :=
    Slot.read_eq_ok (by rw [Slot.isHeld_purge, hfree]) slot.stale_purge hentry
  rw [get, hslot]
  rw [Slot.read_purge] at hread
  exact hread

/-- A new access point goes to a slot that is free, once it is purged, or else one is evicted. -/
theorem evicts_of_newIn {slot : Slot} {r : Record} (hnew : NewIn o.bssid [] t.slots i)
    (hslot : t.slots[i]? = some slot) (hentry : slot.purge.entry = some r) : t.Evicts o i := by
  -- An occupied slot is only chosen if all slots are, and then it is the first of the oldest.
  obtain ⟨v, hv, hchoice⟩ := hnew.choice
  obtain ⟨chosen, hchosen, hoccupied⟩ := hv.of_choice hchoice
  rw [List.nil_append] at hchosen hoccupied
  rw [List.getElem?_map, hslot] at hchosen
  cases hchosen
  refine ⟨r, get_eq_ok_of_purge hslot (hnew.free slot (List.mem_of_getElem? hslot)) hentry, ?_⟩
  intro j hj
  have hlt : j < t.slots.length := by
    rw [t.length_slots]
    exact hj
  obtain ⟨other, hother⟩ : ∃ other, t.slots[j]? = some other := ⟨_, List.getElem?_eq_getElem hlt⟩
  have hmem := List.mem_of_getElem? hother
  obtain ⟨r', hr', hage, hfirst⟩ :=
    hoccupied r hentry j other.purge (by rw [List.getElem?_map, hother, Option.map_some])
  refine ⟨r', get_eq_ok_of_purge hother (hnew.free other hmem) hr', ?_, hage, hfirst⟩
  intro hsame
  refine hnew.other other hmem ?_
  rw [Slot.bssid?, hr', Option.map_some, hsame]

/-- An observation leaves a slot alone that it does not vacate. -/
theorem bssid?_record_of_not_vacates (hb : t.bssid? i = some b)
    (h : ¬ t.Vacates i (.record o seized)) : (t.record o seized).1.bssid? i = some b := by
  -- The slot is not freed, which leaves an eviction or writing to a stale slot.
  have hkept : (t.record o seized).1.bssid? i ≠ none := fun hfree => h (.freed hfree)
  have hseen : (t.surveyed o).bssid? i ≠ none → (t.surveyed o).bssid? i = some b := by
    intro hne
    rcases bssid?_surveyed o i t with hnone | hsame
    · exact absurd hnone hne
    · rw [hsame, hb]
  have hpurged := fun slot => @Vacates.purged i t o seized slot
  have hevicted := @Vacates.evicted i t o seized
  generalize hresult : t.record o seized = result at hkept hpurged hevicted ⊢
  have hrecorded := recorded_record o seized t
  rw [hresult] at hrecorded
  cases hrecorded with
  | refused e => exact hseen hkept
  | updated k hknown =>
    by_cases hk : k = i
    · subst hk
      obtain ⟨slot, hslot, hbssid⟩ := Option.bind_eq_some_iff.mp hknown
      rw [bssid?_modify_self, hslot, Option.bind_some, Slot.bssid?_write_known hbssid, ← hknown]
      exact hseen (by rw [hknown]; simp)
    · rw [bssid?_modify_of_ne _ hk] at hkept ⊢
      exact hseen hkept
  | created k hmap hnew =>
    by_cases hk : k = i
    · -- A slot with an entry is only chosen if the entry is stale or the oldest one.
      subst hk
      exfalso
      obtain ⟨slot, hslot, hbssid⟩ := Option.bind_eq_some_iff.mp hb
      cases hstale : slot.stale with
      | true => exact h (hpurged slot hslot hstale rfl)
      | false =>
        obtain ⟨r, hentry, -⟩ := Option.map_eq_some_iff.mp hbssid
        rw [← Slot.purge_of_fresh hstale] at hentry
        exact h (hevicted (evicts_of_newIn hnew hslot hentry) rfl)
    · rw [bssid?_modify_of_ne _ hk] at hkept ⊢
      exact hseen hkept

/-- No action but one that vacates a slot takes the access point away. -/
theorem bssid?_step_of_not_vacates {a : Action} (hb : t.bssid? i = some b)
    (h : ¬ t.Vacates i a) : (t.step a).bssid? i = some b := by
  rcases record_or_spares t a with ⟨o, seized, rfl⟩ | hspares
  · exact bssid?_record_of_not_vacates hb h
  · rcases hspares i with hnone | hsame
    · exact absurd (.freed hnone) h
    · rw [hsame, hb]

/-- Between two access points in a slot there is an action that vacates it. -/
theorem exists_vacates (rest : List Action) (hb : t.bssid? i = some b)
    (hchanged : (run rest t).bssid? i ≠ some b) :
    ∃ before a after, rest = before ++ a :: after ∧ (run before t).Vacates i a := by
  -- The first action that vacates the slot, since the ones before leave the access point in it.
  induction rest generalizing t with
  | nil => exact absurd hb hchanged
  | cons a rest ih =>
    by_cases hvacates : t.Vacates i a
    · exact ⟨[], a, rest, rfl, hvacates⟩
    · obtain ⟨before, a', after, hrest, hlater⟩ :=
        ih (bssid?_step_of_not_vacates hb hvacates) hchanged
      exact ⟨a :: before, a', after, by rw [hrest, List.cons_append], hlater⟩

/-! ### What readers notice of an observation that is dropped -/

theorem get_surveyed (o : Observation) (i : Nat) (t : Table) :
    (t.surveyed o).get i = t.get i := by
  unfold get
  cases hslot : t.slots[i]? with
  | none => rw [getElem?_surveyed_eq_none hslot]
  | some slot =>
    rcases getElem?_surveyed hslot with hsame | ⟨-, hpurged⟩
    · rw [hsame]
    · rw [hpurged]
      exact slot.read_purge

/-- What is reported of a slot depends on how it is read. -/
theorem entries_eq (t : Table) :
    t.entries = (t.slots.map Slot.read).zipIdx.filterMap fun (read, index) =>
      match read with
      | .ok r => some (index, r)
      | .error _ => none := by
  rw [List.zipIdx_map, List.filterMap_map]
  rfl

/-- What is found in the table can be read there. -/
theorem get_of_mem_entries {r : Record} (h : (i, r) ∈ t.entries) : t.get i = .ok r := by
  obtain ⟨⟨slot, k⟩, hmem, hread⟩ := List.mem_filterMap.mp h
  have hslot : t.slots[k]? = some slot := by
    rw [List.mem_zipIdx_iff_getElem?] at hmem
    exact hmem
  simp only at hread
  split at hread
  · rename_i read hok
    cases hread
    rw [get, hslot]
    exact hok
  · cases hread

/-- Readers do not notice that the radio looked at the slots. -/
theorem entries_surveyed (o : Observation) (t : Table) : (t.surveyed o).entries = t.entries := by
  -- A slot that was purged reads as before.
  have hread : (t.surveyed o).slots.map Slot.read = t.slots.map Slot.read := by
    apply List.ext_getElem?
    intro i
    rw [List.getElem?_map, List.getElem?_map]
    cases hslot : t.slots[i]? with
    | none => rw [getElem?_surveyed_eq_none hslot]
    | some slot =>
      rcases getElem?_surveyed hslot with hsame | ⟨-, hpurged⟩
      · rw [hsame]
      · rw [hpurged, Option.map_some, Option.map_some, Slot.read_purge]
  rw [entries_eq, entries_eq, hread]

/-- An observation that is dropped has done no more than look at the slots. -/
theorem record_of_error {e : TableError} (h : (t.record o seized).2 = .error e) :
    (t.record o seized).1 = t.surveyed o := by
  have hrecorded := recorded_record o seized t
  generalize t.record o seized = result at h hrecorded ⊢
  cases hrecorded with
  | refused => rfl
  | updated => cases h
  | created => cases h

/-! ### All runs -/

/-- What holds at any time. -/
structure Consistent (t : Table) : Prop where
  /-- An access point is in one slot at most, be it reported or not. -/
  distinct : t.Distinct
  /-- An access point leaves its slot only when the slot is freed or its entry evicted. -/
  keeps : ∀ i b rest, t.bssid? i = some b → (run rest t).bssid? i ≠ some b →
    ∃ before a after, rest = before ++ a :: after ∧ (run before t).Vacates i a
  /-- Readers do not notice an observation that was dropped. -/
  dropped : ∀ o seized, (t.record o seized).2 = .error .busy →
    (t.record o seized).1.entries = t.entries ∧ ∀ i, (t.record o seized).1.get i = t.get i

/-- At any time an access point is in one slot, which it keeps until it is freed or evicted, and an
observation that is dropped goes unnoticed. -/
theorem consistent_run (actions : List Action) : (run actions empty).Consistent where
  distinct := distinct_run distinct_empty actions
  keeps := fun _ _ rest hb hchanged => exists_vacates rest hb hchanged
  dropped := by
    intro o seized hbusy
    rw [record_of_error hbusy]
    exact ⟨entries_surveyed o _, fun i => get_surveyed o i _⟩

end Table

end WlanControl.Discovery
