import Mathlib.Data.List.Induction
import WlanControl.Proofs.TableHistory

namespace WlanControl.Discovery

/-!
# The table of access points — where its records come from

A slot that is in use when the table is cleared keeps its old entry.  It is marked as stale, and the
mark goes only together with the entry.  Whatever is read of the table therefore comes from what was
observed since it was cleared, however the slots are held in the meantime.

* `Record.Stems` — a record is made of some of the observations and of nothing else;
* `Slot.Reports`, `Table.StemsFrom` — the entries that are not masked, and where they come from;
* `Table.stemsFrom_clear`, `Table.StemsFrom.record`, … — one lemma for each operation;
* `Table.Reads` — all that a reader can get.

Main statement: `Table.stems_since_clear`, no reader gets anything that was observed before the
table was cleared.
-/

/-! ### Records -/

namespace Record

variable {heard heard' : List Observation} {r : Record} {o : Observation}

/-- The record that some observations make of a blank one, in their order. -/
def made (bssid : MacAddress) (os : List Observation) : Record :=
  os.foldl (fun r o => r.update o) (.blank bssid)

/-- The record is made of some of the observations, all of its access point, and nothing else but
its age comes from elsewhere. -/
def Stems (heard : List Observation) (r : Record) : Prop :=
  ∃ os age, os.Sublist heard ∧ os ≠ [] ∧ (∀ o ∈ os, o.bssid = r.bssid) ∧
    r = { made r.bssid os with age }

theorem made_append (bssid : MacAddress) (os : List Observation) (o : Observation) :
    made bssid (os ++ [o]) = (made bssid os).update o := by
  simp [made]

@[simp] theorem bssid_made (bssid : MacAddress) (os : List Observation) :
    (made bssid os).bssid = bssid := by
  induction os using List.reverseRecOn with
  | nil => rfl
  | append_singleton os o ih => rw [made_append, bssid_update, ih]

namespace Stems

theorem mono (h : r.Stems heard) (hmore : heard.Sublist heard') : r.Stems heard' := by
  obtain ⟨os, age, hos, hrest⟩ := h
  exact ⟨os, age, hos.trans hmore, hrest⟩

/-- A record gets older. -/
theorem withAge (h : r.Stems heard) (age : Nat) : Stems heard { r with age } := by
  obtain ⟨os, _, hos, hne, hbssid, hr⟩ := h
  refine ⟨os, age, hos, hne, hbssid, ?_⟩
  show ({ r with age } : Record) = { made r.bssid os with age }
  rw [hr]
  simp only [bssid_made]

/-- One more observation of the access point. -/
theorem update (h : r.Stems heard) (hsame : r.bssid = o.bssid) :
    (r.update o).Stems (heard ++ [o]) := by
  obtain ⟨os, age, hos, -, hbssid, hr⟩ := h
  refine ⟨os ++ [o], 0, hos.append (.refl _), by simp, ?_, ?_⟩
  · intro o' ho'
    rcases List.mem_append.mp ho' with ho' | ho'
    · exact hbssid o' ho'
    · rw [List.mem_singleton.mp ho']
      exact hsame.symm
  · -- The age before the observation is forgotten.
    rw [bssid_update, made_append]
    exact congrArg (Record.update o) hr

end Stems

/-- Without observations there is no record. -/
theorem not_stems_nil : ¬ r.Stems [] := by
  rintro ⟨os, _, hos, hne, -⟩
  exact hne (List.sublist_nil.mp hos)

/-- The first observation of an access point. -/
theorem stems_blank (heard : List Observation) (o : Observation) :
    ((blank o.bssid).update o).Stems (heard ++ [o]) :=
  ⟨[o], 0, List.sublist_append_right heard [o], by simp, by simp [blank], rfl⟩

end Record

/-! ### Slots -/

namespace Slot

/-- The slot has an entry, which is not masked. -/
def Reports (slot : Slot) (r : Record) : Prop := slot.stale = false ∧ slot.entry = some r

/-- An operation on slots brings nothing into a slot, but the entry may get older. -/
def Retains (f : Slot → Slot) : Prop :=
  ∀ slot r, (f slot).Reports r → ∃ r₀ age, slot.Reports r₀ ∧ r = { r₀ with age }

theorem retains_purge : Retains purge := by
  intro slot r h
  cases hstale : slot.stale with
  | true =>
    rw [Reports, entry_purge_of_stale hstale] at h
    cases h.2
  | false =>
    rw [purge_of_fresh hstale] at h
    exact ⟨r, r.age, h, rfl⟩

theorem retains_tick : Retains fun slot => slot.tick.1 := by
  intro slot r
  have hpurged := retains_purge slot
  show slot.tick.1.Reports r → _
  unfold tick
  split
  · intro h
    exact ⟨r, r.age, h, rfl⟩
  · simp only
    split
    · rename_i hentry
      intro h
      cases hentry.symm.trans h.2
    · rename_i r₁ hentry
      obtain ⟨r₀, _, hr₀, hr₁⟩ := hpurged r₁ ⟨slot.stale_purge, hentry⟩
      split
      · intro h
        cases h.2
      · rintro ⟨-, h⟩
        cases h
        exact ⟨r₀, r₁.age + 1, hr₀, by rw [hr₁]⟩

end Slot

/-! ### The table -/

namespace Table

variable {t t' : Table} {heard heard' : List Observation} {r : Record} {i : Nat}

/-- All that is reported stems from the observations. -/
def StemsFrom (heard : List Observation) (t : Table) : Prop :=
  ∀ slot ∈ t.slots, ∀ r, slot.Reports r → r.Stems heard

/-- What is in the slots, whoever holds them. -/
def bare (t : Table) : List Slot := t.slots.map fun slot => { slot with holder := none }

namespace StemsFrom

theorem mono (h : t.StemsFrom heard) (hmore : heard.Sublist heard') : t.StemsFrom heard' :=
  fun slot hslot r hr => (h slot hslot r hr).mono hmore

theorem of_retains (h : t.StemsFrom heard)
    (hslots : ∀ slot' ∈ t'.slots, ∃ slot ∈ t.slots, ∀ r, slot'.Reports r →
      ∃ r₀ age, slot.Reports r₀ ∧ r = { r₀ with age }) : t'.StemsFrom heard := by
  intro slot' hslot' r hr
  obtain ⟨slot, hslot, hretains⟩ := hslots slot' hslot'
  obtain ⟨r₀, age, hr₀, rfl⟩ := hretains r hr
  exact (h slot hslot r₀ hr₀).withAge age

theorem map (h : t.StemsFrom heard) {f : Slot → Slot} (hf : Slot.Retains f) :
    (t.map f).StemsFrom heard := by
  refine h.of_retains fun slot' hslot' => ?_
  obtain ⟨slot, hslot, rfl⟩ := List.mem_map.mp hslot'
  exact ⟨slot, hslot, fun r hr => hf slot r hr⟩

theorem tick (h : t.StemsFrom heard) : t.tick.1.StemsFrom heard := h.map Slot.retains_tick

/-- Nobody who holds slots or lets go of them changes what is in them. -/
theorem of_bare_eq (h : t.StemsFrom heard) (hbare : t'.bare = t.bare) : t'.StemsFrom heard := by
  refine h.of_retains fun slot' hslot' => ?_
  have hmem : ({ slot' with holder := none } : Slot) ∈ t.bare := by
    rw [← hbare]
    exact List.mem_map_of_mem hslot'
  obtain ⟨slot, hslot, hsame⟩ := List.mem_map.mp hmem
  obtain ⟨-, hentry, hstale⟩ := Slot.mk.inj hsame
  refine ⟨slot, hslot, fun r hr => ⟨r, r.age, ?_, rfl⟩⟩
  exact ⟨hstale.trans hr.1, hentry.trans hr.2⟩

/-- Looking at slots purges some of them. -/
theorem surveyed (h : t.StemsFrom heard) (o : Observation) : (t.surveyed o).StemsFrom heard := by
  refine h.of_retains fun slot' hslot' => ?_
  obtain ⟨k, hk⟩ := List.mem_iff_getElem?.mp hslot'
  cases hslot : t.slots[k]? with
  | none =>
    rw [getElem?_surveyed_eq_none hslot] at hk
    cases hk
  | some slot =>
    refine ⟨slot, List.mem_of_getElem? hslot, ?_⟩
    rcases getElem?_surveyed (o := o) hslot with hsame | ⟨-, hpurged⟩
    · obtain rfl : slot = slot' := Option.some.inj (hsame.symm.trans hk)
      exact fun r hr => ⟨r, r.age, hr, rfl⟩
    · obtain rfl : slot.purge = slot' := Option.some.inj (hpurged.symm.trans hk)
      exact fun r hr => Slot.retains_purge slot r hr

/-- A slot is written to. -/
theorem modify (h : t.StemsFrom heard) (i : Nat) (f : Slot → Slot)
    (hf : ∀ slot ∈ t.slots[i]?, ∀ r, (f slot).Reports r → r.Stems heard) :
    (t.modify i f).StemsFrom heard := by
  intro slot' hslot' r hr
  obtain ⟨k, hk⟩ := List.mem_iff_getElem?.mp hslot'
  rw [Table.modify, List.getElem?_modify] at hk
  cases hslot : t.slots[k]? with
  | none => simp [hslot] at hk
  | some slot =>
    rw [hslot] at hk
    by_cases hik : i = k
    · subst hik
      obtain rfl : f slot = slot' := by simpa using hk
      exact hf slot hslot r hr
    · obtain rfl : slot = slot' := by simpa [hik] using hk
      exact h slot (List.mem_of_getElem? hslot) r hr

/-- An observation goes to the entry of its access point, or to a new one. -/
theorem record (h : t.StemsFrom heard) (o : Observation) (seized : Nat → Bool) :
    (t.record o seized).1.StemsFrom (heard ++ [o]) := by
  have hseen : (t.surveyed o).StemsFrom heard := h.surveyed o
  have hmore : (t.surveyed o).StemsFrom (heard ++ [o]) :=
    hseen.mono (List.sublist_append_left heard [o])
  have hrecorded := recorded_record o seized t
  generalize t.record o seized = result at hrecorded ⊢
  cases hrecorded with
  | refused e => exact hmore
  | updated k hknown =>
    refine hmore.modify k _ fun slot hslot r hr => ?_
    obtain ⟨slot', hslot', hbssid⟩ := Option.bind_eq_some_iff.mp hknown
    obtain rfl : slot' = slot := Option.some.inj (hslot'.symm.trans hslot)
    obtain ⟨r₀, hentry, hsame⟩ := Option.map_eq_some_iff.mp hbssid
    obtain ⟨hstale, hwritten⟩ := hr
    -- What goes on was reported before, since writing to a slot does not unmask it.
    have hr₀ := hseen slot' (List.mem_of_getElem? hslot') r₀ ⟨hstale, hentry⟩
    simp only [Slot.write, hentry, if_true, Option.getD_some, Option.some.injEq] at hwritten
    subst hwritten
    exact hr₀.update hsame
  | created k _ _ =>
    refine hmore.modify k _ fun slot _ r hr => ?_
    obtain ⟨-, hwritten⟩ := hr
    cases hwritten
    exact Record.stems_blank heard o

end StemsFrom

/-- After the table was cleared nothing is reported, whoever held its slots. -/
theorem stemsFrom_clear (t : Table) : t.clear.StemsFrom [] := by
  intro slot' hslot' r hr
  obtain ⟨slot, -, rfl⟩ := List.mem_map.mp hslot'
  obtain ⟨hstale, hentry⟩ := hr
  unfold Slot.clear at hstale hentry
  -- A slot in use is masked now, and any other one is empty.
  split at hstale
  · cases hstale
  · rename_i hfree
    rw [if_neg hfree] at hentry
    cases hentry

theorem bare_modify_holder (who : Option Sync.Processor) (i : Nat) (t : Table) :
    (t.modify i ({ · with holder := who })).bare = t.bare := by
  apply List.ext_getElem?
  intro k
  simp only [bare, modify, List.getElem?_map, List.getElem?_modify]
  cases t.slots[k]? with
  | none => rfl
  | some slot =>
    by_cases hik : i = k <;> simp [hik]

/-- A slot that is taken keeps its contents. -/
theorem bare_hold (who : Sync.Processor) (i : Nat) (t : Table) :
    ((t.hold? who i).getD t).bare = t.bare := by
  unfold hold?
  split
  · split
    · rfl
    · exact bare_modify_holder (some who) i t
  · rfl

/-- A slot that is given back keeps its contents. -/
theorem bare_release (i : Nat) (t : Table) : (t.release i).bare = t.bare :=
  bare_modify_holder none i t

/-! ### Readers -/

/-- A reader gets a record out of the table. -/
inductive Reads (t : Table) : Record → Prop
  | slot {i : Nat} {r : Record} (h : t.get i = .ok r) : Reads t r
  | entry {i : Nat} {r : Record} (h : (i, r) ∈ t.entries) : Reads t r
  | found {candidates : List Matcher} {usable : Record → Bool} {found : Match}
    (h : t.findMatching? candidates usable = some found) : Reads t found.record
  | known {bssid : MacAddress} {i : Nat} {r : Record} (h : t.findBssid? bssid = some (i, r)) :
    Reads t r

theorem mem_of_findMatchingFrom? {usable : Record → Bool} {entries : List (Nat × Record)}
    {number : Nat} {candidates : List Matcher} {found : Match}
    (h : findMatchingFrom? usable entries number candidates = some found) :
    (found.slot, found.record) ∈ entries := by
  induction candidates generalizing number with
  | nil => cases h
  | cons candidate rest ih =>
    unfold findMatchingFrom? at h
    split at h
    · rename_i hfind
      cases h
      exact List.mem_of_find?_eq_some hfind
    · exact ih h

/-- However a record is read, it stands in a slot. -/
theorem Reads.exists_get (h : t.Reads r) : ∃ i, t.get i = .ok r := by
  cases h with
  | slot h => exact ⟨_, h⟩
  | entry h => exact ⟨_, get_of_mem_entries h⟩
  | found h => exact ⟨_, get_of_mem_entries (mem_of_findMatchingFrom? h)⟩
  | known h => exact ⟨_, get_of_mem_entries (List.mem_of_find?_eq_some h)⟩

/-- Readers get only what is reported. -/
theorem StemsFrom.of_reads (h : t.StemsFrom heard) (hread : t.Reads r) : r.Stems heard := by
  obtain ⟨i, hget⟩ := hread.exists_get
  obtain ⟨slot, hslot, hentry, -, hstale⟩ := get_eq_ok hget
  exact h slot (List.mem_of_getElem? hslot) r ⟨hstale, hentry⟩

/-! ### All runs -/

/-- What is observed. -/
def Action.observation? : Action → Option Observation
  | .record o _ => some o
  | .tick | .clear | .hold _ _ | .release _ => none

theorem stemsFrom_step (h : t.StemsFrom heard) (a : Action) :
    (t.step a).StemsFrom (heard ++ (Action.observation? a).toList) := by
  have hmore {t' : Table} (h' : t'.StemsFrom heard) : t'.StemsFrom (heard ++ []) := by
    rw [List.append_nil]
    exact h'
  cases a with
  | record o seized => exact h.record o seized
  | tick => exact hmore h.tick
  | clear => exact hmore ((stemsFrom_clear t).mono (List.nil_sublist heard))
  | hold who i => exact hmore (h.of_bare_eq (bare_hold who i t))
  | release i => exact hmore (h.of_bare_eq (bare_release i t))

theorem stemsFrom_run (h : t.StemsFrom heard) (actions : List Action) :
    (run actions t).StemsFrom (heard ++ actions.filterMap Action.observation?) := by
  induction actions generalizing t heard with
  | nil =>
    rw [List.filterMap_nil, List.append_nil]
    exact h
  | cons a rest ih =>
    have hstep := ih (stemsFrom_step h a)
    rw [List.append_assoc] at hstep
    cases hobserved : Action.observation? a with
    | none =>
      rw [hobserved] at hstep
      rw [List.filterMap_cons_none hobserved]
      exact hstep
    | some o =>
      rw [hobserved] at hstep
      rw [List.filterMap_cons_some hobserved]
      exact hstep

/-- Whatever was in the table when it was cleared, and whoever held its slots, all that a reader
gets stems from what was observed since. -/
theorem stems_since_clear (t : Table) (actions : List Action)
    (hread : (run actions t.clear).Reads r) :
    r.Stems (actions.filterMap Action.observation?) :=
  (stemsFrom_run (stemsFrom_clear t) actions).of_reads hread

end Table

end WlanControl.Discovery
