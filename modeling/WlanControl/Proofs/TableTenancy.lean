import WlanControl.Proofs.TablePlacement

namespace WlanControl.Discovery

/-!
# The table of access points — how long an entry lasts

Every tick lets the entries age, but for those in slots that somebody uses.  An entry that was not
written to for more than `timeout` such ticks is dropped.  To say this for all runs, the history of
each slot is kept beside the table.

* `Tenancy` — what became of a slot since it went to its access point, told by what was written, the
  ticks and when the table was cleared, and not by what stands in the slot;
* `Slot.Tallies` — what stands in the slot, told by its tenancy, with one lemma for each operation;
* `Table.tenancy` — the tenancy of a slot after some actions.

Main statement: `Table.timed_run`, an entry is as old as its tenancy tells and lasts as long, and a
tick counts those that end.
-/

/-- The history of a slot since it went to its access point. -/
structure Tenancy where
  /-- What was observed of the access point, in this order. -/
  heard : List Observation
  /-- The ticks since the last observation at which nobody used the slot. -/
  ticks : Nat
  /-- Nothing was written since the table was made or cleared. -/
  vacated : Bool
deriving DecidableEq, Repr

namespace Tenancy

variable {n : Tenancy} {o : Observation} {r : Record}

/-- The history of a slot to which nothing was written. -/
def start : Tenancy := ⟨[], 0, true⟩

/-- The entry was neither cleared nor did it time out. -/
def Lasts (n : Tenancy) : Prop := n.vacated = false ∧ n.ticks ≤ timeout

instance : Decidable n.Lasts := inferInstanceAs (Decidable (_ ∧ _))

/-- The access point that was observed last. -/
def bssid? (n : Tenancy) : Option MacAddress := n.heard.getLast?.map Observation.bssid

/-- An observation is written to the slot.  It goes on with the tenancy if there is one of its
access point, and else it begins one. -/
def hear (o : Observation) (n : Tenancy) : Tenancy :=
  if n.Lasts ∧ n.bssid? = some o.bssid then ⟨n.heard ++ [o], 0, false⟩ else ⟨[o], 0, false⟩

/-- A tick at which nobody uses the slot. -/
def pass (n : Tenancy) : Tenancy := { n with ticks := n.ticks + 1 }

/-- The table is cleared. -/
def vacate (n : Tenancy) : Tenancy := { n with vacated := true }

/-- The record that the observations make, at the age that the ticks make. -/
structure Yields (n : Tenancy) (r : Record) : Prop where
  ne_nil : n.heard ≠ []
  bssid_eq : ∀ o ∈ n.heard, o.bssid = r.bssid
  eq_made : r = { Record.made r.bssid n.heard with age := n.ticks }
  ticks_le : n.ticks ≤ timeout

/-- Either way the slot is of the observed access point now. -/
theorem bssid?_hear (o : Observation) (n : Tenancy) : (n.hear o).bssid? = some o.bssid := by
  unfold hear
  split <;> simp [bssid?]

theorem lasts_hear (o : Observation) (n : Tenancy) : (n.hear o).Lasts := by
  unfold hear
  split <;> exact ⟨rfl, Nat.zero_le _⟩

theorem not_lasts_vacate (n : Tenancy) : ¬ n.vacate.Lasts := fun h => by cases h.1

theorem lasts_of_pass (h : n.pass.Lasts) : n.Lasts := ⟨h.1, Nat.le_of_succ_le h.2⟩

namespace Yields

theorem age_eq (h : n.Yields r) : r.age = n.ticks := by rw [h.eq_made]

theorem age_le (h : n.Yields r) : r.age ≤ timeout := by
  rw [h.age_eq]
  exact h.ticks_le

theorem bssid?_eq (h : n.Yields r) : n.bssid? = some r.bssid := by
  rw [bssid?, List.getLast?_eq_some_getLast h.ne_nil, Option.map_some,
    h.bssid_eq _ (List.getLast_mem h.ne_nil)]

/-- A record gets older by a tick. -/
theorem pass (h : n.Yields r) (hle : r.age + 1 ≤ timeout) :
    n.pass.Yields { r with age := r.age + 1 } where
  ne_nil := h.ne_nil
  bssid_eq := h.bssid_eq
  eq_made := by
    show ({ r with age := r.age + 1 } : Record) =
      { Record.made r.bssid n.heard with age := n.ticks + 1 }
    rw [h.age_eq]
    conv_lhs => rw [h.eq_made]
  ticks_le := by
    rw [h.age_eq] at hle
    exact hle

/-- One more observation of the access point. -/
theorem update (h : n.Yields r) (hlasts : n.Lasts) (hsame : r.bssid = o.bssid) :
    (n.hear o).Yields (r.update o) := by
  have hhear : n.hear o = ⟨n.heard ++ [o], 0, false⟩ := by
    rw [hear, if_pos ⟨hlasts, by rw [h.bssid?_eq, hsame]⟩]
  rw [hhear]
  refine ⟨by simp, ?_, ?_, Nat.zero_le _⟩
  · intro o' ho'
    rcases List.mem_append.mp ho' with ho' | ho'
    · exact h.bssid_eq o' ho'
    · rw [List.mem_singleton.mp ho']
      exact hsame.symm
  · -- The age before the observation is forgotten.
    rw [Record.bssid_update, Record.made_append]
    exact congrArg (Record.update o) h.eq_made

/-- The first observation of an access point in the slot. -/
theorem blank (hother : ¬ (n.Lasts ∧ n.bssid? = some o.bssid)) :
    (n.hear o).Yields ((Record.blank o.bssid).update o) := by
  rw [hear, if_neg hother]
  exact ⟨by simp, by simp [Record.blank], rfl, Nat.zero_le _⟩

end Yields

end Tenancy

/-! ### Slots -/

/-- What stands in the slot, told by its tenancy. -/
structure Slot.Tallies (n : Tenancy) (s : Slot) : Prop where
  /-- Be it masked or not. -/
  yields : ∀ r, s.entry = some r → n.Yields r
  reported_iff : (∃ r, s.reported? = some r) ↔ n.Lasts

namespace Slot

/-- The entry of the slot is reported, and after a tick it is no more. -/
def expires (s : Slot) : Bool := s.reported?.isSome && s.tick.1.reported?.isNone

/-- A slot that somebody uses is passed over. -/
theorem tick_of_held {s : Slot} (h : s.isHeld = true) : s.tick = (s, false) := by
  rw [tick, if_pos h]

/-- A slot without an entry that is reported is free after a tick. -/
theorem tick_of_reported?_none {s : Slot} (hfree : s.isHeld = false) (h : s.reported? = none) :
    s.tick = (s.purge, false) := by
  rw [← entry_purge] at h
  simp only [tick, hfree, Bool.false_eq_true, if_false, h]

/-- An entry that is reported gets older, or it times out. -/
theorem tick_of_reported? {s : Slot} {r : Record} (hfree : s.isHeld = false)
    (h : s.reported? = some r) :
    s.tick =
      if timeout < r.age + 1 then ({ s.purge with entry := none }, true)
      else ({ s.purge with entry := some { r with age := r.age + 1 } }, false) := by
  rw [← entry_purge] at h
  simp only [tick, hfree, Bool.false_eq_true, if_false, h]

/-- What is counted is the entries that are not reported any more. -/
theorem tick_snd (s : Slot) : s.tick.2 = s.expires := by
  unfold expires
  cases hheld : s.isHeld with
  | true =>
    rw [tick_of_held hheld]
    cases s.reported? <;> rfl
  | false =>
    cases hreported : s.reported? with
    | none =>
      rw [tick_of_reported?_none hheld hreported]
      rfl
    | some r =>
      rw [tick_of_reported? hheld hreported]
      split
      · simp [reported?]
      · simp [reported?]

namespace Tallies

variable {n : Tenancy} {s : Slot} {r : Record} {o : Observation}

/-- A slot without an entry has no tenancy that goes on. -/
theorem of_none (hentry : s.entry = none) (hended : ¬ n.Lasts) : s.Tallies n where
  yields := by
    intro r hr
    rw [hentry] at hr
    cases hr
  reported_iff := by
    refine iff_of_false ?_ hended
    rintro ⟨r, hr⟩
    cases hentry.symm.trans (reported?_eq_some_iff.mp hr).2

/-- A slot with an entry that is not masked has one. -/
theorem of_some (hstale : s.stale = false) (hentry : s.entry = some r) (hyields : n.Yields r)
    (hlasts : n.Lasts) : s.Tallies n where
  yields := by
    intro r' hr'
    rw [← Option.some.inj (hentry.symm.trans hr')]
    exact hyields
  reported_iff := iff_of_true ⟨r, reported?_eq_some_iff.mpr ⟨hstale, hentry⟩⟩ hlasts

theorem free : Slot.free.Tallies .start := of_none rfl fun h => by cases h.1

/-- What is reported is yielded. -/
theorem of_reported? (h : s.Tallies n) (hr : s.reported? = some r) : n.Yields r :=
  h.yields r (reported?_eq_some_iff.mp hr).2

/-- What is not reported does not last. -/
theorem not_lasts (h : s.Tallies n) (hnone : s.reported? = none) : ¬ n.Lasts := by
  intro hlasts
  obtain ⟨r, hr⟩ := h.reported_iff.mpr hlasts
  cases hnone.symm.trans hr

theorem purge (h : s.Tallies n) : s.purge.Tallies n where
  yields := fun r hr => h.of_reported? ((entry_purge s).symm.trans hr)
  reported_iff := by
    rw [reported?_purge]
    exact h.reported_iff

/-- Who uses a slot does not matter for what stands in it. -/
theorem withHolder (h : s.Tallies n) (who : Option Sync.Processor) :
    ({ s with holder := who } : Slot).Tallies n := ⟨h.yields, h.reported_iff⟩

/-- A tick at which nobody uses the slot. -/
theorem tick_of_free (h : s.Tallies n) (hfree : s.isHeld = false) : s.tick.1.Tallies n.pass := by
  cases hreported : s.reported? with
  | none =>
    rw [tick_of_reported?_none hfree hreported]
    refine of_none ((entry_purge s).trans hreported) fun hlasts => ?_
    exact h.not_lasts hreported (Tenancy.lasts_of_pass hlasts)
  | some r =>
    have hyields := h.of_reported? hreported
    have hlasts := h.reported_iff.mp ⟨r, hreported⟩
    have hage := hyields.age_eq
    rw [tick_of_reported? hfree hreported]
    split
    · -- The entry times out, as its tenancy does, since both are of the same age.
      rename_i hlate
      refine of_none rfl fun hlasts' => ?_
      have hle : n.ticks + 1 ≤ timeout := hlasts'.2
      omega
    · rename_i hintime
      have hle : r.age + 1 ≤ timeout := Nat.le_of_not_lt hintime
      have hticks : n.ticks + 1 ≤ timeout := by omega
      exact of_some (stale_purge s) rfl (hyields.pass hle) ⟨hlasts.1, hticks⟩

theorem tick (h : s.Tallies n) :
    s.tick.1.Tallies (if s.isHeld = true then n else n.pass) := by
  split
  · rename_i hheld
    rw [tick_of_held hheld]
    exact h
  · rename_i hfree
    exact h.tick_of_free (Bool.eq_false_iff.mpr hfree)

/-- The entry is removed, or masked if somebody uses the slot. -/
theorem clear (h : s.Tallies n) : s.clear.Tallies n.vacate := by
  unfold Slot.clear
  split
  · refine ⟨fun r hr => ?_, iff_of_false ?_ n.not_lasts_vacate⟩
    · obtain ⟨hne, hbssid, hmade, hle⟩ := h.yields r hr
      exact ⟨hne, hbssid, hmade, hle⟩
    · rintro ⟨r, hr⟩
      cases hr
  · exact of_none rfl n.not_lasts_vacate

/-- The tenancy of the observed access point goes on just if the slot reports it. -/
theorem takeIn (h : s.Tallies n) (o : Observation) : (s.takeIn o).Tallies (n.hear o) := by
  refine of_some (stale_purge s) rfl ?_ (n.lasts_hear o)
  by_cases hknown : ∃ r, s.reported? = some r ∧ r.bssid = o.bssid
  · obtain ⟨r, hr, hbssid⟩ := hknown
    rw [memory_of_bssid hr hbssid]
    exact (h.of_reported? hr).update (h.reported_iff.mp ⟨r, hr⟩) hbssid
  · rw [memory_of_other fun r hr hbssid => hknown ⟨r, hr, hbssid⟩]
    refine .blank fun ⟨hlasts, hsame⟩ => ?_
    obtain ⟨r, hr⟩ := h.reported_iff.mpr hlasts
    rw [(h.of_reported? hr).bssid?_eq] at hsame
    exact hknown ⟨r, hr, Option.some.inj hsame⟩

/-- A tenancy ends at the first tick after `timeout` of them. -/
theorem expires_iff (h : s.Tallies n) :
    s.expires = true ↔ s.isHeld = false ∧ n.vacated = false ∧ n.ticks = timeout := by
  have hnow : s.reported?.isSome = true ↔ n.Lasts := by
    rw [Option.isSome_iff_exists]
    exact h.reported_iff
  have hlater : s.tick.1.reported?.isNone = true ↔
      ¬ (if s.isHeld = true then n else n.pass).Lasts := by
    rw [← h.tick.reported_iff, Option.isNone_iff_eq_none, ← Option.ne_none_iff_exists', not_not]
  rw [expires, Bool.and_eq_true, hnow, hlater]
  cases s.isHeld with
  | true =>
    simp
  | false =>
    show n.Lasts ∧ ¬ n.pass.Lasts ↔ _
    constructor
    · rintro ⟨⟨hkept, hle⟩, hended⟩
      exact ⟨rfl, hkept, Nat.le_antisymm hle (Nat.le_of_not_lt fun hlt => hended ⟨hkept, hlt⟩)⟩
    · rintro ⟨-, hkept, heq⟩
      exact ⟨⟨hkept, Nat.le_of_eq heq⟩, fun hlater => absurd hlater.2 (by simp [Tenancy.pass, heq])⟩

end Tallies

end Slot

/-! ### The table -/

namespace Table

variable {t : Table} {i : Nat} {slot : Slot}

/-- Somebody uses slot `i`. -/
def isHeld (i : Nat) (t : Table) : Bool := t.slots[i]?.any Slot.isHeld

/-- The entry of slot `i` that readers get, unless somebody uses the slot. -/
def reported? (i : Nat) (t : Table) : Option Record := t.slots[i]?.bind Slot.reported?

/-- The tenancy of slot `i` after one more action. -/
def notes (i : Nat) (t : Table) (n : Tenancy) : Action → Tenancy
  | .record o seized => if (t.record o seized).2.toOption = some i then n.hear o else n
  | .tick => if t.isHeld i then n else n.pass
  | .clear => n.vacate
  | .hold _ _ | .release _ => n

/-- The tenancy of slot `i` after some actions. -/
def tenancyFrom (i : Nat) : Table → Tenancy → List Action → Tenancy
  | _, n, [] => n
  | t, n, a :: rest => tenancyFrom i (t.step a) (t.notes i n a) rest

/-- The tenancy of slot `i` in a table that was without entries in the beginning. -/
def tenancy (i : Nat) (actions : List Action) : Tenancy := tenancyFrom i empty .start actions

/-- What stands in slot `i`, told by its tenancy. -/
def Tallies (i : Nat) (n : Tenancy) (t : Table) : Prop :=
  ∀ slot, t.slots[i]? = some slot → slot.Tallies n

theorem reported?_of_slot (hslot : t.slots[i]? = some slot) : t.reported? i = slot.reported? := by
  rw [reported?, hslot, Option.bind_some]

theorem isHeld_of_slot (hslot : t.slots[i]? = some slot) : t.isHeld i = slot.isHeld := by
  rw [isHeld, hslot, Option.any_some]

/-- Readers get what is reported, if nobody uses the slot. -/
theorem get_eq_ok_iff {r : Record} :
    t.get i = .ok r ↔ t.isHeld i = false ∧ t.reported? i = some r := by
  unfold get isHeld reported?
  cases t.slots[i]? with
  | none => simp
  | some slot => exact Slot.read_eq_ok_iff

theorem notes_of_written {n : Tenancy} {o : Observation} {seized : Nat → Bool}
    (h : (t.record o seized).2 = .ok i) : t.notes i n (.record o seized) = n.hear o := by
  simp only [notes, h, Except.toOption, if_true]

theorem notes_of_not_written {n : Tenancy} {o : Observation} {seized : Nat → Bool}
    (h : (t.record o seized).2 ≠ .ok i) : t.notes i n (.record o seized) = n := by
  have hne : (t.record o seized).2.toOption ≠ some i := by
    intro hsome
    cases hresult : (t.record o seized).2 with
    | error e =>
      rw [hresult] at hsome
      cases hsome
    | ok k =>
      rw [hresult] at hsome
      exact h (by rw [hresult, Option.some.inj hsome])
  simp only [notes, hne, if_false]

theorem tallies_empty (i : Nat) : empty.Tallies i .start := by
  intro slot hslot
  rw [List.eq_of_mem_replicate (List.mem_of_getElem? hslot)]
  exact .free

namespace Tallies

variable {n : Tenancy}

theorem record (h : t.Tallies i n) (o : Observation) (seized : Nat → Bool) :
    (t.record o seized).1.Tallies i (t.notes i n (.record o seized)) := by
  intro slot' hslot'
  obtain ⟨slot, hslot⟩ := exists_slot_of_lt (t := t) (lt_of_slot hslot')
  have hsame := h slot hslot
  rcases slot_record o seized hslot with ⟨hwritten, -, hentry⟩ | ⟨hother, hkept⟩
  · rw [notes_of_written hwritten]
    obtain rfl := Option.some.inj (hentry.symm.trans hslot')
    exact hsame.takeIn o
  · rw [notes_of_not_written hother]
    rcases hkept with hkept | hpurged
    · obtain rfl := Option.some.inj (hkept.symm.trans hslot')
      exact hsame
    · obtain rfl := Option.some.inj (hpurged.symm.trans hslot')
      exact hsame.purge

/-- The same is done to all slots. -/
theorem map {n' : Tenancy} {f : Slot → Slot} (h : t.Tallies i n)
    (hf : ∀ slot, t.slots[i]? = some slot → slot.Tallies n → (f slot).Tallies n') :
    (t.map f).Tallies i n' := by
  intro slot' hslot'
  rw [Table.map, List.getElem?_map] at hslot'
  obtain ⟨slot, hslot, rfl⟩ := Option.map_eq_some_iff.mp hslot'
  exact hf slot hslot (h slot hslot)

/-- A slot is taken or given back. -/
theorem modify_holder (h : t.Tallies i n) (who : Option Sync.Processor) (k : Nat) :
    (t.modify k ({ · with holder := who })).Tallies i n := by
  intro slot' hslot'
  rw [modify, List.getElem?_modify] at hslot'
  obtain ⟨slot, hslot, hslot'⟩ := Option.map_eq_some_iff.mp hslot'
  have hsame := h slot hslot
  split at hslot'
  · subst hslot'
    exact hsame.withHolder who
  · cases hslot'
    exact hsame

theorem hold (h : t.Tallies i n) (who : Sync.Processor) (k : Nat) :
    ((t.hold? who k).getD t).Tallies i n := by
  unfold hold?
  split
  · split
    · exact h
    · exact h.modify_holder (some who) k
  · exact h

theorem step (h : t.Tallies i n) (a : Action) : (t.step a).Tallies i (t.notes i n a) := by
  cases a with
  | record o seized => exact h.record o seized
  | tick =>
    refine h.map fun slot hslot hsame => ?_
    rw [notes, isHeld_of_slot hslot]
    exact hsame.tick
  | clear => exact h.map fun _ _ hsame => hsame.clear
  | hold who k => exact h.hold who k
  | release k => exact h.modify_holder none k

theorem runFrom (h : t.Tallies i n) (actions : List Action) :
    (run actions t).Tallies i (tenancyFrom i t n actions) := by
  induction actions generalizing t n with
  | nil => exact h
  | cons a rest ih => exact ih (h.step a)

end Tallies

theorem tallies_run (i : Nat) (actions : List Action) :
    (run actions empty).Tallies i (tenancy i actions) := (tallies_empty i).runFrom actions

/-- The entry of slot `i` is reported, and after a tick it is no more. -/
def expires (t : Table) (i : Nat) : Bool := (t.reported? i).isSome && (t.tick.1.reported? i).isNone

theorem expires_of_slot (hslot : t.slots[i]? = some slot) : t.expires i = slot.expires := by
  have hlater : t.tick.1.slots[i]? = some slot.tick.1 := by
    simp [tick, map, hslot]
  rw [expires, reported?_of_slot hslot, reported?_of_slot hlater]
  rfl

/-- A tick counts the slots whose entries are not reported any more. -/
theorem tick_snd (t : Table) : t.tick.2 = (List.range tableSize).countP t.expires := by
  have hslots : t.slots.map Slot.expires = (List.range tableSize).map t.expires := by
    apply List.ext_getElem?
    intro i
    rw [List.getElem?_map, List.getElem?_map]
    cases hslot : t.slots[i]? with
    | none =>
      rw [List.getElem?_eq_none_iff, length_slots] at hslot
      rw [List.getElem?_eq_none (by simpa using hslot), Option.map_none, Option.map_none]
    | some slot =>
      rw [List.getElem?_range (lt_of_slot hslot), Option.map_some, Option.map_some,
        expires_of_slot hslot]
  calc t.tick.2
      = t.slots.countP Slot.expires := List.countP_congr fun s _ => by rw [s.tick_snd]
    _ = (t.slots.map Slot.expires).countP id := by rw [List.countP_map]; rfl
    _ = ((List.range tableSize).map t.expires).countP id := by rw [hslots]
    _ = (List.range tableSize).countP t.expires := by rw [List.countP_map]; rfl

/-- How long the entries of a table last, told by the tenancies of its slots. -/
structure Timed (ns : Nat → Tenancy) (t : Table) : Prop where
  /-- A stored entry, be it masked or not, is of the access point that was observed last, and as old
  as there were ticks since then at which nobody used its slot. -/
  stored : ∀ i slot r, t.slots[i]? = some slot → slot.entry = some r →
    (ns i).bssid? = some r.bssid ∧ r.age = (ns i).ticks ∧ r.age ≤ timeout
  /-- An entry that was neither evicted nor cleared is reported for `timeout` such ticks. -/
  reported_iff : ∀ i < tableSize, (ns i).vacated = false →
    ((∃ r, t.reported? i = some r) ↔ (ns i).ticks ≤ timeout)
  /-- What was cleared is not reported. -/
  vacated : ∀ i, (ns i).vacated = true → t.reported? i = none
  /-- What is reported is what readers get, unless somebody uses the slot. -/
  read_iff : ∀ i r, t.get i = .ok r ↔ t.isHeld i = false ∧ t.reported? i = some r
  /-- A tick tells how many entries are not reported any more, -/
  counts : t.tick.2 = (List.range tableSize).countP t.expires
  /-- which are those that had all of their ticks and were not cleared. -/
  expires_iff : ∀ i < tableSize, t.expires i = true ↔
    t.isHeld i = false ∧ (ns i).vacated = false ∧ (ns i).ticks = timeout

/-- After any operations, whoever used the slots in the meantime, an entry is as old as there were
ticks since its last observation at which its slot was free, and it is reported up to `timeout` of
them.  A tick tells how many entries it dropped, masked ones apart. -/
theorem timed_run (actions : List Action) :
    (run actions empty).Timed fun i => tenancy i actions where
  stored := by
    intro i slot r hslot hentry
    have hyields := (tallies_run i actions slot hslot).yields r hentry
    exact ⟨hyields.bssid?_eq, hyields.age_eq, hyields.age_le⟩
  reported_iff := by
    intro i hlt hkept
    obtain ⟨slot, hslot⟩ := exists_slot_of_lt (t := run actions empty) hlt
    rw [reported?_of_slot hslot, (tallies_run i actions slot hslot).reported_iff, Tenancy.Lasts]
    exact and_iff_right hkept
  vacated := by
    intro i hvacated
    refine Option.eq_none_iff_forall_ne_some.mpr fun r hr => ?_
    obtain ⟨slot, hslot, hr⟩ := Option.bind_eq_some_iff.mp hr
    have hlasts := (tallies_run i actions slot hslot).reported_iff.mp ⟨r, hr⟩
    rw [hlasts.1] at hvacated
    cases hvacated
  read_iff := fun _ _ => get_eq_ok_iff
  counts := tick_snd _
  expires_iff := by
    intro i hlt
    obtain ⟨slot, hslot⟩ := exists_slot_of_lt (t := run actions empty) hlt
    rw [expires_of_slot hslot, isHeld_of_slot hslot]
    exact (tallies_run i actions slot hslot).expires_iff

end Table

end WlanControl.Discovery
