import Mathlib.Algebra.GroupWithZero.Nat
import WlanControl.Proofs.TableTenancy

namespace WlanControl.Discovery

/-!
# The table of access points — what an entry remembers

Most of an entry is what was observed last.  Two parts of it remember more: the name, since a hidden
one never replaces another one, and the strengths of the last eight signals.

* `RssiHistory.Holds` — a history in terms of all samples that it was given;
* `Record.Recollects` — the name and the strengths of a record, told by the observations;
* `Table.takenIn` — the observations of an access point that were written to the table.

Main statement: `Table.recollects_run`, an entry that is reported remembers what was observed of its
access point since its slot was assigned.
-/

/-! ### Signal strengths -/

/-- The mean of some samples, rounded down. -/
def mean? (samples : List UInt8) : Option Nat :=
  if samples = [] then none else some ((samples.map UInt8.toNat).sum / samples.length)

/-- The last eight of some samples, or all if there are fewer. -/
def lastEight (given : List UInt8) : List UInt8 := given.drop (given.length - 8)

theorem lastEight_eq (given : List UInt8) : lastEight given = (given.reverse.take 8).reverse := by
  rw [lastEight, List.take_reverse, List.reverse_reverse]

theorem sum_toNat_le (samples : List UInt8) :
    (samples.map UInt8.toNat).sum ≤ 255 * samples.length := by
  induction samples with
  | nil => exact Nat.le_refl _
  | cons sample rest ih =>
    have := sample.toNat_lt
    simp only [List.map_cons, List.sum_cons, List.length_cons]
    omega

theorem foldl_toNat (samples : List UInt8) (total : Nat) :
    samples.foldl (fun total rssi => total + rssi.toNat) total =
      total + (samples.map UInt8.toNat).sum := by
  induction samples generalizing total with
  | nil => rfl
  | cons sample rest ih =>
    rw [List.foldl_cons, ih, List.map_cons, List.sum_cons, Nat.add_assoc]

namespace RssiHistory

variable {given : List UInt8} {h : RssiHistory}

/-- The history was given some samples, the last ones last. -/
structure Holds (given : List UInt8) (h : RssiHistory) : Prop where
  count_eq : h.count = min given.length 8
  next_eq : h.next.val = given.length % 8
  samples_eq : h.samples = given.reverse.take 8

theorem holds_empty : empty.Holds [] := ⟨rfl, rfl, rfl⟩

theorem Holds.push (hholds : h.Holds given) (rssi : UInt8) :
    (h.push rssi).Holds (given ++ [rssi]) where
  count_eq := by
    rw [RssiHistory.push, hholds.count_eq, List.length_append, List.length_singleton]
    show min (min given.length 8 + 1) 8 = _
    omega
  next_eq := by
    show (h.next + 1).val = _
    rw [Fin.val_add, hholds.next_eq, List.length_append, List.length_singleton]
    simp
  samples_eq := by
    have hbound : h.count ≤ 8 := by
      rw [hholds.count_eq]
      exact Nat.min_le_right _ _
    rw [samples_push rssi h hbound, hholds.samples_eq, List.reverse_append]
    simp [List.take_take]

/-- The history that is given some samples. -/
def ofSamples (given : List UInt8) : RssiHistory := given.foldl (fun h rssi => h.push rssi) .empty

theorem holds_ofSamples (given : List UInt8) : (ofSamples given).Holds given := by
  induction given using List.reverseRecOn with
  | nil => exact holds_empty
  | append_singleton given rssi ih =>
    rw [ofSamples, List.foldl_append]
    exact ih.push rssi

/-- The latest of the samples that are held. -/
theorem latest?_eq_head? (h : RssiHistory) : h.latest? = h.samples.head? := by
  unfold latest? samples
  cases h.count with
  | zero => rfl
  | succ count =>
    have hback : ∀ cell : Fin 8, cell - 0 = cell := by decide
    simp only [Nat.succ_ne_zero, if_false, List.range_succ_eq_map, List.map_cons, List.head?_cons,
      Fin.isValue, Fin.ofNat_zero, hback]

/-- Until all cells are in use they are filled from the first one on, so going back from the last
one that was filled leads to each cell in use once. -/
theorem cells_perm : ∀ (next : Fin 8) (count : Fin 9), (count.val < 8 → next.val = count.val) →
    ((List.range count).map fun back => next - 1 - Fin.ofNat 8 back).Perm
      ((List.finRange 8).take count) := by
  decide

/-- The samples that are held stand in the cells in use. -/
theorem Holds.samples_perm (hholds : h.Holds given) :
    h.samples.Perm (h.cells.toList.take h.count) := by
  have hcells : h.cells.toList = (List.finRange 8).map fun cell => h.cells[cell] := by
    apply List.ext_getElem
    · simp
    · intro cell _ _
      simp
  have hcount : h.count < 9 := by
    rw [hholds.count_eq]
    omega
  have hnext : h.count < 8 → h.next.val = h.count := by
    rw [hholds.count_eq, hholds.next_eq]
    omega
  have hperm := (cells_perm h.next ⟨h.count, hcount⟩ hnext).map fun cell => h.cells[cell]
  rw [List.map_map, List.map_take, ← hcells] at hperm
  exact hperm

theorem Holds.latest?_eq (hholds : h.Holds given) : h.latest? = given.getLast? := by
  rw [latest?_eq_head?, hholds.samples_eq, List.head?_take, if_neg (by decide), List.head?_reverse]

theorem Holds.average?_eq (hholds : h.Holds given) :
    h.average?.map UInt8.toNat = mean? (lastEight given) := by
  have hperm : (h.cells.toList.take h.count).Perm (lastEight given) := by
    rw [lastEight_eq, ← hholds.samples_eq]
    exact hholds.samples_perm.symm.trans h.samples.reverse_perm.symm
  have hlength : (lastEight given).length = h.count := by
    rw [lastEight, List.length_drop, hholds.count_eq]
    omega
  unfold average?
  split
  · rename_i hzero
    rw [List.eq_nil_of_length_eq_zero (hlength.trans hzero)]
    rfl
  · rename_i hcount
    have hne : lastEight given ≠ [] := fun hnil => hcount (by rw [← hlength, hnil]; rfl)
    have hle := sum_toNat_le (lastEight given)
    rw [hlength] at hle
    have hmean : ((lastEight given).map UInt8.toNat).sum / h.count < 256 :=
      Nat.lt_succ_of_le (Nat.div_le_of_le_mul (by rw [Nat.mul_comm]; exact hle))
    rw [Option.map_some, foldl_toNat, Nat.zero_add, (hperm.map UInt8.toNat).sum_nat, mean?,
      if_neg hne, hlength, UInt8.toNat_ofNat_of_lt' hmean]

end RssiHistory

/-! ### Records -/

theorem filterMap_concat {α β : Type} (f : α → Option β) (l : List α) (a : α) :
    (l ++ [a]).filterMap f = l.filterMap f ++ (f a).toList := by
  rw [List.filterMap_append]
  cases h : f a <;> simp [h]

/-- The names that were observed. -/
def names (heard : List Observation) : List Ssid := heard.filterMap Observation.ssid

/-- The strengths that were observed, which frames from other channels do not have. -/
def strengths (heard : List Observation) : List UInt8 := heard.filterMap Observation.rssi

/-- The name to show: the last one that is not hidden, or else the first one of all. -/
def shownName? (names : List Ssid) : Option Ssid :=
  (names.filter fun name => !name.isHidden).getLast?.or names.head?

/-- What a record remembers of the observations of its access point. -/
structure Record.Recollects (heard : List Observation) (r : Record) : Prop where
  /-- There was an observation, -/
  ne_nil : heard ≠ []
  /-- and all of them were of the access point. -/
  bssid_eq : ∀ o ∈ heard, o.bssid = r.bssid
  ssid_eq : r.ssid = shownName? (names heard)
  latest_eq : r.rssi.latest? = (strengths heard).getLast?
  average_eq : r.rssi.average?.map UInt8.toNat = mean? (lastEight (strengths heard))

namespace Record

/-- One more name is shown if it is not hidden or there was none before. -/
theorem mergeSsid_shownName? (names : List Ssid) (observed : Option Ssid) :
    mergeSsid (shownName? names) observed = shownName? (names ++ observed.toList) := by
  cases observed with
  | none => simp [mergeSsid]
  | some name =>
    cases hhidden : name.isHidden with
    | true => simp [mergeSsid, shownName?, hhidden]
    | false => simp [mergeSsid, shownName?, hhidden]

theorem ssid_made (bssid : MacAddress) (heard : List Observation) :
    (made bssid heard).ssid = shownName? (names heard) := by
  induction heard using List.reverseRecOn with
  | nil => rfl
  | append_singleton heard o ih =>
    rw [made_append, names, filterMap_concat, ← names, ← mergeSsid_shownName?, ← ih]
    rfl

theorem rssi_update (o : Observation) (r : Record) :
    (r.update o).rssi = o.rssi.toList.foldl (fun h rssi => h.push rssi) r.rssi := by
  unfold update
  cases o.rssi <;> rfl

theorem rssi_made (bssid : MacAddress) (heard : List Observation) :
    (made bssid heard).rssi = .ofSamples (strengths heard) := by
  induction heard using List.reverseRecOn with
  | nil => rfl
  | append_singleton heard o ih =>
    rw [made_append, rssi_update, ih, strengths, strengths, filterMap_concat, RssiHistory.ofSamples,
      RssiHistory.ofSamples, List.foldl_append]

end Record

/-- An entry remembers what its tenancy tells. -/
theorem Tenancy.Yields.recollects {n : Tenancy} {r : Record} (h : n.Yields r) :
    r.Recollects n.heard where
  ne_nil := h.ne_nil
  bssid_eq := h.bssid_eq
  ssid_eq := by rw [h.eq_made, ← Record.ssid_made r.bssid]
  latest_eq := by
    rw [h.eq_made, ← (RssiHistory.holds_ofSamples _).latest?_eq, ← Record.rssi_made r.bssid]
  average_eq := by
    rw [h.eq_made, ← (RssiHistory.holds_ofSamples _).average?_eq, ← Record.rssi_made r.bssid]

/-- A frame that was heard on another channel than that of its access point has no strength. -/
theorem Observation.rssi_of_ofBeacon? {info : Frame.BeaconInfo} {strength tuned : UInt8}
    {o : Observation} (h : ofBeacon? info strength tuned = some o) :
    o.rssi = if o.channel = tuned then some strength else none := by
  unfold ofBeacon? at h
  split at h
  · cases h
  · cases h
    rfl

/-! ### The table -/

namespace Table

variable {t : Table} {ns : Nat → Tenancy} {os : MacAddress → List Observation}
  {i : Nat} {r : Record}

/-- The observation of the access point that an action writes to the table. -/
def taken? (b : MacAddress) (t : Table) : Action → Option Observation
  | .record o seized =>
    if o.bssid = b ∧ (t.record o seized).2.toOption.isSome = true then some o else none
  | .tick | .clear | .hold _ _ | .release _ => none

/-- The observations of the access point that some actions write to the table. -/
def takenIn (b : MacAddress) : Table → List Action → List Observation
  | _, [] => []
  | t, a :: rest => (t.taken? b a).toList ++ takenIn b (t.step a) rest

/-- The tenancies of the slots, and the observations that were written. -/
structure Remembers (ns : Nat → Tenancy) (os : MacAddress → List Observation) (t : Table) :
    Prop where
  distinct : t.Distinct
  tallies : ∀ i, t.Tallies i (ns i)
  /-- Nothing of the access point was written elsewhere since the slot was assigned to it. -/
  suffix : ∀ i r, t.reported? i = some r → (ns i).heard <:+ os r.bssid

theorem lt_of_reported? (h : t.reported? i = some r) : i < tableSize := by
  obtain ⟨slot, hslot, -⟩ := Option.bind_eq_some_iff.mp h
  exact lt_of_slot hslot

theorem bssid?_of_reported? (h : t.reported? i = some r) : t.bssid? i = some r.bssid := by
  obtain ⟨slot, hslot, hr⟩ := Option.bind_eq_some_iff.mp h
  rw [bssid?, hslot, Option.bind_some, Slot.bssid?_of_reported? hr]

/-- A tick is not an observation. -/
theorem lasts_of_notes_tick {n : Tenancy} (h : (t.notes i n .tick).Lasts) :
    n.Lasts ∧ (t.notes i n .tick).heard = n.heard := by
  simp only [notes] at h ⊢
  split
  · rename_i hheld
    rw [if_pos hheld] at h
    exact ⟨h, rfl⟩
  · rename_i hfree
    rw [if_neg hfree] at h
    exact ⟨Tenancy.lasts_of_pass h, rfl⟩

theorem Tallies.of_reported? {n : Tenancy} (h : t.Tallies i n) (hr : t.reported? i = some r) :
    n.Lasts ∧ n.Yields r := by
  obtain ⟨slot, hslot, hr⟩ := Option.bind_eq_some_iff.mp hr
  exact ⟨(h slot hslot).reported_iff.mp ⟨r, hr⟩, (h slot hslot).of_reported? hr⟩

theorem Tallies.exists_reported? {n : Tenancy} (h : t.Tallies i n) (hlt : i < tableSize)
    (hlasts : n.Lasts) : ∃ r, t.reported? i = some r ∧ n.bssid? = some r.bssid := by
  obtain ⟨slot, hslot⟩ := exists_slot_of_lt (t := t) hlt
  obtain ⟨r, hr⟩ := (h slot hslot).reported_iff.mpr hlasts
  exact ⟨r, by rw [reported?_of_slot hslot, hr], ((h slot hslot).of_reported? hr).bssid?_eq⟩

namespace Remembers

/-- A slot whose tenancy goes on unchanged holds the access point that it held before. -/
theorem suffix_of_heard_eq {n : Tenancy} (h : t.Remembers ns os) (hlt : i < tableSize)
    (hlasts : (ns i).Lasts) (hheard : n.heard = (ns i).heard) (hyields : n.Yields r) :
    n.heard <:+ os r.bssid := by
  obtain ⟨r₀, hr₀, hbssid⟩ := (h.tallies i).exists_reported? hlt hlasts
  have hsame := hyields.bssid?_eq
  rw [Tenancy.bssid?, hheard, ← Tenancy.bssid?, hbssid] at hsame
  rw [hheard, ← Option.some.inj hsame]
  exact h.suffix i r₀ hr₀

/-- What is written to another slot is of another access point. -/
theorem taken?_eq_none {o : Observation} {seized : Nat → Bool} (h : (t.record o seized).1.Distinct)
    (hother : (t.record o seized).2 ≠ .ok i) (hr : (t.record o seized).1.reported? i = some r) :
    t.taken? r.bssid (.record o seized) = none := by
  rw [taken?, if_neg]
  rintro ⟨hbssid, hwritten⟩
  cases hresult : (t.record o seized).2 with
  | error e =>
    rw [hresult] at hwritten
    cases hwritten
  | ok k =>
    obtain ⟨r', hget, hbssid'⟩ := get_of_record hresult
    have hk := bssid?_of_get hget
    rw [hbssid', hbssid] at hk
    rw [h k i r.bssid hk (bssid?_of_reported? hr)] at hresult
    exact hother hresult

theorem record (h : t.Remembers ns os) (o : Observation) (seized : Nat → Bool)
    (hr : (t.record o seized).1.reported? i = some r) :
    (t.notes i (ns i) (.record o seized)).heard <:+
      os r.bssid ++ (t.taken? r.bssid (.record o seized)).toList := by
  have hlt := lt_of_reported? hr
  obtain ⟨hlasts, hyields⟩ := ((h.tallies i).step (.record o seized)).of_reported? hr
  by_cases hwritten : (t.record o seized).2 = .ok i
  · rw [notes_of_written hwritten] at hyields ⊢
    have hbssid : o.bssid = r.bssid := Option.some.inj ((ns i).bssid?_hear o ▸ hyields.bssid?_eq)
    have htaken : t.taken? r.bssid (.record o seized) = some o := by
      rw [taken?, if_pos ⟨hbssid, by rw [hwritten]; rfl⟩]
    rw [htaken, Option.toList_some, Tenancy.hear]
    split
    · -- The slot had the access point already, so nothing was written elsewhere since.
      rename_i hgoes
      obtain ⟨r₀, hr₀, hsame⟩ := (h.tallies i).exists_reported? hlt hgoes.1
      rw [hgoes.2, hbssid] at hsame
      obtain ⟨before, hbefore⟩ := h.suffix i r₀ hr₀
      refine ⟨before, ?_⟩
      rw [Option.some.inj hsame, ← hbefore, List.append_assoc]
    · exact List.suffix_append _ _
  · have hdistinct := distinct_step h.distinct (.record o seized)
    rw [taken?_eq_none hdistinct hwritten hr, Option.toList_none, List.append_nil]
    rw [notes_of_not_written hwritten] at hlasts hyields ⊢
    exact h.suffix_of_heard_eq hlt hlasts rfl hyields

theorem step (h : t.Remembers ns os) (a : Action) :
    (t.step a).Remembers (fun i => t.notes i (ns i) a) fun b => os b ++ (t.taken? b a).toList := by
  have htallies : ∀ i, (t.step a).Tallies i (t.notes i (ns i) a) := fun i => (h.tallies i).step a
  refine ⟨distinct_step h.distinct a, htallies, fun i r hr => ?_⟩
  obtain ⟨hlasts, hyields⟩ := (htallies i).of_reported? hr
  have hlt := lt_of_reported? hr
  cases a with
  | record o seized => exact h.record o seized hr
  | tick =>
    show (t.notes i (ns i) .tick).heard <:+ os r.bssid ++ []
    rw [List.append_nil]
    obtain ⟨hbefore, hheard⟩ := lasts_of_notes_tick hlasts
    exact h.suffix_of_heard_eq hlt hbefore hheard hyields
  | clear => exact absurd hlasts (ns i).not_lasts_vacate
  | hold who k =>
    show (ns i).heard <:+ os r.bssid ++ []
    rw [List.append_nil]
    exact h.suffix_of_heard_eq hlt hlasts rfl hyields
  | release k =>
    show (ns i).heard <:+ os r.bssid ++ []
    rw [List.append_nil]
    exact h.suffix_of_heard_eq hlt hlasts rfl hyields

theorem runFrom (h : t.Remembers ns os) (actions : List Action) :
    (run actions t).Remembers (fun i => tenancyFrom i t (ns i) actions) fun b =>
      os b ++ takenIn b t actions := by
  induction actions generalizing t ns os with
  | nil =>
    simp only [takenIn, List.append_nil]
    exact h
  | cons a rest ih =>
    simp only [takenIn, ← List.append_assoc]
    exact ih (h.step a)

end Remembers

theorem remembers_run (actions : List Action) :
    (run actions empty).Remembers (fun i => tenancy i actions) fun b =>
      takenIn b empty actions := by
  have hempty : empty.Remembers (fun _ => .start) fun _ => [] := by
    refine ⟨distinct_empty, tallies_empty, fun i r hr => ?_⟩
    obtain ⟨⟨hkept, -⟩, -⟩ := (tallies_empty i).of_reported? hr
    cases hkept
  have hrun := hempty.runFrom actions
  simp only [List.nil_append] at hrun
  exact hrun

/-- An entry that is reported shows the last name that is not hidden, or else the first one, and the
latest and the mean of the last eight strengths.  All this is told by the observations since its
slot was assigned to the access point, which are the last ones of the access point that were written
to the table.  Frames from other channels have no strength. -/
theorem recollects_run (actions : List Action) (h : (run actions empty).reported? i = some r) :
    r.Recollects (tenancy i actions).heard ∧
      (tenancy i actions).heard <:+ takenIn r.bssid empty actions ∧
      ∀ info strength tuned o, Observation.ofBeacon? info strength tuned = some o →
        o.rssi = if o.channel = tuned then some strength else none := by
  have hremembers := remembers_run actions
  refine ⟨?_, hremembers.suffix i r h, fun _ _ _ _ => Observation.rssi_of_ofBeacon?⟩
  exact ((hremembers.tallies i).of_reported? h).2.recollects

/-- A network that keeps its name to itself in beacons, and tells it in a probe response only. -/
def hiddenNetwork (name : List UInt8) (rssi : Option UInt8) : Observation :=
  { sighting 1 rssi with ssid := Ssid.ofOctets? name }

/-- Such a network is heard ten times, once on another channel than its own, and with its name in
the fourth frame. -/
def hiddenActions : List Action :=
  let heard := [([], some 10), ([0, 0], some 20), ([0], some 30), ([65], some 40), ([], none),
    ([], some 50), ([0], some 60), ([], some 70), ([], some 80), ([], some 91)]
  heard.map fun (name, rssi) => .record (hiddenNetwork name rssi) fun _ => false

theorem recollects_run_hidden :
    ∃ r, (run hiddenActions empty).reported? 0 = some r ∧ r.ssid = Ssid.ofOctets? [65] ∧
      r.rssi.latest? = some 91 ∧ r.rssi.average? = some 55 ∧
      r.Recollects (tenancy 0 hiddenActions).heard := by
  obtain ⟨r, hr⟩ : ∃ r, (run hiddenActions empty).reported? 0 = some r :=
    Option.isSome_iff_exists.mp (by decide +kernel)
  have hshown : (((run hiddenActions empty).reported? 0).map fun r =>
      (r.ssid, r.rssi.latest?, r.rssi.average?)) =
        some (Ssid.ofOctets? [65], some 91, some 55) := by
    decide +kernel
  rw [hr] at hshown
  obtain ⟨hssid, hlatest, haverage⟩ : _ ∧ _ ∧ _ := by simpa using hshown
  exact ⟨r, hr, hssid, hlatest, haverage, (recollects_run hiddenActions hr).1⟩

end Table

end WlanControl.Discovery
