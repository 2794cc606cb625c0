import WlanControl.Proofs.TablePlacement

namespace WlanControl.Discovery

/-!
# The table of access points — looking for one of several

A reader brings a list of candidates and a condition that an entry has to meet.  What it gets is
said here by the slots alone, without the order in which they are gone through.

* `Matcher.Wants` — the access points that a candidate is for;
* `Table.Offers` — a slot has a usable entry for a candidate, and a reader gets at it;
* `Table.IsFirst` — the first candidate with such a slot, and the first of its slots;
* `Table.Finds` — what the search gives.

Main statement: `Table.finds_findMatching?`, whichever slots are in use or masked, the first
candidate that some slot offers an entry for is found, in the first such slot, and nothing is found
only if no slot offers one to any candidate.
-/

/-! ### Candidates -/

/-- The access points that a candidate is for. -/
inductive Matcher.Wants (m : Matcher) (r : Record) : Prop
  /-- An address decides alone. -/
  | address (haddress : m.bssid ≠ .zero) (hbssid : r.bssid = m.bssid)
  /-- Without an address it is the name, which may not be empty. -/
  | name (hany : m.bssid = .zero) {name : Ssid} (hwanted : m.ssid = some name)
    (hadvertised : r.ssid = some name) (hname : name.octets ≠ [])

theorem Matcher.accepts_eq_true_iff {m : Matcher} {r : Record} :
    m.accepts r = true ↔ m.Wants r := by
  unfold accepts MacAddress.isZero
  by_cases hany : m.bssid = .zero
  · rw [if_pos (beq_iff_eq.mpr hany)]
    constructor
    · intro h
      split at h
      · rename_i wanted advertised hwanted hadvertised
        simp only [Ssid.isEmpty, Bool.and_eq_true, Bool.not_eq_true', List.isEmpty_eq_false_iff,
          decide_eq_true_eq] at h
        obtain ⟨hname, rfl⟩ := h
        exact .name hany hwanted hadvertised hname
      · cases h
    · rintro (⟨haddress, -⟩ | ⟨-, hwanted, hadvertised, hname⟩)
      · exact absurd hany haddress
      · rw [hwanted, hadvertised]
        simp [Ssid.isEmpty, hname]
  · rw [if_neg fun h => hany (beq_iff_eq.mp h)]
    constructor
    · intro h
      exact .address hany (of_decide_eq_true h)
    · rintro (⟨-, hbssid⟩ | ⟨hzero, -, -, -⟩)
      · exact decide_eq_true hbssid
      · exact absurd hzero hany

namespace Table

variable {t : Table} {i j : Nat} {r s : Record} {c : Matcher} {candidates : List Matcher}
  {usable : Record → Bool} {found found' : Match}

/-! ### What readers go through -/

theorem get_eq_ok_iff_reports :
    t.get i = .ok r ↔ ∃ slot, t.slots[i]? = some slot ∧ slot.isHeld = false ∧ slot.Reports r := by
  constructor
  · intro h
    obtain ⟨slot, hslot, hentry, hfree, hstale⟩ := get_eq_ok h
    exact ⟨slot, hslot, hfree, hstale, hentry⟩
  · rintro ⟨slot, hslot, hfree, hreports⟩
    rw [get_of_slot hslot]
    exact Slot.read_eq_ok_iff.mpr ⟨hfree, Slot.reported?_eq_some_iff.mpr hreports⟩

/-- What can be read in the table is found in it. -/
theorem mem_entries_iff : (i, r) ∈ t.entries ↔ t.get i = .ok r := by
  refine ⟨get_of_mem_entries, fun h => ?_⟩
  obtain ⟨slot, hslot, -⟩ := get_eq_ok h
  rw [get_of_slot hslot] at h
  refine List.mem_filterMap.mpr ⟨(slot, i), List.mem_zipIdx_iff_getElem?.mpr hslot, ?_⟩
  simp only [h]

/-- The entries come in the order of their slots. -/
theorem pairwise_entries (t : Table) : t.entries.Pairwise fun e e' => e.1 < e'.1 := by
  unfold entries
  rw [List.pairwise_filterMap]
  have hsorted : t.slots.zipIdx.Pairwise fun x y => x.2 < y.2 := by
    rw [← List.pairwise_map (f := Prod.snd) (R := (· < ·)), List.zipIdx_map_snd]
    exact List.pairwise_lt_range'
  refine hsorted.imp ?_
  rintro ⟨slot, i⟩ ⟨slot', j⟩ hlt e he e' he'
  simp only at he he'
  split at he
  · split at he'
    · cases he
      cases he'
      exact hlt
    · cases he'
  · cases he

/-- The first entry that fits stands before all others that do. -/
theorem of_find?_entries {p : Nat × Record → Bool} (h : t.entries.find? p = some (i, r)) :
    t.get i = .ok r ∧ p (i, r) = true ∧ ∀ j < i, ∀ s, t.get j = .ok s → p (j, s) = false := by
  obtain ⟨hfits, before, after, hsplit, hbefore⟩ := List.find?_eq_some_iff_append.mp h
  refine ⟨mem_entries_iff.mp (List.mem_of_find?_eq_some h), hfits, fun j hlt s hget => ?_⟩
  have hmem := mem_entries_iff.mpr hget
  have hsorted := t.pairwise_entries
  rw [hsplit] at hmem hsorted
  -- An entry of a lower slot is among those that were passed over.
  rcases List.mem_append.mp hmem with hpassed | hlater
  · simpa using hbefore (j, s) hpassed
  · rcases List.mem_cons.mp hlater with hsame | hafter
    · cases hsame
      exact absurd hlt (Nat.lt_irrefl _)
    · have hgt : i < j := List.rel_of_pairwise_cons (List.pairwise_append.mp hsorted).2.1 hafter
      exact absurd hlt (Nat.lt_asymm hgt)

/-! ### What is offered to a candidate -/

/-- Nobody uses the slot, its entry is not masked, the candidate is for its access point, and it is
usable. -/
def Offers (c : Matcher) (usable : Record → Bool) (i : Nat) (r : Record) (t : Table) : Prop :=
  (∃ slot, t.slots[i]? = some slot ∧ slot.isHeld = false ∧ slot.Reports r) ∧
    c.Wants r ∧ usable r = true

theorem offers_iff :
    t.Offers c usable i r ↔ t.get i = .ok r ∧ (c.accepts r && usable r) = true := by
  rw [Offers, get_eq_ok_iff_reports, Bool.and_eq_true, Matcher.accepts_eq_true_iff]

/-- The entry is for the first candidate for which there is one, and in the first such slot. -/
structure IsFirst (candidates : List Matcher) (usable : Record → Bool) (found : Match)
    (t : Table) : Prop where
  offers : ∃ c, candidates[found.candidate]? = some c ∧
    t.Offers c usable found.slot found.record
  /-- Nothing is offered to the candidates before. -/
  first_candidate : ∀ k < found.candidate, ∀ c, candidates[k]? = some c →
    ∀ i r, ¬ t.Offers c usable i r
  /-- Nothing is offered to the candidate in the slots before. -/
  first_slot : ∀ c, candidates[found.candidate]? = some c →
    ∀ i < found.slot, ∀ r, ¬ t.Offers c usable i r

/-- There is one such entry at most. -/
theorem IsFirst.unique (h : t.IsFirst candidates usable found)
    (h' : t.IsFirst candidates usable found') : found = found' := by
  obtain ⟨⟨c, hc, hoffers⟩, hcandidate, hslot⟩ := h
  obtain ⟨⟨c', hc', hoffers'⟩, hcandidate', hslot'⟩ := h'
  have hnumber : found.candidate = found'.candidate := by
    rcases Nat.lt_trichotomy found.candidate found'.candidate with hlt | heq | hgt
    · exact absurd hoffers (hcandidate' _ hlt c hc _ _)
    · exact heq
    · exact absurd hoffers' (hcandidate _ hgt c' hc' _ _)
  rw [← hnumber, hc] at hc'
  obtain rfl := Option.some.inj hc'
  have hplace : found.slot = found'.slot := by
    rcases Nat.lt_trichotomy found.slot found'.slot with hlt | heq | hgt
    · exact absurd hoffers (hslot' c (hnumber ▸ hc) _ hlt _)
    · exact heq
    · exact absurd hoffers' (hslot c hc _ hgt _)
  -- Two readers of one slot get the same record.
  have hget := (offers_iff.mp hoffers).1
  rw [hplace, (offers_iff.mp hoffers').1] at hget
  have hrecord : found'.record = found.record := Except.ok.inj hget
  cases found
  cases found'
  simp only at hnumber hplace hrecord
  rw [hnumber, hplace, hrecord]

/-! ### The search -/

/-- The entry in the table that a candidate would get. -/
def firstFor? (c : Matcher) (usable : Record → Bool) (t : Table) : Option (Nat × Record) :=
  t.entries.find? fun entry => c.accepts entry.2 && usable entry.2

theorem offers_of_firstFor? (h : t.firstFor? c usable = some (i, r)) :
    t.Offers c usable i r ∧ ∀ j < i, ∀ s, ¬ t.Offers c usable j s := by
  obtain ⟨hget, hfits, hbefore⟩ := of_find?_entries h
  refine ⟨offers_iff.mpr ⟨hget, hfits⟩, fun j hlt s hoffers => ?_⟩
  obtain ⟨hget', hfits'⟩ := offers_iff.mp hoffers
  exact Bool.false_ne_true ((hbefore j hlt s hget').symm.trans hfits')

theorem firstFor?_eq_none_iff :
    t.firstFor? c usable = none ↔ ∀ i r, ¬ t.Offers c usable i r := by
  rw [firstFor?, List.find?_eq_none]
  constructor
  · intro h i r hoffers
    obtain ⟨hget, hfits⟩ := offers_iff.mp hoffers
    exact h (i, r) (mem_entries_iff.mpr hget) hfits
  · rintro h ⟨i, r⟩ hmem hfits
    exact h i r (offers_iff.mpr ⟨mem_entries_iff.mp hmem, hfits⟩)

/-- The search is over at the first candidate for which there is an entry, and else it goes on. -/
theorem findMatchingFrom?_of_some (hfirst : t.firstFor? c usable = some (i, r)) (number : Nat)
    (rest : List Matcher) :
    findMatchingFrom? usable t.entries number (c :: rest) = some ⟨number, i, r⟩ := by
  unfold firstFor? at hfirst
  rw [findMatchingFrom?, hfirst]

theorem findMatchingFrom?_of_none (hfirst : t.firstFor? c usable = none) (number : Nat)
    (rest : List Matcher) :
    findMatchingFrom? usable t.entries number (c :: rest) =
      findMatchingFrom? usable t.entries (number + 1) rest := by
  unfold firstFor? at hfirst
  rw [findMatchingFrom?, hfirst]

theorem of_findMatchingFrom? {number : Nat}
    (h : findMatchingFrom? usable t.entries number candidates = some found) :
    ∃ k c, found.candidate = number + k ∧ candidates[k]? = some c ∧
      t.firstFor? c usable = some (found.slot, found.record) ∧
      ∀ j < k, ∀ c', candidates[j]? = some c' → t.firstFor? c' usable = none := by
  induction candidates generalizing number with
  | nil => cases h
  | cons c rest ih =>
    cases hfirst : t.firstFor? c usable with
    | some entry =>
      rw [findMatchingFrom?_of_some hfirst] at h
      cases h
      exact ⟨0, c, rfl, rfl, hfirst, fun j hlt => absurd hlt (Nat.not_lt_zero j)⟩
    | none =>
      rw [findMatchingFrom?_of_none hfirst] at h
      obtain ⟨k, c', hnumber, hc', hfound, hbefore⟩ := ih h
      refine ⟨k + 1, c', by omega, hc', hfound, fun j hlt d hd => ?_⟩
      cases j with
      | zero =>
        cases hd
        exact hfirst
      | succ j => exact hbefore j (by omega) d hd

theorem findMatchingFrom?_eq_none_iff {number : Nat} :
    findMatchingFrom? usable t.entries number candidates = none ↔
      ∀ c ∈ candidates, t.firstFor? c usable = none := by
  induction candidates generalizing number with
  | nil => simp [findMatchingFrom?]
  | cons c rest ih =>
    rw [List.forall_mem_cons]
    cases hfirst : t.firstFor? c usable with
    | some entry => simp [findMatchingFrom?_of_some hfirst]
    | none => simp only [findMatchingFrom?_of_none hfirst, ih, true_and]

theorem isFirst_of_findMatching? (h : t.findMatching? candidates usable = some found) :
    t.IsFirst candidates usable found := by
  obtain ⟨k, c, hnumber, hc, hfound, hbefore⟩ := of_findMatchingFrom? h
  rw [Nat.zero_add] at hnumber
  obtain ⟨hoffers, hslots⟩ := offers_of_firstFor? hfound
  refine ⟨⟨c, hnumber ▸ hc, hoffers⟩, fun j hlt c' hc' => ?_, fun c' hc' => ?_⟩
  · exact firstFor?_eq_none_iff.mp (hbefore j (hnumber ▸ hlt) c' hc')
  · rw [hnumber, hc] at hc'
    cases hc'
    exact hslots

/-- What is found was looked for. -/
theorem candidate_lt_of_findMatching? (h : t.findMatching? candidates usable = some found) :
    found.candidate < candidates.length := by
  obtain ⟨c, hc, -⟩ := (isFirst_of_findMatching? h).offers
  exact (List.getElem?_eq_some_iff.mp hc).1

theorem findMatching?_eq_none_iff : t.findMatching? candidates usable = none ↔
    ∀ c ∈ candidates, ∀ i r, ¬ t.Offers c usable i r := by
  rw [findMatching?, findMatchingFrom?_eq_none_iff]
  simp only [firstFor?_eq_none_iff]

/-- What the search for some candidates gives. -/
structure Finds (candidates : List Matcher) (usable : Record → Bool) (t : Table)
    (result : Option Match) : Prop where
  some_iff : ∀ found, result = some found ↔ t.IsFirst candidates usable found
  none_iff : result = none ↔ ∀ c ∈ candidates, ∀ i r, ¬ t.Offers c usable i r

/-- Whichever slots are in use or masked, the first candidate is found for which there is an entry
that can be used, and the first such entry. -/
theorem finds_findMatching? (candidates : List Matcher) (usable : Record → Bool) (t : Table) :
    t.Finds candidates usable (t.findMatching? candidates usable) where
  some_iff found := by
    refine ⟨isFirst_of_findMatching?, fun hfirst => ?_⟩
    cases hfound : t.findMatching? candidates usable with
    | some found' => rw [(isFirst_of_findMatching? hfound).unique hfirst]
    | none =>
      obtain ⟨c, hc, hoffers⟩ := hfirst.offers
      exact absurd hoffers
        (findMatching?_eq_none_iff.mp hfound c (List.mem_of_getElem? hc) _ _)
  none_iff := findMatching?_eq_none_iff

end Table

end WlanControl.Discovery
