import WlanControl.Proofs.SessionHistory

namespace WlanControl.Session

/-!
# The shared roster — what becomes of an operation

Some operations remove peers, and some of these tell them so.  What is said here of an operation is
said of any roster, also of one that no run leads to, and whoever has it in hands.

* `Operation`, `Outcome` — what is asked of the roster, and what becomes of it;
* `Operation.Concerns` — a peer that the operation is about;
* `Roster.SameFor` — a peer has the same slots, and has come as far as before;
* `Roster.leavers` — who has lost a slot, in the order of the slots;
* `Roster.Settles` — all that an operation may do to a roster that nobody uses;
* `Table.AllOrNothing` — what is left of this behind the lock.

Main statement: `Table.allOrNothing_perform`, an operation that is refused leaves everything as it
was and tells nobody, and one that is not keeps all peers that it is not about, and tells each of
those that it removes.
-/

/-- What is asked of the roster. -/
inductive Operation
  | reset (limit : Nat)
  | authenticate (address : MacAddress)
  | associate (address : MacAddress)
  | disconnect (address : MacAddress)
  | kick (aid : UInt16)
  | kickUnassociated
  | kickAll

/-- Whether everybody is removed. -/
def Operation.clears : Operation → Bool
  | .reset _ | .kickAll => true
  | _ => false

/-- Whether peers are told that they are removed. -/
def Operation.tells : Operation → Bool
  | .kick _ | .kickUnassociated | .kickAll => true
  | _ => false

/-- What becomes of an operation on a roster, or on one behind a lock. -/
structure Outcome (ρ : Type) where
  state : ρ
  /-- Who is told to leave, in that order. -/
  told : List MacAddress
  /-- Why the operation was refused, if it was. -/
  error? : Option Error

namespace Outcome

variable {ρ α : Type}

/-- Why an operation was refused. -/
def refusal? : Except Error α → Option Error
  | .ok _ => none
  | .error e => some e

/-- The outcome of an operation that tells nobody. -/
def quiet (result : ρ × Except Error α) : Outcome ρ := ⟨result.1, [], refusal? result.2⟩

/-- The outcome of an operation that tells some peers to leave. -/
def telling (result : ρ × List MacAddress × Except Error α) : Outcome ρ :=
  ⟨result.1, result.2.1, refusal? result.2.2⟩

end Outcome

namespace Roster

variable {r r' : Roster} {a b : MacAddress} {i k : Nat} {slot : Slot}

/-! ### Peers that an operation is not about -/

/-- Somebody is found in the first slot that it has. -/
theorem address?_ne_of_lt (hfound : r.position? a = some k) (hlt : i < k) :
    r.address? i ≠ some a := by
  intro ha
  obtain ⟨slot, hslot, hsame⟩ := Option.bind_eq_some_iff.mp ha
  obtain ⟨_, _, hbefore⟩ := List.findIdx?_eq_some_iff_getElem.mp hfound
  have hother := hbefore i hlt
  rw [(List.getElem?_eq_some_iff.mp hslot).2] at hother
  simp [hsame] at hother

/-- The slot in which somebody is found is nobody else's. -/
theorem eq_of_position? (hfound : r.position? a = some k) (hb : r.address? k = some b) : b = a :=
  Option.some.inj (hb.symm.trans (position_eq_some hfound).2)

/-- A peer has the same slots, and has come as far in them. -/
structure SameFor (b : MacAddress) (r r' : Roster) : Prop where
  slots_iff : ∀ (i : Nat) (slot : Slot), slot.address? = some b →
    (r'.slots[i]? = some slot ↔ r.slots[i]? = some slot)

namespace SameFor

theorem address?_iff (h : SameFor b r r') (i : Nat) :
    r'.address? i = some b ↔ r.address? i = some b := by
  simp only [address?, Option.bind_eq_some_iff]
  constructor
  · rintro ⟨slot, hslot, hb⟩
    exact ⟨slot, (h.slots_iff i slot hb).mp hslot, hb⟩
  · rintro ⟨slot, hslot, hb⟩
    exact ⟨slot, (h.slots_iff i slot hb).mpr hslot, hb⟩

theorem position?_eq (h : SameFor b r r') : r'.position? b = r.position? b := by
  cases hfound : r.position? b with
  | none =>
    cases hfound' : r'.position? b with
    | none => rfl
    | some j =>
      have hj := (h.address?_iff j).mp (position_eq_some hfound').2
      exact absurd hj (address?_ne_of_position? hfound)
  | some k =>
    have hk := (h.address?_iff k).mpr (position_eq_some hfound).2
    cases hfound' : r'.position? b with
    | none => exact absurd hk (address?_ne_of_position? hfound')
    | some j =>
      have hj := (h.address?_iff j).mp (position_eq_some hfound').2
      -- Of the same slots the first one is the same.
      rcases Nat.lt_trichotomy j k with hlt | rfl | hgt
      · exact absurd hj (address?_ne_of_lt hfound hlt)
      · rfl
      · exact absurd hk (address?_ne_of_lt hfound' hgt)

theorem stateOf_eq (h : SameFor b r r') : r'.stateOf b = r.stateOf b := by
  unfold stateOf
  rw [h.position?_eq]
  cases hfound : r.position? b with
  | none => rfl
  | some k =>
    obtain ⟨slot, hslot, hb⟩ := Option.bind_eq_some_iff.mp (position_eq_some hfound).2
    simp only [hslot, (h.slots_iff k slot hb).mpr hslot]

theorem mem_peers_iff (h : SameFor b r r') (aid : UInt16) :
    ⟨b, aid⟩ ∈ r'.peers ↔ ⟨b, aid⟩ ∈ r.peers := by
  simp only [mem_peers]
  constructor
  · rintro ⟨i, hslot, haid⟩
    exact ⟨i, (h.slots_iff i _ rfl).mp hslot, haid⟩
  · rintro ⟨i, hslot, haid⟩
    exact ⟨i, (h.slots_iff i _ rfl).mpr hslot, haid⟩

end SameFor

/-- A slot is replaced that the peer does not have, and it does not get it. -/
theorem sameFor_set (hold : r.address? k ≠ some b) (hnew : slot.address? ≠ some b) :
    SameFor b r (r.set k slot) := by
  constructor
  intro i kept hkept
  show (r.slots.set k slot)[i]? = some kept ↔ _
  by_cases hik : k = i
  · subst hik
    constructor
    · intro hset
      rw [List.getElem?_set, if_pos rfl] at hset
      split at hset
      · cases hset
        exact absurd hkept hnew
      · cases hset
    · intro hslot
      refine absurd ?_ hold
      rw [address?, hslot]
      exact hkept
  · rw [List.getElem?_set_ne hik]

/-- The peers stay that take part, and others are removed. -/
theorem sameFor_kickUnassociated (hnever : ∀ i : Nat, r.slots[i]? ≠ some (.authenticated b)) :
    SameFor b r r.kickUnassociated.1 := by
  constructor
  intro i kept hkept
  rw [getElem?_slots_kickUnassociated]
  constructor
  · intro hswept
    obtain ⟨slot, hslot, rfl⟩ := Option.map_eq_some_iff.mp hswept
    cases slot with
    | free => cases hkept
    | authenticated => cases hkept
    | associated => exact hslot
  · intro hslot
    rw [hslot]
    cases kept with
    | free => cases hkept
    | authenticated =>
      cases hkept
      exact absurd hslot (hnever i)
    | associated => rfl

/-! ### Peers that are removed -/

/-- Who has lost a slot, in the order of the slots. -/
def leavers (r r' : Roster) : List MacAddress :=
  (List.range maxPeers).filterMap fun i =>
    if r'.address? i = r.address? i then none else r.address? i

/-- Without two slots nobody loses more than one. -/
theorem nodup_leavers (h : r.Orderly) (r' : Roster) : (leavers r r').Nodup := by
  unfold leavers
  rw [List.nodup_iff_pairwise_ne, List.pairwise_filterMap]
  refine List.nodup_range.imp ?_
  intro i j hij a ha b hb hab
  split at ha
  · cases ha
  · split at hb
    · cases hb
    · -- Both slots would be those of one peer.
      subst hab
      exact hij (h.distinct i j a ha hb)

/-- The slots are gone through in their order. -/
theorem filterMap_slots (f : Slot → Option MacAddress) (r : Roster) :
    r.slots.filterMap f = (List.range maxPeers).filterMap fun i => r.slots[i]?.bind f := by
  rw [← r.length_slots]
  induction r.slots with
  | nil => rfl
  | cons slot rest ih =>
    rw [List.length_cons, List.range_succ_eq_map, List.filterMap_cons, List.filterMap_cons,
      List.filterMap_map, ih]
    rfl

/-- Of all slots one is picked. -/
theorem filterMap_range_of_eq (a : MacAddress) (k n : Nat) :
    (List.range n).filterMap (fun i => if i = k then some a else none) =
      if k < n then [a] else [] := by
  induction n with
  | zero => rfl
  | succ n ih =>
    rw [List.range_succ, List.filterMap_append, ih]
    rcases Nat.lt_trichotomy n k with hlt | rfl | hgt
    · rw [if_neg (by omega), if_neg (by omega)]
      simp [Nat.ne_of_lt hlt]
    · rw [if_neg (Nat.lt_irrefl n), if_pos (Nat.lt_succ_self n)]
      simp
    · rw [if_pos hgt, if_pos (by omega)]
      simp [Nat.ne_of_gt hgt]

/-- The one who has the slot is the only one to lose it. -/
theorem leavers_set_free (ha : r.address? k = some a) : leavers r (r.set k .free) = [a] := by
  have hk := lt_of_address? ha
  have hlost : ∀ i, (if (r.set k .free).address? i = r.address? i then none else r.address? i) =
      if i = k then some a else none := by
    intro i
    by_cases hik : i = k
    · subst hik
      rw [address?_set_self hk, ha, if_pos rfl, if_neg (by simp [Slot.address?])]
    · rw [address?_set_of_ne (Ne.symm hik), if_pos rfl, if_neg hik]
  unfold leavers
  simp only [hlost]
  rw [filterMap_range_of_eq, if_pos hk]

theorem leavers_kickUnassociated (r : Roster) :
    leavers r r.kickUnassociated.1 = r.kickUnassociated.2.1 := by
  show _ = r.slots.filterMap Slot.unassociated?
  rw [filterMap_slots, leavers]
  refine congrArg (List.filterMap · (List.range maxPeers)) (funext fun i => ?_)
  rw [address?, getElem?_slots_kickUnassociated, address?]
  cases r.slots[i]? with
  | none => rfl
  | some slot =>
    cases slot with
    | free => rfl
    | authenticated => rfl
    | associated => exact if_pos rfl

theorem leavers_kickAll (r : Roster) : leavers r r.kickAll.1 = r.kickAll.2.1 := by
  show _ = r.slots.filterMap Slot.address?
  rw [filterMap_slots, leavers]
  refine congrArg (List.filterMap · (List.range maxPeers)) (funext fun i => ?_)
  show (if (r.map fun _ => .free).address? i = r.address? i then none else r.address? i) = _
  rw [address?_map, address?]
  cases r.slots[i]? with
  | none => rfl
  | some slot => cases slot <;> rfl

/-! ### One operation -/

/-- What becomes of an operation on a roster. -/
def perform (accepting : Bool) (r : Roster) : Operation → Outcome Roster
  | .reset limit => ⟨.empty limit, [], none⟩
  | .authenticate a => .quiet (r.authenticate accepting a)
  | .associate a => .quiet (r.associate a)
  | .disconnect a => .quiet (r.disconnect a)
  | .kick aid => .telling (r.kick aid)
  | .kickUnassociated => .telling r.kickUnassociated
  | .kickAll => .telling r.kickAll

/-- The operation is about a peer: the one that is named, the one with the identifier, those that
take no part, or all. -/
def Concerns (b : MacAddress) (r : Roster) : Operation → Prop
  | .reset _ | .kickAll => True
  | .authenticate a | .associate a | .disconnect a => a = b
  | .kick aid => ∃ i, slotOf? aid = some i ∧ r.address? i = some b
  | .kickUnassociated => ∃ i : Nat, r.slots[i]? = some (.authenticated b)

/-- What an operation does that is not refused. -/
structure Done (r : Roster) (operation : Operation) (r' : Roster)
    (told : List MacAddress) : Prop where
  /-- A peer that the operation is not about keeps its slot, and stays as far as it has come. -/
  sameFor : ∀ b, ¬ r.Concerns b operation → SameFor b r r'
  cleared : operation.clears = true → ∀ i, r'.address? i = none
  /-- Who loses its slot is told once, in the order of the slots, and nobody else is. -/
  told_eq : told = if operation.tells then leavers r r' else []

/-- An operation is refused and does nothing, or it is done. -/
inductive Settles (operation : Operation) (r : Roster) : Outcome Roster → Prop
  | refused (e : Error) (idle : e ≠ .busy) : Settles operation r ⟨r, [], some e⟩
  | done {r' : Roster} {told : List MacAddress} (done : r.Done operation r' told) :
    Settles operation r ⟨r', told, none⟩

/-- An operation on the slot of one peer that tells nobody. -/
theorem done_set {operation : Operation} (hconcerns : ∀ b, ¬ r.Concerns b operation → a ≠ b)
    (hclears : operation.clears = false) (htells : operation.tells = false)
    (hold : ∀ b, r.address? k = some b → b = a) (hnew : ∀ b, slot.address? = some b → b = a) :
    r.Done operation (r.set k slot) [] where
  sameFor b hother := by
    have hne := hconcerns b hother
    exact sameFor_set (fun hb => hne (hold b hb).symm) fun hb => hne (hnew b hb).symm
  cleared h := by
    rw [hclears] at h
    cases h
  told_eq := by rw [htells, if_neg Bool.false_ne_true]

theorem authenticate_ne_busy (accepting : Bool) (a : MacAddress) (r : Roster) :
    (r.authenticate accepting a).2 ≠ .error .busy := by
  unfold authenticate
  split
  · simp
  · split
    · simp
    · split
      · simp
      · split <;> simp

theorem settles_authenticate (accepting : Bool) (a : MacAddress) (r : Roster) :
    Settles (.authenticate a) r (.quiet (r.authenticate accepting a)) := by
  have hidle := authenticate_ne_busy accepting a r
  rcases authenticate_cases accepting a r with ⟨e, hrefused⟩ | ⟨k, hgiven, hplace⟩
  · rw [hrefused] at hidle ⊢
    exact .refused e fun hbusy => hidle (congrArg Except.error hbusy)
  · rw [hgiven]
    refine .done (done_set (fun b h => h) rfl rfl (fun b hb => ?_) fun b hb => ?_)
    · -- The slot is that of the peer, or nobody has it.
      rcases hplace with hfound | ⟨-, hfree, -⟩
      · exact eq_of_position? hfound hb
      · rw [address?_eq_none hfree] at hb
        cases hb
    · cases hb
      rfl

theorem settles_associate (a : MacAddress) (r : Roster) :
    Settles (.associate a) r (.quiet (r.associate a)) := by
  unfold associate
  split
  · rename_i k hfound
    refine .done (done_set (fun b h => h) rfl rfl (fun b => eq_of_position? hfound) fun b hb => ?_)
    cases hb
    rfl
  · exact .refused .rejected (by simp)

theorem settles_disconnect (a : MacAddress) (r : Roster) :
    Settles (.disconnect a) r (.quiet (r.disconnect a)) := by
  unfold disconnect
  split
  · rename_i k hfound
    refine .done (done_set (fun b h => h) rfl rfl (fun b => eq_of_position? hfound) fun b hb => ?_)
    cases hb
  · exact .refused .notFound (by simp)

theorem settles_kick (aid : UInt16) (r : Roster) :
    Settles (.kick aid) r (.telling (r.kick aid)) := by
  unfold kick
  split
  · exact .refused .notFound (by simp)
  · rename_i k hslot
    split
    · rename_i a hmember
      have ha := address?_of_associated? hmember
      refine .done ⟨fun b hother => sameFor_set (fun hb => ?_) (by simp [Slot.address?]),
        fun hclears => ?_, ?_⟩
      · exact hother ⟨k, hslot, hb⟩
      · cases hclears
      · exact (leavers_set_free ha).symm
    · exact .refused .notFound (by simp)

theorem settles_perform (accepting : Bool) (operation : Operation) (r : Roster) :
    Settles operation r (r.perform accepting operation) := by
  cases operation with
  | reset limit => exact .done ⟨fun b hother => absurd trivial hother,
      fun _ => address?_empty limit, rfl⟩
  | authenticate a => exact settles_authenticate accepting a r
  | associate a => exact settles_associate a r
  | disconnect a => exact settles_disconnect a r
  | kick aid => exact settles_kick aid r
  | kickUnassociated =>
    refine .done ⟨fun b hother => sameFor_kickUnassociated fun i hi => hother ⟨i, hi⟩,
      fun hclears => ?_, (leavers_kickUnassociated r).symm⟩
    cases hclears
  | kickAll =>
    refine .done ⟨fun b hother => absurd trivial hother, fun _ i => ?_, (leavers_kickAll r).symm⟩
    show (r.map fun _ => .free).address? i = none
    rw [address?_map]
    cases r.slots[i]? <;> rfl

end Roster

namespace Table

variable {t : Table} {α : Type}

/-! ### Behind the lock -/

/-- What becomes of an operation on the shared roster. -/
def perform (t : Table) : Operation → Outcome Table
  | .reset limit => .quiet (t.reset limit)
  | .authenticate a => .quiet (t.authenticate a)
  | .associate a => .quiet (t.associate a)
  | .disconnect a => .quiet (t.disconnect a)
  | .kick aid => .telling (t.kick aid)
  | .kickUnassociated => .telling t.kickUnassociated
  | .kickAll => .telling t.kickAll

/-- The outcome for the shared roster, from that for the roster. -/
def withRoster (t : Table) (outcome : Outcome Roster) : Outcome Table :=
  ⟨{ t with roster := { t.roster with value := outcome.state } }, outcome.told, outcome.error?⟩

theorem quiet_update (f : Roster → Roster × Except Error α) (t : Table) :
    Outcome.quiet (t.update f) =
      if t.roster.isHeld then ⟨t, [], some .busy⟩
      else t.withRoster (.quiet (f t.roster.value)) := by
  rcases update_cases f t with ⟨hheld, hsame⟩ | ⟨hfree, hchanged⟩
  · rw [hsame, if_pos hheld]
    rfl
  · rw [hchanged, hfree, if_neg Bool.false_ne_true]
    rfl

theorem telling_updateTelling (f : Roster → Roster × List MacAddress × Except Error α)
    (t : Table) :
    Outcome.telling (t.updateTelling f) =
      if t.roster.isHeld then ⟨t, [], some .busy⟩
      else t.withRoster (.telling (f t.roster.value)) := by
  rcases updateTelling_cases f t with ⟨hheld, hsame⟩ | ⟨hfree, hchanged⟩
  · rw [hsame, if_pos hheld]
    rfl
  · rw [hchanged, hfree, if_neg Bool.false_ne_true]
    rfl

/-- While somebody holds the roster every operation is refused. -/
theorem perform_eq (t : Table) (operation : Operation) :
    t.perform operation =
      if t.roster.isHeld then ⟨t, [], some .busy⟩
      else t.withRoster (t.roster.value.perform t.accepting operation) := by
  cases operation with
  | reset limit => exact quiet_update _ t
  | authenticate a => exact quiet_update _ t
  | associate a => exact quiet_update _ t
  | disconnect a => exact quiet_update _ t
  | kick aid => exact telling_updateTelling _ t
  | kickUnassociated => exact telling_updateTelling _ t
  | kickAll => exact telling_updateTelling _ t

/-- What becomes of an operation, whatever the roster and whoever holds it. -/
structure AllOrNothing (operation : Operation) (t : Table) (outcome : Outcome Table) : Prop where
  /-- It is refused as busy while somebody holds the roster, and only then. -/
  busy_iff : outcome.error? = some .busy ↔ t.roster.isHeld = true
  /-- If it is refused, it changes nothing, and nobody is told anything. -/
  refused : outcome.error? ≠ none → outcome.state = t ∧ outcome.told = []
  /-- If it is done, a peer that it is not about keeps its slot, and with it its identifier, and it
  stays as far as it has come. -/
  keeps : outcome.error? = none → ∀ b, ¬ t.roster.value.Concerns b operation →
    outcome.state.roster.value.position? b = t.roster.value.position? b ∧
      outcome.state.roster.value.stateOf b = t.roster.value.stateOf b ∧
      ∀ aid, ⟨b, aid⟩ ∈ outcome.state.roster.value.peers ↔ ⟨b, aid⟩ ∈ t.roster.value.peers
  cleared : outcome.error? = none → operation.clears = true →
    ∀ i, outcome.state.roster.value.address? i = none
  /-- Those are told that lose their slot, in the order of the slots, and nobody else. -/
  told_eq : outcome.error? = none → outcome.told =
    if operation.tells then t.roster.value.leavers outcome.state.roster.value else []
  /-- Where nobody has two slots, nobody is told twice. -/
  nodup_told : t.roster.value.Orderly → outcome.told.Nodup

theorem allOrNothing_of_refused {e : Error} (hbusy : e = .busy ↔ t.roster.isHeld = true)
    (operation : Operation) : AllOrNothing operation t ⟨t, [], some e⟩ where
  busy_iff := Option.some_inj.trans hbusy
  refused _ := ⟨rfl, rfl⟩
  keeps hdone := by cases hdone
  cleared hdone := by cases hdone
  told_eq hdone := by cases hdone
  nodup_told _ := List.nodup_nil

theorem allOrNothing_of_done (hfree : t.roster.isHeld = false) {operation : Operation}
    {r' : Roster} {told : List MacAddress} (h : t.roster.value.Done operation r' told) :
    AllOrNothing operation t (t.withRoster ⟨r', told, none⟩) where
  busy_iff := by simp [withRoster, hfree]
  refused hrefused := absurd rfl hrefused
  keeps _ b hother := by
    have hsame := h.sameFor b hother
    exact ⟨hsame.position?_eq, hsame.stateOf_eq, hsame.mem_peers_iff⟩
  cleared _ := h.cleared
  told_eq _ := h.told_eq
  nodup_told horderly := by
    show told.Nodup
    rw [h.told_eq]
    split
    · exact Roster.nodup_leavers horderly r'
    · exact List.nodup_nil

/-- Whatever is asked of the shared roster, it is refused and nothing happens, or it is done for
those whom it is about and for nobody else. -/
theorem allOrNothing_perform (operation : Operation) (t : Table) :
    AllOrNothing operation t (t.perform operation) := by
  rw [perform_eq]
  cases hheld : t.roster.isHeld with
  | true =>
    rw [if_pos rfl]
    exact allOrNothing_of_refused (by simp [hheld]) operation
  | false =>
    rw [if_neg Bool.false_ne_true]
    have hsettles := t.roster.value.settles_perform t.accepting operation
    generalize t.roster.value.perform t.accepting operation = outcome at hsettles
    cases hsettles with
    | refused e idle => exact allOrNothing_of_refused (by simp [idle, hheld]) operation
    | done done => exact allOrNothing_of_done hheld done

end Table

end WlanControl.Session
