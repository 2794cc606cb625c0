import WlanControl.Proofs.RosterSlots
import WlanControl.Session.Table

namespace WlanControl.Session

open Sync (Lock Processor)

/-!
# The shared roster — all runs

Peers come and go, the host removes some of them, and the roster gets into other hands and out of
them at any time.

* `Action`, `Table.run` — the runs;
* `Table.Removes` — a step by which a peer loses its slot;
* `Table.Keeps` — a peer has a slot, with the identifier that goes with it;
* `Table.WellKept` — what holds in between.

Main statement: `Table.wellKept_run`, nobody has two slots, no more slots are used than allowed, and
a peer keeps its identifier for itself until it is removed.
-/

/-- What happens to the roster. -/
inductive Action
  | reset (limit : Nat)
  | setAccepting (accepting : Bool)
  | authenticate (address : MacAddress)
  | associate (address : MacAddress)
  | disconnect (address : MacAddress)
  | kick (aid : UInt16)
  | kickUnassociated
  | kickAll
  /-- A processor takes the roster, if nobody uses it. -/
  | hold (who : Processor)
  /-- The roster is given back. -/
  | release

namespace Table

/-- The table after one more action. -/
def step (t : Table) : Action → Table
  | .reset limit => (t.reset limit).1
  | .setAccepting accepting => t.setAccepting accepting
  | .authenticate a => (t.authenticate a).1
  | .associate a => (t.associate a).1
  | .disconnect a => (t.disconnect a).1
  | .kick aid => (t.kick aid).1
  | .kickUnassociated => t.kickUnassociated.1
  | .kickAll => t.kickAll.1
  | .hold who => (t.hold? who).getD t
  | .release => t.release

/-- The table after some actions. -/
def run (actions : List Action) (t : Table) : Table := actions.foldl step t

/-- A peer is removed: it leaves, or it is told so, or all are forgotten. -/
def Removes (a : MacAddress) (t : Table) : Action → Prop
  | .reset limit => (t.reset limit).2 = .ok ()
  | .disconnect b => b = a ∧ (t.disconnect b).2 = .ok ()
  | .kick aid => a ∈ (t.kick aid).2.1
  | .kickUnassociated => a ∈ t.kickUnassociated.2.1
  | .kickAll => a ∈ t.kickAll.2.1
  | _ => False

/-- None of the actions removes a peer. -/
def Stays (a : MacAddress) : List Action → Table → Prop
  | [], _ => True
  | action :: rest, t => ¬ t.Removes a action ∧ Stays a rest (t.step action)

/-- A peer has slot `i`, and nobody else is given the identifier that goes with it. -/
structure Keeps (a : MacAddress) (i : Nat) (t : Table) : Prop where
  /-- The peer gets the same identifier however often it asks. -/
  associate_eq : (t.associate a).2 = if t.roster.isHeld then .error .busy else .ok (aidOf i)
  /-- The peer gets the same slot however often it starts over. -/
  authenticate_eq : (t.authenticate a).2 = if t.roster.isHeld then .error .busy else .ok i
  /-- Nobody else gets this identifier. -/
  eq_of_associate : ∀ b, (t.associate b).2 = .ok (aidOf i) → b = a
  /-- Nobody else takes part with this identifier, nor the peer with another one. -/
  aid_eq_iff : ∀ p ∈ t.roster.value.peers, p.aid = aidOf i ↔ p.address = a

/-- What holds at any time. -/
structure WellKept (t : Table) : Prop where
  /-- Nobody has two slots, and no more slots are used than allowed. -/
  orderly : t.roster.value.Orderly
  /-- The peers that take part have different identifiers. -/
  nodup_aid : (t.roster.value.peers.map Peer.aid).Nodup
  aid_bounds : ∀ p ∈ t.roster.value.peers, 1 ≤ p.aid.toNat ∧ p.aid.toNat ≤ 15
  /-- A peer that has authenticated itself keeps its identifier until it is removed. -/
  keeps : ∀ a i rest, (t.authenticate a).2 = .ok i → Stays a rest (t.authenticate a).1 →
    (run rest (t.authenticate a).1).Keeps a i

variable {α : Type} {t : Table} {a b : MacAddress} {i : Nat}

/-! ### Behind the lock -/

/-- The roster is changed, unless somebody holds it. -/
theorem update_cases (f : Roster → Roster × Except Error α) (t : Table) :
    (t.roster.isHeld = true ∧ t.update f = (t, .error .busy)) ∨
      (t.roster.isHeld = false ∧ t.update f =
        ({ t with roster := { t.roster with value := (f t.roster.value).1 } },
          (f t.roster.value).2)) := by
  cases hheld : t.roster.isHeld with
  | true => exact .inl ⟨rfl, update_of_isHeld f hheld⟩
  | false =>
    right
    refine ⟨rfl, ?_⟩
    simp [update, Lock.tryWith, hheld]

theorem updateTelling_cases (f : Roster → Roster × List MacAddress × Except Error α) (t : Table) :
    (t.roster.isHeld = true ∧ t.updateTelling f = (t, [], .error .busy)) ∨
      (t.roster.isHeld = false ∧ t.updateTelling f =
        ({ t with roster := { t.roster with value := (f t.roster.value).1 } },
          (f t.roster.value).2)) := by
  cases hheld : t.roster.isHeld with
  | true =>
    left
    refine ⟨rfl, ?_⟩
    simp [updateTelling, Lock.tryWith, hheld]
  | false =>
    right
    refine ⟨rfl, ?_⟩
    simp [updateTelling, Lock.tryWith, hheld]

theorem isHeld_update (f : Roster → Roster × Except Error α) (t : Table) :
    (t.update f).1.roster.isHeld = t.roster.isHeld := by
  rcases update_cases f t with ⟨-, hsame⟩ | ⟨-, hchanged⟩
  · rw [hsame]
  · rw [hchanged]
    rfl

theorem accepting_update (f : Roster → Roster × Except Error α) (t : Table) :
    (t.update f).1.accepting = t.accepting := by
  rcases update_cases f t with ⟨-, hsame⟩ | ⟨-, hchanged⟩
  · rw [hsame]
  · rw [hchanged]

theorem accepting_updateTelling (f : Roster → Roster × List MacAddress × Except Error α)
    (t : Table) : (t.updateTelling f).1.accepting = t.accepting := by
  rcases updateTelling_cases f t with ⟨-, hsame⟩ | ⟨-, hchanged⟩
  · rw [hsame]
  · rw [hchanged]

section Keeping

variable {P : Roster → Prop}

/-- What an operation keeps, as long as its result is of some kind, is kept behind the lock. -/
theorem value_update_of {f : Roster → Roster × Except Error α} {Q : Except Error α → Prop}
    (h : P t.roster.value) (hf : Q (f t.roster.value).2 → P (f t.roster.value).1)
    (hresult : Q (t.update f).2) : P (t.update f).1.roster.value := by
  rcases update_cases f t with ⟨-, hsame⟩ | ⟨-, hchanged⟩
  · rw [hsame]
    exact h
  · rw [hchanged] at hresult ⊢
    exact hf hresult

theorem value_updateTelling_of {f : Roster → Roster × List MacAddress × Except Error α}
    {Q : List MacAddress × Except Error α → Prop}
    (h : P t.roster.value) (hf : Q (f t.roster.value).2 → P (f t.roster.value).1)
    (hresult : Q (t.updateTelling f).2) : P (t.updateTelling f).1.roster.value := by
  rcases updateTelling_cases f t with ⟨-, hsame⟩ | ⟨-, hchanged⟩
  · rw [hsame]
    exact h
  · rw [hchanged] at hresult ⊢
    exact hf hresult

/-- What an operation keeps is kept behind the lock. -/
theorem value_update {f : Roster → Roster × Except Error α} (h : P t.roster.value)
    (hf : P (f t.roster.value).1) : P (t.update f).1.roster.value :=
  value_update_of (Q := fun _ => True) h (fun _ => hf) trivial

theorem value_updateTelling {f : Roster → Roster × List MacAddress × Except Error α}
    (h : P t.roster.value) (hf : P (f t.roster.value).1) :
    P (t.updateTelling f).1.roster.value :=
  value_updateTelling_of (Q := fun _ => True) h (fun _ => hf) trivial

end Keeping

/-- Taking the roster does not change it. -/
theorem value_hold (who : Processor) (t : Table) :
    ((t.hold? who).getD t).roster.value = t.roster.value := by
  unfold hold? Lock.acquire?
  split <;> rfl

/-! ### Steps -/

theorem orderly_step (h : t.roster.value.Orderly) (action : Action) :
    (t.step action).roster.value.Orderly := by
  cases action with
  | reset limit => exact value_update h (Roster.orderly_empty limit)
  | setAccepting accepting => exact h
  | authenticate a => exact value_update h (h.authenticate t.accepting a)
  | associate a => exact value_update h (h.associate a)
  | disconnect a => exact value_update h (h.disconnect a)
  | kick aid => exact value_updateTelling h (h.kick aid)
  | kickUnassociated => exact value_updateTelling h h.kickUnassociated
  | kickAll => exact value_updateTelling h h.kickAll
  | hold who =>
    show ((t.hold? who).getD t).roster.value.Orderly
    rw [value_hold]
    exact h
  | release => exact h

/-- A peer keeps its slot in a step that does not remove it. -/
theorem address?_step (ha : t.roster.value.address? i = some a) {action : Action}
    (hstays : ¬ t.Removes a action) : (t.step action).roster.value.address? i = some a := by
  cases action with
  | reset limit =>
    -- While somebody holds the roster nobody is forgotten, and otherwise everybody is removed.
    exact value_update_of (P := fun r => r.address? i = some a) (Q := fun result => result ≠ .ok ())
      ha (fun hrefused => absurd rfl hrefused) hstays
  | setAccepting accepting => exact ha
  | authenticate b =>
    exact value_update (P := fun r => r.address? i = some a) ha
      (Roster.address?_authenticate ha t.accepting b)
  | associate b =>
    exact value_update (P := fun r => r.address? i = some a) ha (Roster.address?_associate ha b)
  | disconnect b =>
    exact value_update_of (P := fun r => r.address? i = some a)
      (Q := fun result => ¬ (b = a ∧ result = .ok ())) ha
      (fun hstays => Roster.address?_disconnect ha fun hb hok => hstays ⟨hb, hok⟩) hstays
  | kick aid =>
    exact value_updateTelling_of (P := fun r => r.address? i = some a)
      (Q := fun result => a ∉ result.1) ha (Roster.address?_kick ha) hstays
  | kickUnassociated =>
    exact value_updateTelling_of (P := fun r => r.address? i = some a)
      (Q := fun result => a ∉ result.1) ha (Roster.address?_kickUnassociated ha) hstays
  | kickAll =>
    exact value_updateTelling_of (P := fun r => r.address? i = some a)
      (Q := fun result => a ∉ result.1) ha
      (fun hstays => absurd (Roster.mem_told_kickAll ha) hstays) hstays
  | hold who =>
    show ((t.hold? who).getD t).roster.value.address? i = some a
    rw [value_hold]
    exact ha
  | release => exact ha

/-! ### Runs -/

theorem orderly_run (h : t.roster.value.Orderly) (actions : List Action) :
    (run actions t).roster.value.Orderly := by
  induction actions generalizing t with
  | nil => exact h
  | cons action rest ih => exact ih (orderly_step h action)

theorem address?_run {rest : List Action} (ha : t.roster.value.address? i = some a)
    (hstays : Stays a rest t) : (run rest t).roster.value.address? i = some a := by
  induction rest generalizing t with
  | nil => exact ha
  | cons action rest ih => exact ih (address?_step ha hstays.1) hstays.2

/-- A peer that has authenticated itself has the slot that it was told. -/
theorem address?_of_authenticate (h : (t.authenticate a).2 = .ok i) :
    (t.authenticate a).1.roster.value.address? i = some a := by
  unfold authenticate at h ⊢
  rcases update_cases (Roster.authenticate t.accepting a) t with ⟨-, hsame⟩ | ⟨-, hchanged⟩
  · rw [hsame] at h
    cases h
  · rw [hchanged] at h ⊢
    exact Roster.address?_of_authenticate h

/-! ### Identifiers -/

/-- What the roster answers is the answer, unless somebody holds it. -/
theorem snd_update (f : Roster → Roster × Except Error α) (t : Table) :
    (t.update f).2 = if t.roster.isHeld then .error .busy else (f t.roster.value).2 := by
  rcases update_cases f t with ⟨hheld, hsame⟩ | ⟨hheld, hchanged⟩
  · rw [hsame, hheld, if_pos rfl]
  · rw [hchanged, hheld, if_neg Bool.false_ne_true]

/-- Nobody new gets into a session that is closed. -/
theorem authenticate_of_closed (hclosed : t.accepting = false)
    (hnew : t.roster.value.position? a = none) :
    (t.authenticate a).2 = .error (if t.roster.isHeld then .busy else .rejected) := by
  rw [authenticate, snd_update, Roster.authenticate, hnew, hclosed]
  split <;> rfl

/-- A peer that has a slot keeps the identifier that goes with it for itself. -/
theorem keeps_of_address? (h : t.roster.value.Orderly) (ha : t.roster.value.address? i = some a) :
    t.Keeps a i where
  associate_eq := by
    rw [associate, snd_update, Roster.associate_of_position? (h.position?_eq ha)]
  authenticate_eq := by
    rw [authenticate, snd_update, Roster.authenticate_of_position? (h.position?_eq ha)]
  eq_of_associate := by
    intro b hb
    rw [associate, snd_update] at hb
    split at hb
    · cases hb
    · obtain ⟨k, hk, haid⟩ := Roster.associate_eq_ok hb
      obtain rfl := Roster.aidOf_inj (Roster.lt_of_address? ha) (Roster.lt_of_address? hk) haid
      rw [ha] at hk
      cases hk
      rfl
  aid_eq_iff := by
    intro p hp
    obtain ⟨k, hslot, haid⟩ := Roster.mem_peers.mp hp
    have hk : t.roster.value.address? k = some p.address := by
      rw [Roster.address?, hslot]
      rfl
    rw [haid]
    constructor
    · intro hsame
      obtain rfl := Roster.aidOf_inj (Roster.lt_of_address? hk) (Roster.lt_of_address? ha) hsame
      rw [ha] at hk
      cases hk
      rfl
    · -- A peer that takes part is in the one slot that it has.
      intro hsame
      rw [hsame] at hk
      rw [h.distinct k i a hk ha]

/-- At any time nobody has two slots, no more slots are used than allowed, and a peer keeps its
identifier for itself until it is removed. -/
theorem wellKept_run (actions : List Action) : (run actions empty).WellKept where
  orderly := orderly_run (t := empty) (Roster.orderly_empty maxPeers) actions
  nodup_aid := by
    rw [List.nodup_iff_pairwise_ne, List.pairwise_map]
    refine (Roster.pairwise_aid_peers _).imp ?_
    intro p q hlt hsame
    rw [hsame] at hlt
    exact Nat.lt_irrefl _ hlt
  aid_bounds := by
    intro p hp
    obtain ⟨k, hslot, haid⟩ := Roster.mem_peers.mp hp
    have hk : k < maxPeers := by
      rw [← Roster.length_slots]
      exact (List.getElem?_eq_some_iff.mp hslot).1
    rw [haid, Roster.toNat_aidOf hk]
    simp [maxPeers] at hk
    omega
  keeps := by
    intro a i rest hok hstays
    have horderly := orderly_run (t := empty) (Roster.orderly_empty maxPeers) actions
    -- The peer has the slot after its authentication, and keeps it for the rest of the run.
    refine keeps_of_address? ?_ (address?_run (address?_of_authenticate hok) hstays)
    exact orderly_run (orderly_step horderly (.authenticate a)) rest

end Table

end WlanControl.Session
