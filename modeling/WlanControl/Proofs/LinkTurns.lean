import WlanControl.Proofs.KickRequests
import WlanControl.Proofs.LinkDismissals
import WlanControl.Proofs.LinkWishes

namespace WlanControl.Link

open WlanControl.Frame (ReasonCode)
open Session (Roster Slot)

/-!
# The link layer — removing peers one by one

The peers whose identifiers are requested are removed one by one, and before each of them the host
may ask for something, take the roster or give it back.  A peer whose turn comes while somebody uses
the roster is put off.

* `slot?`, `member?` — a slot of the roster, and the peer that takes part with an identifier;
* `kick_of_free` — what the turn of one identifier does, with `slot?_kick`, `dismisses_kick` and
  `wishes_kick`;
* `turns` — the turns with the link layer at each of them, with `freeTurns` and `heldTurns`;
* `kickEach_keeps_from` — what holds at a turn and is kept by single steps holds in the end;
* `Meanwhile.OnlyDemands` — the host leaves it to the radio who has which slot.

Main statements: `testBit_kickEach`, exactly those are put off whose turns come while somebody uses
the roster, `slot?_kickEach`, the others lose their slots, and `dismisses_kickEach`, they are told
once, in the order of their identifiers.
-/

variable {σ : Type} {l l' m : Link σ} (env : Surroundings σ) {meanwhile : Meanwhile}
  {aid : Nat} {aids : List Nat}

/-- A slot of the roster. -/
def slot? (i : Nat) (l : Link σ) : Option Slot := l.shared.sessions.roster.value.slots[i]?

/-- Somebody uses the roster. -/
def isSeized (l : Link σ) : Bool := l.shared.sessions.roster.isHeld

/-- The peer that takes part with an identifier. -/
def member? (aid : Nat) (l : Link σ) : Option MacAddress :=
  (l.slot? (aid - 1)).bind Slot.associated?

/-- The link layer with another roster. -/
def withRoster (roster : Roster) (l : Link σ) : Link σ :=
  { l with shared.sessions.roster.value := roster }

/-! ### One identifier -/

theorem sessions_sendAway (peers : List MacAddress) (reason : ReasonCode) (l : Link σ) :
    (l.sendAway env peers reason).shared.sessions = l.shared.sessions := by
  rw [(transmits_sendAway env peers reason l).shared_eq]

theorem withRoster_of_sessions_eq (h : l'.shared.sessions = l.shared.sessions) (roster : Roster) :
    l'.withRoster roster = { l' with shared.sessions :=
      { l.shared.sessions with roster := { l.shared.sessions.roster with value := roster } } } := by
  rw [← h]
  rfl

/-- The peer is told, and then it loses its slot, if there is one that takes part. -/
theorem kick_of_free (hfree : l.isSeized = false) (aid : Nat) : l.kick env aid =
    ((l.sendAway env (l.shared.sessions.roster.value.kick (UInt16.ofNat aid)).2.1
      .unspecified).withRoster (l.shared.sessions.roster.value.kick (UInt16.ofNat aid)).1,
        false) := by
  obtain ⟨hheld, -⟩ | ⟨-, hkicked⟩ := Session.Table.updateTelling_cases
    (Roster.kick (UInt16.ofNat aid)) l.shared.sessions
  · cases hheld.symm.trans hfree
  · have hdone := Roster.kick_ne_busy (UInt16.ofNat aid) l.shared.sessions.roster.value
    rw [withRoster_of_sessions_eq (sessions_sendAway env _ _ l)]
    unfold kick Session.Table.kick
    rw [hkicked]
    generalize l.shared.sessions.roster.value.kick (UInt16.ofNat aid) = result at hdone ⊢
    obtain ⟨roster, told, answer⟩ := result
    cases answer with
    | ok => rfl
    | error e =>
      cases e with
      | busy => exact absurd rfl hdone -- Only somebody who uses the roster could make it busy.
      | rejected | full | notFound => rfl

/-- The removal is put off exactly while somebody uses the roster. -/
theorem snd_kick (aid : Nat) (l : Link σ) : (l.kick env aid).2 = l.isSeized := by
  cases hseized : l.isSeized with
  | true => rw [kick_of_isHeld env hseized]
  | false => rw [kick_of_free env hseized]

/-- Peers that are told and lose their slots have nothing to do with what the host wishes. -/
theorem wishes_withRoster_sendAway (peers : List MacAddress) (reason : ReasonCode) (roster : Roster)
    (l : Link σ) : ((l.sendAway env peers reason).withRoster roster).wishes = l.wishes :=
  (transmits_sendAway env peers reason l).wishes_eq

theorem wishes_kick (aid : Nat) (l : Link σ) : (l.kick env aid).1.wishes = l.wishes := by
  cases hseized : l.isSeized with
  | true => rw [kick_of_isHeld env hseized]
  | false =>
    rw [kick_of_free env hseized]
    exact wishes_withRoster_sendAway env _ _ _ l

theorem address_kick (aid : Nat) (l : Link σ) :
    (l.kick env aid).1.machine.address = l.machine.address := by
  rw [(tends_kick env aid l).machine_eq]

/-- Only the slot that goes with the identifier changes, and only if nobody uses the roster. -/
theorem slot?_kick (haid : 1 ≤ aid ∧ aid ≤ maxPeers) (l : Link σ) (k : Nat) :
    (l.kick env aid).1.slot? k =
      if l.isSeized = false ∧ k + 1 = aid then (l.slot? k).map Slot.kicked else l.slot? k := by
  cases hseized : l.isSeized with
  | true =>
    rw [kick_of_isHeld env hseized]
    simp
  | false =>
    obtain ⟨i, rfl⟩ : ∃ i, aid = i + 1 := ⟨aid - 1, by omega⟩
    rw [kick_of_free env hseized]
    refine (Roster.getElem?_slots_kick (by omega : i < maxPeers) _ k).trans ?_
    simp [slot?]

/-- Those who take part with other identifiers stay. -/
theorem member?_kick_of_ne {other : Nat} (haid : 1 ≤ aid ∧ aid ≤ maxPeers) (hother : 1 ≤ other)
    (hne : other ≠ aid) (l : Link σ) : (l.kick env aid).1.member? other = l.member? other := by
  unfold member?
  rw [slot?_kick env haid, if_neg]
  rintro ⟨-, hsame⟩
  omega

/-- The one who takes part with the identifier is told once, unless somebody uses the roster. -/
theorem dismisses_kick (haid : 1 ≤ aid ∧ aid ≤ maxPeers) (l : Link σ) :
    Dismisses ((if l.isSeized then [] else (l.member? aid).toList).map
      (dismissal l.machine.address .unspecified)) l (l.kick env aid).1 := by
  cases hseized : l.isSeized with
  | true =>
    rw [kick_of_isHeld env hseized]
    exact dismisses_nil rfl
  | false =>
    obtain ⟨i, rfl⟩ : ∃ i, aid = i + 1 := ⟨aid - 1, by omega⟩
    have htold : (l.shared.sessions.roster.value.kick (UInt16.ofNat (i + 1))).2.1 =
        (l.member? (i + 1)).toList := Roster.told_kick (by omega : i < maxPeers) _
    rw [kick_of_free env hseized, htold]
    exact dismisses_sendAway env _ (by rfl) l

/-! ### Turns -/

/-- The turns of the identifiers, each with the link layer at the moment when the removal is
tried. -/
def turns (env : Surroundings σ) (meanwhile : Meanwhile) :
    List Nat → Link σ → List (Nat × Link σ)
  | [], _ => []
  | aid :: rest, l => (aid, l.pause meanwhile aid) ::
      turns env meanwhile rest ((l.pause meanwhile aid).kick env aid).1

/-- The identifiers whose turns come while nobody uses the roster. -/
def freeTurns (turns : List (Nat × Link σ)) : List Nat :=
  (turns.filter fun turn => !turn.2.isSeized).map Prod.fst

/-- The identifiers whose turns come while somebody uses the roster. -/
def heldTurns (turns : List (Nat × Link σ)) : List Nat :=
  (turns.filter fun turn => turn.2.isSeized).map Prod.fst

theorem freeTurns_cons (turn : Nat × Link σ) (rest : List (Nat × Link σ)) :
    freeTurns (turn :: rest) =
      if turn.2.isSeized then freeTurns rest else turn.1 :: freeTurns rest := by
  unfold freeTurns
  cases hseized : turn.2.isSeized <;> simp [hseized]

theorem heldTurns_cons (turn : Nat × Link σ) (rest : List (Nat × Link σ)) :
    heldTurns (turn :: rest) =
      if turn.2.isSeized then turn.1 :: heldTurns rest else heldTurns rest := by
  unfold heldTurns
  cases hseized : turn.2.isSeized <;> simp [hseized]

theorem map_fst_turns (meanwhile : Meanwhile) (aids : List Nat) (l : Link σ) :
    (turns env meanwhile aids l).map Prod.fst = aids := by
  induction aids generalizing l with
  | nil => rfl
  | cons aid rest ih => exact congrArg (aid :: ·) (ih _)

theorem mem_aids_of_mem_freeTurns (h : aid ∈ freeTurns (turns env meanwhile aids l)) :
    aid ∈ aids := by
  rw [← map_fst_turns env meanwhile aids l]
  obtain ⟨turn, hturn, rfl⟩ := List.mem_map.mp h
  exact List.mem_map_of_mem (List.mem_filter.mp hturn).1

theorem kickEach_cons (aid : Nat) (rest : List Nat) (deferred : UInt16) (l : Link σ) :
    kickEach env meanwhile (aid :: rest) deferred l = kickEach env meanwhile rest
      (if (l.pause meanwhile aid).isSeized then deferred ||| SharedState.kickBit aid else deferred)
      ((l.pause meanwhile aid).kick env aid).1 := by
  rw [← snd_kick env aid]
  conv => lhs; unfold kickEach
  split
  · rename_i hkicked
    rw [hkicked]
    rfl
  · rename_i hkicked
    rw [hkicked]
    rfl

/-- What holds at a turn holds after all of them, if they keep it. -/
theorem kickEach_keeps_from {P : Link σ → Prop}
    (hpause : ∀ {m} step, P m → P (m.pause meanwhile step))
    (hkick : ∀ {m} aid, P m → P (m.kick env aid).1) {turn : Nat × Link σ}
    (hturn : turn ∈ turns env meanwhile aids l) (deferred : UInt16) (h : P turn.2) :
    P (kickEach env meanwhile aids deferred l).1 := by
  induction aids generalizing deferred l with
  | nil => cases hturn
  | cons aid rest ih =>
    rw [kickEach_cons]
    rcases List.mem_cons.mp hturn with rfl | hturn
    · exact kickEach_keeps env hpause hkick rest _ (hkick aid h)
    · exact ih hturn _

/-- The identifiers whose turns come while somebody uses the roster are put off. -/
theorem testBit_kickEach (haids : ∀ aid ∈ aids, aid ≤ maxPeers) (deferred : UInt16) (l : Link σ)
    (i : Nat) : (kickEach env meanwhile aids deferred l).2.toNat.testBit i = true ↔
      deferred.toNat.testBit i = true ∨ i ∈ heldTurns (turns env meanwhile aids l) := by
  induction aids generalizing deferred l with
  | nil => simp [kickEach, turns, heldTurns]
  | cons aid rest ih =>
    rw [List.forall_mem_cons] at haids
    rw [kickEach_cons, ih haids.2, turns, heldTurns_cons]
    split
    · rw [UInt16.toNat_or, Nat.testBit_or, SharedState.testBit_kickBit haids.1, Bool.or_eq_true,
        decide_eq_true_iff, List.mem_cons, or_assoc, @eq_comm _ i]
    · rfl

/-! ### Turns while the host is active -/

/-- What the host does in the middle of a tick is to ask for something or to use the roster. -/
def Meanwhile.OnlyDemands (meanwhile : Meanwhile) : Prop :=
  ∀ step (s : SharedState), s.Demands (meanwhile step s)

section Demands

variable (hdemands : meanwhile.OnlyDemands)
include hdemands

theorem slot?_pause (step k : Nat) (l : Link σ) : (l.pause meanwhile step).slot? k = l.slot? k := by
  unfold slot? pause
  rw [(hdemands step l.shared).value_eq]

theorem member?_pause (step aid : Nat) (l : Link σ) :
    (l.pause meanwhile step).member? aid = l.member? aid := by
  unfold member?
  rw [slot?_pause hdemands]

/-- Of the requested identifiers those lose their slots whose turns come while nobody uses the
roster. -/
theorem slot?_kickEach (haids : ∀ aid ∈ aids, 1 ≤ aid ∧ aid ≤ maxPeers) (deferred : UInt16)
    (l : Link σ) (k : Nat) : (kickEach env meanwhile aids deferred l).1.slot? k =
      if k + 1 ∈ freeTurns (turns env meanwhile aids l) then (l.slot? k).map Slot.kicked
      else l.slot? k := by
  induction aids generalizing deferred l with
  | nil => simp [kickEach, turns, freeTurns]
  | cons aid rest ih =>
    rw [List.forall_mem_cons] at haids
    rw [kickEach_cons, ih haids.2, slot?_kick env haids.1, slot?_pause hdemands, turns,
      freeTurns_cons]
    cases hseized : (l.pause meanwhile aid).isSeized with
    | true => simp
    | false =>
      simp only [Bool.false_eq_true, if_false, true_and, List.mem_cons]
      by_cases hk : k + 1 = aid
      · -- A slot that is free after its turn stays so.
        subst hk
        simp only [if_true, true_or, Option.map_map]
        split
        · exact Option.map_congr fun slot _ => slot.kicked_kicked
        · rfl
      · simp only [hk, if_false, false_or]

/-- At its turn an identifier goes with the same slot as before all turns. -/
theorem member?_of_mem_turns (haids : ∀ aid ∈ aids, 1 ≤ aid ∧ aid ≤ maxPeers)
    (hnodup : aids.Nodup) (hturn : (aid, m) ∈ turns env meanwhile aids l) :
    m.member? aid = l.member? aid := by
  induction aids generalizing l with
  | nil => cases hturn
  | cons first rest ih =>
    rw [List.forall_mem_cons] at haids
    rw [List.nodup_cons] at hnodup
    rcases List.mem_cons.mp hturn with hfirst | hlater
    · cases hfirst
      exact member?_pause hdemands aid aid l
    · have hmem : aid ∈ rest := by
        rw [← map_fst_turns env meanwhile rest]
        exact List.mem_map_of_mem hlater
      have hne : aid ≠ first := fun hsame => hnodup.1 (hsame ▸ hmem)
      rw [ih haids.2 hnodup.2 hlater, member?_kick_of_ne env haids.1 (haids.2 aid hmem).1 hne,
        member?_pause hdemands]

/-- Those are sent away, once and in the order of their identifiers, whose turns come while nobody
uses the roster. -/
theorem dismisses_kickEach (haids : ∀ aid ∈ aids, 1 ≤ aid ∧ aid ≤ maxPeers) (hnodup : aids.Nodup)
    (deferred : UInt16) (l : Link σ) :
    Dismisses (((freeTurns (turns env meanwhile aids l)).filterMap (l.member? ·)).map
      (dismissal l.machine.address .unspecified)) l
      (kickEach env meanwhile aids deferred l).1 := by
  -- By induction on the identifiers whose turns are still to come.
  induction aids generalizing deferred l with
  | nil => exact dismisses_nil rfl
  | cons aid rest ih =>
    rw [List.forall_mem_cons] at haids
    rw [List.nodup_cons] at hnodup
    have hfirst := dismisses_kick env haids.1 (l.pause meanwhile aid)
    have hrest := ih haids.2 hnodup.2
      (if (l.pause meanwhile aid).isSeized then deferred ||| SharedState.kickBit aid else deferred)
      ((l.pause meanwhile aid).kick env aid).1
    -- The others go with the same slots as before this turn.
    have hothers : (freeTurns (turns env meanwhile rest
        ((l.pause meanwhile aid).kick env aid).1)).filterMap
          (((l.pause meanwhile aid).kick env aid).1.member? ·) =
        (freeTurns (turns env meanwhile rest
          ((l.pause meanwhile aid).kick env aid).1)).filterMap (l.member? ·) := by
      refine List.filterMap_congr fun other hother => ?_
      have hmem := mem_aids_of_mem_freeTurns env hother
      have hne : other ≠ aid := fun hsame => hnodup.1 (hsame ▸ hmem)
      rw [member?_kick_of_ne env haids.1 (haids.2 other hmem).1 hne, member?_pause hdemands]
    rw [hothers, address_kick] at hrest
    rw [member?_pause hdemands] at hfirst
    have hfirsts : (freeTurns (turns env meanwhile (aid :: rest) l)).filterMap (l.member? ·) =
        (if (l.pause meanwhile aid).isSeized then [] else (l.member? aid).toList) ++
          (freeTurns (turns env meanwhile rest
            ((l.pause meanwhile aid).kick env aid).1)).filterMap (l.member? ·) := by
      rw [turns, freeTurns_cons]
      split
      · rfl
      · cases hpeer : l.member? aid <;> simp [hpeer]
    rw [hfirsts, List.map_append, kickEach_cons]
    exact (hfirst.trans hrest).of_eq rfl rfl

/-! ### Requests in the course of the turns -/

theorem retains_pause (step : Nat) (l : Link σ) :
    l.shared.Retains (l.pause meanwhile step).shared := (hdemands step l.shared).toRetains

end Demands

theorem retains_of_wishes_eq (h : l'.wishes = l.wishes) : l.shared.Retains l'.shared :=
  .of_eq (congrArg Wishes.kicks h) (congrArg Wishes.kickUnassociated h)

theorem retains_kick (aid : Nat) (l : Link σ) : l.shared.Retains (l.kick env aid).1.shared :=
  retains_of_wishes_eq (wishes_kick env aid l)

end WlanControl.Link
