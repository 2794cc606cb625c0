import WlanControl.Proofs.LinkSessions

namespace WlanControl

/-!
# Requests to remove peers

The host asks for the removal of peers by their identifiers, one bit each, and for the removal of
all peers that were not associated.  Whatever else the host does, it never takes a request back, nor
does it change the roster behind the back of the radio.

* `SharedState.Wants` — the host wants a peer removed, with `wants_or` for requests that are put
  together;
* `SharedState.Retains` — no request is lost;
* `SharedState.Demands` — all that calls and the lock of the roster do to it and to the requests;
* `Link.HostMove.OnlyDemands`, `Link.Action.OnlyDemands` — the host does no more than that.

Main statements: `Link.onlyDemands_calling`, no call of the host does more, and
`Host.wants_of_kick`, what the host agrees to is requested.
-/

namespace SharedState

variable {s s' s₁ s₂ s₃ : SharedState} {aid : Nat}

/-- The host wants the peer with an identifier removed. -/
def Wants (aid : Nat) (s : SharedState) : Prop := aid ∈ Link.requestedAids s.kicks

instance (aid : Nat) (s : SharedState) : Decidable (s.Wants aid) :=
  inferInstanceAs (Decidable (aid ∈ Link.requestedAids s.kicks))

/-! ### Bits -/

/-- The bits of different identifiers are different. -/
theorem testBit_kickBit (h : aid ≤ maxPeers) (i : Nat) :
    (kickBit aid).toNat.testBit i = decide (aid = i) := by
  have hpower : (kickBit aid).toNat = 2 ^ aid := by
    have hlt : 2 ^ aid < 2 ^ 16 := Nat.pow_lt_pow_right (by decide) (by simp [maxPeers] at h; omega)
    rw [kickBit, UInt16.toNat_ofNat', Nat.one_shiftLeft]
    exact Nat.mod_eq_of_lt hlt
  rw [hpower, Nat.testBit_two_pow]

/-- An identifier is requested if its bit is set. -/
theorem mem_requestedAids (kicks : UInt16) : aid ∈ Link.requestedAids kicks ↔
    (1 ≤ aid ∧ aid ≤ maxPeers) ∧ kicks.toNat.testBit aid = true := by
  rw [Link.requestedAids, List.mem_filter, List.mem_range'_1, decide_eq_true_iff]
  constructor
  · rintro ⟨hbounds, hcommon⟩
    have haid : aid ≤ maxPeers := by omega
    refine ⟨⟨hbounds.1, haid⟩, ?_⟩
    cases hbit : kicks.toNat.testBit aid with
    | true => rfl
    | false =>
      -- Without this bit the request has none in common with the identifier.
      refine absurd (UInt16.toNat_inj.mp (Nat.eq_of_testBit_eq fun i => ?_)) hcommon
      rw [UInt16.toNat_and, Nat.testBit_and, testBit_kickBit haid]
      by_cases hi : aid = i
      · simp [← hi, hbit]
      · simp [hi]
  · rintro ⟨⟨hpositive, haid⟩, hbit⟩
    refine ⟨by omega, fun hcommon => ?_⟩
    have hclear : (kicks &&& kickBit aid).toNat.testBit aid = false := by rw [hcommon]; simp
    rw [UInt16.toNat_and, Nat.testBit_and, testBit_kickBit haid, hbit] at hclear
    simp at hclear

theorem wants_iff : s.Wants aid ↔
    (1 ≤ aid ∧ aid ≤ maxPeers) ∧ s.kicks.toNat.testBit aid = true := mem_requestedAids s.kicks

/-- Requests are put together by their bits. -/
theorem wants_or {kicks : UInt16} (h : s'.kicks = s.kicks ||| kicks) :
    s'.Wants aid ↔ s.Wants aid ∨ aid ∈ Link.requestedAids kicks := by
  rw [wants_iff, wants_iff, mem_requestedAids, h, UInt16.toNat_or, Nat.testBit_or, Bool.or_eq_true]
  exact and_or_left

theorem not_wants_of_kicks_eq_zero (h : s.kicks = 0) : ¬ s.Wants aid := by
  rw [wants_iff, h]
  simp

/-! ### Requests of the host -/

/-- No request is lost. -/
structure Retains (s s' : SharedState) : Prop where
  wants : ∀ aid, s.Wants aid → s'.Wants aid
  unassociated : s.kickUnassociated = true → s'.kickUnassociated = true

namespace Retains

theorem refl (s : SharedState) : Retains s s := ⟨fun _ h => h, fun h => h⟩

theorem trans (h : Retains s₁ s₂) (h' : Retains s₂ s₃) : Retains s₁ s₃ :=
  ⟨fun aid hwants => h'.wants aid (h.wants aid hwants),
    fun hraised => h'.unassociated (h.unassociated hraised)⟩

theorem of_eq (hkicks : s'.kicks = s.kicks) (hraised : s'.kickUnassociated = s.kickUnassociated) :
    Retains s s' := by
  refine ⟨fun aid => ?_, ?_⟩
  · unfold Wants
    rw [hkicks]
    exact id
  · rw [hraised]
    exact id

/-- More requests lose none. -/
theorem of_or {kicks : UInt16} (hkicks : s'.kicks = s.kicks ||| kicks)
    (hraised : s.kickUnassociated = true → s'.kickUnassociated = true) : Retains s s' :=
  ⟨fun _ hwants => (wants_or hkicks).mpr (.inl hwants), hraised⟩

end Retains

/-- The host asked for something, and left it to the radio who has which slot. -/
structure Demands (s s' : SharedState) : Prop extends Retains s s' where
  value_eq : s'.sessions.roster.value = s.sessions.roster.value

theorem Demands.trans (h : Demands s₁ s₂) (h' : Demands s₂ s₃) : Demands s₁ s₃ :=
  ⟨h.toRetains.trans h'.toRetains, h'.value_eq.trans h.value_eq⟩

/-- A peer that the host asks for is wanted removed, and with it those that were before. -/
theorem requestKick_cases (aid : UInt16) (s : SharedState) :
    s.requestKick aid = (s, .error .invalidPeerCount) ∨
      ∃ s', s.requestKick aid = (s', .ok ()) ∧ s.Demands s' ∧ s'.Wants aid.toNat := by
  unfold requestKick
  split
  · exact .inl rfl
  · rename_i hbounds
    have hor : (({ s with kicks := s.kicks ||| kickBit aid.toNat } : SharedState).kicks =
      s.kicks ||| kickBit aid.toNat) := rfl
    refine .inr ⟨_, rfl, ⟨.of_or hor id, rfl⟩, (wants_or hor).mpr (.inr ?_)⟩
    rw [mem_requestedAids, testBit_kickBit (by omega)]
    exact ⟨by omega, by simp⟩

theorem keptByAsking_demands (s : SharedState) : Host.KeptByAsking s.Demands where
  post command h := by
    refine h.trans ?_
    unfold postCommand
    split <;> exact ⟨.of_eq rfl rfl, rfl⟩
  setAccepting accepting h := h.trans ⟨.of_eq rfl rfl, rfl⟩
  requestKick aid h := by
    refine h.trans ?_
    obtain hrefused | ⟨asked, hasked, hdemands, -⟩ := requestKick_cases aid _
    · rw [hrefused]
      exact ⟨.refl _, rfl⟩
    · rw [hasked]
      exact hdemands
  requestKickUnassociated h := h.trans ⟨⟨fun _ hwants => hwants, fun _ => rfl⟩, rfl⟩

end SharedState

namespace Host

variable {h h' : Host}

/-- Whom the host agrees to remove it wants removed from then on. -/
theorem wants_of_kick {aid : UInt16} (hkick : h.kick aid = (h', .ok ())) :
    h'.shared.Wants aid.toNat := by
  unfold kick at hkick
  split at hkick
  · obtain hrefused | ⟨asked, hasked, -, hwants⟩ := SharedState.requestKick_cases aid h.shared
    · rw [hrefused] at hkick
      cases hkick
    · rw [hasked] at hkick
      cases hkick
      exact hwants
  · cases hkick

theorem kickUnassociated_of_kickUnassociated (hkick : h.kickUnassociated = (h', .ok ())) :
    h'.shared.kickUnassociated = true := by
  unfold kickUnassociated at hkick
  split at hkick
  · cases hkick
    rfl
  · cases hkick

end Host

namespace Link

/-- The host asks for something or uses the roster, and does nothing else about either. -/
def HostMove.OnlyDemands (move : HostMove) : Prop :=
  ∀ s : SharedState, s.Demands (move.act s)

/-- Whatever the host does in the course of the action, it does no more than that. -/
def Action.OnlyDemands : Action → Prop
  | .host move => move.OnlyDemands
  | .tick _ moves => ∀ step, (moves step).OnlyDemands
  | .post _ | .receive _ _ _ _ => True

/-- No call of the host takes a request back or changes the roster. -/
theorem onlyDemands_calling (controller : Host.Controller) (call : Host.Call) :
    (calling controller call).OnlyDemands := fun s =>
  (SharedState.keptByAsking_demands s).perform call (h := ⟨controller, s⟩) ⟨.refl s, rfl⟩

/-- The host uses the roster. -/
theorem onlyDemands_holding : holding.OnlyDemands := fun s =>
  ⟨.of_eq rfl rfl, Session.Table.value_hold .host s.sessions⟩

theorem onlyDemands_releasing : releasing.OnlyDemands := fun _ => ⟨.of_eq rfl rfl, rfl⟩

theorem onlyDemands_idle : HostMove.idle.OnlyDemands := fun s => ⟨.refl s, rfl⟩

end Link

end WlanControl
