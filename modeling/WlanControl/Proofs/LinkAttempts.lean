import WlanControl.Proofs.LinkTending

namespace WlanControl.Link

open WlanControl.Frame (Authentication Header StatusCode)

/-!
# The link layer — what attempts are made of

The handlers of a connection attempt store modes and levels, send frames, and note how far the
attempt has come.  What these building blocks keep, all handlers keep.

* `Notes` — a link before and after an attempt noted something;
* `KeptByAttempts` — what the building blocks keep, with `keptByAttempts_of_eq` for a part of a link
  that they leave alone;
* `KeptByAttempts.restart`, `KeptByAttempts.receiveEapol`, … — the handlers.

Main statement: `KeptByAttempts.connectingTick`, for all that ticks do to an attempt.
-/

variable {σ : Type} {l l' : Link σ} (env : Surroundings σ)

/-! ### Building blocks -/

/-- What is logged of the key exchange. -/
def Event.isExchange : Event → Bool
  | .exchangeBegun _ _ _ | .exchanged _ _ | .exchangeReset => true
  | _ => false

/-- From one link to the other it was noted how far an attempt has come, and the key exchange was
told something. -/
structure Notes (l l' : Link σ) : Prop where
  machine_eq : l'.machine = { l.machine with
    retries := l'.machine.retries
    handshake.step := l'.machine.handshake.step
    handshake.challenge := l'.machine.handshake.challenge
    handshake.sentAt := l'.machine.handshake.sentAt
    encrypting := l'.machine.encrypting
    lastSent := l'.machine.lastSent
    lastHeard := l'.machine.lastHeard }
  shared_eq : l'.shared = { l.shared with
    statistics.retransmissions := l'.shared.statistics.retransmissions
    status.retries := l'.shared.status.retries
    status.failure := l'.shared.status.failure
    status.aid := l'.shared.status.aid }
  log_eq : ∃ events, l'.log = events ++ l.log ∧ ∀ e ∈ events, e.isExchange = true

/-- What the building blocks of attempts keep, from the link before to the one after. -/
structure KeptByAttempts (R : Link σ → Link σ → Prop) : Prop where
  refl : ∀ l, R l l
  trans : ∀ {l₁ l₂ l₃}, R l₁ l₂ → R l₂ l₃ → R l₁ l₃
  notes : ∀ {l l'}, Notes l l' → R l l'
  setAuthLevel : ∀ authLevel l, R l (l.setAuthLevel authLevel)
  setMode : ∀ mode l, R l (l.setMode mode)
  leaveAp : ∀ l, R l (l.leaveAp env)
  sendHandshakeFrame : ∀ l, R l (l.sendHandshakeFrame env)
  sendDataToAp : ∀ destination type payload l, R l (l.sendDataToAp env destination type payload)

/-- A part of a link is kept if it takes no notes, modes, levels or frames. -/
theorem keptByAttempts_of_eq {α : Type} {part : Link σ → α}
    (hnotes : ∀ {l l'}, Notes l l' → part l' = part l)
    (hlevel : ∀ authLevel l, part (l.setAuthLevel authLevel) = part l)
    (hmode : ∀ mode l, part (l.setMode mode) = part l)
    (htransmits : ∀ {l l'}, Transmits l l' → part l' = part l) :
    KeptByAttempts env fun l l' => part l' = part l where
  refl _ := rfl
  trans h h' := h'.trans h
  notes := hnotes
  setAuthLevel := hlevel
  setMode := hmode
  leaveAp l := htransmits (transmits_leaveAp env l)
  sendHandshakeFrame l := htransmits (transmits_sendHandshakeFrame env l)
  sendDataToAp destination type payload l :=
    htransmits (transmits_sendDataToAp env destination type payload l)

namespace KeptByAttempts

variable {env} {R : Link σ → Link σ → Prop} (h : KeptByAttempts env R)
include h

theorem noteHeard (l : Link σ) : R l l.noteHeard := h.notes ⟨rfl, rfl, [], rfl, by simp⟩

/-! ### The budget -/

theorem fail (failure : LinkError) (l : Link σ) : R l (l.fail env failure) := by
  have hreset (m : Link σ) : R m { m.resetExchange env with machine.encrypting := false } :=
    h.notes ⟨rfl, rfl, [_], rfl, by simp [Event.isExchange]⟩
  have hfailed (m : Link σ) : R m (m.setFailure (some failure)) :=
    h.notes ⟨rfl, rfl, [], rfl, by simp⟩
  unfold Link.fail
  refine h.trans ?_ (hfailed _)
  refine h.trans ?_ (h.setMode .cannotConnect _)
  refine h.trans ?_ (h.setAuthLevel .error _)
  exact h.trans (h.leaveAp l) (hreset _)

/-- Whether there was a retry left or not. -/
theorem of_spendRetry {failure : LinkError} {left : Bool}
    (hspent : l.spendRetry env failure = (l', left)) : R l l' := by
  have hcounted : R l (l.setRetries (spent l.machine.retries)) :=
    h.notes ⟨rfl, rfl, [], rfl, by simp⟩
  unfold spendRetry at hspent
  simp only at hspent
  split at hspent
  · cases hspent
    exact h.trans hcounted (h.fail failure _)
  · cases hspent
    exact hcounted

theorem restart (l : Link σ) : R l (l.restart env) := by
  have hreset (m : Link σ) : R m (setAid 0 { m.resetExchange env with
      machine.encrypting := false
      machine.handshake.step := .authenticate
      machine.handshake.sentAt := m.machine.now
      machine.lastHeard := m.machine.now }) :=
    h.notes ⟨rfl, rfl, [_], rfl, by simp [Event.isExchange]⟩
  unfold Link.restart
  split
  · rename_i failed hspent
    exact h.of_spendRetry hspent
  · rename_i left hspent
    refine h.trans ?_ (h.sendHandshakeFrame _)
    refine h.trans ?_ (h.setMode .connecting _)
    refine h.trans ?_ (h.setAuthLevel .disconnected _)
    exact h.trans (h.of_spendRetry hspent) (hreset left)

theorem retryRejected (failure : LinkError) (l : Link σ) : R l (l.retryRejected env failure) := by
  unfold Link.retryRejected
  split
  · rename_i failed hspent
    exact h.of_spendRetry hspent
  · rename_i left hspent
    exact h.trans (h.of_spendRetry hspent) (h.sendHandshakeFrame left)

theorem connectingTick (l : Link σ) : R l (l.connectingTick env) := by
  unfold Link.connectingTick
  -- The handshake starts over, or its last frame is sent once more.
  split
  · exact h.restart l
  · split
    · split
      · split
        · rename_i failed hspent
          exact h.of_spendRetry hspent
        · rename_i left hspent
          exact h.trans (h.of_spendRetry hspent) (h.notes ⟨rfl, rfl, [], rfl, by simp⟩)
      · split
        · rename_i failed hspent
          exact h.of_spendRetry hspent
        · rename_i left hspent
          have hcounted : R left (left.count Statistics.countRetransmission) :=
            h.notes ⟨rfl, rfl, [], rfl, by simp⟩
          exact h.trans (h.trans (h.of_spendRetry hspent) hcounted) (h.sendHandshakeFrame _)
    · exact h.refl l

/-! ### Frames of the access point -/

theorem acceptAuthentication (body : Authentication) (l : Link σ) :
    R l (l.acceptAuthentication env body) := by
  have hchallenged (challenge : List UInt8) : R l { l with
      machine.handshake.challenge := challenge
      machine.handshake.step := .challenge } := h.notes ⟨rfl, rfl, [], rfl, by simp⟩
  have hbelieved (m : Link σ) : R m { m with machine.handshake.step := .associate } :=
    h.notes ⟨rfl, rfl, [], rfl, by simp⟩
  unfold Link.acceptAuthentication
  split
  · exact h.trans (hchallenged _) (h.sendHandshakeFrame _)
  · exact h.retryRejected _ l
  · refine h.trans ?_ (h.sendHandshakeFrame _)
    exact h.trans (h.setAuthLevel .authenticated l) (hbelieved _)

/-- The open system may be asked for in place of a shared key. -/
theorem receiveAuthentication (hback : ∀ l, R l { l with
      machine.handshake.algorithm := .openSystem
      machine.handshake.openSystemTried := true })
    (header : Header) (body : Authentication) (l : Link σ) :
    R l (l.receiveAuthentication env header body) := by
  have hrefused (m : Link σ) : R m { m with machine.handshake.step := .authenticate } :=
    h.notes ⟨rfl, rfl, [], rfl, by simp⟩
  unfold Link.receiveAuthentication
  split
  · exact h.refl l
  · refine h.trans (h.noteHeard l) ?_
    simp only
    split
    · exact h.refl _
    · split
      · exact h.acceptAuthentication body _
      · split
        · exact h.trans (hback _) (h.sendHandshakeFrame _)
        · exact h.trans (hrefused _) (h.retryRejected _ _)

theorem establish (l : Link σ) : R l l.establish := by
  have hnoted : R l { l with
      machine.handshake.step := .done
      machine.lastSent := l.machine.now
      machine.lastHeard := l.machine.now } := h.notes ⟨rfl, rfl, [], rfl, by simp⟩
  exact h.trans hnoted (h.setMode .connected _)

theorem acceptAssociation (target : ConnectTarget) (aid : UInt16) (l : Link σ) :
    R l (l.acceptAssociation env target aid) := by
  have haid : R l (l.setAid aid) := h.notes ⟨rfl, rfl, [], rfl, by simp⟩
  unfold Link.acceptAssociation
  refine h.trans (h.trans haid (h.setAuthLevel .associated _)) ?_
  simp only
  generalize (l.setAid aid).setAuthLevel .associated = raised
  split
  · split
    · exact h.fail _ _
    · exact h.notes ⟨rfl, rfl, [_], rfl, by simp [Event.isExchange]⟩
  · have hmarked (encrypting : Bool) :
        R raised { raised with machine.encrypting := encrypting } :=
      h.notes ⟨rfl, rfl, [], rfl, by simp⟩
    exact h.trans (hmarked _) (h.establish _)

/-- The expanded set may be claimed in place of the native one. -/
theorem receiveAssociationResponse (hrates : ∀ l, R l { l with
      machine.handshake.rateSet := .expanded
      machine.handshake.expandedTried := true })
    (header : Header) (status : StatusCode) (aid : UInt16) (l : Link σ) :
    R l (l.receiveAssociationResponse env header status aid) := by
  have hrefused (l : Link σ) : R l (l.refuseRates env) := by
    unfold refuseRates
    split
    · exact h.fail _ l
    · exact h.trans (hrates l) (h.retryRejected _ _)
  unfold Link.receiveAssociationResponse
  split
  · exact h.refl l
  · refine h.trans (h.noteHeard l) ?_
    simp only
    split
    · exact h.refl _
    · split
      · exact h.acceptAssociation _ aid _
      · exact hrefused _
      · exact h.retryRejected _ _

/-- What becomes of a link, be it up or not, that is ended from the other side. -/
theorem dismissed (header : Header) (entirely : Bool) (l : Link σ) : R l
    (if !l.isFromTarget header then l else if entirely then l.restart env else l.deassociate) := by
  have hnoted : R l { l with
      machine.handshake.step := .authenticate
      machine.encrypting := false } := h.notes ⟨rfl, rfl, [], rfl, by simp⟩
  split
  · exact h.refl l
  · split
    · exact h.restart l
    · exact h.trans (h.trans hnoted (h.setAuthLevel .deassociated _)) (h.setMode .connecting _)

theorem receiveEapol (payload : List UInt8) (l : Link σ) : R l (l.receiveEapol env payload) := by
  unfold Link.receiveEapol
  split
  · exact h.refl l
  · simp only
    -- The answer is sent before the outcome matters.
    generalize hreplied : (if (l.exchange env payload).2.reply.isEmpty then
      (l.exchange env payload).1 else _) = replied
    have hexchanged : R l (l.exchange env payload).1 :=
      h.notes ⟨rfl, rfl, [_], rfl, by simp [Event.isExchange]⟩
    have hsent : R l replied := by
      rw [← hreplied]
      split
      · exact hexchanged
      · exact h.trans hexchanged (h.sendDataToAp _ _ _ _)
    have hmarked : R replied { replied with machine.encrypting := true } :=
      h.notes ⟨rfl, rfl, [], rfl, by simp⟩
    refine h.trans hsent ?_
    split
    · exact h.refl _
    · split
      · exact h.trans hmarked (h.establish _)
      · exact hmarked
    · exact h.fail _ _

/-- Packets are handed to the host. -/
theorem receiveFromNetwork (hdeliver : ∀ packet l, R l (l.deliver packet)) (target : ConnectTarget)
    (header : Header) (body : List UInt8) (l : Link σ) :
    R l (l.receiveFromNetwork env target header body) := by
  unfold Link.receiveFromNetwork
  split
  · exact h.refl l
  · refine h.trans (h.noteHeard l) ?_
    simp only
    split
    · exact h.refl _
    · split
      · exact h.receiveEapol _ _
      · split
        · exact hdeliver _ _
        · exact h.refl _

end KeptByAttempts

end WlanControl.Link
