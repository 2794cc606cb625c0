import WlanControl.Proofs.LinkUtterances

namespace WlanControl.Link

open WlanControl.Frame (Authentication BeaconInfo Header Received StatusCode)

/-!
# The link layer — the account that it gives of itself

The mode, the level, the channel and the count of retries are kept by the link layer, and published
whenever they are stored.  Attaching to shared memory publishes the mode alone.  What an earlier
link layer left of the others stays there until they are stored for the first time.

* `Account` — the values that are kept and published;
* `Renewed`, `Reports` — from one link to the other each of them was published, or left alone;
* `Advances` — what all but commands do: they report, and change neither the target nor the session;
* `advances_restart`, `advances_receiveEapol`, … — every handler advances;
* `advances_work`, `advances_receiveAmid`, `reports_obey` — all that ticks and frames do.

Main statements: `reports_run`, what is published is renewed in every run, `Told`, what that means
for the host, with `told_run`, and `untold_after_reattaching`, an association of an earlier link
layer that the host is told of.
-/

variable {σ : Type} {l l' l₁ l₂ l₃ : Link σ} (env : Surroundings σ)

/-! ### Accounts -/

/-- The values that the link layer keeps and publishes. -/
@[ext] structure Account where
  mode : Mode
  authLevel : AuthLevel
  channel : UInt8
  retries : UInt8
deriving DecidableEq, Repr

/-- The values, as the link layer keeps them. -/
def account (l : Link σ) : Account :=
  ⟨l.machine.mode, l.machine.authLevel, l.machine.channel, l.machine.retries⟩

/-- The values, as the host reads them. -/
def published (l : Link σ) : Account :=
  ⟨l.shared.status.mode, l.shared.status.authLevel, l.shared.status.channel,
    l.shared.status.retries⟩

/-- A value was published, or neither the value nor what is published of it has changed. -/
def Renewed {α : Type} (own published own' published' : α) : Prop :=
  published' = own' ∨ own' = own ∧ published' = published

/-- From one link to the other each value was published or left alone. -/
structure Reports (l l' : Link σ) : Prop where
  mode : Renewed l.account.mode l.published.mode l'.account.mode l'.published.mode
  authLevel : Renewed l.account.authLevel l.published.authLevel l'.account.authLevel
    l'.published.authLevel
  channel : Renewed l.account.channel l.published.channel l'.account.channel l'.published.channel
  retries : Renewed l.account.retries l.published.retries l'.account.retries l'.published.retries

namespace Renewed

variable {α : Type} {own published own' published' own'' published'' : α}

theorem refl (own published : α) : Renewed own published own published := .inr ⟨rfl, rfl⟩

theorem trans (h : Renewed own published own' published')
    (h' : Renewed own' published' own'' published'') : Renewed own published own'' published'' := by
  rcases h' with hrenewed | ⟨rfl, rfl⟩
  · exact .inl hrenewed
  · exact h

/-- What is true stays true. -/
theorem eq_of_eq (h : Renewed own published own' published') (heq : published = own) :
    published' = own' := by
  rcases h with hrenewed | ⟨rfl, rfl⟩
  · exact hrenewed
  · exact heq

end Renewed

namespace Reports

theorem refl (l : Link σ) : Reports l l := ⟨.refl _ _, .refl _ _, .refl _ _, .refl _ _⟩

theorem trans (h : Reports l₁ l₂) (h' : Reports l₂ l₃) : Reports l₁ l₃ where
  mode := h.mode.trans h'.mode
  authLevel := h.authLevel.trans h'.authLevel
  channel := h.channel.trans h'.channel
  retries := h.retries.trans h'.retries

end Reports

/-- Where both accounts stayed as they were nothing had to be published. -/
theorem reports_of_eq (hown : l'.account = l.account) (hpublished : l'.published = l.published) :
    Reports l l' := by
  constructor
  · exact .inr ⟨congrArg Account.mode hown, congrArg Account.mode hpublished⟩
  · exact .inr ⟨congrArg Account.authLevel hown, congrArg Account.authLevel hpublished⟩
  · exact .inr ⟨congrArg Account.channel hown, congrArg Account.channel hpublished⟩
  · exact .inr ⟨congrArg Account.retries hown, congrArg Account.retries hpublished⟩

/-! ### What is left of a link -/

/-- The key that was installed, or that it was removed. -/
def Event.key? : Event → Option (Option Key)
  | .keyInstalled key => some key
  | _ => none

/-- The key that was installed last, if one was installed or removed at all. -/
def installed? (log : List Event) : Option (Option Key) := log.findSome? Event.key?

/-- Nothing is left of a link to an access point. -/
structure Clear (l : Link σ) : Prop where
  encrypting_eq : l.machine.encrypting = false
  apSlot_eq : l.shared.status.apSlot = none
  aid_eq : l.shared.status.aid = 0
  key_eq : ∀ key, installed? l.log = some key → key = none

/-- Frames, records and stores install no key. -/
theorem installed?_append {log events : List Event} (h : ∀ e ∈ events, e.key? = none) :
    installed? (events ++ log) = installed? log := by
  have hnone : events.findSome? Event.key? = none := List.findSome?_eq_none_iff.mpr h
  rw [installed?, List.findSome?_append, hnone]
  rfl

/-- Values were published or left alone, for the same target and session, and if there is no target
nothing comes back of an earlier one. -/
structure Advances (l l' : Link σ) : Prop extends Reports l l' where
  target_eq : l'.machine.target = l.machine.target
  host_eq : l'.machine.host = l.machine.host
  clear : l.machine.target = none → l.Clear → l'.Clear
  /-- What was logged stays. -/
  log_suffix : l.log <:+ l'.log

namespace Advances

theorem refl (l : Link σ) : Advances l l :=
  ⟨.refl l, rfl, rfl, fun _ h => h, List.suffix_refl _⟩

theorem trans (h : Advances l₁ l₂) (h' : Advances l₂ l₃) : Advances l₁ l₃ where
  toReports := h.toReports.trans h'.toReports
  target_eq := h'.target_eq.trans h.target_eq
  host_eq := h'.host_eq.trans h.host_eq
  clear := fun hnone hl => h'.clear (h.target_eq.trans hnone) (h.clear hnone hl)
  log_suffix := h.log_suffix.trans h'.log_suffix

end Advances

theorem Tends.clear (h : Tends l l') (hl : l.Clear) : l'.Clear := by
  obtain ⟨events, hlog, hevents⟩ := h.log_eq
  constructor
  · rw [h.machine_eq]
    exact hl.encrypting_eq
  · rw [h.shared_eq]
    exact hl.apSlot_eq
  · rw [h.shared_eq]
    exact hl.aid_eq
  · rw [hlog, installed?_append]
    · exact hl.key_eq
    · intro e he
      have := hevents e he
      cases e <;> simp_all [Event.isTransmission, Event.key?]

theorem Tends.advances (h : Tends l l') : Advances l l' where
  toReports := by
    refine reports_of_eq ?_ ?_
    · unfold account
      rw [h.machine_eq]
    · unfold published
      rw [h.shared_eq]
  target_eq := by
    rw [h.machine_eq]
  host_eq := by
    rw [h.machine_eq]
  clear := fun _ hl => h.clear hl
  log_suffix := by
    obtain ⟨events, hlog, -⟩ := h.log_eq
    exact ⟨events, hlog.symm⟩

theorem Transmits.advances (h : Transmits l l') : Advances l l' := h.tends.advances

/-! ### Stores -/

theorem clear_setAuthLevel (authLevel : AuthLevel) (h : l.Clear) :
    (l.setAuthLevel authLevel).Clear := ⟨h.encrypting_eq, h.apSlot_eq, h.aid_eq, h.key_eq⟩

theorem clear_setMode (mode : Mode) (h : l.Clear) : (l.setMode mode).Clear := by
  unfold setMode
  simp only
  split
  · exact ⟨h.encrypting_eq, h.apSlot_eq, h.aid_eq, h.key_eq⟩
  · exact ⟨h.encrypting_eq, h.apSlot_eq, h.aid_eq, h.key_eq⟩

theorem advances_setAuthLevel (authLevel : AuthLevel) (l : Link σ) :
    Advances l (l.setAuthLevel authLevel) where
  mode := .refl _ _
  authLevel := .inl rfl
  channel := .refl _ _
  retries := .refl _ _
  target_eq := rfl
  host_eq := rfl
  clear := fun _ h => clear_setAuthLevel authLevel h
  log_suffix := ⟨[_], rfl⟩

theorem advances_setMode (mode : Mode) (l : Link σ) : Advances l (l.setMode mode) := by
  have hclear := fun (_ : l.machine.target = none) (h : l.Clear) => clear_setMode mode h
  refine ⟨?_, by rw [machine_setMode], by rw [machine_setMode], hclear, ?_⟩
  · unfold setMode
    simp only
    -- An association that does not go with the mode is given up first.
    split
    · exact (advances_setAuthLevel .disconnected l).toReports.trans
        ⟨.inl rfl, .refl _ _, .refl _ _, .refl _ _⟩
    · exact ⟨.inl rfl, .refl _ _, .refl _ _, .refl _ _⟩
  · unfold setMode
    simp only
    split
    · exact ⟨[_, _], rfl⟩
    · exact ⟨[_], rfl⟩

theorem advances_setRetries (retries : UInt8) (l : Link σ) : Advances l (l.setRetries retries) where
  mode := .refl _ _
  authLevel := .refl _ _
  channel := .refl _ _
  retries := .inl rfl
  target_eq := rfl
  host_eq := rfl
  clear := fun _ h => ⟨h.encrypting_eq, h.apSlot_eq, h.aid_eq, h.key_eq⟩
  log_suffix := List.suffix_refl _

theorem advances_tune (channel : UInt8) (l : Link σ) : Advances l (l.tune env channel) where
  mode := .refl _ _
  authLevel := .refl _ _
  channel := .inl rfl
  retries := .refl _ _
  target_eq := rfl
  host_eq := rfl
  clear := fun _ h => ⟨h.encrypting_eq, h.apSlot_eq, h.aid_eq, h.key_eq⟩
  log_suffix := ⟨[_], rfl⟩

theorem advances_of_eq (hown : l'.account = l.account) (hpublished : l'.published = l.published)
    (htarget : l'.machine.target = l.machine.target) (hhost : l'.machine.host = l.machine.host)
    (hlog : l.log <:+ l'.log) (hclear : l.machine.target = none → l.Clear → l'.Clear) :
    Advances l l' :=
  ⟨reports_of_eq hown hpublished, htarget, hhost, hclear, hlog⟩

/-- All that is published or kept for a link or a session, with the log. -/
structure Affairs where
  account : Account
  published : Account
  target : Option ConnectTarget
  host : Option HostParameters
  encrypting : Bool
  apSlot : Option Nat
  aid : UInt16
  log : List Event

/-- The affairs of a link layer. -/
def affairs (l : Link σ) : Affairs where
  account := l.account
  published := l.published
  target := l.machine.target
  host := l.machine.host
  encrypting := l.machine.encrypting
  apSlot := l.shared.status.apSlot
  aid := l.shared.status.aid
  log := l.log

/-- All else may change. -/
theorem advances_of_affairs_eq (h : l'.affairs = l.affairs) : Advances l l' := by
  have hlog : l'.log = l.log := congrArg Affairs.log h
  refine advances_of_eq (congrArg Affairs.account h) (congrArg Affairs.published h)
    (congrArg Affairs.target h) (congrArg Affairs.host h) (hlog ▸ List.suffix_refl _) fun _ hl => ?_
  exact ⟨(congrArg Affairs.encrypting h).trans hl.encrypting_eq,
    (congrArg Affairs.apSlot h).trans hl.apSlot_eq, (congrArg Affairs.aid h).trans hl.aid_eq,
    by rw [hlog]; exact hl.key_eq⟩

/-! ### The building blocks of handlers -/

theorem advances_fail (failure : LinkError) (l : Link σ) : Advances l (l.fail env failure) := by
  have hleft := (transmits_leaveAp env l).advances
  generalize hname : l.leaveAp env = left at hleft
  unfold fail
  rw [hname]
  have hreset : Advances left { left.resetExchange env with machine.encrypting := false } :=
    advances_of_eq rfl rfl rfl rfl ⟨[_], rfl⟩ fun _ h => ⟨rfl, h.apSlot_eq, h.aid_eq, h.key_eq⟩
  have hlevel := advances_setAuthLevel .error { left.resetExchange env with
    machine.encrypting := false }
  have hmode := advances_setMode .cannotConnect (setAuthLevel .error { left.resetExchange env with
    machine.encrypting := false })
  refine (((hleft.trans hreset).trans hlevel).trans hmode).trans ?_
  exact advances_of_affairs_eq rfl

/-- Whether there was a retry left or not. -/
theorem advances_of_spendRetry {failure : LinkError} {left : Bool}
    (hspent : l.spendRetry env failure = (l', left)) : Advances l l' := by
  have hcounted := advances_setRetries (spent l.machine.retries) l
  unfold spendRetry at hspent
  simp only at hspent
  split at hspent
  · cases hspent
    exact hcounted.trans (advances_fail env failure _)
  · cases hspent
    exact hcounted

theorem advances_restart (l : Link σ) : Advances l (l.restart env) := by
  unfold restart
  split
  · rename_i failed hspent
    exact advances_of_spendRetry env hspent
  · rename_i left hspent
    have hreset : Advances left (setAid 0 { left.resetExchange env with
        machine.encrypting := false
        machine.handshake.step := .authenticate
        machine.handshake.sentAt := left.machine.now
        machine.lastHeard := left.machine.now }) :=
      advances_of_eq rfl rfl rfl rfl ⟨[_], rfl⟩ fun _ h => ⟨rfl, h.apSlot_eq, rfl, h.key_eq⟩
    refine (((advances_of_spendRetry env hspent).trans hreset).trans
      (advances_setAuthLevel .disconnected _)).trans ?_
    exact (advances_setMode .connecting _).trans (transmits_sendHandshakeFrame env _).advances

theorem advances_retryRejected (failure : LinkError) (l : Link σ) :
    Advances l (l.retryRejected env failure) := by
  unfold retryRejected
  split
  · rename_i failed hspent
    exact advances_of_spendRetry env hspent
  · rename_i left hspent
    exact (advances_of_spendRetry env hspent).trans
      (transmits_sendHandshakeFrame env left).advances

/-- How far the handshake has come is not published. -/
theorem advances_handshake (handshake : Handshake) (l : Link σ) :
    Advances l { l with machine.handshake := handshake } :=
  advances_of_affairs_eq rfl

theorem advances_noteHeard (l : Link σ) : Advances l l.noteHeard :=
  advances_of_affairs_eq rfl

theorem advances_establish (l : Link σ) : Advances l l.establish := by
  unfold establish
  refine Advances.trans ?_ (advances_setMode .connected _)
  exact advances_of_affairs_eq rfl

/-! ### Ticks -/

theorem advances_scanTick (l : Link σ) : Advances l (l.scanTick env) := by
  unfold scanTick
  split
  · refine Advances.trans ?_ (transmits_sendProbeRequest env _).advances
    exact (advances_tune env _ l).trans (advances_of_affairs_eq rfl)
  · exact .refl l

theorem advances_connectingTick (l : Link σ) : Advances l (l.connectingTick env) := by
  unfold connectingTick
  split
  · exact advances_restart env l
  · split
    · split
      · split
        · rename_i failed hspent
          exact advances_of_spendRetry env hspent
        · rename_i left hspent
          exact (advances_of_spendRetry env hspent).trans (advances_handshake _ left)
      · split
        · rename_i failed hspent
          exact advances_of_spendRetry env hspent
        · rename_i left hspent
          exact ((advances_of_spendRetry env hspent).trans (tends_count _ left).advances).trans
            (transmits_sendHandshakeFrame env _).advances
    · exact .refl l

theorem advances_taken (record : List UInt8) (l : Link σ) :
    Advances l { l with log := .taken record :: l.log } :=
  advances_of_eq rfl rfl rfl rfl ⟨[_], rfl⟩ fun _ h =>
    ⟨h.encrypting_eq, h.apSlot_eq, h.aid_eq, h.key_eq⟩

theorem advances_drainBurst (l : Link σ) : Advances l (l.drainBurst env) := by
  refine drainBurst_keeps env (P := Advances l) ?_ ?_ (.refl l)
  · intro m tx h
    exact h.trans (Tends.advances ⟨rfl, rfl, [], rfl, by simp⟩)
  · intro m bssid direction record h
    unfold forward
    split
    · exact h.trans (advances_taken record m)
    · exact (h.trans (advances_taken record m)).trans (transmits_send env _ _).advances

theorem advances_connectedTick (l : Link σ) : Advances l (l.connectedTick env) := by
  unfold connectedTick
  split
  · exact advances_restart env l
  · simp only
    split
    · exact (advances_drainBurst env l).trans (transmits_sendNullData env _).advances
    · exact advances_drainBurst env l

/-- The host does not store what the radio publishes. -/
theorem advances_pause {meanwhile : Meanwhile} (hspares : meanwhile.SparesStatus) (step : Nat)
    (l : Link σ) : Advances l (l.pause meanwhile step) := by
  have hstatus : (l.pause meanwhile step).shared.status = l.shared.status := hspares step l.shared
  refine advances_of_affairs_eq ?_
  simp only [affairs, published, hstatus]
  rfl

theorem advances_work {meanwhile : Meanwhile} (hspares : meanwhile.SparesStatus) (l : Link σ) :
    Advances l (l.work env meanwhile) := by
  have hdiscarded : Advances l l.discard := Tends.advances ⟨rfl, rfl, [], rfl, by simp⟩
  unfold work
  split
  · exact advances_scanTick env l
  · exact advances_connectingTick env l
  · exact advances_connectedTick env l
  · exact accessPointTick_keeps env (P := Advances l)
      (fun htends h => h.trans htends.advances)
      (fun step h => h.trans (advances_pause hspares step _))
      (fun record h => h.trans (advances_taken record _)) (.refl l)
  · exact hdiscarded
  · exact hdiscarded
  · exact hdiscarded

/-! ### Frames -/

/-- The slot of the access point is published only for a target. -/
theorem advances_receiveBeacon (seized : Nat → Bool) (info : BeaconInfo) (rssi : UInt8)
    (l : Link σ) : Advances l (l.receiveBeacon seized info rssi) := by
  have hnoted (m : Link σ) (o : Discovery.Observation) (slot : Option Nat)
      (hours : m.machine.target.any (·.bssid = info.bssid) = true) :
      Advances m (m.noteTargetObserved o slot) := by
    have hsome : m.machine.target ≠ none := by
      intro hnone
      rw [hnone] at hours
      cases hours
    unfold noteTargetObserved
    split <;> split <;>
      exact advances_of_eq rfl rfl rfl rfl (List.suffix_refl _) fun hnone _ => absurd hnone hsome
  have hstored (accessPoints : Discovery.Table) :
      Advances l { l with shared.accessPoints := accessPoints } :=
    advances_of_affairs_eq rfl
  unfold receiveBeacon
  split
  · exact .refl l
  · simp only
    split
    · split
      · rename_i hours
        exact (hstored _).trans (hnoted _ _ _ hours)
      · exact hstored _
    · split
      · rename_i hours
        exact ((hstored _).trans (tends_count _ _).advances).trans (hnoted _ _ _ hours)
      · exact (hstored _).trans (tends_count _ _).advances

theorem advances_acceptAuthentication (body : Authentication) (l : Link σ) :
    Advances l (l.acceptAuthentication env body) := by
  unfold acceptAuthentication
  split
  · exact (advances_handshake _ l).trans (transmits_sendHandshakeFrame env _).advances
  · exact advances_retryRejected env _ l
  · have hbelieved := advances_setAuthLevel .authenticated l
    unfold proceedToAssociation
    exact (hbelieved.trans (advances_handshake _ _)).trans
      (transmits_sendHandshakeFrame env _).advances

theorem advances_receiveAuthentication (header : Header) (body : Authentication) (l : Link σ) :
    Advances l (l.receiveAuthentication env header body) := by
  unfold receiveAuthentication
  split
  · exact .refl l
  · refine (advances_noteHeard l).trans ?_
    simp only
    split
    · exact .refl _
    · split
      · exact advances_acceptAuthentication env body _
      · split
        · exact (advances_handshake _ _).trans (transmits_sendHandshakeFrame env _).advances
        · exact (advances_handshake _ _).trans (advances_retryRejected env _ _)

/-- A link layer that is let in has a target. -/
theorem advances_acceptAssociation {target : ConnectTarget} {l : Link σ}
    (htarget : l.machine.target = some target) (aid : UInt16) :
    Advances l (l.acceptAssociation env target aid) := by
  have hassociated : Advances l ((l.setAid aid).setAuthLevel .associated) := by
    refine Advances.trans ?_ (advances_setAuthLevel .associated _)
    refine advances_of_eq rfl rfl rfl rfl (List.suffix_refl _) fun hnone _ => ?_
    cases htarget.symm.trans hnone
  have htarget' : ((l.setAid aid).setAuthLevel .associated).machine.target = some target := htarget
  unfold acceptAssociation
  simp only
  generalize (l.setAid aid).setAuthLevel .associated = associated at hassociated htarget' ⊢
  -- The rest concerns what there is only with a target.
  have hkept {m : Link σ} (hown : m.account = associated.account)
      (hpublished : m.published = associated.published)
      (hsame : m.machine.target = associated.machine.target)
      (hhost : m.machine.host = associated.machine.host) (hlog : associated.log <:+ m.log) :
      Advances associated m := by
    refine advances_of_eq hown hpublished hsame hhost hlog fun hnone _ => ?_
    cases htarget'.symm.trans hnone
  refine hassociated.trans ?_
  split
  · split
    · exact advances_fail env _ _
    · exact hkept rfl rfl rfl rfl ⟨[_], rfl⟩
  · refine Advances.trans ?_ (advances_establish _)
    exact hkept rfl rfl rfl rfl (List.suffix_refl _)

theorem advances_refuseRates (l : Link σ) : Advances l (l.refuseRates env) := by
  unfold refuseRates
  split
  · exact advances_fail env _ l
  · exact (advances_handshake _ l).trans (advances_retryRejected env _ _)

theorem advances_receiveAssociationResponse (header : Header) (status : StatusCode) (aid : UInt16)
    (l : Link σ) : Advances l (l.receiveAssociationResponse env header status aid) := by
  unfold receiveAssociationResponse
  split
  · exact .refl l
  · refine (advances_noteHeard l).trans ?_
    simp only
    split
    · exact .refl _
    · rename_i target htarget
      split
      · exact advances_acceptAssociation env htarget aid
      · exact advances_refuseRates env _
      · exact advances_retryRejected env _ _

theorem advances_deassociate (l : Link σ) : Advances l l.deassociate := by
  unfold deassociate
  refine Advances.trans ?_ (advances_setMode .connecting _)
  refine Advances.trans ?_ (advances_setAuthLevel .deassociated _)
  exact advances_of_eq rfl rfl rfl rfl (List.suffix_refl _) fun _ h =>
    ⟨rfl, h.apSlot_eq, h.aid_eq, h.key_eq⟩

theorem advances_receiveDeauthentication (header : Header) (entirely : Bool) (l : Link σ) :
    Advances l (l.receiveDeauthentication env header entirely) := by
  have hended : Advances l (if !l.isFromTarget header then l else if entirely then l.restart env
      else l.deassociate) := by
    split
    · exact .refl l
    · split
      · exact advances_restart env l
      · exact advances_deassociate l
  unfold receiveDeauthentication
  split
  · exact hended
  · exact hended
  · split
    · exact (tends_dismiss _ l).advances
    · exact .refl l
  · exact .refl l
  · exact .refl l
  · exact .refl l
  · exact .refl l

theorem advances_receiveEapol (payload : List UInt8) (l : Link σ) :
    Advances l (l.receiveEapol env payload) := by
  unfold receiveEapol
  split
  · exact .refl l
  · rename_i target htarget
    simp only
    have hexchanged : Advances l (l.exchange env payload).1 :=
      advances_of_eq rfl rfl rfl rfl ⟨[_], rfl⟩ fun _ h =>
    ⟨h.encrypting_eq, h.apSlot_eq, h.aid_eq, h.key_eq⟩
    -- The answer is sent before the outcome matters.
    generalize hreplied : (if (l.exchange env payload).2.reply.isEmpty then
      (l.exchange env payload).1 else _) = replied
    have hsent : Advances l replied := by
      rw [← hreplied]
      split
      · exact hexchanged
      · exact hexchanged.trans (transmits_sendDataToAp env _ _ _ _).advances
    have htarget' : replied.machine.target = some target := hsent.target_eq.trans htarget
    have hmarked : Advances replied { replied with machine.encrypting := true } := by
      refine advances_of_eq rfl rfl rfl rfl (List.suffix_refl _) fun hnone _ => ?_
      cases htarget'.symm.trans hnone
    refine hsent.trans ?_
    split
    · exact .refl _
    · split
      · exact hmarked.trans (advances_establish _)
      · exact hmarked
    · exact advances_fail env _ _

theorem advances_receiveFromNetwork (target : ConnectTarget) (header : Header) (body : List UInt8)
    (l : Link σ) : Advances l (l.receiveFromNetwork env target header body) := by
  unfold receiveFromNetwork
  split
  · exact .refl l
  · refine (advances_noteHeard l).trans ?_
    simp only
    split
    · exact .refl _
    · split
      · exact advances_receiveEapol env _ _
      · split
        · exact (tends_deliver _ _).advances
        · exact .refl _

theorem advances_receiveData (header : Header) (body : List UInt8) (l : Link σ) :
    Advances l (l.receiveData env header body) := by
  unfold receiveData
  split
  · split
    · exact .refl l
    · exact advances_receiveFromNetwork env _ header body l
  · split
    · exact .refl l
    · exact advances_receiveFromNetwork env _ header body l
  · exact (tends_receiveFromPeer env header body l).advances
  · exact .refl l
  · exact .refl l
  · exact .refl l
  · exact .refl l

theorem advances_handle (seized : Nat → Bool) (frame : Received) (rssi : UInt8) (l : Link σ) :
    Advances l (l.handle env seized frame rssi) := by
  unfold handle
  split
  · exact advances_receiveBeacon _ _ _ l
  · exact advances_receiveBeacon _ _ _ l
  · split
    · exact advances_receiveAuthentication env _ _ l
    · exact (tends_receivePeerAuthentication env _ _ l).advances
    · exact .refl l
  · split
    · exact advances_receiveAssociationResponse env _ _ _ l
    · exact .refl l
  · split
    · exact (tends_receivePeerAssociation env _ l).advances
    · exact .refl l
  · exact advances_receiveDeauthentication env _ true l
  · exact advances_receiveDeauthentication env _ false l
  · exact advances_receiveData env _ _ l
  · exact .refl l
  · exact .refl l

theorem advances_atTime (now : Nat) (l : Link σ) : Advances l (l.atTime now) :=
  advances_of_affairs_eq rfl

theorem advances_receiveAmid (seized : Nat → Bool) (octets : List UInt8) (rssi : UInt8) (now : Nat)
    (l : Link σ) : Advances l (l.receiveAmid env seized octets rssi now) := by
  rcases receiveAmid_cases env seized octets rssi now l with hidle | ⟨-, frame, -, hheard⟩
  · rw [hidle]
    exact advances_atTime now l
  · rw [hheard]
    exact (advances_atTime now l).trans (advances_handle env seized frame rssi _)

/-! ### Commands -/

theorem reports_leaveMode (l : Link σ) : Reports l (l.leaveMode env) := by
  unfold leaveMode
  refine Reports.trans ?_ (advances_setMode .normal _).toReports
  refine Reports.trans ?_ (advances_setAuthLevel .disconnected _).toReports
  -- What each mode needs to be left publishes none of the values.
  split
  · exact (transmits_leaveAp env l).advances.toReports.trans (reports_of_eq rfl rfl)
  · exact (transmits_leaveAp env l).advances.toReports.trans (reports_of_eq rfl rfl)
  · exact reports_of_eq rfl rfl
  · obtain ⟨ended, htends, hended⟩ := tends_endSession env l
    rw [hended]
    exact htends.advances.toReports.trans (reports_of_eq rfl rfl)
  · exact .refl l
  · exact .refl l
  · exact .refl l

theorem advances_startScan (l : Link σ) : Advances l (l.startScan env) := by
  have hcleared : Advances l { l with
      shared.accessPoints := l.shared.accessPoints.clear, machine.scanPosition := 0 } :=
    advances_of_affairs_eq rfl
  have htuned (m : Link σ) : Advances m { m.tune env (scanChannel 0) with
      machine.switchedAt := (m.tune env (scanChannel 0)).machine.now } :=
    (advances_tune env (scanChannel 0) m).trans (advances_of_affairs_eq rfl)
  unfold startScan
  refine Advances.trans ?_ (transmits_sendProbeRequest env _).advances
  exact (hcleared.trans (htuned _)).trans (advances_setMode .scanning _)

/-- Whatever was published before, all values are once an attempt has started. -/
theorem published_startConnecting (target : ConnectTarget) (l : Link σ) :
    (l.startConnecting env target).published = (l.startConnecting env target).account := by
  unfold startConnecting
  have hsent {m : Link σ} (h : m.published = m.account) :
      (m.sendHandshakeFrame env).published = (m.sendHandshakeFrame env).account := by
    have htransmits := transmits_sendHandshakeFrame env m
    unfold published account at h ⊢
    rw [htransmits.machine_eq, htransmits.shared_eq]
    exact h
  refine hsent ?_
  rw [setMode_of_hasLink rfl]
  simp only [published, account, notePublished, setAuthLevel]
  split <;> rfl

theorem reports_startHosting (parameters : HostParameters) (l : Link σ) :
    Reports l (l.startHosting env parameters) := by
  have hopened (m : Link σ) : Reports m { m with
      machine.host := some parameters, machine.currentPeers := 0 } := reports_of_eq rfl rfl
  have htuned (m : Link σ) : Reports m { m.tune env parameters.channel with
      machine.nextBeacon := (m.tune env parameters.channel).machine.now } :=
    (advances_tune env parameters.channel m).toReports.trans (reports_of_eq rfl rfl)
  unfold startHosting
  simp only
  refine Reports.trans ?_ (advances_setMode .accessPoint _).toReports
  refine Reports.trans ?_ (advances_setAuthLevel .disconnected _).toReports
  refine Reports.trans ?_ ((hopened _).trans (htuned _))
  split
  · exact (tends_sessions _ l).advances.toReports
  · exact (tends_count _ l).advances.toReports

theorem reports_of_published_eq (h : l'.published = l'.account) : Reports l l' where
  mode := .inl (congrArg Account.mode h)
  authLevel := .inl (congrArg Account.authLevel h)
  channel := .inl (congrArg Account.channel h)
  retries := .inl (congrArg Account.retries h)

theorem reports_obey {meanwhile : Meanwhile} (hspares : meanwhile.SparesStatus)
    (command : Command) (l : Link σ) : Reports l (l.obey env meanwhile command) := by
  have hleft := reports_leaveMode env l
  unfold obey
  split
  · cases command with
    | enable => exact (advances_setMode .normal l).toReports
    | powerOff | stop | scan | connect | host => exact .refl l
  · cases command with
    | enable => exact .refl l
    | powerOff => exact hleft.trans (advances_setMode .disabled _).toReports
    | stop => exact hleft
    | scan => exact hleft.trans (advances_startScan env _).toReports
    | connect target => exact reports_of_published_eq (published_startConnecting env target _)
    | host parameters =>
      have hpaused := hleft.trans (advances_pause hspares 0 _).toReports
      exact hpaused.trans (reports_startHosting env parameters _)

theorem reports_serveCommand {meanwhile : Meanwhile} (hspares : meanwhile.SparesStatus)
    (l : Link σ) : Reports l (l.serveCommand env meanwhile) := by
  cases htake : l.shared.commands.take.2 with
  | none =>
    rw [serveCommand_of_none env meanwhile htake]
    exact .refl l
  | some posted =>
    have htaken : Reports l (l.taken posted.1 posted.2) := reports_of_eq rfl rfl
    rw [serveCommand_of_some env meanwhile htake]
    exact (htaken.trans (reports_obey env hspares posted.2 _)).trans (reports_of_eq rfl rfl)

/-! ### All runs -/

theorem reports_step (l : Link σ) (action : Action) : Reports l (l.step env action) := by
  cases action with
  | post command =>
    refine reports_of_eq rfl ?_
    show published { l with shared := (l.shared.postCommand command).1 } = l.published
    simp only [published, SharedState.status_postCommand]
  | host move =>
    refine reports_of_eq rfl ?_
    show published { l with shared := move.act l.shared } = l.published
    simp only [published, move.status_act]
  | tick now moves =>
    have hspares : Meanwhile.SparesStatus fun step => (moves step).act :=
      fun step s => (moves step).status_act s
    show Reports l (l.tickAmid env (fun step => (moves step).act) now)
    rw [tickAmid_eq_work]
    exact ((advances_atTime now l).toReports.trans (reports_serveCommand env hspares _)).trans
      (advances_work env hspares _).toReports
  | receive octets rssi now seized =>
    exact (advances_receiveAmid env seized octets rssi now l).toReports

/-- In every run each value is published or left alone. -/
theorem reports_run (actions : List Action) (l : Link σ) : Reports l (run env actions l) :=
  run_of_step env (P := Reports l) (.refl l) (fun h action => h.trans (reports_step env _ action))
    actions

/-- What the host is told of a link layer that was attached to memory with the given status.  Of a
value that was not stored since then it is told what was published before. -/
structure Told (before : Status) (l : Link σ) : Prop where
  mode_eq : l.published.mode = l.account.mode
  authLevel : l.published.authLevel = l.account.authLevel ∨
    l.account.authLevel = .disconnected ∧ l.published.authLevel = before.authLevel
  channel : l.published.channel = l.account.channel ∨
    l.account.channel = 0 ∧ l.published.channel = before.channel
  retries : l.published.retries = l.account.retries ∨
    l.account.retries = 0 ∧ l.published.retries = before.retries

/-- Nothing is missed in memory that does not tell of an earlier link layer. -/
theorem Told.published_eq {before : Status} (h : l.Told before)
    (hlevel : before.authLevel = .disconnected) (hchannel : before.channel = 0)
    (hretries : before.retries = 0) : l.published = l.account := by
  have hlevel' : l.published.authLevel = l.account.authLevel :=
    h.authLevel.elim id fun ⟨hown, htold⟩ => by rw [hown, htold, hlevel]
  have hchannel' : l.published.channel = l.account.channel :=
    h.channel.elim id fun ⟨hown, htold⟩ => by rw [hown, htold, hchannel]
  have hretries' : l.published.retries = l.account.retries :=
    h.retries.elim id fun ⟨hown, htold⟩ => by rw [hown, htold, hretries]
  exact Account.ext h.mode_eq hlevel' hchannel' hretries'

theorem told_attach {settings : Settings} {address : MacAddress} {outside : σ} {s s' : SharedState}
    (h : attach settings address outside s = (s', .ok l)) : l.Told s.status := by
  obtain ⟨producer, rx, tx, rfl⟩ := attach_eq_ok h
  exact ⟨rfl, .inr ⟨rfl, rfl⟩, .inr ⟨rfl, rfl⟩, .inr ⟨rfl, rfl⟩⟩

theorem Reports.told (h : Reports l l') {before : Status} (hl : l.Told before) :
    l'.Told before where
  mode_eq := h.mode.eq_of_eq hl.mode_eq
  authLevel := by
    rcases h.authLevel with hrenewed | ⟨hown, htold⟩
    · exact .inl hrenewed
    · rw [hown, htold]
      exact hl.authLevel
  channel := by
    rcases h.channel with hrenewed | ⟨hown, htold⟩
    · exact .inl hrenewed
    · rw [hown, htold]
      exact hl.channel
  retries := by
    rcases h.retries with hrenewed | ⟨hown, htold⟩
    · exact .inl hrenewed
    · rw [hown, htold]
      exact hl.retries

/-- Whatever memory a link layer is attached to, the host is always told its mode, and each other
value once it was stored.  What it is told stays true. -/
theorem told_run {settings : Settings} {address : MacAddress} {outside : σ} {s s' : SharedState}
    (hattach : attach settings address outside s = (s', .ok l)) (actions later : List Action) :
    (run env actions l).Told s.status ∧
      Reports (run env actions l) (run env later (run env actions l)) :=
  ⟨(reports_run env actions l).told (told_attach hattach), reports_run env later _⟩

/-- Memory that a link layer left while its link was up. -/
def leftMemory : SharedState :=
  detach (run (.answering .refused) joiningActions (fresh stationAddress)).shared

theorem told_run_leftMemory : ∃ s l, attach .standard stationAddress () leftMemory = (s, .ok l) ∧
    leftMemory.status.authLevel = .associated ∧
    (run (.answering .refused) joiningActions l).Told leftMemory.status ∧
    Reports (run (.answering .refused) joiningActions l)
      (run (.answering .refused) [undisturbed] (run (.answering .refused) joiningActions l)) := by
  have hattach : attach .standard stationAddress () leftMemory = (_, .ok _) := rfl
  exact ⟨_, _, hattach, by decide +kernel, told_run _ hattach joiningActions [undisturbed]⟩

/-- The host is told of an association that the link layer before it had. -/
theorem untold_after_reattaching : ∃ s l,
    attach .standard stationAddress () leftMemory = (s, .ok l) ∧
      l.account = ⟨.disabled, .disconnected, 0, 0⟩ ∧
      l.published = ⟨.disabled, .associated, 1, 0⟩ ∧
      (run (.answering .refused) [undisturbed] l).published ≠
        (run (.answering .refused) [undisturbed] l).account := by
  have hattach : attach .standard stationAddress () leftMemory = (_, .ok _) := rfl
  exact ⟨_, _, hattach, by decide +kernel, by decide +kernel, by decide +kernel⟩

end WlanControl.Link
