import WlanControl.Proofs.LinkOffers

namespace WlanControl

open WlanControl.Frame (Draft ReasonCode isDeauthentication)

/-!
# The link layer — who is sent away

A peer is sent away by a frame of its own.  Such a frame is handed to the radio once, be it that the
radio takes it or not, and no other frame is mistaken for one.

* `Link.dismissal` — what sends a peer away from a session;
* `Link.Dismisses` — all the frames that send somebody away from one link to the other;
* `Link.hides_dismissals` — frames of other kinds send nobody away.

Main statements: `Link.dismisses_sendAway`, everybody is sent away once, and
`Link.dismisses_drainBurst`, records of the host send nobody away.
-/

namespace Link

variable {σ : Type} {l l₁ l₂ l₃ : Link σ} (env : Surroundings σ)

/-- The frame, if it sends a station away. -/
def deauthentication? (frame : List UInt8) : Option (List UInt8) :=
  if isDeauthentication frame then some frame else none

/-- What sends a peer away from the session of an access point. -/
def dismissal (address : MacAddress) (reason : ReasonCode) (peer : MacAddress) : Draft :=
  .deauthentication peer address address reason

/-- From one link to the other the radio was handed as many frames that send a station away as there
are drafts, and they are read as these, in their order. -/
def Dismisses (drafts : List Draft) (l l' : Link σ) : Prop :=
  ∃ frames, offered deauthentication? l'.log = offered deauthentication? l.log ++ frames ∧
    List.Forall₂ Draft.Reads drafts frames

theorem dismisses_nil (h : offered deauthentication? l₂.log = offered deauthentication? l₁.log) :
    Dismisses [] l₁ l₂ := ⟨[], by rw [h, List.append_nil], .nil⟩

theorem Dismisses.trans {drafts drafts' : List Draft} (h : Dismisses drafts l₁ l₂)
    (h' : Dismisses drafts' l₂ l₃) : Dismisses (drafts ++ drafts') l₁ l₃ := by
  obtain ⟨frames, hframes, hreads⟩ := h
  obtain ⟨frames', hframes', hreads'⟩ := h'
  refine ⟨frames ++ frames', ?_, List.rel_append hreads hreads'⟩
  rw [hframes', hframes, List.append_assoc]

/-- Nobody else was sent away before or after that. -/
theorem Dismisses.of_eq {l₀ : Link σ} {drafts : List Draft} (h : Dismisses drafts l₁ l₂)
    (hbefore : offered deauthentication? l₁.log = offered deauthentication? l₀.log)
    (hafter : offered deauthentication? l₃.log = offered deauthentication? l₂.log) :
    Dismisses drafts l₀ l₃ := by
  obtain ⟨frames, hframes, hreads⟩ := h
  exact ⟨frames, by rw [hafter, hframes, hbefore], hreads⟩

/-! ### Peers that are sent away -/

theorem dismisses_sendDeauthentication (receiver bssid : MacAddress) {reason : ReasonCode}
    (hreason : ReasonCode.ofNumber reason.number = reason) (l : Link σ) :
    Dismisses [.deauthentication receiver l.machine.address bssid reason] l
      (l.sendDeauthentication env receiver bssid reason) := by
  obtain ⟨frame, accepted, hreads, hlog⟩ := log_send_of_isSendable env
    (Draft.isSendable_deauthentication receiver l.machine.address bssid hreason) l
  refine ⟨[frame], ?_, .cons hreads .nil⟩
  obtain ⟨number, hread⟩ := hreads
  have hfound : (Event.sent frame accepted).offered? deauthentication? = some frame := by
    have hdismisses : isDeauthentication frame = true := by
      unfold isDeauthentication
      rw [hread]
      rfl
    exact if_pos hdismisses
  refine (congrArg (offered deauthentication?) hlog).trans ?_
  rw [offered, picked_cons, hfound]
  rfl

/-- Everybody is sent away once, in their order. -/
theorem dismisses_sendAway (peers : List MacAddress) {reason : ReasonCode}
    (hreason : ReasonCode.ofNumber reason.number = reason) (l : Link σ) :
    Dismisses (peers.map (dismissal l.machine.address reason)) l
      (l.sendAway env peers reason) := by
  -- By induction on who is still to be sent away.
  induction peers generalizing l with
  | nil => exact dismisses_nil rfl
  | cons peer rest ih =>
    have hfirst := dismisses_sendDeauthentication env peer l.machine.address hreason l
    have hrest := ih (l.sendDeauthentication env peer l.machine.address reason)
    have haddress : (l.sendDeauthentication env peer l.machine.address reason).machine.address =
        l.machine.address := by
      rw [sendDeauthentication, (transmits_send env _ l).machine_eq]
    rw [haddress] at hrest
    exact hfirst.trans hrest

/-! ### Frames of other kinds -/

/-- Frames of other kinds send nobody away. -/
theorem hides_dismissals (draft : Draft) (h : draft.subtype? ≠ some .deauthentication) :
    Hides deauthentication? fun number => draft.fields number := by
  intro number frame hframe
  have hother := draft.isDeauthentication_eq_false hframe h
  simp [deauthentication?, hother]

theorem dismisses_beaconTick (l : Link σ) : Dismisses [] l (l.beaconTick env) := by
  refine dismisses_nil ?_
  unfold beaconTick
  split
  · show offered deauthentication? (l.sendBeacon env).log = _
    unfold sendBeacon
    split
    · rfl
    · exact offered_send env (hides_dismissals (.beacon _) (by simp [Draft.subtype?])) l
  · rfl

/-- Whatever the host wants to send, it sends nobody away. -/
theorem dismisses_drainBurst (l : Link σ) : Dismisses [] l (l.drainBurst env) := by
  refine dismisses_nil (drainBurst_keeps env
    (P := fun m => offered deauthentication? m.log = offered deauthentication? l.log)
    (fun _ h => h) ?_ rfl)
  intro m bssid direction record h
  have htaken : offered deauthentication? (.taken record :: m.log) =
    offered deauthentication? m.log := offered_cons rfl _
  unfold forward
  split
  · exact htaken.trans h
  · refine (offered_send env (hides_dismissals (.data direction bssid _ _ _ _ _) ?_)
      _).trans (htaken.trans h)
    simp [Draft.subtype?]

end Link

end WlanControl
