import Mathlib.Data.List.Chain
import WlanControl.Link.Machine

namespace WlanControl.Link

/-!
# The link layer — where it stands

The mode and the level of the link layer are stored in the shared memory one after the other, and
the host may read them after each store.

* `Standing` — mode, level and step of the handshake, and all pairs that the host could read so far;
* `Standing.Tracked` — what holds after each store;
* `Standing.Sane` — what holds in between two calls;
* `Standing.Tracked.givenUp`, `Standing.Tracked.started`, … — the last stores of a call.
-/

/-- The pair that was stored, if one was. -/
def Event.published? : Event → Option (Mode × AuthLevel)
  | .published mode authLevel => some (mode, authLevel)
  | _ => none

variable {σ : Type}

/-- The pairs that the host could read after each store of a mode or a level, latest first. -/
def stores (l : Link σ) : List (Mode × AuthLevel) := l.log.filterMap Event.published?

/-- Where the link layer stands. -/
structure Standing where
  mode : Mode
  authLevel : AuthLevel
  step : HandshakeStep
  /-- What the host reads. -/
  published : Mode × AuthLevel
  /-- What the host could read so far, latest first. -/
  stores : List (Mode × AuthLevel)

/-- Where a link layer stands. -/
def standing (l : Link σ) : Standing where
  mode := l.machine.mode
  authLevel := l.machine.authLevel
  step := l.machine.handshake.step
  published := (l.shared.status.mode, l.shared.status.authLevel)
  stores := l.stores

/-! ### What holds after each store -/

/-- The pairs in which a level may go with a mode in between two calls. -/
def Settled : Mode → AuthLevel → Prop
  | .disabled, authLevel | .normal, authLevel | .scanning, authLevel | .accessPoint, authLevel =>
    authLevel = .disconnected
  | .connecting, authLevel => authLevel ≠ .error
  | .connected, authLevel => authLevel = .associated
  | .cannotConnect, authLevel => authLevel = .error

/-- The link is up after a store only if it was before, or else the association was just made. -/
def Establishes (later earlier : Mode × AuthLevel) : Prop :=
  later.1 = .connected → earlier.1 = .connected ∨ earlier = (.connecting, .associated)

namespace Standing

variable {s : Standing}

/-- A level is stored. -/
def setLevel (authLevel : AuthLevel) (s : Standing) : Standing :=
  { s with
    authLevel
    published := (s.published.1, authLevel)
    stores := (s.published.1, authLevel) :: s.stores }

/-- A mode is stored, after an association that does not go with it was given up. -/
def setMode (mode : Mode) (s : Standing) : Standing :=
  let s := if !mode.hasLink && s.authLevel = .associated then s.setLevel .disconnected else s
  { s with
    mode
    published := (mode, s.published.2)
    stores := (mode, s.published.2) :: s.stores }

/-- What holds after each store. -/
structure Tracked (s : Standing) : Prop where
  published_eq : s.published = (s.mode, s.authLevel)
  head?_stores : s.stores.head? = some s.published
  /-- An association goes with a link. -/
  hasLink : ∀ p ∈ s.stores, p.2 = .associated → p.1.hasLink = true
  establishes : s.stores.IsChain Establishes

/-- What holds in between two calls. -/
structure Sane (s : Standing) : Prop extends Tracked s where
  settled : Settled s.mode s.authLevel
  /-- Keys are exchanged once the association was made. -/
  associated_of_keyExchange : s.mode = .connecting → s.step = .keyExchange →
    s.authLevel = .associated

namespace Tracked

/-- The step of the handshake is not published. -/
theorem withStep (h : s.Tracked) (step : HandshakeStep) : ({ s with step } : Standing).Tracked :=
  ⟨h.published_eq, h.head?_stores, h.hasLink, h.establishes⟩

/-- One more store. -/
private theorem isChain_cons (h : s.Tracked) {p : Mode × AuthLevel}
    (hp : Establishes p (s.mode, s.authLevel)) : (p :: s.stores).IsChain Establishes := by
  have hhead := h.head?_stores
  have hchain := h.establishes
  rw [h.published_eq] at hhead
  cases hstores : s.stores with
  | nil =>
    rw [hstores] at hhead
    cases hhead
  | cons q rest =>
    rw [hstores] at hhead hchain
    cases hhead
    exact List.isChain_cons_cons.mpr ⟨hp, hchain⟩

theorem setLevel (h : s.Tracked) {authLevel : AuthLevel}
    (hlink : authLevel = .associated → s.mode.hasLink = true) :
    (s.setLevel authLevel).Tracked where
  published_eq := by
    show (s.published.1, authLevel) = (s.mode, authLevel)
    rw [h.published_eq]
  head?_stores := rfl
  hasLink := by
    intro p hp hlevel
    rcases List.mem_cons.mp hp with rfl | hp
    · rw [h.published_eq]
      exact hlink hlevel
    · exact h.hasLink p hp hlevel
  establishes := by
    refine h.isChain_cons ?_
    intro hconnected
    rw [h.published_eq] at hconnected
    exact .inl hconnected

/-- A mode that goes with the level is stored. -/
private theorem storeMode (h : s.Tracked) {mode : Mode}
    (hlink : s.authLevel = .associated → mode.hasLink = true)
    (hup : mode = .connected → s.mode = .connected ∨
      s.mode = .connecting ∧ s.authLevel = .associated) :
    Tracked { s with
      mode
      published := (mode, s.published.2)
      stores := (mode, s.published.2) :: s.stores } where
  published_eq := by
    show (mode, s.published.2) = (mode, s.authLevel)
    rw [h.published_eq]
  head?_stores := rfl
  hasLink := by
    intro p hp hlevel
    rcases List.mem_cons.mp hp with rfl | hp
    · rw [h.published_eq] at hlevel
      exact hlink hlevel
    · exact h.hasLink p hp hlevel
  establishes := by
    refine h.isChain_cons ?_
    intro hconnected
    rcases hup hconnected with hmode | ⟨hmode, hlevel⟩
    · exact .inl hmode
    · exact .inr (by rw [hmode, hlevel])

theorem setMode (h : s.Tracked) {mode : Mode}
    (hup : mode = .connected → s.mode = .connected ∨
      s.mode = .connecting ∧ s.authLevel = .associated) : (s.setMode mode).Tracked := by
  unfold Standing.setMode
  by_cases hdrop : (!mode.hasLink && s.authLevel = .associated) = true
  · -- The association is given up first, while the old mode still goes with it.
    rw [if_pos hdrop]
    refine (h.setLevel ?_).storeMode ?_ ?_
    · intro hlevel
      cases hlevel
    · intro hlevel
      cases hlevel
    · intro hmode
      rw [hmode] at hdrop
      cases hdrop
  · rw [if_neg hdrop]
    refine h.storeMode ?_ hup
    intro hlevel
    simpa [hlevel] using hdrop

/-! ### The last store of a call -/

/-- The attempt was given up. -/
theorem givenUp (h : s.Tracked) : ((s.setLevel .error).setMode .cannotConnect).Sane where
  toTracked := (h.setLevel (by simp)).setMode (by simp)
  settled := rfl
  associated_of_keyExchange := by
    intro hmode
    cases hmode

/-- There is no link. -/
theorem idle (h : s.Tracked) {mode : Mode} (hlevel : s.authLevel = .disconnected)
    (hmode : mode ∈ [.disabled, .normal, .scanning, .accessPoint]) : (s.setMode mode).Sane where
  toTracked := by
    refine h.setMode ?_
    rintro rfl
    simp at hmode
  settled := by
    have hkept : (s.setMode mode).authLevel = s.authLevel := by
      simp [Standing.setMode, hlevel]
    show Settled mode (s.setMode mode).authLevel
    rw [hkept, hlevel]
    simp at hmode
    rcases hmode with rfl | rfl | rfl | rfl <;> rfl
  associated_of_keyExchange := by
    intro hconnecting
    have : mode = .connecting := hconnecting
    subst this
    simp at hmode

/-- The attempt starts, or starts over. -/
theorem started (h : s.Tracked) {authLevel : AuthLevel} (hstep : s.step = .authenticate)
    (hlevel : authLevel = .disconnected ∨ authLevel = .deassociated) :
    ((s.setLevel authLevel).setMode .connecting).Sane where
  toTracked := by
    refine (h.setLevel ?_).setMode (by simp)
    rcases hlevel with rfl | rfl <;> simp
  settled := by
    show authLevel ≠ .error
    rcases hlevel with rfl | rfl <;> simp
  associated_of_keyExchange := by
    intro _ hkeys
    have : s.step = .keyExchange := hkeys
    rw [hstep] at this
    cases this

/-- The access point believes who the station is. -/
theorem authenticated (h : s.Tracked) (hmode : s.mode = .connecting) :
    Sane { s.setLevel .authenticated with step := .associate } where
  toTracked := (h.setLevel (by simp)).withStep _
  settled := by
    show Settled s.mode .authenticated
    rw [hmode]
    simp [Settled]
  associated_of_keyExchange := by
    intro _ hkeys
    cases hkeys

/-- The access point let the station in, and keys are exchanged. -/
theorem associated (h : s.Tracked) (hmode : s.mode = .connecting) :
    Sane { s.setLevel .associated with step := .keyExchange } where
  toTracked := (h.setLevel (by rw [hmode]; simp [Mode.hasLink])).withStep _
  settled := by
    show Settled s.mode .associated
    rw [hmode]
    simp [Settled]
  associated_of_keyExchange := fun _ _ => rfl

/-- The link is up. -/
theorem established (h : s.Tracked) (hmode : s.mode.hasLink = true)
    (hlevel : s.authLevel = .associated) : (s.setMode .connected).Sane where
  toTracked := by
    refine h.setMode ?_
    intro _
    cases hs : s.mode <;> simp_all [Mode.hasLink]
  settled := hlevel
  associated_of_keyExchange := by
    intro hconnecting
    cases hconnecting

end Tracked

/-- The handshake may go on without a store. -/
theorem Sane.withStep (h : s.Sane) (step : HandshakeStep) (hstep : step ≠ .keyExchange) :
    ({ s with step } : Standing).Sane where
  toTracked := h.toTracked.withStep step
  settled := h.settled
  associated_of_keyExchange := fun _ hkeys => absurd hkeys hstep

/-- While there is a link, keys are exchanged only once the association was made. -/
theorem Sane.authLevel_eq (h : s.Sane) (hlink : s.mode.hasLink = true)
    (hstep : s.step = .keyExchange) : s.authLevel = .associated := by
  cases hmode : s.mode with
  | connecting => exact h.associated_of_keyExchange hmode hstep
  | connected =>
    -- Whatever the step, a link that is up is associated.
    have := h.settled
    rw [hmode] at this
    exact this
  | disabled | normal | scanning | cannotConnect | accessPoint =>
    rw [hmode] at hlink
    cases hlink

end Standing

end WlanControl.Link
