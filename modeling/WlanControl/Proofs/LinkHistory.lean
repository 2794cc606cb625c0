import WlanControl.Proofs.LinkPassages

namespace WlanControl.Link

/-!
# The link layer — what the host reads of it

Whatever commands, ticks and frames come, the pair of mode and level that is published makes sense
after each store, and it is one of few in between two calls.

* `Keying.standing` — where the link layer stands, as passages see it;
* `Keying.Passage.sane` — every passage keeps the standing sane;
* `WellPublished` — what that means for the host.

Main statement: `wellPublished_run`, the host never reads an association without a link, and the
link gets up only from an attempt with an association.
-/

variable {σ : Type} {l : Link σ} (env : Surroundings σ)

/-! ### Passages -/

namespace Keying

variable {k k' : Keying} {events : List Event}

/-- Where a link layer stands, which is a part of all that decides about its keys. -/
def standing (k : Keying) : Standing where
  mode := k.mode
  authLevel := k.authLevel
  step := k.step
  published := k.published
  stores := k.log.filterMap Event.published?

theorem standing_setLevel (authLevel : AuthLevel) (k : Keying) :
    (k.setLevel authLevel).standing = k.standing.setLevel authLevel := rfl

theorem standing_setMode (mode : Mode) (k : Keying) :
    (k.setMode mode).standing = k.standing.setMode mode := by
  unfold setMode Standing.setMode
  by_cases hdrop : (!mode.hasLink && k.authLevel = .associated) = true
  · have hdrop' : (!mode.hasLink && k.standing.authLevel = .associated) = true := hdrop
    rw [if_pos hdrop, if_pos hdrop']
    rfl
  · have hdrop' : ¬ (!mode.hasLink && k.standing.authLevel = .associated) = true := hdrop
    rw [if_neg hdrop, if_neg hdrop']
    rfl

/-- None of the frames and channels is a store. -/
theorem standing_logged (hquiet : ∀ e ∈ events, e.isQuiet = true) (k : Keying) :
    (k.logged events).standing = k.standing := by
  have hnone : events.filterMap Event.published? = [] := by
    rw [List.filterMap_eq_nil_iff]
    intro e he
    have := hquiet e he
    cases e <;> simp_all [Event.isQuiet, Event.published?]
  simp only [standing, logged, List.filterMap_append, hnone, List.nil_append]

theorem standing_givenUp (k : Keying) :
    k.givenUp.standing = (k.standing.setLevel .error).setMode .cannotConnect :=
  standing_setMode _ _

theorem standing_left (hquiet : ∀ e ∈ events, e.isQuiet = true) (k : Keying) :
    (k.left events).standing = (k.standing.setLevel .disconnected).setMode .normal := by
  unfold left
  rw [standing_setMode, standing_setLevel, ← standing_logged hquiet k]
  -- That the keys are given up does not show.
  split <;> rfl

theorem standing_begunAgain (authLevel : AuthLevel) (k : Keying) :
    (k.begunAgain authLevel).standing =
      (Standing.setLevel authLevel { k.standing with step := .authenticate }).setMode
        .connecting := standing_setMode _ _

theorem standing_established (k : Keying) :
    k.established.standing = Standing.setMode .connected { k.standing with step := .done } :=
  standing_setMode _ _

/-- Every passage keeps the standing sane. -/
theorem Passage.sane (hpassage : k.Passage k') (h : k.standing.Sane) : k'.standing.Sane := by
  induction hpassage with
  | refl => exact h
  | trans _ _ ih ih' => exact ih' (ih h)
  | quiet hquiet =>
    rw [standing_logged hquiet]
    exact h
  | malformed | unsendable | forwarded | heeded | keyInstalled | exchanged | encrypting => exact h
  | left version command hquiet =>
    rw [standing_left hquiet]
    have hlevel : (Standing.setLevel .disconnected _).Tracked := h.toTracked.setLevel nofun
    exact hlevel.idle rfl (by simp)
  | @idled k mode hfrom hto =>
    have hlevel : k.standing.authLevel = .disconnected := by
      have hsettled := h.settled
      rcases hfrom with hmode | hmode <;> rw [show k.standing.mode = _ from hmode] at hsettled <;>
        exact hsettled
    rw [standing_setMode]
    refine h.toTracked.idle hlevel ?_
    simp only [List.mem_cons, List.not_mem_nil, or_false] at hto ⊢
    tauto
  | hosted hmode =>
    rw [standing_setMode, standing_setLevel]
    have hlevel : (Standing.setLevel .disconnected _).Tracked := h.toTracked.setLevel nofun
    exact hlevel.idle rfl (by simp)
  | @begun k target hmode hwanted =>
    have hstarted := (h.toTracked.withStep .authenticate).started rfl (.inl rfl)
    rw [Keying.begun, standing_setMode]
    exact hstarted
  | givenUp hquiet =>
    rw [standing_givenUp, standing_logged hquiet]
    exact h.toTracked.givenUp
  | keyless hmode hquiet =>
    have hlink : Mode.hasLink _ = true := congrArg Mode.hasLink hmode
    rw [standing_givenUp, standing_logged hquiet, standing_setLevel]
    exact (h.toTracked.setLevel fun _ => hlink).givenUp
  | restarted hlink =>
    rw [standing_begunAgain]
    exact (h.toTracked.withStep .authenticate).started rfl (.inl rfl)
  | deassociated hlink =>
    rw [standing_begunAgain]
    exact (h.toTracked.withStep .authenticate).started rfl (.inr rfl)
  | stepped hmode hstep => exact h.withStep _ hstep
  | authenticated hmode => exact h.toTracked.authenticated hmode
  | associated hmode => exact h.toTracked.associated hmode
  | admitted hmode =>
    have hlink : Mode.hasLink _ = true := congrArg Mode.hasLink hmode
    rw [standing_established]
    exact ((h.toTracked.setLevel fun _ => hlink).withStep .done).established hlink rfl
  | secured hlink hkeys =>
    rw [standing_established]
    exact (h.toTracked.withStep .done).established hlink (h.authLevel_eq hlink hkeys)

end Keying

theorem sane_run (h : l.standing.Sane) (actions : List Action) :
    (run env actions l).standing.Sane :=
  keying_run env (P := fun k => k.standing.Sane) (fun hpassage hk => hpassage.sane hk) h actions

/-! ### What the host can read -/

/-- What the host can read of a link layer. -/
structure WellPublished (l : Link σ) : Prop where
  /-- The link layer itself is where it says that it is. -/
  published_eq : (l.shared.status.mode, l.shared.status.authLevel) =
    (l.machine.mode, l.machine.authLevel)
  /-- Nothing was stored since the last store that was noted. -/
  head?_stores : l.stores.head? = some (l.shared.status.mode, l.shared.status.authLevel)
  /-- After each store an association goes with a link. -/
  hasLink : ∀ p ∈ l.stores, p.2 = .associated → p.1 = .connecting ∨ p.1 = .connected
  /-- In between two calls few pairs are possible. -/
  settled : Settled l.shared.status.mode l.shared.status.authLevel
  /-- The link gets up from an attempt with an association. -/
  establishes : l.stores.IsChain Establishes

theorem wellPublished_of_sane (h : l.standing.Sane) : l.WellPublished where
  published_eq := h.published_eq
  head?_stores := h.head?_stores
  hasLink := by
    intro p hp hlevel
    have hlink := h.hasLink p hp hlevel
    cases hmode : p.1 <;> simp_all [Mode.hasLink]
  settled := by
    obtain ⟨hmode, hlevel⟩ := Prod.mk.inj h.published_eq
    rw [hmode, hlevel]
    exact h.settled
  establishes := h.establishes

/-- A link layer that was just attached is disabled. -/
theorem sane_attach {settings : Settings} {address : MacAddress} {outside : σ}
    {s : SharedState} (h : attach settings address outside .fresh = (s, .ok l)) :
    l.standing.Sane := by
  obtain ⟨producer, rx, tx, rfl⟩ := attach_eq_ok h
  refine ⟨⟨rfl, rfl, ?_, .singleton _⟩, rfl, ?_⟩
  · intro p hp hlevel
    rw [List.mem_singleton.mp hp] at hlevel
    cases hlevel
  · intro hmode
    cases hmode

/-- A link layer can be attached to fresh memory, and in every run after that the pairs of mode and
level that the host can read make sense. -/
theorem wellPublished_run (settings : Settings) (address : MacAddress) (outside : σ) :
    ∃ s l, attach settings address outside .fresh = (s, .ok l) ∧
      ∀ actions, (run env actions l).WellPublished := by
  have hattached : ∃ s l, attach settings address outside .fresh = (s, .ok l) := ⟨_, _, rfl⟩
  obtain ⟨s, l, hattached⟩ := hattached
  exact ⟨s, l, hattached, fun actions =>
    wellPublished_of_sane (sane_run env (sane_attach hattached) actions)⟩

end WlanControl.Link
