import WlanControl.Proofs.LinkSecrecy
import WlanControl.Proofs.LinkStages

namespace WlanControl.Link

/-!
# The link layer — what a link costs

An attempt that is left to itself may lose its link and get it back, over and over.  Each time this
costs a retry, so the budget bounds how often it happens.  There is one exception: between the end
of an association and the tick that starts over, the access point may still answer an authentication
frame, and the link that comes of it is free.

* `countTurns` — how often something happens in a run, with `establishments` and `shortcuts`;
* `Stage.potential` — what was spent, with `Stage.Turns.establishes_le`: each link is paid for, but
  for the exception;
* `Unattended` — a link layer that gets no command;
* `Paid` — what a run has cost.

Main statements: `paid_run`, after a command to connect every run is paid for, and
`reestablished_for_free`, the exception.
-/

variable {σ : Type} {l l' : Link σ} (env : Surroundings σ)

/-! ### The cost of a turn -/

namespace Stage

variable {s s' : Stage}

/-- The link gets up. -/
def establishes (s s' : Stage) : Bool := s.mode ≠ .connected && s'.mode = .connected

/-- The access point believes who the station is, while the handshake has not started over yet. -/
def cutsShort (s s' : Stage) : Bool :=
  s.authLevel = .deassociated && s'.authLevel = .authenticated

/-- What was spent, but for the link that the handshake is at.  The handshake that has not started
over is not at any. -/
def potential (s : Stage) : Nat :=
  s.retries.toNat + if s.mode = .connecting ∧ s.authLevel ≠ .deassociated then 0 else 1

theorem potential_le (s : Stage) : s.potential ≤ s.retries.toNat + 1 := by
  unfold potential
  split <;> omega

/-- The handshake is at its next link. -/
theorem potential_of_connecting (hmode : s.mode = .connecting)
    (hlevel : s.authLevel ≠ .deassociated) : s.potential = s.retries.toNat := by
  unfold potential
  rw [if_pos ⟨hmode, hlevel⟩]
  rfl

/-- The link is up, or there is none to come. -/
theorem potential_of_ne_connecting (hmode : s.mode ≠ .connecting) :
    s.potential = s.retries.toNat + 1 := by
  unfold potential
  rw [if_neg fun h => hmode h.1]

/-- The handshake that waits for an association or for keys has started over. -/
theorem Orderly.authLevel_ne (hs : s.Orderly) (hmode : s.mode = .connecting)
    (hstep : s.step = .associate ∨ s.step = .keyExchange) : s.authLevel ≠ .deassociated := by
  intro hlevel
  rcases hs.step_of_deassociated hmode hlevel with h | h <;> rcases hstep with h' | h' <;>
    cases h.symm.trans h'

namespace Turns

/-- No turn gives a retry back. -/
theorem retries_le (h : Turns s s') : s.retries.toNat ≤ s'.retries.toNat := by
  cases h with
  | retried | restarted => exact (toNat_spent_bounds _).1
  | failed _ hretries =>
    rcases hretries with rfl | rfl
    · exact Nat.le_refl _
    · exact (toNat_spent_bounds _).1
  | stays | challenged | authenticated | associated | admitted | secured | deassociated =>
    exact Nat.le_refl _

/-- As long as the link stays down, it is enough that the potential does not fall. -/
private theorem establishes_le_of_down (hmode : s'.mode ≠ .connected)
    (hpotential : s.potential ≤ s'.potential) :
    (s.establishes s').toNat + s.potential ≤ s'.potential + (s.cutsShort s').toNat := by
  have hdown : s.establishes s' = false := by simp [establishes, hmode]
  rw [hdown]
  simp only [Bool.toNat_false]
  omega

/-- The handshake that gets the link up was paid for when it started. -/
private theorem establishes_le_of_up (hmode : s.mode = .connecting)
    (hlevel : s.authLevel ≠ .deassociated) (hmode' : s'.mode = .connected)
    (hretries : s'.retries = s.retries) :
    (s.establishes s').toNat + s.potential ≤ s'.potential + (s.cutsShort s').toNat := by
  rw [potential_of_connecting hmode hlevel, potential_of_ne_connecting (by rw [hmode']; simp),
    hretries]
  have := Bool.toNat_le (s.establishes s')
  omega

/-- Each link is paid for, unless the handshake was cut short. -/
theorem establishes_le (h : Turns s s') (hs : s.Orderly) (hbudget : s.budget < 255) :
    (s.establishes s').toNat + s.potential ≤ s'.potential + (s.cutsShort s').toNat := by
  have hle := potential_le s
  have hkept := h.retries_le
  cases h with
  | stays =>
    have hnone : s.establishes s = false := by simp [establishes]
    rw [hnone]
    simp
  | retried hmode hleft =>
    refine establishes_le_of_down (by rw [hmode]; simp) ?_
    simp only [potential, toNat_spent hleft hbudget]
    omega
  | challenged hmode => exact establishes_le_of_down (by rw [hmode]; simp) (Nat.le_refl _)
  | authenticated hmode =>
    by_cases hlevel : s.authLevel = .deassociated
    · -- The handshake did not start over, so nothing was paid for what comes.
      have hshort : s.cutsShort { s with authLevel := .authenticated, step := .associate } =
          true := by
        simp [cutsShort, hlevel]
      have hdown : s.establishes { s with authLevel := .authenticated, step := .associate } =
          false := by
        simp [establishes, hmode]
      rw [hshort, hdown]
      simp only [potential, Bool.toNat_true, Bool.toNat_false] at hle ⊢
      omega
    · refine establishes_le_of_down (by rw [hmode]; simp) ?_
      rw [potential_of_connecting hmode hlevel]
      exact Nat.le_add_right _ _
  | associated hmode hstep =>
    refine establishes_le_of_down (by rw [hmode]; simp) ?_
    rw [potential_of_connecting hmode (hs.authLevel_ne hmode (.inl hstep))]
    exact Nat.le_add_right _ _
  | admitted hmode hstep =>
    exact establishes_le_of_up hmode (hs.authLevel_ne hmode (.inl hstep)) rfl rfl
  | secured hlink hstep =>
    -- A link that is up has no use for keys any more.
    have hmode : s.mode = .connecting := by
      cases hmode : s.mode with
      | connecting => rfl
      | connected => cases (hs.step_of_connected hmode).symm.trans hstep
      | disabled | normal | scanning | cannotConnect | accessPoint =>
        rw [hmode] at hlink
        cases hlink
    exact establishes_le_of_up hmode (hs.authLevel_ne hmode (.inr hstep)) rfl rfl
  | deassociated => exact establishes_le_of_down (by simp) hle
  | restarted _ hleft =>
    refine establishes_le_of_down (by simp) ?_
    have := toNat_spent hleft hbudget
    exact hle.trans (Nat.le_trans this.ge (Nat.le_add_right _ _))
  | failed =>
    exact establishes_le_of_down (by simp) (hle.trans (Nat.add_le_add_right hkept 1))

end Turns

end Stage

/-! ### The cost of a run -/

/-- How often something happens in a run. -/
def countTurns (env : Surroundings σ) (p : Stage → Stage → Bool) : List Action → Link σ → Nat
  | [], _ => 0
  | action :: rest, l =>
    (p l.stage (l.step env action).stage).toNat + countTurns env p rest (l.step env action)

/-- How often the link gets up in a run. -/
def establishments (env : Surroundings σ) : List Action → Link σ → Nat :=
  countTurns env Stage.establishes

/-- How often the access point believes who the station is before the handshake started over. -/
def shortcuts (env : Surroundings σ) : List Action → Link σ → Nat := countTurns env Stage.cutsShort

/-- A link layer that gets no command, with its attempt in order. -/
structure Unattended (l : Link σ) : Prop where
  waits : l.Waits
  orderly : l.stage.Orderly
  budget_lt : l.machine.settings.retryBudget < 255

namespace Unattended

theorem step (h : l.Unattended) {action : Action} (haction : action.IsCommandless) :
    (l.step env action).Unattended where
  waits := waits_step env h.waits haction
  orderly := orderly_step env h.orderly action
  budget_lt := by
    have hbudget : (l.step env action).stage.budget = l.stage.budget :=
      (turns_step env h.waits haction).budget_eq
    show (l.step env action).stage.budget < 255
    rw [hbudget]
    exact h.budget_lt

theorem run (h : l.Unattended) {actions : List Action} (hactions : ∀ a ∈ actions, a.IsCommandless) :
    (run env actions l).Unattended := by
  induction actions generalizing l with
  | nil => exact h
  | cons action rest ih =>
    obtain ⟨haction, hrest⟩ := List.forall_mem_cons.mp hactions
    exact ih (h.step env haction) hrest

theorem retries_le_run (h : l.Unattended) {actions : List Action}
    (hactions : ∀ a ∈ actions, a.IsCommandless) :
    l.machine.retries.toNat ≤ (Link.run env actions l).machine.retries.toNat := by
  induction actions generalizing l with
  | nil => exact Nat.le_refl _
  | cons action rest ih =>
    obtain ⟨haction, hrest⟩ := List.forall_mem_cons.mp hactions
    exact (turns_step env h.waits haction).retries_le.trans (ih (h.step env haction) hrest)

/-- What one action pays for, all of them do. -/
theorem establishments_le (h : l.Unattended) {actions : List Action}
    (hactions : ∀ a ∈ actions, a.IsCommandless) :
    establishments env actions l + l.stage.potential ≤
      (Link.run env actions l).stage.potential + shortcuts env actions l := by
  induction actions generalizing l with
  | nil => exact Nat.le_of_eq (Nat.zero_add _)
  | cons action rest ih =>
    obtain ⟨haction, hrest⟩ := List.forall_mem_cons.mp hactions
    have hstep := (turns_step env h.waits haction).establishes_le h.orderly h.budget_lt
    have hrun := ih (h.step env haction) hrest
    show (l.stage.establishes _).toNat + establishments env rest _ + l.stage.potential ≤
      (Link.run env rest (l.step env action)).stage.potential +
        ((l.stage.cutsShort _).toNat + shortcuts env rest _)
    omega

end Unattended

/-- A link that is up in the end, and was not in the beginning, got up in the meantime. -/
theorem establishments_pos {actions : List Action} (hdown : l.machine.mode ≠ .connected)
    (hup : (run env actions l).machine.mode = .connected) : 0 < establishments env actions l := by
  induction actions generalizing l with
  | nil => exact absurd hup hdown
  | cons action rest ih =>
    show 0 < (l.stage.establishes (l.step env action).stage).toNat + establishments env rest _
    by_cases hmode : (l.step env action).machine.mode = .connected
    · have hestablished : l.stage.establishes (l.step env action).stage = true := by
        simp [Stage.establishes, stage, hdown, hmode]
      rw [hestablished]
      exact Nat.add_pos_left (by decide) _
    · exact Nat.add_pos_right _ (ih hmode hup)

theorem countTurns_append (p : Stage → Stage → Bool) (first rest : List Action) (l : Link σ) :
    countTurns env p (first ++ rest) l =
      countTurns env p first l + countTurns env p rest (run env first l) := by
  induction first generalizing l with
  | nil => exact (Nat.zero_add _).symm
  | cons action first ih =>
    show _ + countTurns env p (first ++ rest) _ = _ + countTurns env p first _ + _
    rw [ih, Nat.add_assoc]
    rfl

/-- What a run without commands has cost. -/
structure Paid (env : Surroundings σ) (l : Link σ) (actions : List Action) : Prop where
  /-- No retry is given back. -/
  retries_le : l.machine.retries ≤ (run env actions l).machine.retries
  /-- No more than the budget is spent while there is a link. -/
  within : (run env actions l).machine.mode.hasLink = true →
    (run env actions l).machine.retries ≤ (run env actions l).machine.settings.retryBudget
  /-- A link that was lost and got up again has cost a retry. -/
  fallen : ∀ falling rising, actions = falling ++ rising → l.machine.mode = .connected →
    (run env falling l).machine.mode = .connecting →
    (run env actions l).machine.mode = .connected → shortcuts env actions l = 0 →
    l.machine.retries < (run env actions l).machine.retries
  /-- The link gets up no more often than retries were spent, and the first time. -/
  establishments_le : l.machine.retries.toNat + establishments env actions l ≤
    (run env actions l).machine.retries.toNat + shortcuts env actions l + 1

theorem Unattended.paid (h : l.Unattended) {actions : List Action}
    (hactions : ∀ a ∈ actions, a.IsCommandless) : Paid env l actions where
  retries_le := UInt8.le_iff_toNat_le.mpr (h.retries_le_run env hactions)
  within := (h.run env hactions).orderly.retries_le
  fallen := by
    rintro falling rising rfl hup hfallen hup' hshort
    have hagain : 0 < establishments env rising (Link.run env falling l) := by
      refine establishments_pos env (by rw [hfallen]; simp) ?_
      rw [← hup', Link.run, Link.run, Link.run, List.foldl_append]
    have hcount : establishments env (falling ++ rising) l = _ + establishments env rising _ :=
      countTurns_append env _ falling rising l
    have hle := h.establishments_le env hactions
    have hbefore : l.stage.potential = l.machine.retries.toNat + 1 :=
      Stage.potential_of_ne_connecting (by rw [show l.stage.mode = _ from hup]; simp)
    have hafter : (Link.run env (falling ++ rising) l).stage.potential = _ + 1 :=
      Stage.potential_of_ne_connecting (by
        rw [show (Link.run env (falling ++ rising) l).stage.mode = _ from hup']
        simp)
    rw [hbefore, hafter, hshort, hcount] at hle
    refine UInt8.lt_iff_toNat_lt.mpr ?_
    show _ < (Link.run env (falling ++ rising) l).stage.retries.toNat
    omega
  establishments_le := by
    have hle := h.establishments_le env hactions
    have hafter := Stage.potential_le (Link.run env actions l).stage
    have hbefore : l.machine.retries.toNat ≤ l.stage.potential := Nat.le_add_right _ _
    have hretries : (Link.run env actions l).stage.retries =
      (Link.run env actions l).machine.retries := rfl
    rw [hretries] at hafter
    omega

/-! ### After a command to connect -/

/-- Once a command to connect was served, the attempt is in order, whatever came before. -/
theorem unattended_of_connect (hbudget : l.machine.settings.retryBudget < 255) {version : UInt32}
    {target : ConnectTarget}
    (hcommand : l.shared.commands.take.2 = some (version, .connect target)) {now : Nat}
    {moves : Nat → HostMove} (hmoves : ∀ step, (moves step).PostsNothing) :
    (l.step env (.tick now moves)).Unattended := by
  let meanwhile : Meanwhile := fun step => (moves step).act
  have hwait : ((l.atTime now).serveCommand env meanwhile).Waits :=
    waits_serveCommand env hmoves (l := l.atTime now) hcommand
  have hserved : ((l.atTime now).serveCommand env meanwhile).stage.Orderly := by
    unfold serveCommand
    split
    · rename_i commands version' command htake
      -- It is the command to connect that was taken.
      cases (congrArg Prod.snd htake).symm.trans hcommand
      exact orderly_connect env meanwhile target _
    · rename_i hnone
      cases (congrArg Prod.snd hnone).symm.trans hcommand
  have hturns := turns_work env meanwhile ((l.atTime now).serveCommand env meanwhile)
  refine ⟨waits_work env hmoves hwait, hturns.orderly hserved, ?_⟩
  show (work env _ _).stage.budget < 255
  rw [hturns.budget_eq, budget_serveCommand]
  exact hbudget

/-- After a command to connect, as long as no other command comes: retries are never given back and
stay within the budget, and each link but the first costs one, unless the access point answered an
authentication frame after it had ended the association and before the handshake started over. -/
theorem paid_run (hbudget : l.machine.settings.retryBudget < 255) {version : UInt32}
    {target : ConnectTarget}
    (hcommand : l.shared.commands.take.2 = some (version, .connect target)) {now : Nat}
    {moves : Nat → HostMove} (hmoves : ∀ step, (moves step).PostsNothing)
    {before after : List Action} (hbefore : ∀ a ∈ before, a.IsCommandless)
    (hafter : ∀ a ∈ after, a.IsCommandless) :
    Paid env (run env before (l.step env (.tick now moves))) after :=
  ((unattended_of_connect env hbudget hcommand hmoves).run env hbefore).paid env hafter

/-- The host asks for a link to a network that does not encrypt. -/
def requestActions : List Action :=
  [.post .enable, undisturbed, .post (.connect (network .plain))]

/-- The access point lets the station in. -/
def admittingActions : List Action :=
  [heard (Frame.authentication stationAddress networkAddress networkAddress 0
      { algorithm := .openSystem, sequence := 2, status := .success, challenge := none } false),
    heard (Frame.associationResponse stationAddress networkAddress 0 .success 1)]

/-- The access point ends the authentication, or only the association. -/
def heardEnd (subtype : Frame.ManagementSubtype) : Action :=
  heard (Frame.deauthentication subtype stationAddress networkAddress networkAddress 0 .unspecified)

theorem isCommandless_admittingActions : ∀ a ∈ admittingActions, a.IsCommandless := by
  simp [admittingActions, heard, Action.IsCommandless]

theorem paid_run_deauthenticated :
    ∃ s l, attach .standard stationAddress () .fresh = (s, .ok l) ∧
      let env := Surroundings.answering .refused
      let connecting := (run env requestActions l).step env undisturbed
      let connected := run env admittingActions connecting
      let resuming := heardEnd .deauthentication :: admittingActions
      connected.machine.mode = .connected ∧ connected.machine.retries = 0 ∧
        (run env resuming connected).machine.mode = .connected ∧
        (run env resuming connected).machine.retries = 1 ∧ Paid env connected resuming := by
  have hattached : attach .standard stationAddress () .fresh = (_, .ok _) := rfl
  refine ⟨_, _, hattached, by decide +kernel, by decide +kernel, by decide +kernel,
    by decide +kernel, ?_⟩
  refine paid_run _ (by decide +kernel)
    (show _ = some (2, Command.connect (network .plain)) by decide +kernel) (fun _ _ h => h)
    isCommandless_admittingActions ?_
  exact List.forall_mem_cons.mpr ⟨trivial, isCommandless_admittingActions⟩

/-- A link whose association was ended gets up again for free, if the access point answers an
authentication frame before the next tick. -/
theorem reestablished_for_free :
    ∃ s l, attach .standard stationAddress () .fresh = (s, .ok l) ∧
      let env := Surroundings.answering .refused
      let connecting := (run env requestActions l).step env undisturbed
      let connected := run env admittingActions connecting
      let fallen := connected.step env (heardEnd .disassociation)
      connected.machine.mode = .connected ∧ fallen.machine.mode = .connecting ∧
        (run env admittingActions fallen).machine.mode = .connected ∧
        (run env admittingActions fallen).machine.retries = connected.machine.retries := by
  have hattached : attach .standard stationAddress () .fresh = (_, .ok _) := rfl
  exact ⟨_, _, hattached, by decide +kernel, by decide +kernel, by decide +kernel,
    by decide +kernel⟩

end WlanControl.Link
