import WlanControl.Proofs.LinkSecrecy
import WlanControl.Proofs.LinkStages

namespace WlanControl.Link

open WlanControl.Frame (Field encode? maxFrameLength)

/-!
# The link layer — an attempt without an answer

While an access point does not answer, each tick that comes late enough spends a retry and sends the
frame of the handshake again, which the key exchange has none of.  When no retry is left the attempt
ends.  A budget of 255 is never used up, since the count of retries stops there.

* `Machine.reminder?`, `Machine.verdict` — the frame that is sent again, and what the attempt ends
  with;
* `attempted` — the frames in a log, `reminders` — those of some ticks in a row;
* `Unanswered` — an attempt that waits for an answer;
* `Resumed`, `Ended` — what one tick makes of it, with `resumed_tick` and `ended_tick`;
* `Silent` — actions that bring no answer, with ticks that come late enough.

Main statements: `dwindles_run`, what any number of ticks makes of an attempt, and
`largest_budget_endures`, an attempt that does not end.
-/

variable {σ : Type} {l l' : Link σ} (env : Surroundings σ)

/-! ### Frames that are sent again -/

/-- The step whose frame is sent next without an answer. -/
def Machine.pendingStep (m : Machine) : HandshakeStep :=
  if m.authLevel = .deassociated then .authenticate else m.handshake.step

/-- The frame that is sent next without an answer, up to its number. -/
def Machine.reminder? (m : Machine) : Option (UInt16 → List Field) :=
  m.target.bind fun target =>
    { m.handshake with step := m.pendingStep }.frame? m.address target

/-- Why the attempt fails if no answer comes. -/
def Machine.verdict (m : Machine) : LinkError :=
  if m.handshake.step = .keyExchange then .keyExchangeFailed else .retryBudgetExhausted

/-- A frame that was to be sent, which is none if it was given up. -/
def Event.attempt? : Event → Option (Option (List UInt8))
  | .sent frame _ => some (some frame)
  | .unsendable => some none
  | _ => none

/-- The frames that were to be sent, latest first. -/
def attempted (log : List Event) : List (Option (List UInt8)) := log.filterMap Event.attempt?

/-- A frame that is built again and again, from some number on, latest first. -/
def repeated (build : UInt16 → List Field) : Nat → UInt16 → List (Option (List UInt8))
  | 0, _ => []
  | n + 1, number => repeated build n (nextNumber number) ++ [encode? maxFrameLength (build number)]

/-- The frames that some ticks in a row send without an answer. -/
def Machine.reminders (m : Machine) (n : Nat) : List (Option (List UInt8)) :=
  m.reminder?.elim [] fun build => repeated build n m.sequenceNumber

/-- Keys are exchanged without reminders. -/
theorem Machine.reminders_of_keyExchange {m : Machine} (hlevel : m.authLevel ≠ .deassociated)
    (hstep : m.handshake.step = .keyExchange) (n : Nat) : m.reminders n = [] := by
  unfold Machine.reminders Machine.reminder? Machine.pendingStep
  rw [if_neg hlevel, hstep]
  cases m.target <;> rfl

theorem attempted_send (build : UInt16 → List Field) (l : Link σ) :
    attempted (l.send env build).log =
      encode? maxFrameLength (build l.machine.sequenceNumber) :: attempted l.log := by
  unfold send
  simp only
  split
  · rename_i frame hframe
    rw [hframe]
    unfold transmit
    split <;> rfl
  · rename_i hnone
    rw [hnone]
    rfl

/-- The frame of the handshake is the one that is sent again, unless the handshake is to start
over. -/
theorem reminder?_eq_frame? {target : ConnectTarget} (htarget : l.machine.target = some target)
    (hlevel : l.machine.authLevel ≠ .deassociated) :
    l.machine.reminder? = l.machine.handshake.frame? l.machine.address target := by
  unfold Machine.reminder? Machine.pendingStep
  rw [htarget, if_neg hlevel]
  rfl

theorem sendHandshakeFrame_of_some {target : ConnectTarget} {build : UInt16 → List Field}
    (htarget : l.machine.target = some target)
    (hframe : l.machine.handshake.frame? l.machine.address target = some build) :
    l.sendHandshakeFrame env = { l.send env build with
      machine.handshake.sentAt := (l.send env build).machine.now } := by
  simp [sendHandshakeFrame, htarget, hframe]

theorem sendHandshakeFrame_of_none {target : ConnectTarget}
    (htarget : l.machine.target = some target)
    (hframe : l.machine.handshake.frame? l.machine.address target = none) :
    l.sendHandshakeFrame env = { l with machine.handshake.sentAt := l.machine.now } := by
  simp [sendHandshakeFrame, htarget, hframe]

/-- Sending the frame of the handshake is one reminder, and takes one number if there is a frame. -/
theorem reminders_sendHandshakeFrame {target : ConnectTarget}
    (htarget : l.machine.target = some target) (hlevel : l.machine.authLevel ≠ .deassociated) :
    attempted (l.sendHandshakeFrame env).log = l.machine.reminders 1 ++ attempted l.log ∧
      ∀ n, l.machine.reminders (n + 1) =
        (l.sendHandshakeFrame env).machine.reminders n ++ l.machine.reminders 1 := by
  have hsame : (l.sendHandshakeFrame env).machine.reminder? = l.machine.reminder? := by
    unfold Machine.reminder? Machine.pendingStep
    rw [(transmits_sendHandshakeFrame env l).machine_eq]
    rfl
  have hreminder := reminder?_eq_frame? htarget hlevel
  unfold Machine.reminders
  rw [hsame, hreminder]
  cases hframe : l.machine.handshake.frame? l.machine.address target with
  | none =>
    rw [sendHandshakeFrame_of_none env htarget hframe]
    exact ⟨rfl, fun n => rfl⟩
  | some build =>
    rw [sendHandshakeFrame_of_some env htarget hframe]
    refine ⟨attempted_send env build l, fun n => ?_⟩
    show repeated build (n + 1) _ = repeated build n (l.send env build).machine.sequenceNumber ++ _
    rw [sequenceNumber_send]
    rfl

/-! ### One tick -/

/-- An attempt that waits for an answer. -/
structure Unanswered (l : Link σ) : Prop where
  waits : l.Waits
  orderly : l.stage.Orderly
  connecting : l.machine.mode = .connecting
  target : ∃ target, l.machine.target = some target

/-- The attempt went on after a tick. -/
structure Resumed (l l' : Link σ) (now : Nat) : Prop where
  unanswered : l'.Unanswered
  settings_eq : l'.machine.settings = l.machine.settings
  retries_eq : l'.machine.retries = spent l.machine.retries
  sentAt_eq : l'.machine.handshake.sentAt = now
  verdict_eq : l'.machine.verdict = l.machine.verdict
  attempted_eq : attempted l'.log = l.machine.reminders 1 ++ attempted l.log
  reminders_eq : ∀ n, l.machine.reminders (n + 1) = l'.machine.reminders n ++ l.machine.reminders 1

/-- The attempt has failed. -/
structure Ended (failure : LinkError) (l : Link σ) : Prop where
  waits : l.Waits
  mode_eq : l.machine.mode = .cannotConnect
  failure_eq : l.shared.status.failure = some failure

theorem isDue_of_le {interval since now : Nat} (h : since + interval ≤ now) :
    isDue interval since now = true :=
  decide_eq_true (by omega)

theorem spendRetry_of_lt (h : l.machine.settings.retryBudget < spent l.machine.retries)
    (failure : LinkError) : l.spendRetry env failure =
      ((l.setRetries (spent l.machine.retries)).fail env failure, false) := by
  unfold spendRetry
  exact if_pos h

theorem spendRetry_of_le (h : spent l.machine.retries ≤ l.machine.settings.retryBudget)
    (failure : LinkError) :
    l.spendRetry env failure = (l.setRetries (spent l.machine.retries), true) := by
  unfold spendRetry
  exact if_neg (UInt8.not_lt.mpr h)

/-- A tick that finds no command does what is due while connecting. -/
theorem step_tick_of_unanswered (h : l.Unanswered) (now : Nat) (moves : Nat → HostMove) :
    l.step env (.tick now moves) = (l.atTime now).connectingTick env := by
  have hnow : (l.atTime now).Waits := h.waits
  show ((l.atTime now).serveCommand env _).work env _ = _
  rw [serveCommand_of_waits env _ hnow]
  unfold work
  rw [show (l.atTime now).machine.mode = .connecting from h.connecting]

/-- The handshake that has not started over yet does not exchange keys. -/
theorem Unanswered.verdict_of_deassociated (h : l.Unanswered)
    (hlevel : l.machine.authLevel = .deassociated) :
    l.machine.verdict = .retryBudgetExhausted := by
  unfold Machine.verdict
  refine if_neg ?_
  intro hkeys
  rcases h.orderly.step_of_deassociated h.connecting hlevel with hstep | hstep <;>
    cases hstep.symm.trans hkeys

/-- The tick that finds no retry left ends the attempt. -/
theorem ended_tick (h : l.Unanswered)
    (hspent : l.machine.settings.retryBudget < spent l.machine.retries) {now : Nat}
    (hdue : l.machine.handshake.sentAt + l.machine.settings.resendInterval ≤ now)
    {moves : Nat → HostMove} (hmoves : ∀ step, (moves step).PostsNothing) :
    Ended l.machine.verdict (l.step env (.tick now moves)) := by
  have hwaits : (l.step env (.tick now moves)).Waits := waits_step env h.waits hmoves
  have hfailed (failure : LinkError) : (l.atTime now).spendRetry env failure =
      (((l.atTime now).setRetries (spent l.machine.retries)).fail env failure, false) :=
    spendRetry_of_lt env (l := l.atTime now) hspent failure
  rw [step_tick_of_unanswered env h] at hwaits ⊢
  suffices hend : (l.atTime now).connectingTick env =
      ((l.atTime now).setRetries (spent l.machine.retries)).fail env l.machine.verdict by
    rw [hend] at hwaits ⊢
    exact ⟨hwaits, rfl, rfl⟩
  have hoverdue : isDue (l.atTime now).machine.settings.resendInterval
      (l.atTime now).machine.handshake.sentAt (l.atTime now).machine.now = true :=
    isDue_of_le hdue
  unfold connectingTick
  by_cases hlevel : (l.atTime now).machine.authLevel = .deassociated
  · rw [if_pos hlevel, h.verdict_of_deassociated hlevel]
    unfold restart
    rw [hfailed]
  · rw [if_neg hlevel, if_pos hoverdue]
    by_cases hstep : (l.atTime now).machine.handshake.step = .keyExchange
    · rw [if_pos hstep, hfailed, show l.machine.verdict = .keyExchangeFailed from if_pos hstep]
    · rw [if_neg hstep, hfailed, show l.machine.verdict = .retryBudgetExhausted from if_neg hstep]

/-- A retry was spent, and the frame of the handshake is sent next. -/
structure Readied (l l' : Link σ) (now : Nat) : Prop where
  settings_eq : l'.machine.settings = l.machine.settings
  retries_eq : l'.machine.retries = spent l.machine.retries
  now_eq : l'.machine.now = now
  mode_eq : l'.machine.mode = .connecting
  authLevel_ne : l'.machine.authLevel ≠ .deassociated
  target_eq : l'.machine.target = l.machine.target
  verdict_eq : l'.machine.verdict = l.machine.verdict
  reminder?_eq : l'.machine.reminder? = l.machine.reminder?
  sequenceNumber_eq : l'.machine.sequenceNumber = l.machine.sequenceNumber
  attempted_eq : attempted l'.log = attempted l.log

theorem sentAt_sendHandshakeFrame {target : ConnectTarget}
    (htarget : l.machine.target = some target) :
    (l.sendHandshakeFrame env).machine.handshake.sentAt = l.machine.now := by
  cases hframe : l.machine.handshake.frame? l.machine.address target with
  | none => rw [sendHandshakeFrame_of_none env htarget hframe]
  | some build =>
    rw [sendHandshakeFrame_of_some env htarget hframe, (transmits_send env build l).machine_eq]

theorem Readied.resumed {now : Nat} (hready : Readied l l' now) (h : l.Unanswered)
    (hwaits : (l'.sendHandshakeFrame env).Waits)
    (horderly : (l'.sendHandshakeFrame env).stage.Orderly) :
    Resumed l (l'.sendHandshakeFrame env) now := by
  obtain ⟨target, hsome⟩ := h.target
  have htarget : l'.machine.target = some target := hready.target_eq.trans hsome
  have hsent := (transmits_sendHandshakeFrame env l').machine_eq
  obtain ⟨hattempted, hrest⟩ := reminders_sendHandshakeFrame env htarget hready.authLevel_ne
  have hreminders (n : Nat) : l'.machine.reminders n = l.machine.reminders n := by
    unfold Machine.reminders
    rw [hready.reminder?_eq, hready.sequenceNumber_eq]
  exact {
    unanswered := {
      waits := hwaits
      orderly := horderly
      connecting := by
        rw [hsent]
        exact hready.mode_eq
      target := by
        rw [hsent]
        exact ⟨target, htarget⟩ }
    settings_eq := by
      rw [hsent]
      exact hready.settings_eq
    retries_eq := by
      rw [hsent]
      exact hready.retries_eq
    sentAt_eq := (sentAt_sendHandshakeFrame env htarget).trans hready.now_eq
    verdict_eq := by
      rw [← hready.verdict_eq, hsent]
      rfl
    attempted_eq := by rw [hattempted, hreminders, hready.attempted_eq]
    reminders_eq := fun n => by rw [← hreminders, ← hreminders, hrest] }

/-- A tick that comes late enough sends the frame of the handshake again, if there is one, as long
as a retry is left. -/
theorem resumed_tick (h : l.Unanswered)
    (hleft : spent l.machine.retries ≤ l.machine.settings.retryBudget) {now : Nat}
    (hdue : l.machine.handshake.sentAt + l.machine.settings.resendInterval ≤ now)
    {moves : Nat → HostMove} (hmoves : ∀ step, (moves step).PostsNothing) :
    Resumed l (l.step env (.tick now moves)) now := by
  have hwaits : (l.step env (.tick now moves)).Waits := waits_step env h.waits hmoves
  have horderly : (l.step env (.tick now moves)).stage.Orderly := orderly_step env h.orderly _
  have hspent (failure : LinkError) : (l.atTime now).spendRetry env failure =
      ((l.atTime now).setRetries (spent l.machine.retries), true) :=
    spendRetry_of_le env (l := l.atTime now) hleft failure
  have hoverdue : isDue (l.atTime now).machine.settings.resendInterval
      (l.atTime now).machine.handshake.sentAt (l.atTime now).machine.now = true :=
    isDue_of_le hdue
  rw [step_tick_of_unanswered env h] at hwaits horderly ⊢
  unfold connectingTick at hwaits horderly ⊢
  by_cases hlevel : (l.atTime now).machine.authLevel = .deassociated
  · -- The handshake starts over, which is what it was to do in any case.
    rw [if_pos hlevel] at hwaits horderly ⊢
    unfold restart at hwaits horderly ⊢
    rw [hspent] at hwaits horderly ⊢
    refine Readied.resumed env ?_ h hwaits horderly
    refine ⟨rfl, rfl, rfl, rfl, ?_, rfl, ?_, ?_, rfl, rfl⟩
    · exact fun hstill => by cases hstill
    · exact (h.verdict_of_deassociated hlevel).symm
    · unfold Machine.reminder? Machine.pendingStep
      rw [show l.machine.authLevel = .deassociated from hlevel]
      rfl
  · rw [if_neg hlevel, if_pos hoverdue] at hwaits horderly ⊢
    by_cases hstep : (l.atTime now).machine.handshake.step = .keyExchange
    · rw [if_pos hstep, hspent] at hwaits horderly ⊢
      have hnone (n : Nat) : l.machine.reminders n = [] :=
        Machine.reminders_of_keyExchange hlevel hstep n
      refine ⟨⟨hwaits, horderly, h.connecting, h.target⟩, rfl, rfl, rfl, rfl, ?_, ?_⟩
      · rw [hnone]
        rfl
      · intro n
        rw [hnone, hnone, List.append_nil]
        refine (Machine.reminders_of_keyExchange ?_ ?_ n).symm
        · exact hlevel
        · exact hstep
    · rw [if_neg hstep, hspent] at hwaits horderly ⊢
      refine Readied.resumed env ?_ h hwaits horderly
      exact ⟨rfl, rfl, rfl, h.connecting, hlevel, rfl, rfl, rfl, rfl, rfl⟩

/-- Nothing reminds the access point of the keys. -/
theorem Unanswered.reminders_of_keyExchange (h : l.Unanswered)
    (hstep : l.machine.handshake.step = .keyExchange) (n : Nat) : l.machine.reminders n = [] := by
  refine Machine.reminders_of_keyExchange ?_ hstep n
  intro hlevel
  rcases h.orderly.step_of_deassociated h.connecting hlevel with hback | hback <;>
    cases hback.symm.trans hstep

/-! ### Many ticks -/

/-- Nothing comes but ticks, each late enough after the one before, and the first one after the last
frame of the handshake, or after the association once keys are exchanged.  The host may do what it
likes, but posts no command. -/
def Silent (interval : Nat) : Nat → List Action → Prop
  | _, [] => True
  | since, .tick now moves :: rest =>
    since + interval ≤ now ∧ (∀ step, (moves step).PostsNothing) ∧ Silent interval now rest
  | since, .host move :: rest => move.PostsNothing ∧ Silent interval since rest
  | _, .post _ :: _ | _, .receive _ _ _ _ :: _ => False

/-- The number of ticks. -/
def ticks : List Action → Nat
  | [] => 0
  | .tick _ _ :: rest => ticks rest + 1
  | .post _ :: rest | .host _ :: rest | .receive _ _ _ _ :: rest => ticks rest

theorem Unanswered.host (h : l.Unanswered) {move : HostMove} (hmove : move.PostsNothing) :
    (l.step env (.host move)).Unanswered :=
  ⟨hmove _ h.waits, h.orderly, h.connecting, h.target⟩

theorem Ended.host {failure : LinkError} (h : Ended failure l) {move : HostMove}
    (hmove : move.PostsNothing) : Ended failure (l.step env (.host move)) where
  waits := hmove _ h.waits
  mode_eq := h.mode_eq
  failure_eq := by
    show (move.act l.shared).status.failure = _
    rw [move.status_act]
    exact h.failure_eq

/-- Once an attempt has failed, a tick only throws the records of the host away. -/
theorem Ended.tick {failure : LinkError} (h : Ended failure l) {moves : Nat → HostMove}
    (hmoves : ∀ step, (moves step).PostsNothing) (now : Nat) :
    Ended failure (l.step env (.tick now moves)) := by
  have hwaits : (l.step env (.tick now moves)).Waits := waits_step env h.waits hmoves
  have hdiscard : l.step env (.tick now moves) = (l.atTime now).discard := by
    have hnow : (l.atTime now).Waits := h.waits
    show ((l.atTime now).serveCommand env _).work env _ = _
    rw [serveCommand_of_waits env _ hnow]
    unfold work
    rw [show (l.atTime now).machine.mode = .cannotConnect from h.mode_eq]
  rw [hdiscard] at hwaits ⊢
  exact ⟨hwaits, h.mode_eq, h.failure_eq⟩

theorem Ended.run {failure : LinkError} (h : Ended failure l) {interval since : Nat}
    {actions : List Action} (hsilent : Silent interval since actions) :
    Ended failure (run env actions l) := by
  induction actions generalizing l since with
  | nil => exact h
  | cons action rest ih =>
    cases action with
    | post | receive => cases hsilent
    | host move =>
      obtain ⟨hmove, hrest⟩ := hsilent
      exact ih (h.host env hmove) hrest
    | tick now moves =>
      obtain ⟨-, hmoves, hrest⟩ := hsilent
      exact ih (h.tick env hmoves now) hrest

theorem Machine.reminders_zero (m : Machine) : m.reminders 0 = [] := by
  unfold Machine.reminders
  cases m.reminder? <;> rfl

/-- What became of an attempt after a number of ticks without an answer. -/
structure Dwindles (l l' : Link σ) (n : Nat) : Prop where
  /-- While there are retries, or if there always are, the same frame was sent again and again. -/
  endures : (l.machine.settings.retryBudget = 255 ∨
      n ≤ l.machine.settings.retryBudget.toNat - l.machine.retries.toNat) →
    l'.machine.mode = .connecting ∧ attempted l'.log = l.machine.reminders n ++ attempted l.log
  /-- One tick more than there were retries, and the attempt has failed. -/
  ends : l.machine.settings.retryBudget ≠ 255 →
    l.machine.settings.retryBudget.toNat + 1 - l.machine.retries.toNat ≤ n →
    l'.machine.mode = .cannotConnect ∧ l'.shared.status.failure = some l.machine.verdict

/-- One more tick, after which the attempt goes on. -/
theorem Resumed.dwindles {now n : Nat} {last : Link σ} (h : Resumed l l' now)
    (hleft : spent l.machine.retries ≤ l.machine.settings.retryBudget)
    (hrest : Dwindles l' last n) : Dwindles l last (n + 1) := by
  have hcount (hbudget : l.machine.settings.retryBudget ≠ 255) :
      l'.machine.retries.toNat = l.machine.retries.toNat + 1 := by
    have hlt := l.machine.settings.retryBudget.toNat_lt
    have hne : l.machine.settings.retryBudget.toNat ≠ 255 :=
      fun hall => hbudget (UInt8.toNat_inj.mp hall)
    rw [h.retries_eq]
    refine toNat_spent hleft (UInt8.lt_iff_toNat_lt.mpr ?_)
    simp only [UInt8.reduceToNat]
    omega
  constructor
  · intro henough
    have hstill : l'.machine.settings.retryBudget = 255 ∨
        n ≤ l'.machine.settings.retryBudget.toNat - l'.machine.retries.toNat := by
      rw [h.settings_eq]
      by_cases hbudget : l.machine.settings.retryBudget = 255
      · exact .inl hbudget
      · have := hcount hbudget
        have := henough.resolve_left hbudget
        exact .inr (by omega)
    obtain ⟨hmode, hattempted⟩ := hrest.endures hstill
    refine ⟨hmode, ?_⟩
    rw [hattempted, h.attempted_eq, h.reminders_eq n, List.append_assoc]
  · intro hbudget hover
    have := hcount hbudget
    rw [← h.settings_eq] at hbudget hover
    rw [← h.verdict_eq]
    exact hrest.ends hbudget (by omega)

theorem Unanswered.dwindles (h : l.Unanswered) {actions : List Action}
    (hsilent : Silent l.machine.settings.resendInterval l.machine.handshake.sentAt actions) :
    Dwindles l (run env actions l) (ticks actions) := by
  have hretries : l.machine.retries.toNat ≤ l.machine.settings.retryBudget.toNat :=
    UInt8.le_iff_toNat_le.mp
      (h.orderly.retries_le (by rw [show l.stage.mode = _ from h.connecting]; rfl))
  -- By induction on what happens; the claim is about the attempt as it stands at each tick.
  induction actions generalizing l with
  | nil =>
    refine ⟨fun _ => ⟨h.connecting, ?_⟩, fun _ hover => ?_⟩
    · show attempted l.log = l.machine.reminders 0 ++ _
      rw [Machine.reminders_zero]
      rfl
    · have hover' : l.machine.settings.retryBudget.toNat + 1 - l.machine.retries.toNat ≤ 0 := hover
      omega
  | cons action rest ih =>
    cases action with
    | post | receive => cases hsilent
    | host move =>
      obtain ⟨hmove, hrest⟩ := hsilent
      obtain ⟨hendures, hends⟩ := ih (h.host env hmove) hrest hretries
      exact ⟨hendures, hends⟩
    | tick now moves =>
      obtain ⟨hdue, hmoves, hrest⟩ := hsilent
      by_cases hleft : spent l.machine.retries ≤ l.machine.settings.retryBudget
      · have hresumed := resumed_tick env h hleft hdue hmoves
        refine hresumed.dwindles hleft (ih hresumed.unanswered ?_ ?_)
        · rw [hresumed.settings_eq, hresumed.sentAt_eq]
          exact hrest
        · rw [hresumed.settings_eq, hresumed.retries_eq]
          exact UInt8.le_iff_toNat_le.mp hleft
      · have hspent := UInt8.not_le.mp hleft
        have hended := (ended_tick env h hspent hdue hmoves).run env hrest
        have hlt := UInt8.lt_iff_toNat_lt.mp hspent
        have hbound := (toNat_spent_bounds l.machine.retries).2
        have hmax := (spent l.machine.retries).toNat_lt
        refine ⟨fun henough => ?_, fun _ _ => ⟨hended.mode_eq, hended.failure_eq⟩⟩
        -- The retries are all spent, so not even this tick was within the budget.
        rcases henough with hbudget | hwithin
        · rw [hbudget] at hlt
          simp only [UInt8.reduceToNat] at hlt
          omega
        · have hwithin' : ticks rest + 1 ≤
              l.machine.settings.retryBudget.toNat - l.machine.retries.toNat := hwithin
          omega

/-! ### All reachable attempts -/

theorem unanswered_run {settings : Settings} {address : MacAddress} {outside : σ}
    {s s' : SharedState} (h : attach settings address outside s = (s', .ok l))
    (earlier : List Action) (hwaits : (run env earlier l).Waits)
    (hmode : (run env earlier l).machine.mode = .connecting) :
    (run env earlier l).Unanswered where
  waits := hwaits
  orderly := orderly_run env (orderly_attach h) earlier
  connecting := hmode
  target := by
    obtain ⟨target, htarget, -⟩ := (sound_run env (sound_attach h) earlier).wanted
      (by rw [show (run env earlier l).keying.mode = _ from hmode]; rfl)
    exact ⟨target, htarget⟩

/-- Whatever brought an attempt about: without an answer it goes on for as many ticks as there are
retries left, sends nothing but the frame of its step, which the key exchange has none of, and fails
with the next tick.  Only a budget of 255 is never used up. -/
theorem dwindles_run {settings : Settings} {address : MacAddress} {outside : σ}
    {s s' : SharedState} (h : attach settings address outside s = (s', .ok l))
    (earlier silence : List Action) (hwaits : (run env earlier l).Waits)
    (hmode : (run env earlier l).machine.mode = .connecting)
    (hsilent : Silent (run env earlier l).machine.settings.resendInterval
      (run env earlier l).machine.handshake.sentAt silence) :
    Dwindles (run env earlier l) (run env (earlier ++ silence) l) (ticks silence) ∧
      ((run env earlier l).machine.handshake.step = .keyExchange →
        ∀ n, (run env earlier l).machine.reminders n = []) := by
  have hunanswered := unanswered_run env h earlier hwaits hmode
  have hrun : run env (earlier ++ silence) l = run env silence (run env earlier l) :=
    List.foldl_append
  rw [hrun]
  exact ⟨hunanswered.dwindles env hsilent, hunanswered.reminders_of_keyExchange⟩

/-- Ticks at which an answer is overdue, with the settings that apply otherwise. -/
def overdueTicks : List Action :=
  [.tick 250001 fun _ => .idle, .tick 500001 fun _ => .idle, .tick 750001 fun _ => .idle]

theorem dwindles_run_overdueTicks :
    ∃ s l, attach { Settings.standard with retryBudget := 2 } stationAddress () .fresh =
        (s, .ok l) ∧
      let env := Surroundings.answering .refused
      (run env (plainActions ++ overdueTicks) l).machine.mode = .cannotConnect ∧
        (run env (plainActions ++ overdueTicks) l).shared.status.failure =
          some .retryBudgetExhausted ∧
        ((run env plainActions l).machine.reminders 2).length = 2 ∧
        Dwindles (run env plainActions l) (run env (plainActions ++ overdueTicks) l) 3 := by
  have hattached : attach { Settings.standard with retryBudget := 2 } stationAddress () .fresh =
    (_, .ok _) := rfl
  refine ⟨_, _, hattached, by decide +kernel, by decide +kernel, by decide +kernel, ?_⟩
  refine (dwindles_run _ hattached plainActions overdueTicks (by decide +kernel)
    (by decide +kernel) ?_).1
  exact ⟨by decide +kernel, fun _ _ h => h, by decide +kernel, fun _ _ h => h, by decide +kernel,
    fun _ _ h => h, trivial⟩

/-- With the largest budget the attempt does not end, however often an answer is overdue. -/
theorem largest_budget_endures :
    ∃ s l, attach { Settings.standard with resendInterval := 0, retryBudget := 255 } stationAddress
        () .fresh = (s, .ok l) ∧
      let env := Surroundings.answering .refused
      let waiting := run env (securedActions.take 6) l
      waiting.machine.mode = .connecting ∧ waiting.machine.handshake.step = .keyExchange ∧
        waiting.Waits ∧ Silent 0 waiting.machine.handshake.sentAt (List.replicate 256 undisturbed) ∧
        waiting.machine.settings.retryBudget.toNat + 1 - waiting.machine.retries.toNat ≤ 256 ∧
        (run env (List.replicate 256 undisturbed) waiting).machine.mode = .connecting := by
  have hattached : attach { Settings.standard with resendInterval := 0, retryBudget := 255 }
    stationAddress () .fresh = (_, .ok _) := rfl
  have hsilent (n : Nat) {since : Nat} (hsince : since ≤ 1) :
      Silent 0 since (List.replicate n undisturbed) := by
    induction n generalizing since with
    | zero => trivial
    | succ n ih => exact ⟨hsince, fun _ _ h => h, ih (Nat.le_refl 1)⟩
  exact ⟨_, _, hattached, by decide +kernel, by decide +kernel, by decide +kernel,
    hsilent 256 (by decide +kernel), by decide +kernel, by decide +kernel⟩

end WlanControl.Link
