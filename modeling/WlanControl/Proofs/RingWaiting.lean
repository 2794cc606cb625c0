import WlanControl.Proofs.RingPolls

namespace WlanControl.Ring

open Sync (Doorbell)

/-!
# Rings — waiting for a record

What a task that waits for a record may rely on, whether the other side goes on in the course of its
polls or not.

* `Watch.work` — a bound on the steps that are left of a poll;
* `Watch.Attentive` — every poll ends, and a task that left its number is woken by the next commit.
  A poll that ends without a record has missed none, except for a record whose signal is not counted
  yet, or if the count ran over in the course of it;
* `Vigil` — a ring and a future between whole operations, which are those of the ring;
* `Vigil.Matches` — whole operations are runs of the steps that they are made of;
* `Vigil.Prompt` — a poll finds a record just if there is one, and otherwise the next commit calls
  its task.

Main statement: `Watch.attentive_run`, all of this after any operations and after any steps.
-/

variable {size : Nat}

/-! ### A poll as one operation -/

/-- A poll finds a record just if there is one.  A task that is resumed has to rely on a signal. -/
theorem poll_snd (task : Nat) (resumed : Bool) (r : Ring size)
    (hsignalled : resumed = true → r.bell.pending = 0 → r.isEmpty = true) :
    (r.poll task resumed).2 = !r.isEmpty := by
  -- By the rounds of the poll.  Once a signal was taken the task looks again, so that from then on
  -- it does not matter where it started.
  fun_induction Ring.poll task resumed r with
  | case1 resumed r hfinds =>
    obtain ⟨-, hrecord⟩ : resumed = false ∧ r.isEmpty = false := by simpa using hfinds
    rw [hrecord]
    rfl
  | case2 resumed r hgoes bell htakes ih => exact ih nofun
  | case3 resumed r hgoes hnone =>
    cases resumed with
    | true =>
      rw [hsignalled rfl (Doorbell.take?_eq_none_iff.mp hnone)]
      rfl
    | false => simpa using hgoes

/-- A poll that found no record has left the number of its task and has taken all signals. -/
theorem bell_poll {task : Nat} {resumed : Bool} {r : Ring size}
    (hnone : (r.poll task resumed).2 = false) :
    (r.poll task resumed).1.bell = ⟨0, some task, r.bell.woken⟩ := by
  fun_induction Ring.poll task resumed r with
  | case1 => cases hnone
  | case2 resumed r hgoes bell htakes ih =>
    rw [ih hnone, (Doorbell.waiting_of_take? htakes).2]
  | case3 resumed r hgoes hsilent =>
    rw [Doorbell.register, Doorbell.take?_eq_none_iff.mp hsilent]

/-! ### The length of a poll -/

/-- The steps from a phase to the end of a poll that finds neither a record nor a signal. -/
def Phase.inVain : Phase → Nat
  | .looking => 4
  | .listening => 3
  | .leaving => 2
  | .listeningAgain => 1

/-- The steps from a phase to the end of a poll once there is a record. -/
def Phase.withRecord : Phase → Nat
  | .looking => 1
  | .listeningAgain => 2
  | .leaving => 3
  | .listening => 4

theorem Phase.withRecord_le_inVain (phase : Phase) : phase.withRecord ≤ phase.inVain + 3 := by
  cases phase <;> decide

namespace Watch

variable {w w' : Watch size} {task : Nat} {phase : Phase}

/-- A bound on the steps from a phase to the end of a poll.  Each signal that is left over takes the
task back to the start. -/
def workFrom (w : Watch size) (phase : Phase) : Nat :=
  if w.traffic.ring.isEmpty then
    4 * (w.traffic.ring.bell.pending.toNat + w.commit.due) + phase.inVain + 3
  else phase.withRecord

/-- A bound on the steps that are left of a poll. -/
def work (w : Watch size) : Nat :=
  match w.waiter with
  | .polled _ phase => w.workFrom phase
  | .absent | .pending _ | .ready => 0

theorem work_of_polled (hwaiter : w.waiter = .polled task phase) : w.work = w.workFrom phase := by
  rw [work, hwaiter]

theorem withRecord_le_workFrom (w : Watch size) (phase : Phase) :
    phase.withRecord ≤ w.workFrom phase := by
  have := phase.withRecord_le_inVain
  unfold workFrom
  split
  · omega
  · exact Nat.le_refl _

/-- A poll has a step left until it is over. -/
theorem work_pos (hwaiter : w.waiter = .polled task phase) : 0 < w.work := by
  have hrecord : 0 < phase.withRecord := by cases phase <;> decide
  rw [work_of_polled hwaiter]
  exact Nat.lt_of_lt_of_le hrecord (w.withRecord_le_workFrom phase)

theorem work_le (hwaiter : w.waiter = .polled task phase) :
    w.work ≤ 4 * w.traffic.ring.bell.pending.toNat + 11 := by
  have hdue : w.commit.due ≤ 1 := by cases w.commit <;> decide
  rw [work_of_polled hwaiter, workFrom]
  cases phase <;> simp only [Phase.inVain, Phase.withRecord] <;> split <;> omega

/-- Every step of a poll counts, whether it takes a signal or comes closer to the end. -/
theorem work_attend (hwaiter : w.waiter = .polled task phase) : w.attend.work < w.work := by
  have hattends := attends_attend hwaiter
  have hpos := work_pos hwaiter
  rw [work_of_polled hwaiter] at hpos ⊢
  generalize w.attend = w' at hattends
  cases hattends with
  | finds | rests => exact hpos
  | misses hempty =>
    simp only [work, workFrom, hempty, if_true, Phase.inVain]
    omega
  | @hears p bell hphase htakes =>
    -- The signal that was taken pays for the way back to the start.
    have hless := Doorbell.toNat_pending_of_take? htakes
    show (if w.traffic.ring.isEmpty then 4 * (bell.pending.toNat + w.commit.due) + 4 + 3 else 1) < _
    unfold workFrom
    rcases hphase with rfl | rfl <;> simp only [Phase.inVain, Phase.withRecord] <;> split <;> omega
  | waits =>
    simp only [work, workFrom, Phase.inVain, Phase.withRecord]
    split <;> exact Nat.lt_succ_self _
  | leaves =>
    show (if w.traffic.ring.isEmpty then
      4 * (w.traffic.ring.bell.pending.toNat + w.commit.due) + 1 + 3 else 2) < _
    simp only [workFrom, Phase.inVain, Phase.withRecord]
    split <;> exact Nat.lt_succ_self _

/-- A record that arrives in the course of a poll brings its end closer. -/
theorem Sound.work_side (hsize : Admits size) (h : w.Sound)
    (hwaiter : w.waiter = .polled task phase) (a : Ring.Action) : (w.side a).work ≤ w.work := by
  have hsound := h.side hsize a
  unfold Watch.side at hsound ⊢
  split
  · exact Nat.le_refl _
  · rename_i hallowed
    rw [if_neg hallowed] at hsound
    have houtstanding : w.waiter.isOutstanding = true := by rw [hwaiter]; rfl
    rcases h.traffic.firstPart_of_idle (h.idle houtstanding)
        (fun hc => hallowed (.inl ⟨houtstanding, hc⟩)) with
      ⟨hpublishes, hsame⟩ | ⟨-, -, -, e, hpending⟩
    · have hempty : (w.traffic.firstPart a).ring.isEmpty = w.traffic.ring.isEmpty := by
        rw [Bool.eq_iff_iff, hsound.traffic.isEmpty_iff, h.traffic.isEmpty_iff, hsame.pending_eq]
      simp only [work, hwaiter, workFrom, hempty, hsame.bell_eq, hpublishes, Bool.false_eq_true,
        if_false]
      exact Nat.le_refl _
    · -- With a record in the ring the bound does not depend on the signals any more.
      have hrecord : (w.traffic.firstPart a).ring.isEmpty ≠ true := by
        rw [Ne, hsound.traffic.isEmpty_iff, hpending]
        exact List.append_ne_nil_of_right_ne_nil _ (List.cons_ne_nil e [])
      rw [work_of_polled hwaiter]
      simp only [work, hwaiter]
      rw [workFrom, if_neg hrecord]
      exact w.withRecord_le_workFrom phase

/-- A signal that is counted was due before. -/
theorem work_signal (w : Watch size) : w.signal.work ≤ w.work := by
  have hcount := w.traffic.ring.bell.toNat_pending_signal
  unfold Watch.signal
  split
  · rename_i hcommit
    unfold work
    cases w.waiter with
    | absent | pending task | ready => exact Nat.le_refl _
    | polled task phase =>
      simp only [workFrom, hcommit]
      show (if w.traffic.ring.isEmpty then
        4 * (w.traffic.ring.bell.signal.pending.toNat + 0) + phase.inVain + 3 else _) ≤
          if w.traffic.ring.isEmpty then
            4 * (w.traffic.ring.bell.pending.toNat + 1) + phase.inVain + 3 else _
      split
      · omega
      · exact Nat.le_refl _
  · exact Nat.le_refl _
  · exact Nat.le_refl _

theorem work_wake (w : Watch size) : w.wake.work = w.work := by
  unfold Watch.wake
  split
  · rename_i hcommit
    have hdue : Commit.done.due = w.commit.due := by rw [hcommit]; rfl
    simp only [work, workFrom, hdue]
    rfl
  · rfl
  · rfl

/-! ### How a poll ends -/

/-- What a poll that is over has found, at the moment when it ends. -/
structure Tells (w : Watch size) (found : Bool) : Prop where
  record : found = true → w.traffic.ring.isEmpty = false
  /-- A record goes unnoticed only if its signal is still to come, or if it got lost when the count
  ran over. -/
  none : found = false → w.commit ≠ .published → w.overrun = false →
    w.traffic.ring.isEmpty = true

/-- A task that listens and hears no signal misses no record, if all signals were counted. -/
theorem Sound.empty_of_silent (h : w.Sound) (hlistens : w.waiter.listens = true)
    (hnone : w.traffic.ring.bell.pending = 0) (hcommit : w.commit ≠ .published)
    (hcounted : w.overrun = false) : w.traffic.ring.isEmpty = true := by
  have hdue : w.commit.due = 0 := by
    cases hcases : w.commit with
    | published => exact absurd hcases hcommit
    | done | signalled => rfl
  have hrecords := h.signalled hlistens hcounted
  rw [Doorbell.pending_eq_zero_iff.mp hnone, hdue, Nat.le_zero, List.length_eq_zero_iff] at hrecords
  exact h.traffic.isEmpty_iff.mpr hrecords

theorem Sound.tells_attend (h : w.Sound) {found : Bool} (hwaiter : w.waiter = .polled task phase)
    (hover : w.attend.waiter.found? = some found) : w.attend.Tells found := by
  have hattends := attends_attend hwaiter
  generalize w.attend = w' at hattends hover
  cases hattends with
  | finds hrecord =>
    cases hover
    exact ⟨fun _ => hrecord, nofun⟩
  | rests hnone =>
    cases hover
    exact ⟨nofun, fun _ => h.empty_of_silent (by rw [hwaiter]; rfl) hnone⟩
  | misses | hears | waits | leaves => cases hover

/-- Only the task itself goes on with its poll. -/
theorem waiter_step (hwaiter : w.waiter = .polled task phase) {a : Action} (ha : a ≠ .attend) :
    (w.step a).waiter = .polled task phase := by
  cases a with
  | attend => exact absurd rfl ha
  | side a =>
    show (w.side a).waiter = _
    unfold Watch.side
    split <;> exact hwaiter
  | signal =>
    show w.signal.waiter = _
    unfold Watch.signal
    split <;> exact hwaiter
  | wake =>
    show w.wake.waiter = _
    unfold Watch.wake
    split <;> exact hwaiter
  | poll other =>
    show (w.poll other).waiter = _
    simp only [Watch.poll, hwaiter]
  | drop =>
    show w.drop.waiter = _
    simp only [Watch.drop, hwaiter]

/-- A poll goes on with less left to do, or it is over. -/
theorem Sound.step_of_polled (hsize : Admits size) (h : w.Sound)
    (hwaiter : w.waiter = .polled task phase) (a : Action) :
    (∃ phase', (w.step a).waiter = .polled task phase' ∧
        (w.step a).work + [a].count .attend ≤ w.work) ∨
      ∃ found, (w.step a).waiter.found? = some found ∧ (w.step a).Tells found := by
  by_cases ha : a = .attend
  · subst ha
    show (∃ phase', w.attend.waiter = _ ∧ w.attend.work + 1 ≤ _) ∨
      ∃ found, w.attend.waiter.found? = _ ∧ _
    cases hfound : w.attend.waiter.found? with
    | some found => exact .inr ⟨found, rfl, h.tells_attend hwaiter hfound⟩
    | none =>
      left
      have hwork := work_attend hwaiter
      have hattends := attends_attend hwaiter
      generalize w.attend = w' at hattends hfound hwork
      cases hattends with
      | finds | rests => cases hfound
      | misses | hears | waits | leaves => exact ⟨_, rfl, hwork⟩
  · refine .inl ⟨phase, waiter_step hwaiter ha, ?_⟩
    rw [List.count_singleton, if_neg (by simpa using ha)]
    cases a with
    | attend => exact absurd rfl ha
    | side a => exact h.work_side hsize hwaiter a
    | signal => exact w.work_signal
    | wake => exact Nat.le_of_eq w.work_wake
    | poll other =>
      have hstep : w.step (.poll other) = w := by simp only [Watch.step, Watch.poll, hwaiter]
      rw [hstep]
      exact Nat.le_refl _
    | drop =>
      have hstep : w.step .drop = w := by simp only [Watch.step, Watch.drop, hwaiter]
      rw [hstep]
      exact Nat.le_refl _

/-- A poll ends, whatever steps the other side takes in the course of it. -/
theorem Sound.ends (hsize : Admits size) (h : w.Sound) (hwaiter : w.waiter = .polled task phase)
    {actions : List Action} (hsteps : w.work ≤ actions.count .attend) :
    ∃ before after found, actions = before ++ after ∧
      (Watch.run before w).waiter.found? = some found ∧ (Watch.run before w).Tells found := by
  -- By induction on the actions.  Each step of the poll lowers the bound, and no other one raises
  -- it.
  induction actions generalizing w phase with
  | nil => exact absurd hsteps (Nat.not_le_of_lt (work_pos hwaiter))
  | cons a rest ih =>
    rcases h.step_of_polled hsize hwaiter a with ⟨phase', hwaiter', hwork⟩ | ⟨found, hover, htells⟩
    · rw [← List.singleton_append, List.count_append] at hsteps
      obtain ⟨before, after, found, hrest, hover⟩ := ih (h.step hsize a) hwaiter' (by omega)
      exact ⟨a :: before, after, found, by rw [hrest, List.cons_append], hover⟩
    · exact ⟨[a], rest, found, rfl, hover, htells⟩

/-! ### Polls and commits that are not interrupted -/

/-- Where a poll starts: a task that is resumed listens first. -/
def begun (task : Nat) (resumed : Bool) : Waiter :=
  .polled task (if resumed then .listening else .looking)

/-- How a poll ends. -/
def ended (task : Nat) (found : Bool) : Waiter := if found then .ready else .pending task

/-- Some steps of a poll lead from one state to a ring and a waiter, and nothing is counted
meanwhile. -/
def Proceeds (w : Watch size) (t : Traffic size) (waiter : Waiter) : Prop :=
  ∃ n, (run (List.replicate n .attend) w).traffic = t ∧
    (run (List.replicate n .attend) w).waiter = waiter ∧
    (run (List.replicate n .attend) w).commit = w.commit ∧
    (w.overrun = false → (run (List.replicate n .attend) w).overrun = false)

theorem Proceeds.refl (w : Watch size) : w.Proceeds w.traffic w.waiter := ⟨0, rfl, rfl, rfl, id⟩

theorem commit_attend (w : Watch size) :
    w.attend.commit = w.commit ∧ (w.overrun = false → w.attend.overrun = false) := by
  cases hwaiter : w.waiter with
  | absent | pending | ready =>
    simp only [Watch.attend, hwaiter, true_and]
    exact id
  | polled task phase =>
    have hattends := attends_attend hwaiter
    generalize w.attend = w' at hattends
    cases hattends with
    | finds | misses => exact ⟨rfl, fun _ => rfl⟩
    | hears | waits | leaves | rests => exact ⟨rfl, id⟩

theorem Proceeds.attend {t : Traffic size} {waiter : Waiter} (h : w.attend.Proceeds t waiter) :
    w.Proceeds t waiter := by
  obtain ⟨n, htraffic, hwaiter, hcommit, hcounted⟩ := h
  obtain ⟨hcommit', hcounted'⟩ := w.commit_attend
  exact ⟨n + 1, htraffic, hwaiter, hcommit.trans hcommit', hcounted ∘ hcounted'⟩

/-- A task that does not find a record at once comes to listen. -/
theorem Proceeds.listen {t : Traffic size} {waiter : Waiter} {resumed : Bool}
    (hwaiter : w.waiter = begun task resumed)
    (hgoes : ¬ (!resumed && !w.traffic.ring.isEmpty) = true)
    (h : ∀ w' : Watch size, w'.traffic = w.traffic → w'.waiter = .polled task .listening →
      w'.Proceeds t waiter) : w.Proceeds t waiter := by
  cases resumed with
  | true => exact h w rfl hwaiter
  | false =>
    have hempty : w.traffic.ring.isEmpty = true := by simpa using hgoes
    have hattends : Attends task w .looking w.attend := attends_attend hwaiter
    refine .attend ?_
    generalize w.attend = w' at hattends
    cases hattends with
    | finds hrecord =>
      rw [hempty] at hrecord
      cases hrecord
    | misses => exact h _ rfl rfl
    | hears hphase => rcases hphase with h | h <;> cases h

/-- The steps of a poll without any others in between are those of the ring. -/
theorem proceeds_poll {t : Traffic size} {resumed : Bool} (htraffic : w.traffic = t)
    (hwaiter : w.waiter = begun task resumed) :
    w.Proceeds { t with ring := (t.ring.poll task resumed).1 }
      (ended task (t.ring.poll task resumed).2) := by
  -- By the rounds of the operation, each of which is a row of steps.
  generalize hring : t.ring = r
  fun_induction Ring.poll task resumed r generalizing w t with
  | case1 resumed r hfinds =>
    subst hring htraffic
    obtain ⟨hnew, hrecord⟩ : resumed = false ∧ w.traffic.ring.isEmpty = false := by
      simpa using hfinds
    subst hnew
    refine .attend ?_
    simp only [begun, Bool.false_eq_true, if_false] at hwaiter
    simp only [Watch.attend, hwaiter, Ring.attend, hrecord, Bool.false_eq_true, if_false]
    exact .refl _
  | case2 resumed r hgoes bell htakes ih =>
    subst hring htraffic
    refine .listen hwaiter hgoes fun w' htraffic hwaiter' => .attend ?_
    refine ih (t := { w.traffic with ring.bell := bell }) ?_ ?_ rfl
    · simp only [Watch.attend, hwaiter', Ring.attend, htraffic, htakes]
    · simp only [Watch.attend, hwaiter', Ring.attend, htraffic, htakes]
      rfl
  | case3 resumed r hgoes hnone =>
    subst hring htraffic
    -- There is no signal either, before the task leaves its number and after that.
    refine .listen hwaiter hgoes fun w' htraffic hwaiter' => .attend (.attend (.attend ?_))
    have hsilent : w.traffic.ring.bell.pending = 0 := Doorbell.take?_eq_none_iff.mp hnone
    have hagain : (w.traffic.ring.bell.register task).take? = none :=
      Doorbell.take?_eq_none_iff.mpr hsilent
    simp only [Watch.attend, hwaiter', Ring.attend, htraffic, hnone, hagain]
    exact .refl _

/-- The steps of a commit. -/
def wholeCommit : List Action := [.side .commit, .signal, .wake]

/-- The steps of a commit without any others in between. -/
theorem run_commit (hdone : w.commit = .done) (hpublishes : w.traffic.publishes .commit = true) :
    (run wholeCommit w).traffic = w.traffic.commit ∧ (run wholeCommit w).waiter = w.waiter ∧
      (run wholeCommit w).commit = .done ∧
      (w.waiter.isPolled = false → (run wholeCommit w).overrun = w.overrun) := by
  have hallowed : ¬ ((w.waiter.isOutstanding = true ∧ Action.commit.IsConsumers) ∨
      (w.commit ≠ .done ∧ ¬ Action.commit.IsConsumers)) :=
    fun h => h.elim (fun h => h.2) fun h => h.1 hdone
  have hside : w.side .commit = { w with traffic := w.traffic.publish, commit := .published } := by
    rw [side, if_neg hallowed, hpublishes, Traffic.firstPart, if_pos rfl, if_pos rfl]
  have hrun : run wholeCommit w = (w.side .commit).signal.wake := rfl
  rw [hrun, hside]
  refine ⟨?_, rfl, rfl, fun hpolled => ?_⟩
  · cases hsender : w.traffic.sender with
    | detached | idle =>
      simp only [Traffic.publishes, hsender] at hpublishes
      cases hpublishes
    | writing p g draft =>
      rw [Traffic.commit_eq_publish hsender, Traffic.publish_eq_commit]
      rfl
  · show (w.overrun || (w.waiter.isPolled && _)) = _
    rw [hpolled, Bool.false_and, Bool.or_false]

/-! ### What a waiting task may rely on -/

/-- What a task that waits for a record may rely on at any time. -/
structure Attentive (w : Watch size) : Prop where
  /-- A poll that is over has found a record just if there is one at that moment. -/
  tells : ∀ task phase found, w.waiter = .polled task phase → w.attend.waiter.found? = some found →
    w.attend.Tells found
  /-- A poll is over after some steps of its own, more of them if there are more signals left over,
  whatever steps the producer takes in between. -/
  ends : ∀ task phase actions, w.waiter = .polled task phase →
    4 * w.traffic.ring.bell.pending.toNat + 11 ≤ actions.count .attend →
    ∃ before after found, actions = before ++ after ∧
      (run before w).waiter.found? = some found ∧ (run before w).Tells found
  /-- A poll that found no record has left the number of its task. -/
  leaves : ∀ task, w.waiter = .pending task → ∃ woken, w.registration = some ⟨task, woken⟩
  /-- The task that left its number last was woken since, once, or nobody was, and then the next
  commit that comes to its last step wakes it. -/
  calls : ∀ task woken, w.registration = some ⟨task, woken⟩ →
    w.traffic.ring.bell.woken = task :: woken ∨
      w.traffic.ring.bell.woken = woken ∧
        (w.commit = .signalled → (w.step .wake).traffic.ring.bell.woken = task :: woken)
  /-- Without steps in between a poll is one operation of the ring. -/
  poll_eq : ∀ task resumed, w.waiter = begun task resumed →
    w.Proceeds { w.traffic with ring := (w.traffic.ring.poll task resumed).1 }
      (ended task (w.traffic.ring.poll task resumed).2)
  /-- Such a poll finds a record just if there is one.  A task that is resumed has to rely on the
  signals, though. -/
  finds : ∀ task resumed, w.waiter = begun task resumed →
    (resumed = true → w.commit ≠ .published ∧ w.overrun = false) →
    (w.traffic.ring.poll task resumed).2 = !w.traffic.ring.isEmpty
  /-- Without steps in between a commit is one operation of the ring. -/
  commit_eq : w.commit = .done → w.traffic.publishes .commit = true →
    (run wholeCommit w).traffic = w.traffic.commit

theorem Sound.attentive (hsize : Admits size) (h : w.Sound) : w.Attentive where
  tells := fun _ _ _ hwaiter hover => h.tells_attend hwaiter hover
  ends := fun _ _ _ hwaiter hsteps => h.ends hsize hwaiter (Nat.le_trans (work_le hwaiter) hsteps)
  leaves := fun task hrests => h.registered task (by rw [hrests]; rfl)
  calls := by
    intro task woken hregistration
    have hstands := h.stands _ hregistration
    cases hstands with
    | called hwaiting hwoken => exact .inl hwoken
    | waits hwaiting hwoken =>
      refine .inr ⟨hwoken, fun hcommit => ?_⟩
      show w.wake.traffic.ring.bell.woken = _
      simp only [Watch.wake, hcommit]
      exact (h.stands _ hregistration).woken_wake
  poll_eq := fun _ _ hwaiter => proceeds_poll rfl hwaiter
  finds := by
    intro task resumed hwaiter hcounted
    refine poll_snd task resumed _ fun hresumed hnone => ?_
    obtain ⟨hcommit, hoverrun⟩ := hcounted hresumed
    refine h.empty_of_silent ?_ hnone hcommit hoverrun
    rw [hwaiter, hresumed]
    rfl
  commit_eq := fun hdone hpublishes => (run_commit hdone hpublishes).1

end Watch

/-! ### Whole operations -/

/-- A ring and a future that waits for a record, between whole operations. -/
structure Vigil (size : Nat) where
  traffic : Traffic size
  /-- The task of the last poll, if it found no record and its future was not dropped since. -/
  waiting : Option Nat
deriving DecidableEq, Repr

namespace Vigil

/-- A whole operation. -/
inductive Operation
  /-- One of the sides takes a step.  The consumer cannot while the future is outstanding. -/
  | side (a : Ring.Action)
  /-- A task polls the future, or a new one if there is none. -/
  | poll (task : Nat)
  /-- The future is dropped. -/
  | drop
deriving DecidableEq, Repr

/-- A new ring for which nobody waits. -/
def start (size : Nat) : Vigil size := ⟨.start size, none⟩

/-- There is a future to be polled, or a consumer that can make a new one. -/
def CanPoll (v : Vigil size) : Prop := v.waiting.isSome = true ∨ v.traffic.receiver = .idle

instance (v : Vigil size) : Decidable v.CanPoll := inferInstanceAs (Decidable (_ ∨ _))

def perform (v : Vigil size) : Operation → Vigil size
  | .side a =>
    if v.waiting.isSome = true ∧ a.IsConsumers then v
    else { v with traffic := v.traffic.step a }
  | .poll task =>
    if v.CanPoll then
      let (ring, found) := v.traffic.ring.poll task v.waiting.isSome
      ⟨{ v.traffic with ring }, if found then none else some task⟩
    else v
  | .drop => { v with waiting := none }

def operate (operations : List Operation) (v : Vigil size) : Vigil size :=
  operations.foldl perform v

variable {v : Vigil size} {w : Watch size} {task : Nat}

/-- Step by step the same state is reached, and no operation is half done. -/
structure Matches (v : Vigil size) (w : Watch size) : Prop where
  traffic_eq : w.traffic = v.traffic
  pending : ∀ task, v.waiting = some task → w.waiter = .pending task
  closed : v.waiting = none → w.waiter.isOutstanding = false
  commit_eq : w.commit = .done
  counted : w.overrun = false

namespace Matches

theorem isOutstanding_eq (h : v.Matches w) : w.waiter.isOutstanding = v.waiting.isSome := by
  cases hwaiting : v.waiting with
  | none => exact h.closed hwaiting
  | some task =>
    rw [h.pending task hwaiting]
    rfl

theorem isPolled_eq (h : v.Matches w) : w.waiter.isPolled = false := by
  cases hwaiting : v.waiting with
  | none =>
    have hover := h.closed hwaiting
    cases hwaiter : w.waiter with
    | absent | pending | ready => rfl
    | polled =>
      rw [hwaiter] at hover
      cases hover
  | some task =>
    rw [h.pending task hwaiting]
    rfl

theorem side (h : v.Matches w) (a : Ring.Action) :
    ∃ actions, (v.perform (.side a)).Matches (Watch.run actions w) := by
  by_cases hbusy : v.waiting.isSome = true ∧ a.IsConsumers
  · refine ⟨[], ?_⟩
    rw [perform, if_pos hbusy]
    exact h
  · rw [perform, if_neg hbusy]
    cases hpublishes : w.traffic.publishes a with
    | true =>
      -- Only a commit consists of more than one step.
      have ha : a = .commit := by
        cases a with
        | commit => rfl
        | _ => cases hpublishes
      subst ha
      obtain ⟨htraffic, hwaiter, hcommit, hcounted⟩ := Watch.run_commit h.commit_eq hpublishes
      refine ⟨Watch.wholeCommit, ?_, ?_, ?_, hcommit,
        (hcounted h.isPolled_eq).trans h.counted⟩
      · rw [htraffic, h.traffic_eq]
        rfl
      · rw [hwaiter]
        exact h.pending
      · rw [hwaiter]
        exact h.closed
    | false =>
      refine ⟨[.side a], ?_⟩
      show Matches _ (w.side a)
      have hallowed : ¬ ((w.waiter.isOutstanding = true ∧ a.IsConsumers) ∨
          (w.commit ≠ .done ∧ ¬ a.IsConsumers)) := by
        rw [h.isOutstanding_eq]
        exact fun hc => hc.elim hbusy fun hc => hc.1 h.commit_eq
      rw [Watch.side, if_neg hallowed, hpublishes]
      refine ⟨?_, h.pending, h.closed, h.commit_eq, h.counted⟩
      show w.traffic.firstPart a = v.traffic.step a
      rw [← h.traffic_eq, Traffic.firstPart_of_not_publishes hpublishes]

theorem poll (h : v.Matches w) (task : Nat) :
    ∃ actions, (v.perform (.poll task)).Matches (Watch.run actions w) := by
  by_cases hcan : v.CanPoll
  · have hbegun : (w.poll task).traffic = v.traffic ∧
        (w.poll task).waiter = Watch.begun task v.waiting.isSome ∧
        (w.poll task).commit = .done ∧ (w.poll task).overrun = false := by
      cases hwaiting : v.waiting with
      | some other =>
        simp only [Watch.poll, h.pending other hwaiting]
        exact ⟨h.traffic_eq, rfl, h.commit_eq, h.counted⟩
      | none =>
        have hover := h.closed hwaiting
        have hidle : w.traffic.receiver = .idle := by
          rw [h.traffic_eq]
          exact hcan.resolve_left (by rw [hwaiting]; exact Bool.noConfusion)
        cases hwaiter : w.waiter with
        | absent | ready =>
          simp only [Watch.poll, hwaiter, hidle, if_true]
          exact ⟨h.traffic_eq, rfl, h.commit_eq, h.counted⟩
        | polled | pending =>
          rw [hwaiter] at hover
          cases hover
    obtain ⟨htraffic, hwaiter, hcommit, hcounted⟩ := hbegun
    obtain ⟨n, htraffic', hwaiter', hcommit', hcounted'⟩ := Watch.proceeds_poll htraffic hwaiter
    refine ⟨.poll task :: List.replicate n .attend, ?_⟩
    rw [perform, if_pos hcan]
    refine ⟨htraffic', fun other hother => ?_, fun hnone => ?_, hcommit'.trans hcommit,
      hcounted' hcounted⟩
    · refine hwaiter'.trans ?_
      simp only at hother
      split at hother
      · cases hother
      · cases hother
        rename_i hfound
        rw [Watch.ended, if_neg hfound]
    · show (Watch.run _ (w.poll task)).waiter.isOutstanding = false
      rw [hwaiter']
      simp only at hnone
      split at hnone
      · rename_i hfound
        rw [Watch.ended, if_pos hfound]
        rfl
      · cases hnone
  · refine ⟨[], ?_⟩
    rw [perform, if_neg hcan]
    exact h

theorem drop (h : v.Matches w) : ∃ actions, (v.perform .drop).Matches (Watch.run actions w) := by
  refine ⟨[.drop], ?_⟩
  show Matches _ w.drop
  unfold Watch.drop
  split
  · rename_i hwaiter
    have hpolled := h.isPolled_eq
    rw [hwaiter] at hpolled
    cases hpolled
  all_goals exact ⟨h.traffic_eq, nofun, fun _ => rfl, h.commit_eq, h.counted⟩

theorem perform (h : v.Matches w) (o : Operation) :
    ∃ actions, (v.perform o).Matches (Watch.run actions w) := by
  cases o with
  | side a => exact h.side a
  | poll task => exact h.poll task
  | drop => exact h.drop

theorem operate (h : v.Matches w) (operations : List Operation) :
    ∃ actions, (v.operate operations).Matches (Watch.run actions w) := by
  induction operations generalizing v w with
  | nil => exact ⟨[], h⟩
  | cons o rest ih =>
    obtain ⟨first, hfirst⟩ := h.perform o
    obtain ⟨later, hlater⟩ := ih hfirst
    refine ⟨first ++ later, ?_⟩
    rw [Watch.run, List.foldl_append]
    exact hlater

end Matches

/-! ### Being called between whole operations -/

/-- The task is to be woken, and nobody was woken since `woken` were. -/
structure Awaits (task : Nat) (woken : List Nat) (v : Vigil size) : Prop where
  waiting_eq : v.traffic.ring.bell.waiting = some task
  woken_eq : v.traffic.ring.bell.woken = woken

namespace Awaits

variable {woken : List Nat} {operations : List Operation}

/-- Nobody but a commit or another poll changes that. -/
theorem perform (h : v.Awaits task woken) {o : Operation} (hcommit : o ≠ .side .commit)
    (hpoll : ∀ other, o ≠ .poll other) : (v.perform o).Awaits task woken := by
  cases o with
  | poll other => exact absurd rfl (hpoll other)
  | drop => exact ⟨h.waiting_eq, h.woken_eq⟩
  | side a =>
    by_cases hbusy : v.waiting.isSome = true ∧ a.IsConsumers
    · rw [Vigil.perform, if_pos hbusy]
      exact h
    · have ha : a ≠ .commit := fun ha => hcommit (by rw [ha])
      obtain ⟨hwaiting, hwoken⟩ := v.traffic.waiting_step ha
      rw [Vigil.perform, if_neg hbusy]
      exact ⟨hwaiting.trans h.waiting_eq, hwoken.trans h.woken_eq⟩

theorem operate (h : v.Awaits task woken)
    (hothers : ∀ o ∈ operations, o ≠ .side .commit ∧ ∀ other, o ≠ .poll other) :
    (v.operate operations).Awaits task woken := by
  induction operations generalizing v with
  | nil => exact h
  | cons o rest ih =>
    obtain ⟨hcommit, hpoll⟩ := hothers o List.mem_cons_self
    exact ih (h.perform hcommit hpoll) fun b hb => hothers b (List.mem_cons_of_mem o hb)

/-- A commit calls the task. -/
theorem commit (h : v.Awaits task woken) (hpublishes : v.traffic.publishes .commit = true) :
    (v.perform (.side .commit)).traffic.ring.bell.woken = task :: woken := by
  have hfree : ¬ (v.waiting.isSome = true ∧ Action.commit.IsConsumers) := fun hc => hc.2
  rw [Vigil.perform, if_neg hfree]
  show v.traffic.commit.ring.bell.woken = _
  cases hsender : v.traffic.sender with
  | detached | idle =>
    simp only [Traffic.publishes, hsender] at hpublishes
    cases hpublishes
  | writing p g draft =>
    rw [Traffic.commit_eq_publish hsender]
    show v.traffic.ring.bell.waiting.toList ++ v.traffic.ring.bell.woken = _
    rw [h.waiting_eq, h.woken_eq]
    rfl

/-- A poll that found no record has left the number of its task. -/
theorem poll (hcan : v.CanPoll)
    (hnone : (v.traffic.ring.poll task v.waiting.isSome).2 = false) :
    (v.perform (.poll task)).Awaits task v.traffic.ring.bell.woken := by
  have hbell := bell_poll hnone
  rw [Vigil.perform, if_pos hcan]
  constructor
  · show (v.traffic.ring.poll task _).1.bell.waiting = _
    rw [hbell]
  · show (v.traffic.ring.poll task _).1.bell.woken = _
    rw [hbell]

end Awaits

/-- Nobody was called since `woken` were, and the next commit calls the task. -/
structure Calls (task : Nat) (woken : List Nat) (v : Vigil size) : Prop where
  woken_eq : v.traffic.ring.bell.woken = woken
  commit : v.traffic.publishes .commit = true →
    (v.perform (.side .commit)).traffic.ring.bell.woken = task :: woken

/-- What a task that waits for a record may rely on if no operation is interrupted. -/
structure Prompt (v : Vigil size) : Prop where
  /-- A poll finds a record just if there is one. -/
  tells : ∀ task, v.CanPoll →
    (v.perform (.poll task)).waiting = if v.traffic.ring.isEmpty then some task else none
  /-- After a poll that found no record, the next commit calls its task, and nobody is called until
  then. -/
  calls : ∀ task, v.CanPoll → (v.perform (.poll task)).waiting = some task →
    ∀ rest, (∀ o ∈ rest, o ≠ .side .commit ∧ ∀ other, o ≠ .poll other) →
      ((v.perform (.poll task)).operate rest).Calls task v.traffic.ring.bell.woken

theorem Matches.prompt (h : v.Matches w) (hsound : w.Sound) : v.Prompt := by
  have hfound (task : Nat) :
      (v.traffic.ring.poll task v.waiting.isSome).2 = !v.traffic.ring.isEmpty := by
    refine poll_snd task _ _ fun hresumed hnone => ?_
    obtain ⟨other, hwaiting⟩ := Option.isSome_iff_exists.mp hresumed
    rw [← h.traffic_eq] at hnone ⊢
    refine hsound.empty_of_silent ?_ hnone ?_ h.counted
    · rw [h.pending other hwaiting]
      rfl
    · rw [h.commit_eq]
      exact nofun
  have hwaiting {task : Nat} (hcan : v.CanPoll) : (v.perform (.poll task)).waiting =
      if v.traffic.ring.isEmpty then some task else none := by
    rw [Vigil.perform, if_pos hcan]
    simp only [hfound task]
    cases v.traffic.ring.isEmpty <;> rfl
  refine ⟨fun task hcan => hwaiting hcan, fun task hcan hrests rest hrest => ?_⟩
  have hnone : (v.traffic.ring.poll task v.waiting.isSome).2 = false := by
    rw [hfound task]
    rw [hwaiting hcan] at hrests
    cases hempty : v.traffic.ring.isEmpty with
    | true => rfl
    | false =>
      rw [hempty] at hrests
      cases hrests
  have hawaits := (Awaits.poll hcan hnone).operate hrest
  exact ⟨hawaits.woken_eq, hawaits.commit⟩

end Vigil

namespace Watch

/-- Whatever is committed, popped and left over, and whenever somebody begins to wait for a record
or gives up: a poll that is not interrupted finds a record just if there is one, and otherwise the
next commit calls its task.  If the two sides go on amid a poll, it ends nevertheless, it misses a
record only while its signal is not counted or when the count ran over, and a commit that goes on
after the task left its number calls it. -/
theorem attentive_run (hsize : Admits size) :
    (∀ operations, ((Vigil.start size).operate operations).Prompt) ∧
      ∀ actions, (run actions (start size)).Attentive := by
  have hstart : (Vigil.start size).Matches (start size) := ⟨rfl, nofun, fun _ => rfl, rfl, rfl⟩
  have hsound (actions : List Action) := (Sound.start hsize).run hsize actions
  refine ⟨fun operations => ?_, fun actions => (hsound actions).attentive hsize⟩
  obtain ⟨actions, hmatches⟩ := hstart.operate operations
  exact hmatches.prompt (hsound actions)

/-- Two records were popped without their signals being taken, and a third one is to come. -/
def staleOperations : List Vigil.Operation :=
  [.attachProducer, .attachConsumer, .reserve 1, .commit, .pop, .release, .reserve 2, .commit,
    .pop, .release, .reserve 0].map .side

/-- A record is put into the ring after a task has looked, and its signal comes after the poll. -/
def halfDoneSteps : List Action :=
  [.side .attachProducer, .side .attachConsumer, .side (.reserve 1), .poll 7, .attend,
    .side .commit, .attend, .attend, .attend]

theorem attentive_run_halfDoneSteps :
    Admits 16 ∧
      (((Vigil.start 16).operate staleOperations).traffic.ring.bell.pending = 2 ∧
        ((Vigil.start 16).operate (staleOperations ++ [.poll 7])).waiting = some 7 ∧
        ((Vigil.start 16).operate (staleOperations ++ [.poll 7, .side .commit])).traffic.ring.bell
          = ⟨1, none, [7]⟩ ∧
        ((Vigil.start 16).operate staleOperations).Prompt) ∧
      (run halfDoneSteps (start 16)).waiter = .pending 7 ∧
      (run halfDoneSteps (start 16)).traffic.ring.isEmpty = false ∧
      (run (halfDoneSteps ++ [.signal, .wake]) (start 16)).traffic.ring.bell = ⟨1, none, [7]⟩ ∧
      (run halfDoneSteps (start 16)).Attentive :=
  have hadmits : Admits 16 := ⟨by decide, by decide⟩
  have hattentive := attentive_run hadmits
  ⟨hadmits,
    ⟨by decide, by decide +kernel, by decide +kernel, hattentive.1 staleOperations⟩,
    by decide, by decide, by decide, hattentive.2 halfDoneSteps⟩

-- With the greatest count of signals left over, a commit amid a poll takes the count to none, and
-- its task was not there yet to be woken.
example :
    let listening : Watch 16 := run [.side .attachProducer, .side .attachConsumer,
      .side (.reserve 1), .poll 7, .attend] (start 16)
    let w := run (wholeCommit ++ [.attend, .attend, .attend])
      { listening with traffic.ring.bell.pending := 0xffffffff }
    w.waiter = .pending 7 ∧ w.traffic.ring.isEmpty = false ∧ w.traffic.ring.bell.woken = [] ∧
      w.overrun = true := by decide

end Watch

end WlanControl.Ring
