import WlanControl.Proofs.TableSearch
import WlanControl.Shared.Region

namespace WlanControl

/-!
# The lives of the shared memory

The shared memory is allocated once.  It begins a new life whenever it is published again, and what
the one before has left behind is reset.  A reset is refused while somebody is attached to a ring or
uses the roster.  The rings are emptied first, and that has no effect on a reset later on.

* `Ring.emptied` — a ring without its records;
* `SharedState.Unblocked` — nobody is in the way of a reset;
* `SharedState.Emptied` — all that a reset does that is refused;
* `SharedState.Yield` — somebody lets go of a part of the memory;
* `SharedState.AsNew` — a state as it was in the beginning, but for the versions of commands;
* `SharedState.StartsOver` — what becomes of a reset, and of another one later on;
* `Region.Lives` — the region, with all that was published and withdrawn so far;
* `Region.Lives.Sound` — the invariant of its runs.

Main statement: `Region.starts_over`, for all states and all runs.
-/

/-! ### Rings -/

namespace Ring

variable {size : Nat} {r : Ring size}

/-- Nobody is attached to the ring. -/
def isDetached (r : Ring size) : Bool := !(r.producerAttached || r.consumerAttached)

/-- The ring without its records, its signals and what was counted. -/
def emptied (r : Ring size) : Ring size :=
  { r with writeOffset := 0, readOffset := 0, counters := .zero, bell := r.bell.reset }

theorem reset_of_detached (h : r.isDetached = true) : r.reset = (r.emptied, .ok ()) := by
  rw [isDetached, Bool.not_eq_true'] at h
  rw [reset, h, if_neg Bool.false_ne_true]
  rfl

theorem reset_of_attached (h : r.isDetached = false) : r.reset = (r, .error .inUse) := by
  rw [isDetached, Bool.not_eq_false'] at h
  rw [reset, h, if_pos rfl]

/-- Emptying a ring once more does nothing. -/
theorem reset_emptied (h : r.isDetached = true) : r.emptied.reset = (r.emptied, .ok ()) :=
  reset_of_detached (r := r.emptied) h

theorem isDetached_detachProducer (h : r.isDetached = true) :
    r.detachProducer.isDetached = true := by
  simp only [isDetached, Bool.not_eq_true', Bool.or_eq_false_iff] at h
  simp [isDetached, detachProducer, h.2]

theorem isDetached_detachConsumer (h : r.isDetached = true) :
    r.detachConsumer.isDetached = true := by
  simp only [isDetached, Bool.not_eq_true', Bool.or_eq_false_iff] at h
  simp [isDetached, detachConsumer, h.1]

end Ring

namespace SharedState

variable {s s' : SharedState}

/-! ### Resets that are refused -/

/-- Nobody is in the way of a reset. -/
structure Unblocked (s : SharedState) : Prop where
  rx : s.rx.isDetached = true
  tx : s.tx.isDetached = true
  roster : s.sessions.roster.isHeld = false

/-- At most the rings were emptied, one after the other, to which nobody is attached. -/
inductive Emptied (s : SharedState) : SharedState → Prop
  | neither : Emptied s s
  | rx (hrx : s.rx.isDetached = true) : Emptied s { s with rx := s.rx.emptied }
  | both (hrx : s.rx.isDetached = true) (htx : s.tx.isDetached = true) :
    Emptied s { s with rx := s.rx.emptied, tx := s.tx.emptied }

theorem reset_of_unblocked (h : s.Unblocked) :
    s.reset =
      ({ s with
          rx := s.rx.emptied
          tx := s.tx.emptied
          commands := s.commands.clear
          status := { Status.initial with acknowledged := s.commands.version }
          statistics := .zero
          accessPoints := s.accessPoints.clear
          sessions := .empty
          kicks := 0
          kickUnassociated := false },
        .ok ()) := by
  obtain ⟨commands, status, statistics, accessPoints, ⟨⟨holder, roster⟩, accepting⟩, rx, tx,
    address, kicks, kickUnassociated⟩ := s
  have hholder : holder = none := by simpa [Sync.Lock.isHeld] using h.roster
  subst hholder
  unfold reset
  simp only [Ring.reset_of_detached h.rx, Ring.reset_of_detached h.tx]
  rfl

theorem reset_of_blocked (h : ¬ s.Unblocked) :
    s.reset.2 = .error .busy ∧ Emptied s s.reset.1 := by
  unfold reset
  cases hrx : s.rx.isDetached with
  | false =>
    simp only [Ring.reset_of_attached hrx]
    exact ⟨trivial, .neither⟩
  | true =>
    simp only [Ring.reset_of_detached hrx]
    cases htx : s.tx.isDetached with
    | false =>
      simp only [Ring.reset_of_attached htx]
      exact ⟨trivial, .rx hrx⟩
    | true =>
      simp only [Ring.reset_of_detached htx]
      -- What is left to be in the way is the roster.
      have hheld : s.sessions.roster.isHeld = true := by
        by_contra hfree
        exact h ⟨hrx, htx, by simpa using hfree⟩
      simp only [Session.Table.reset, Session.Table.update_of_isHeld _ hheld]
      exact ⟨trivial, .both hrx htx⟩

/-- Rings that were emptied make no difference to a reset. -/
theorem Emptied.reset_eq (h : Emptied s s') : s'.reset = s.reset := by
  cases h with
  | neither => rfl
  | rx hrx =>
    unfold reset
    simp only [Ring.reset_of_detached hrx, Ring.reset_emptied hrx]
  | both hrx htx =>
    unfold reset
    simp only [Ring.reset_of_detached hrx, Ring.reset_emptied hrx, Ring.reset_of_detached htx,
      Ring.reset_emptied htx]

/-! ### Another reset -/

/-- A part of the memory that somebody may have in hands. -/
inductive Part
  | rxProducer
  | rxConsumer
  | txProducer
  | txConsumer
  | roster
  | mailbox
  | accessPoint (slot : Nat)

/-- The memory after somebody has let go of a part. -/
def letGo (s : SharedState) : Part → SharedState
  | .rxProducer => { s with rx := s.rx.detachProducer }
  | .rxConsumer => { s with rx := s.rx.detachConsumer }
  | .txProducer => { s with tx := s.tx.detachProducer }
  | .txConsumer => { s with tx := s.tx.detachConsumer }
  | .roster => { s with sessions := s.sessions.release }
  | .mailbox => { s with commands := s.commands.release }
  | .accessPoint slot => { s with accessPoints := s.accessPoints.release slot }

theorem Emptied.of_letGo (h : Emptied s s') (part : Part) :
    Emptied (s.letGo part) (s'.letGo part) := by
  cases h with
  | neither => exact .neither
  | rx hrx =>
    cases part with
    | rxProducer => exact .rx (Ring.isDetached_detachProducer hrx)
    | rxConsumer => exact .rx (Ring.isDetached_detachConsumer hrx)
    | txProducer | txConsumer | roster | mailbox | accessPoint => exact .rx hrx
  | both hrx htx =>
    cases part with
    | rxProducer => exact .both (Ring.isDetached_detachProducer hrx) htx
    | rxConsumer => exact .both (Ring.isDetached_detachConsumer hrx) htx
    | txProducer => exact .both hrx (Ring.isDetached_detachProducer htx)
    | txConsumer => exact .both hrx (Ring.isDetached_detachConsumer htx)
    | roster | mailbox | accessPoint => exact .both hrx htx

theorem Emptied.of_foldl (h : Emptied s s') (parts : List Part) :
    Emptied (parts.foldl letGo s) (parts.foldl letGo s') := by
  induction parts generalizing s s' with
  | nil => exact h
  | cons part rest ih => exact ih (h.of_letGo part)

/-! ### Resets that are done -/

/-- The memory is as in the beginning.  What stays are the versions of commands, the last of which
counts as acted upon, the octets in the rings, to which no record belongs, and who waits for one. -/
structure AsNew (s s' : SharedState) : Prop where
  version_eq : s'.commands.version = s.commands.version
  pending_eq : s'.commands.slot.value = fresh.commands.slot.value
  status_eq : s'.status = { fresh.status with acknowledged := s'.commands.version }
  statistics_eq : s'.statistics = fresh.statistics
  entries_eq : s'.accessPoints.entries = fresh.accessPoints.entries
  /-- An entry that could not be freed is not reported later on either, whoever uses its slot. -/
  reported : ∀ slot ∈ s'.accessPoints.slots, slot.reported? = none
  sessions_eq : s'.sessions = fresh.sessions
  kicks_eq : s'.kicks = fresh.kicks
  kickUnassociated_eq : s'.kickUnassociated = fresh.kickUnassociated
  rx_eq : s'.rx = { fresh.rx with storage := s.rx.storage, bell := s.rx.bell.reset }
  tx_eq : s'.tx = { fresh.tx with storage := s.tx.storage, bell := s.tx.bell.reset }

/-- An entry that could not be freed is not reported. -/
theorem reported?_clear (slot : Discovery.Slot) : slot.clear.reported? = none := by
  unfold Discovery.Slot.clear Discovery.Slot.reported?
  split <;> rfl

/-- Without anything to report there are no entries for anybody. -/
theorem entries_of_unreported {t : Discovery.Table}
    (h : ∀ slot ∈ t.slots, slot.reported? = none) : t.entries = [] := by
  rw [List.eq_nil_iff_forall_not_mem]
  rintro ⟨i, r⟩ hmem
  obtain ⟨slot, hslot, -, hreports⟩ :=
    Discovery.Table.get_eq_ok_iff_reports.mp (Discovery.Table.mem_entries_iff.mp hmem)
  have hnone := h slot (List.mem_of_getElem? hslot)
  rw [Discovery.Slot.reported?_eq_some_iff.mpr hreports] at hnone
  cases hnone

theorem asNew_of_unblocked (h : s.Unblocked) (hfree : s.commands.slot.isHeld = false) :
    AsNew s s.reset.1 := by
  have hreported : ∀ slot ∈ s.accessPoints.clear.slots, slot.reported? = none := by
    intro slot hslot
    obtain ⟨old, -, rfl⟩ := List.mem_map.mp hslot
    exact reported?_clear old
  have hfresh : fresh.accessPoints.entries = [] := by
    apply entries_of_unreported
    intro slot hslot
    rw [List.eq_of_mem_replicate hslot]
    rfl
  have hattached {size : Nat} {r : Ring size} (hr : r.isDetached = true) :
      r.emptied = { Ring.empty size with storage := r.storage, bell := r.bell.reset } := by
    simp only [Ring.isDetached, Bool.not_eq_true', Bool.or_eq_false_iff] at hr
    simp only [Ring.emptied, Ring.empty, hr.1, hr.2]
  rw [reset_of_unblocked h]
  refine ⟨rfl, ?_, rfl, rfl, ?_, hreported, rfl, rfl, rfl, hattached h.rx, hattached h.tx⟩
  · show s.commands.clear.slot.value = none
    simp [Mailbox.clear, Sync.Lock.tryWith, hfree]
  · rw [hfresh]
    exact entries_of_unreported hreported

/-- What becomes of a reset, and of another one after somebody has let go of some parts. -/
structure StartsOver (s : SharedState) : Prop where
  done_iff : s.reset.2 = .ok () ↔ s.Unblocked
  done : s.reset.2 = .ok () → AsNew s s.reset.1
  /-- Nothing has changed but that some rings may have been emptied. -/
  refused : s.reset.2 ≠ .ok () → s.reset.2 = .error .busy ∧ Emptied s s.reset.1
  /-- A later reset gives what it would have given without the one that was refused. -/
  retried : s.reset.2 ≠ .ok () → ∀ parts : List Part,
    (parts.foldl letGo s.reset.1).reset = (parts.foldl letGo s).reset

theorem startsOver_of_free (hfree : s.commands.slot.isHeld = false) : s.StartsOver := by
  have hdone : s.reset.2 = .ok () ↔ s.Unblocked := by
    constructor
    · intro hok
      by_contra hblocked
      rw [(reset_of_blocked hblocked).1] at hok
      cases hok
    · intro hunblocked
      rw [reset_of_unblocked hunblocked]
  refine ⟨hdone, fun hok => asNew_of_unblocked (hdone.mp hok) hfree, fun hrefused => ?_,
    fun hrefused parts => ?_⟩
  · exact reset_of_blocked (mt hdone.mpr hrefused)
  · have hemptied := (reset_of_blocked (mt hdone.mpr hrefused)).2
    exact (hemptied.of_foldl parts).reset_eq

end SharedState

namespace Region

/-! ### Publishing and withdrawing -/

/-- The memory was published or withdrawn. -/
inductive Turn
  | published
  | withdrawn
deriving DecidableEq

/-- The region, with all that happened to it so far. -/
structure Lives where
  region : Region
  /-- What the calls have done that succeeded, earliest first. -/
  turns : List Turn
  /-- How often memory was allocated. -/
  allocations : Nat

namespace Lives

/-- Nothing has happened yet. -/
def start : Lives := ⟨.empty, [], 0⟩

/-- What happens to a region. -/
inductive Action
  | init
  | attach
  | deinit
  /-- Somebody works on the memory, be it published or not. -/
  | use (act : SharedState → SharedState)

/-- A call to initialize the memory. -/
def init (l : Lives) : Lives where
  region := l.region.init.1
  turns := l.turns ++ if l.region.init.2 = .ok () then [.published] else []
  allocations :=
    if !l.region.published && l.region.memory.isNone then l.allocations + 1 else l.allocations

/-- The region after one more action. -/
def step (l : Lives) : Action → Lives
  | .init => l.init
  | .attach => l
  | .deinit => { l with region := l.region.deinit, turns := l.turns ++ [.withdrawn] }
  | .use act => { l with region.memory := l.region.memory.map act }

/-- The region after some actions. -/
def run (actions : List Action) (l : Lives) : Lives := actions.foldl step l

/-- A call to initialize the memory is refused while it is published, or its reset decides. -/
theorem init_cases (r : Region) :
    (r.published = true ∧ r.init = (r, .error .invalidState)) ∨
      r.published = false ∧
        ((r.init = (⟨some (r.memory.getD .fresh).reset.1, true⟩, .ok ())) ∨
          ∃ e, r.init = ({ r with memory := some (r.memory.getD .fresh).reset.1 }, .error e)) := by
  unfold Region.init
  cases hpublished : r.published with
  | true => exact .inl ⟨rfl, rfl⟩
  | false =>
    right
    refine ⟨rfl, ?_⟩
    cases hresult : (r.memory.getD .fresh).reset.2 with
    | ok => exact .inl (by simp [hresult])
    | error e => exact .inr ⟨e, by simp [hresult]⟩

/-- The memory is allocated once, and published if that was done last. -/
structure Sound (l : Lives) : Prop where
  published_iff : l.region.published = true ↔ l.turns.getLast? = some .published
  memory_of_published : l.region.published = true → l.region.memory.isSome = true
  allocations_eq : l.allocations = if l.region.memory.isSome then 1 else 0

theorem sound_start : start.Sound where
  published_iff := by simp [start, Region.empty]
  memory_of_published h := by cases h
  allocations_eq := rfl

namespace Sound

variable {l : Lives}

/-- Memory is allocated by the first call, also if its reset is refused. -/
theorem init (h : l.Sound) : l.init.Sound := by
  have hallocations := h.allocations_eq
  rcases init_cases l.region with ⟨hpublished, hinit⟩ | ⟨hwithdrawn, hinit | ⟨e, hinit⟩⟩
  · refine ⟨?_, ?_, ?_⟩
    · simpa [Lives.init, hinit] using h.published_iff
    · simpa [Lives.init, hinit] using h.memory_of_published
    · simpa [Lives.init, hinit, hpublished] using hallocations
  · refine ⟨?_, ?_, ?_⟩
    · simp [Lives.init, hinit]
    · simp [Lives.init, hinit]
    · cases hmemory : l.region.memory <;>
        simp [Lives.init, hinit, hwithdrawn, hmemory, hallocations]
  · refine ⟨?_, ?_, ?_⟩
    · simpa [Lives.init, hinit] using h.published_iff
    · simp [Lives.init, hinit]
    · cases hmemory : l.region.memory <;>
        simp [Lives.init, hinit, hwithdrawn, hmemory, hallocations]

theorem step (h : l.Sound) (action : Action) : (l.step action).Sound := by
  cases action with
  | init => exact h.init
  | attach => exact h
  | deinit =>
    refine ⟨?_, fun hpublished => ?_, h.allocations_eq⟩
    · simp [Lives.step, deinit]
    · cases hpublished
  | use act =>
    refine ⟨h.published_iff, fun hpublished => ?_, ?_⟩
    · show (l.region.memory.map act).isSome = true
      rw [Option.isSome_map]
      exact h.memory_of_published hpublished
    · show l.allocations = if (l.region.memory.map act).isSome then 1 else 0
      rw [Option.isSome_map]
      exact h.allocations_eq

theorem run (h : l.Sound) (actions : List Action) : (l.run actions).Sound := by
  induction actions generalizing l with
  | nil => exact h
  | cons action rest ih => exact ih (h.step action)

end Sound

/-- What those get who attach themselves, and what a call to initialize the memory does. -/
structure Settled (l : Lives) : Prop where
  /-- There is something to attach to if the last call that has succeeded was one to publish it. -/
  attach_iff : l.region.attach?.isSome = true ↔ l.turns.getLast? = some .published
  attach_memory : ∀ s, l.region.attach? = some s → l.region.memory = some s
  /-- Memory is never allocated again, and what there is is kept or reset. -/
  allocations_le : l.allocations ≤ 1
  memory_init : ∀ s, l.region.memory = some s →
    l.region.init.1.memory = some s ∨ l.region.init.1.memory = some s.reset.1
  /-- A call that fails does not change what is published. -/
  attach_of_failed : l.region.init.2 ≠ .ok () → l.region.init.1.attach? = l.region.attach?

theorem Sound.settled {l : Lives} (h : l.Sound) : l.Settled where
  attach_iff := by
    rw [← h.published_iff]
    unfold attach?
    constructor
    · intro hattached
      by_contra hwithdrawn
      rw [if_neg hwithdrawn] at hattached
      cases hattached
    · intro hpublished
      rw [if_pos hpublished]
      exact h.memory_of_published hpublished
  attach_memory s hattached := by
    unfold attach? at hattached
    split at hattached
    · exact hattached
    · cases hattached
  allocations_le := by
    rw [h.allocations_eq]
    split <;> omega
  memory_init s hmemory := by
    rcases init_cases l.region with ⟨-, hinit⟩ | ⟨-, hinit | ⟨e, hinit⟩⟩
    · rw [hinit]
      exact .inl hmemory
    · rw [hinit, hmemory]
      exact .inr rfl
    · rw [hinit, hmemory]
      exact .inr rfl
  attach_of_failed hfailed := by
    rcases init_cases l.region with ⟨-, hinit⟩ | ⟨hwithdrawn, hinit | ⟨e, hinit⟩⟩
    · rw [hinit]
    · rw [hinit] at hfailed
      exact absurd rfl hfailed
    · rw [hinit]
      simp [attach?, hwithdrawn]

end Lives

/-- Unless somebody uses the mailbox, a reset brings everything back to the beginning, or it is
refused and has no effect but on the rings.  Memory is allocated once, and there to attach to
between the call that publishes it and the one that withdraws it. -/
theorem starts_over :
    (∀ s : SharedState, s.commands.slot.isHeld = false → s.StartsOver) ∧
      ∀ actions : List Lives.Action, (Lives.start.run actions).Settled :=
  ⟨fun _ hfree => SharedState.startsOver_of_free hfree,
    fun actions => (Lives.sound_start.run actions).settled⟩

/-- Memory that was left in use: a command waits, a peer has joined, there are requests to remove
peers, somebody listens to the ring, and somebody reads the roster. -/
def leftInUse : SharedState where
  commands := (SharedState.fresh.commands.post .scan).1
  status := { Status.initial with mode := .accessPoint, channel := 6, retries := 3 }
  statistics := Statistics.zero.countReceived 20
  accessPoints := .empty
  sessions :=
    let joined := ((Session.Table.empty.setAccepting true).authenticate ⟨2, 0, 0, 0, 0, 7⟩).1
    (joined.hold? .host).getD joined
  rx := (Ring.empty ringSize).attachConsumer.1
  tx := ((Ring.empty ringSize).push [1, 2, 3] ⟨0⟩).1
  address := .zero
  kicks := 2
  kickUnassociated := true

theorem starts_over_leftInUse :
    leftInUse.reset.2 = .error .busy ∧
      ([.rxConsumer, .roster].foldl SharedState.letGo leftInUse).reset.2 = .ok () ∧
      leftInUse.StartsOver ∧
      let lives := Lives.start.run [.init, .use fun _ => leftInUse, .deinit, .init]
      lives.turns = [.published, .withdrawn] ∧ lives.Settled :=
  ⟨rfl, rfl, starts_over.1 leftInUse rfl, rfl, starts_over.2 _⟩

end Region

end WlanControl
