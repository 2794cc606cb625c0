import WlanControl.Proofs.RingAccounts
import WlanControl.Proofs.RingContents

namespace WlanControl.Ring

open Sync (Doorbell)

/-!
# Rings — a poll amid the steps of the producer

A task that waits for a record looks at the ring, and as long as it is empty it listens for a signal
of the doorbell.  There may be more signals than records, since a record can be popped without its
signal being taken.  If there is no signal either, the task leaves its number and listens once more,
so that a record which is committed in between does not go unnoticed.

The producer goes on in the meantime.  A commit takes three steps of its own: the record is put into
the ring, its signal is counted, and the waiting task is woken.  The signals are counted in a word
that wraps, so that the count may run over.

* `Phase`, `Ring.attend` — the steps of one poll;
* `Traffic.firstPart`, `Commit` — the steps of the producer, with a commit in parts;
* `Watch` — a ring at work together with a future that waits for a record;
* `Watch.Attends` — all that one step of a poll may do;
* `Registration.Stands` — a task that left its number is the next one to be woken, or it was woken
  since, once.

Main statement: `Watch.Sound.run`, while a task listens there are no fewer signals than records, the
one that a commit still owes among them, unless the count ran over in the course of its poll.
-/

variable {size : Nat}

/-! ### The steps of a poll -/

/-- What a task does next in the course of a poll. -/
inductive Phase
  /-- Looks whether the ring is empty. -/
  | looking
  | listening
  /-- Leaves its number. -/
  | leaving
  | listeningAgain
deriving DecidableEq, Repr

/-- A future that waits for a record. -/
inductive Waiter
  /-- There is none. -/
  | absent
  | polled (task : Nat) (phase : Phase)
  /-- The last poll found no record, and it left the number of its task. -/
  | pending (task : Nat)
  /-- The last poll found a record, so the future is over. -/
  | ready
deriving DecidableEq, Repr

namespace Waiter

def isPolled : Waiter → Bool
  | .polled _ _ => true
  | .absent | .pending _ | .ready => false

/-- The future is not over yet, so it borrows the consumer. -/
def isOutstanding : Waiter → Bool
  | .polled _ _ | .pending _ => true
  | .absent | .ready => false

/-- What the last poll has found, if it is over. -/
def found? : Waiter → Option Bool
  | .pending _ => some false
  | .ready => some true
  | .absent | .polled _ _ => none

/-- The task looks for a signal next, or it will when it is polled again. -/
def listens : Waiter → Bool
  | .polled _ .listening | .polled _ .leaving | .polled _ .listeningAgain | .pending _ => true
  | .polled _ .looking | .absent | .ready => false

/-- The task that has left its number since it looked last. -/
def left? : Waiter → Option Nat
  | .polled task .listeningAgain | .pending task => some task
  | .polled _ .looking | .polled _ .listening | .polled _ .leaving | .absent | .ready => none

end Waiter

/-- One step of a poll on behalf of a task. -/
def attend (task : Nat) (phase : Phase) (r : Ring size) : Ring size × Waiter :=
  match phase with
  | .looking => (r, if r.isEmpty then .polled task .listening else .ready)
  | .listening =>
    match r.bell.take? with
    | some bell => ({ r with bell }, .polled task .looking)
    | none => (r, .polled task .leaving)
  | .leaving => ({ r with bell := r.bell.register task }, .polled task .listeningAgain)
  | .listeningAgain =>
    match r.bell.take? with
    | some bell => ({ r with bell }, .polled task .looking)
    | none => (r, .pending task)

/-! ### The steps of the producer -/

instance (a : Action) : Decidable a.IsConsumers :=
  match a with
  | .attachConsumer | .detachConsumer | .pop | .release => isTrue trivial
  | .attachProducer | .detachProducer | .reserve _ | .fill _ | .commit | .abandon | .drop _
  | .reset => isFalse id

/-- How far a commit got. -/
inductive Commit
  /-- No commit is half done. -/
  | done
  /-- The record is in the ring, and its signal is not counted yet. -/
  | published
  /-- The signal is counted, and the waiting task is not woken yet. -/
  | signalled
deriving DecidableEq, Repr

/-- The signals that are still to be counted. -/
def Commit.due : Commit → Nat
  | .published => 1
  | .done | .signalled => 0

namespace Traffic

/-- The part of a commit before its signal. -/
def publish (t : Traffic size) : Traffic size :=
  match t.sender with
  | .writing p g draft =>
    let (ring, p') := t.ring.publish g p
    { t with
      ring
      sender := .idle p'
      committed := t.committed ++ [⟨g.offset, p.sequence, draft⟩] }
  | .detached | .idle _ => t

/-- The first part of a step, which is all of it unless it is a commit. -/
def firstPart (a : Action) (t : Traffic size) : Traffic size :=
  if a = .commit then t.publish else t.step a

/-- The step puts a record into the ring. -/
def publishes (a : Action) (t : Traffic size) : Bool :=
  match a, t.sender with
  | .commit, .writing _ _ _ => true
  | _, _ => false

end Traffic

/-! ### Both at work -/

/-- A task that left its number, and those who were woken before it did. -/
structure Registration where
  task : Nat
  woken : List Nat
deriving DecidableEq, Repr

/-- A ring at work and a future that waits for a record. -/
structure Watch (size : Nat) where
  traffic : Traffic size
  waiter : Waiter
  commit : Commit
  /-- The count of the signals ran over in the course of a poll, and no task has looked at the ring
  since. -/
  overrun : Bool
  /-- The task that left its number last. -/
  registration : Option Registration
deriving DecidableEq, Repr

namespace Watch

/-- What happens to a ring and a future. -/
inductive Action
  /-- One of the sides takes a step, or the first part of it if it is a commit.  The consumer cannot
  while the future is outstanding, nor the producer while a commit is half done. -/
  | side (a : Ring.Action)
  /-- A commit counts its signal. -/
  | signal
  /-- A commit wakes the waiting task, which is the last part of it. -/
  | wake
  /-- A task begins to poll the future, or a new one if there is none. -/
  | poll (task : Nat)
  /-- The poll goes on by a step. -/
  | attend
  /-- The future is dropped, unless it is being polled. -/
  | drop
deriving DecidableEq, Repr

/-- A new ring for which nobody waits. -/
def start (size : Nat) : Watch size := ⟨.start size, .absent, .done, false, none⟩

def side (a : Ring.Action) (w : Watch size) : Watch size :=
  if (w.waiter.isOutstanding = true ∧ a.IsConsumers) ∨ (w.commit ≠ .done ∧ ¬ a.IsConsumers) then w
  else { w with
    traffic := w.traffic.firstPart a
    commit := if w.traffic.publishes a then .published else w.commit }

def signal (w : Watch size) : Watch size :=
  match w.commit with
  | .published =>
    let bell := w.traffic.ring.bell.signal
    { w with
      traffic.ring.bell := bell
      commit := .signalled
      overrun := w.overrun || (w.waiter.isPolled && bell.pending == 0) }
  | .done | .signalled => w

def wake (w : Watch size) : Watch size :=
  match w.commit with
  | .signalled => { w with traffic.ring.bell := w.traffic.ring.bell.wake, commit := .done }
  | .done | .published => w

def poll (task : Nat) (w : Watch size) : Watch size :=
  match w.waiter with
  | .polled _ _ => w
  | .pending _ => { w with waiter := .polled task .listening }
  | .absent | .ready =>
    if w.traffic.receiver = .idle then { w with waiter := .polled task .looking } else w

def attend (w : Watch size) : Watch size :=
  match w.waiter with
  | .polled task phase =>
    let (ring, waiter) := w.traffic.ring.attend task phase
    { w with
      traffic := { w.traffic with ring }
      waiter
      overrun := if phase = .looking then false else w.overrun
      registration :=
        if phase = .leaving then some ⟨task, w.traffic.ring.bell.woken⟩ else w.registration }
  | .absent | .pending _ | .ready => w

def drop (w : Watch size) : Watch size :=
  match w.waiter with
  | .polled _ _ => w
  | .absent | .pending _ | .ready => { w with waiter := .absent }

def step (w : Watch size) : Action → Watch size
  | .side a => w.side a
  | .signal => w.signal
  | .wake => w.wake
  | .poll task => w.poll task
  | .attend => w.attend
  | .drop => w.drop

def run (actions : List Action) (w : Watch size) : Watch size := actions.foldl step w

end Watch

/-! ### The sides in the course of a poll -/

namespace Traffic

variable {t : Traffic size} {a : Action}

theorem Sound.isEmpty_iff (h : t.Sound) : t.ring.isEmpty = true ↔ t.pending = [] :=
  beq_iff_eq.trans h.layout.used_eq_zero_iff

/-- There are far fewer records in a ring than signals can be counted. -/
theorem Sound.length_pending_lt (hsize : Admits size) (h : t.Sound) : t.pending.length < 65535 := by
  have hholds : t.ring.Holds (t.pending.map Entry.payload) := ⟨_, h.layout, rfl⟩
  have hlength := hholds.length_lt
  rw [List.length_map] at hlength
  exact Nat.lt_of_lt_of_le hlength hsize.2

/-- Signals and tasks do not matter for the records. -/
theorem Sound.withBell (h : t.Sound) (bell : Doorbell) : Sound { t with ring.bell := bell } where
  layout := h.layout
  sender := h.sender
  receiver := h.receiver
  released_le := h.released_le
  popped_eq := h.popped_eq
  producer_attached := h.producer_attached
  consumer_attached := h.consumer_attached

/-- A commit is its first part and then the signal. -/
theorem commit_eq_publish {p : Producer} {g : Reservation} {draft : List UInt8}
    (hsender : t.sender = .writing p g draft) :
    t.commit = { t.publish with ring.bell := t.ring.bell.ring } := by
  unfold commit publish
  rw [hsender]
  rfl

/-- Without its signal, the first part of a commit does what the whole does. -/
theorem publish_eq_commit (t : Traffic size) :
    t.publish = { t.commit with ring.bell := t.ring.bell } := by
  unfold commit publish
  cases t.sender <;> rfl

/-- Unless it puts a record into the ring, a step has no second part. -/
theorem firstPart_of_not_publishes (ha : t.publishes a = false) : t.firstPart a = t.step a := by
  unfold firstPart
  split
  · rename_i hcommit
    subst hcommit
    show t.publish = t.commit
    unfold publish commit
    cases hsender : t.sender with
    | detached | idle => rfl
    | writing p g draft =>
      simp only [publishes, hsender] at ha
      cases ha
  · rfl

theorem Sound.firstPart (hsize : Admits size) (h : t.Sound) (a : Action) :
    (t.firstPart a).Sound := by
  unfold Traffic.firstPart
  split
  · rw [publish_eq_commit]
    exact (h.commit hsize).withBell _
  · exact h.step hsize a

/-- What the consumer can tell of a ring is the same in two states. -/
structure SameConsumer (t t' : Traffic size) : Prop where
  receiver_eq : t'.receiver = t.receiver
  pending_eq : t'.pending = t.pending
  bell_eq : t'.ring.bell = t.ring.bell

theorem SameConsumer.refl (t : Traffic size) : t.SameConsumer t := ⟨rfl, rfl, rfl⟩

/-- The consumer does not notice a producer until it commits a record. -/
theorem sameConsumer_step (t : Traffic size) (ha : ¬ a.IsConsumers) (hcommit : a ≠ .commit)
    (hreset : a ≠ .reset) : t.SameConsumer (t.step a) := by
  -- All other steps are on the side of the producer, and readers do not look there.
  cases a with
  | attachConsumer | detachConsumer | pop | release => exact absurd trivial ha
  | commit => exact absurd rfl hcommit
  | reset => exact absurd rfl hreset
  | attachProducer =>
    refine ⟨?_, ?_, (congrArg Ring.bell (ring_attachProducer t)).trans rfl⟩ <;>
      simp only [step, attachProducer] <;> split <;> rfl
  | detachProducer =>
    simp only [step, detachProducer]
    split <;> exact ⟨rfl, rfl, rfl⟩
  | reserve length =>
    simp only [step, reserve]
    split <;> exact ⟨rfl, rfl, rfl⟩
  | fill octets =>
    simp only [step, fill]
    split <;> exact ⟨rfl, rfl, rfl⟩
  | abandon =>
    simp only [step, abandon]
    split <;> exact ⟨rfl, rfl, rfl⟩
  | drop length =>
    simp only [step, drop]
    split <;> exact ⟨rfl, rfl, rfl⟩

/-- A ring is not emptied while there is a consumer. -/
theorem reset_of_idle (h : t.Sound) (hidle : t.receiver = .idle) : t.reset = t := by
  have hattached : t.ring.consumerAttached = true :=
    h.consumer_attached.mpr (by rw [hidle]; exact fun h => by cases h)
  simp only [reset, Ring.reset, hattached, Bool.or_true, if_true]

/-- While the consumer is there and holds nothing, the other side can only put a record into the
ring, and its signal comes later. -/
theorem Sound.firstPart_of_idle (h : t.Sound) (hidle : t.receiver = .idle) (ha : ¬ a.IsConsumers) :
    (t.publishes a = false ∧ t.SameConsumer (t.firstPart a)) ∨
      t.publishes a = true ∧ (t.firstPart a).receiver = .idle ∧
        (t.firstPart a).ring.bell = t.ring.bell ∧
        ∃ e, (t.firstPart a).pending = t.pending ++ [e] := by
  by_cases hcommit : a = .commit
  · subst hcommit
    rw [Traffic.firstPart, if_pos rfl]
    cases hsender : t.sender with
    | detached | idle =>
      left
      simp only [publishes, publish, hsender, true_and]
      exact .refl t
    | writing p g draft =>
      right
      simp only [publishes, publish, hsender, true_and]
      refine ⟨hidle, rfl, ⟨g.offset, p.sequence, draft⟩, ?_⟩
      show (t.committed ++ _).drop t.released = _
      rw [pending, List.drop_append_of_le_length h.released_le]
  · left
    have hpublishes : t.publishes a = false := by
      unfold publishes
      split
      · exact absurd rfl hcommit
      · rfl
    refine ⟨hpublishes, ?_⟩
    rw [Traffic.firstPart, if_neg hcommit]
    by_cases hreset : a = .reset
    · subst hreset
      show t.SameConsumer t.reset
      rw [reset_of_idle h hidle]
      exact .refl t
    · exact sameConsumer_step t ha hcommit hreset

/-- Only a commit calls a task, or makes room for another one at the doorbell. -/
theorem waiting_step (t : Traffic size) (ha : a ≠ .commit) :
    (t.step a).ring.bell.waiting = t.ring.bell.waiting ∧
      (t.step a).ring.bell.woken = t.ring.bell.woken := by
  have hsame {t' : Traffic size} (hbell : t'.ring.bell = t.ring.bell) :
      t'.ring.bell.waiting = t.ring.bell.waiting ∧ t'.ring.bell.woken = t.ring.bell.woken := by
    rw [hbell]
    exact ⟨rfl, rfl⟩
  by_cases hconsumers : a.IsConsumers
  · cases a with
    | attachConsumer => exact hsame ((congrArg Ring.bell (ring_attachConsumer t)).trans rfl)
    | detachConsumer =>
      simp only [step, detachConsumer]
      split <;> exact ⟨rfl, rfl⟩
    | pop => exact hsame ((congrArg Ring.bell (ring_pop t)).trans rfl)
    | release =>
      simp only [step, release]
      split <;> exact ⟨rfl, rfl⟩
    | _ => cases hconsumers
  · by_cases hreset : a = .reset
    · subst hreset
      cases hattached : t.ring.producerAttached || t.ring.consumerAttached with
      | true =>
        simp only [step, reset, Ring.reset, hattached, if_true, and_self]
      | false =>
        simp only [step, reset, Ring.reset, hattached, Bool.false_eq_true, if_false, Doorbell.reset,
          and_self]
    · exact hsame (sameConsumer_step t hconsumers ha hreset).bell_eq

/-- No first part of a step does. -/
theorem waiting_firstPart (t : Traffic size) (a : Action) :
    (t.firstPart a).ring.bell.waiting = t.ring.bell.waiting ∧
      (t.firstPart a).ring.bell.woken = t.ring.bell.woken := by
  unfold firstPart
  split
  · rw [publish_eq_commit]
    exact ⟨rfl, rfl⟩
  · rename_i ha
    exact waiting_step t ha

end Traffic

/-! ### Being called -/

/-- A task that left its number is the next one to be woken, or it was woken since, once. -/
inductive Registration.Stands (g : Registration) (b : Doorbell) : Prop
  | waits (hwaiting : b.waiting = some g.task) (hwoken : b.woken = g.woken)
  | called (hwaiting : b.waiting = none) (hwoken : b.woken = g.task :: g.woken)

namespace Registration.Stands

variable {g : Registration} {b b' : Doorbell}

/-- Signals alone do not change it. -/
theorem congr (h : g.Stands b) (hsame : b'.waiting = b.waiting ∧ b'.woken = b.woken) :
    g.Stands b' := by
  cases h with
  | waits hwaiting hwoken => exact .waits (hsame.1.trans hwaiting) (hsame.2.trans hwoken)
  | called hwaiting hwoken => exact .called (hsame.1.trans hwaiting) (hsame.2.trans hwoken)

/-- From the next commit on the task was woken. -/
theorem woken_wake (h : g.Stands b) : b.wake.woken = g.task :: g.woken := by
  cases h with
  | waits hwaiting hwoken =>
    rw [Doorbell.wake, hwaiting, hwoken]
    rfl
  | called hwaiting hwoken =>
    rw [Doorbell.wake, hwaiting, hwoken]
    rfl

theorem wake (h : g.Stands b) : g.Stands b.wake := .called rfl h.woken_wake

end Registration.Stands

namespace Watch

variable {w w' : Watch size} {task : Nat} {phase : Phase}

/-- All that one step of a poll may do. -/
inductive Attends (task : Nat) (w : Watch size) : Phase → Watch size → Prop
  | finds (hrecord : w.traffic.ring.isEmpty = false) :
    Attends task w .looking { w with waiter := .ready, overrun := false }
  | misses (hempty : w.traffic.ring.isEmpty = true) :
    Attends task w .looking { w with waiter := .polled task .listening, overrun := false }
  /-- With a signal the task looks for a record again. -/
  | hears {p : Phase} {bell : Doorbell} (hphase : p = .listening ∨ p = .listeningAgain)
    (htakes : w.traffic.ring.bell.take? = some bell) :
    Attends task w p { w with traffic.ring.bell := bell, waiter := .polled task .looking }
  | waits (hnone : w.traffic.ring.bell.pending = 0) :
    Attends task w .listening { w with waiter := .polled task .leaving }
  | leaves : Attends task w .leaving { w with
      traffic.ring.bell := w.traffic.ring.bell.register task
      waiter := .polled task .listeningAgain
      registration := some ⟨task, w.traffic.ring.bell.woken⟩ }
  | rests (hnone : w.traffic.ring.bell.pending = 0) :
    Attends task w .listeningAgain { w with waiter := .pending task }

theorem attends_attend (hwaiter : w.waiter = .polled task phase) :
    Attends task w phase w.attend := by
  cases phase with
  | looking =>
    simp only [Watch.attend, hwaiter, Ring.attend, reduceCtorEq, if_true, if_false]
    split
    · rename_i hempty
      exact .misses hempty
    · rename_i hrecord
      exact .finds (Bool.eq_false_iff.mpr hrecord)
  | listening =>
    cases htakes : w.traffic.ring.bell.take? with
    | none =>
      simp only [Watch.attend, hwaiter, Ring.attend, htakes, reduceCtorEq, if_false]
      exact .waits (Doorbell.take?_eq_none_iff.mp htakes)
    | some bell =>
      simp only [Watch.attend, hwaiter, Ring.attend, htakes, reduceCtorEq, if_false]
      exact .hears (.inl rfl) htakes
  | leaving =>
    simp only [Watch.attend, hwaiter, Ring.attend, reduceCtorEq, if_true, if_false]
    exact .leaves
  | listeningAgain =>
    cases htakes : w.traffic.ring.bell.take? with
    | none =>
      simp only [Watch.attend, hwaiter, Ring.attend, htakes, reduceCtorEq, if_false]
      exact .rests (Doorbell.take?_eq_none_iff.mp htakes)
    | some bell =>
      simp only [Watch.attend, hwaiter, Ring.attend, htakes, reduceCtorEq, if_false]
      exact .hears (.inr rfl) htakes

/-! ### The invariant -/

/-- What holds between any two steps. -/
structure Sound (w : Watch size) : Prop where
  traffic : w.traffic.Sound
  idle : w.waiter.isOutstanding = true → w.traffic.receiver = .idle
  /-- A task begins to listen when there is no record, and each record comes with a signal. -/
  signalled : w.waiter.listens = true → w.overrun = false →
    w.traffic.pending.length ≤ w.traffic.ring.bell.pending.toNat + w.commit.due
  /-- When a task rests no signal is left over, so that the count does not run over then. -/
  modest : ∀ task, w.waiter = .pending task →
    w.traffic.ring.bell.pending.toNat + w.commit.due ≤ w.traffic.pending.length + 1
  registered : ∀ task, w.waiter.left? = some task →
    ∃ woken, w.registration = some ⟨task, woken⟩
  stands : ∀ g, w.registration = some g → g.Stands w.traffic.ring.bell

namespace Sound

theorem start (hsize : Admits size) : (Watch.start size).Sound where
  traffic := .start hsize
  idle := fun h => by cases h
  signalled := fun h => by cases h
  modest := fun _ h => by cases h
  registered := fun _ h => by cases h
  stands := fun _ h => by cases h

/-- Without an outstanding future both sides take what steps they like. -/
theorem of_not_outstanding (h : w.traffic.Sound) (hover : w.waiter.isOutstanding = false)
    (hstands : ∀ g, w.registration = some g → g.Stands w.traffic.ring.bell) : w.Sound := by
  obtain ⟨t, waiter, commit, overrun, registration⟩ := w
  cases waiter with
  | absent | ready => exact ⟨h, nofun, nofun, nofun, nofun, hstands⟩
  | polled | pending => cases hover

/-- A task that looks for a record needs nothing but the consumer. -/
theorem of_looking (h : w.traffic.Sound) (hidle : w.traffic.receiver = .idle)
    (hwaiter : w.waiter = .polled task .looking)
    (hstands : ∀ g, w.registration = some g → g.Stands w.traffic.ring.bell) : w.Sound := by
  obtain ⟨t, waiter, commit, overrun, registration⟩ := w
  cases hwaiter
  exact ⟨h, fun _ => hidle, nofun, nofun, nofun, hstands⟩

theorem side (hsize : Admits size) (h : w.Sound) (a : Ring.Action) : (w.side a).Sound := by
  unfold Watch.side
  split
  · exact h
  · rename_i hallowed
    have htraffic := h.traffic.firstPart hsize a
    have hstands : ∀ g, w.registration = some g → g.Stands (w.traffic.firstPart a).ring.bell :=
      fun g hg => (h.stands g hg).congr (w.traffic.waiting_firstPart a)
    cases houtstanding : w.waiter.isOutstanding with
    | false => exact of_not_outstanding htraffic houtstanding hstands
    | true =>
      have hidle := h.idle houtstanding
      have ha : ¬ a.IsConsumers := fun hc => hallowed (.inl ⟨houtstanding, hc⟩)
      have hdone : w.commit = .done := by
        by_contra hhalf
        exact hallowed (.inr ⟨hhalf, ha⟩)
      rcases h.traffic.firstPart_of_idle hidle ha with
        ⟨hpublishes, hsame⟩ | ⟨hpublishes, hreceiver, hbell, e, hpending⟩
      · rw [hpublishes]
        refine ⟨htraffic, fun _ => hsame.receiver_eq.trans hidle, ?_, ?_, h.registered, hstands⟩
        · simp only [hsame.pending_eq, hsame.bell_eq]
          exact h.signalled
        · simp only [hsame.pending_eq, hsame.bell_eq]
          exact h.modest
      · -- The record is there, and its signal is due.
        rw [hpublishes]
        refine ⟨htraffic, fun _ => hreceiver, fun hlistens hcounted => ?_, fun task hrests => ?_,
          h.registered, hstands⟩
        · have hfew := h.signalled hlistens hcounted
          rw [hdone] at hfew
          simp only [hpending, hbell, List.length_append, List.length_singleton]
          exact Nat.succ_le_succ hfew
        · have hmany := h.modest task hrests
          rw [hdone] at hmany
          simp only [hpending, hbell, List.length_append, List.length_singleton]
          exact Nat.succ_le_succ hmany

theorem signal (hsize : Admits size) (h : w.Sound) : w.signal.Sound := by
  unfold Watch.signal
  split
  · rename_i hcommit
    have hcount := w.traffic.ring.bell.toNat_pending_signal
    have hword := w.traffic.ring.bell.pending.toNat_lt
    have hsignalled := h.signalled
    have hmodest := h.modest
    rw [hcommit] at hsignalled hmodest
    refine ⟨h.traffic.withBell _, h.idle, fun hlistens hcounted => ?_, fun task hrests => ?_,
      h.registered, fun g hg => (h.stands g hg).congr ⟨rfl, rfl⟩⟩
    · simp only [Bool.or_eq_false_iff, Bool.and_eq_false_iff, beq_eq_false_iff_ne] at hcounted
      have hfew := hsignalled hlistens hcounted.1
      show w.traffic.pending.length ≤ w.traffic.ring.bell.signal.pending.toNat + 0
      have hdue : Commit.published.due = 1 := rfl
      cases hwaiter : w.waiter with
      | absent | ready =>
        simp only [hwaiter] at hlistens
        cases hlistens
      | polled task phase =>
        -- In the course of a poll the count did not run over.
        have hmore := hcounted.2.resolve_left (by rw [hwaiter]; exact Bool.noConfusion)
        rw [Ne, Doorbell.pending_eq_zero_iff] at hmore
        omega
      | pending task =>
        -- Between two polls it cannot, since there are no more signals than records.
        have hmany := hmodest task hwaiter
        have hrecords := h.traffic.length_pending_lt hsize
        omega
    · have hmany := hmodest task hrests
      have hdue : Commit.published.due = 1 := rfl
      show w.traffic.ring.bell.signal.pending.toNat + 0 ≤ w.traffic.pending.length + 1
      omega
  · exact h
  · exact h

theorem wake (h : w.Sound) : w.wake.Sound := by
  unfold Watch.wake
  split
  · rename_i hcommit
    have hsignalled := h.signalled
    have hmodest := h.modest
    rw [hcommit] at hsignalled hmodest
    exact ⟨h.traffic.withBell _, h.idle, hsignalled, hmodest, h.registered,
      fun g hg => (h.stands g hg).wake⟩
  · exact h
  · exact h

theorem poll (h : w.Sound) (task : Nat) : (w.poll task).Sound := by
  unfold Watch.poll
  split
  · exact h
  · rename_i hwaiter
    exact ⟨h.traffic, fun _ => h.idle (by rw [hwaiter]; rfl),
      fun _ => h.signalled (by rw [hwaiter]; rfl), nofun, nofun, h.stands⟩
  · split
    · rename_i hidle
      exact of_looking h.traffic hidle rfl h.stands
    · exact h
  · split
    · rename_i hidle
      exact of_looking h.traffic hidle rfl h.stands
    · exact h

theorem attend (h : w.Sound) : w.attend.Sound := by
  cases hwaiter : w.waiter with
  | absent | pending task | ready => simpa only [Watch.attend, hwaiter] using h
  | polled task phase =>
    have hidle : w.traffic.receiver = .idle := h.idle (by rw [hwaiter]; rfl)
    have hsignalled := h.signalled
    have hregistered := h.registered
    rw [hwaiter] at hsignalled hregistered
    have hattends := attends_attend hwaiter
    generalize w.attend = w' at hattends
    cases hattends with
    | finds hrecord => exact of_not_outstanding h.traffic rfl h.stands
    | misses hempty =>
      -- However few signals there are, there are as many as records now.
      refine ⟨h.traffic, fun _ => hidle, fun _ _ => ?_, nofun, nofun, h.stands⟩
      rw [h.traffic.isEmpty_iff.mp hempty]
      exact Nat.zero_le _
    | hears hphase htakes =>
      exact of_looking (h.traffic.withBell _) hidle rfl fun g hg =>
        (h.stands g hg).congr (Doorbell.waiting_of_take? htakes)
    | waits hnone =>
      exact ⟨h.traffic, fun _ => hidle, fun _ => hsignalled rfl, nofun, nofun, h.stands⟩
    | leaves =>
      refine ⟨h.traffic.withBell _, fun _ => hidle, fun _ => hsignalled rfl, nofun,
        fun _ hleft => ?_, fun _ hg => ?_⟩
      · cases hleft
        exact ⟨_, rfl⟩
      · cases hg
        exact .waits rfl rfl
    | rests hnone =>
      refine ⟨h.traffic, fun _ => hidle, fun _ => hsignalled rfl, fun _ _ => ?_, hregistered,
        h.stands⟩
      have hdue : w.commit.due ≤ 1 := by cases w.commit <;> decide
      have hzero := Doorbell.pending_eq_zero_iff.mp hnone
      show w.traffic.ring.bell.pending.toNat + w.commit.due ≤ _
      omega

theorem drop (h : w.Sound) : w.drop.Sound := by
  unfold Watch.drop
  split
  · exact h
  · exact of_not_outstanding h.traffic rfl h.stands
  · exact of_not_outstanding h.traffic rfl h.stands
  · exact of_not_outstanding h.traffic rfl h.stands

theorem step (hsize : Admits size) (h : w.Sound) (a : Action) : (w.step a).Sound := by
  cases a with
  | side a => exact h.side hsize a
  | signal => exact h.signal hsize
  | wake => exact h.wake
  | poll task => exact h.poll task
  | attend => exact h.attend
  | drop => exact h.drop

theorem run (hsize : Admits size) (h : w.Sound) (actions : List Action) :
    (Watch.run actions w).Sound := by
  induction actions generalizing w with
  | nil => exact h
  | cons a rest ih => exact ih (h.step hsize a)

end Sound

end Watch

end WlanControl.Ring
