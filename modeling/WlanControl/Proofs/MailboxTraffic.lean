import WlanControl.Shared.Mailbox

namespace WlanControl.Mailbox

open Sync (Processor)

/-!
# Values on their way through a mailbox

Both sides post and take values, and either side holds the slot now and then.  Whoever comes upon a
slot in use is refused.  A call holds the slot while it is at work, and so other calls in the course
of it are refused and leave no trace: such a call is one that was made at once when the slot was let
go of (`Exchange.run_amid`).

* `Exchange` — a mailbox, with all values that were posted and taken so far;
* `Exchange.Action`, `Exchange.run` — calls and holds of both sides, in any order;
* `Exchange.Sound` — the invariant of every run;
* `Exchange.LatestWins` — what it means for posts and takes.

Main statement: `Exchange.latestWins_run`, versions count the posts, and a take gives the value that
was posted last unless it was taken before, also after refusals.
-/

variable {α : Type} {m : Mailbox α}

/-! ### One call -/

theorem post_of_held (hheld : m.slot.isHeld = true) (value : α) : m.post value = (m, none) := by
  simp [post, Sync.Lock.tryWith, hheld]

theorem post_of_free (hfree : m.slot.isHeld = false) (value : α) :
    m.post value =
      (⟨{ m.slot with value := some (m.version + 1, value) }, m.version + 1⟩,
        some (m.version + 1)) := by
  simp [post, Sync.Lock.tryWith, hfree]

theorem take_of_held (hheld : m.slot.isHeld = true) : m.take = (m, none) := by
  simp [take, Sync.Lock.tryWith, hheld]

theorem take_of_free (hfree : m.slot.isHeld = false) :
    m.take = ({ m with slot := { m.slot with value := none } }, m.slot.value) := by
  simp [take, Sync.Lock.tryWith, hfree]

/-- Posting a value counts the version up and fills the slot, which nobody used. -/
theorem eq_of_post {value : α} {m' : Mailbox α} {version : UInt32}
    (h : m.post value = (m', some version)) :
    version = m.version + 1 ∧ m'.version = version ∧ m'.slot.value = some (version, value) := by
  cases hheld : m.slot.isHeld with
  | true => simp [post_of_held hheld] at h
  | false =>
    rw [post_of_free hheld] at h
    cases h
    exact ⟨rfl, rfl, rfl⟩

/-- Taking leaves the version alone.  What is taken was in the slot, and nothing is left there. -/
theorem take_cases (m : Mailbox α) : m.take.1.version = m.version ∧
    ((∃ posted, m.take.2 = some posted ∧ m.slot.value = some posted ∧ m.take.1.slot.value = none) ∨
      m.take.2 = none ∧ m.take.1.slot.value = m.slot.value) := by
  cases hheld : m.slot.isHeld with
  | true => simp [take_of_held hheld]
  | false =>
    rw [take_of_free hheld]
    cases hvalue : m.slot.value <;> simp

/-- The slot and the version stay as they are in whoever's hands. -/
theorem version_hold (m : Mailbox α) (who : Processor) :
    ((m.hold? who).getD m).version = m.version := by
  cases hheld : m.slot.isHeld <;> simp [hold?, Sync.Lock.acquire?, hheld]

theorem value_hold (m : Mailbox α) (who : Processor) :
    ((m.hold? who).getD m).slot.value = m.slot.value := by
  cases hheld : m.slot.isHeld <;> simp [hold?, Sync.Lock.acquire?, hheld]

/-! ### Both sides at work -/

/-- A mailbox in use, with all that went in and out so far. -/
structure Exchange (α : Type) where
  mailbox : Mailbox α
  /-- The values that were posted with the versions that the calls gave back, earliest first. -/
  posted : List (UInt32 × α)
  /-- What was taken and how many values had been posted by then, earliest first. -/
  taken : List (Nat × UInt32 × α)

namespace Exchange

variable {e : Exchange α}

/-- Nothing was posted yet. -/
def start : Exchange α := ⟨.empty, [], []⟩

/-- What either side does.  Who posts and who takes is left open. -/
inductive Action (α : Type)
  | post (value : α)
  | take
  /-- Somebody gets hold of the slot, if it is free. -/
  | hold (who : Processor)
  | release

/-- Whether somebody lets go of the slot. -/
def Action.isRelease : Action α → Bool
  | .release => true
  | _ => false

/-- A call to post a value. -/
def post (value : α) (e : Exchange α) : Exchange α :=
  let (mailbox, version?) := e.mailbox.post value
  { e with mailbox, posted := e.posted ++ (version?.map fun version => (version, value)).toList }

/-- A call to take a value. -/
def take (e : Exchange α) : Exchange α :=
  let (mailbox, value?) := e.mailbox.take
  { e with mailbox, taken := e.taken ++ (value?.map fun value => (e.posted.length, value)).toList }

/-- The mailbox after one more action. -/
def step (e : Exchange α) : Action α → Exchange α
  | .post value => e.post value
  | .take => e.take
  | .hold who => { e with mailbox := (e.mailbox.hold? who).getD e.mailbox }
  | .release => { e with mailbox := e.mailbox.release }

/-- The mailbox after some actions. -/
def run (actions : List (Action α)) (e : Exchange α) : Exchange α := actions.foldl step e

theorem post_of_held (hheld : e.mailbox.slot.isHeld = true) (value : α) : e.post value = e := by
  simp [post, Mailbox.post_of_held hheld]

theorem post_of_free (hfree : e.mailbox.slot.isHeld = false) (value : α) :
    e.post value =
      { e with
        mailbox := (e.mailbox.post value).1
        posted := e.posted ++ [(e.mailbox.version + 1, value)] } := by
  simp [post, Mailbox.post_of_free hfree]

theorem take_of_held (hheld : e.mailbox.slot.isHeld = true) : e.take = e := by
  simp [take, Mailbox.take_of_held hheld]

theorem take_of_some {value : UInt32 × α} (hfree : e.mailbox.slot.isHeld = false)
    (hvalue : e.mailbox.slot.value = some value) :
    e.take =
      { e with mailbox := e.mailbox.take.1, taken := e.taken ++ [(e.posted.length, value)] } := by
  simp [take, Mailbox.take_of_free hfree, hvalue]

theorem take_of_none (hvalue : e.mailbox.slot.value = none) : e.take = e := by
  cases hheld : e.mailbox.slot.isHeld with
  | true => exact take_of_held hheld
  | false =>
    obtain ⟨⟨⟨holder, value⟩, version⟩, posted, taken⟩ := e
    simp only at hvalue
    subst hvalue
    simp [take, Mailbox.take_of_free hheld]

/-! ### A call that takes its time -/

/-- Whoever comes while the slot is in use leaves everything as it is. -/
theorem step_of_held {action : Action α} (hheld : e.mailbox.slot.isHeld = true)
    (hkept : action.isRelease = false) : e.step action = e := by
  cases action with
  | post value => exact post_of_held hheld value
  | take => exact take_of_held hheld
  | hold who => simp [step, hold?, Sync.Lock.acquire?, hheld]
  | release => cases hkept

theorem run_of_held {actions : List (Action α)} (hheld : e.mailbox.slot.isHeld = true)
    (hkept : ∀ action ∈ actions, action.isRelease = false) : e.run actions = e := by
  induction actions with
  | nil => rfl
  | cons action rest ih =>
    rw [List.forall_mem_cons] at hkept
    show (e.step action).run rest = e
    rw [step_of_held hheld hkept.1, ih hkept.2]

/-- A call that gets hold of the slot, and is done only after calls of others, is the same as one at
once. -/
theorem run_amid (hfree : e.mailbox.slot.holder = none) (who : Processor)
    {others : List (Action α)} (hkept : ∀ action ∈ others, action.isRelease = false)
    (call : Action α) : e.run (.hold who :: (others ++ [.release, call])) = e.step call := by
  have hrelease : ((e.step (.hold who)).step .release) = e := by
    obtain ⟨⟨⟨holder, value⟩, version⟩, posted, taken⟩ := e
    simp only at hfree
    subst hfree
    rfl
  show ((e.step (.hold who)).run (others ++ [.release, call])) = e.step call
  have hheld : (e.step (.hold who)).mailbox.slot.isHeld = true := by
    simp [step, hold?, Sync.Lock.acquire?, Sync.Lock.isHeld, hfree]
  rw [run, List.foldl_append]
  show ((((e.step (.hold who)).run others).step .release).step call) = e.step call
  rw [run_of_held hheld hkept, hrelease]

/-! ### The invariant -/

/-- Versions count the posts, and the slot has the last value as long as it was not taken. -/
structure Sound (e : Exchange α) : Prop where
  version_eq : e.mailbox.version = UInt32.ofNat e.posted.length
  versions : ∀ k (value : UInt32 × α), e.posted[k]? = some value →
    value.1 = UInt32.ofNat (k + 1)
  slot_iff : ∀ value, e.mailbox.slot.value = some value ↔
    e.posted.getLast? = some value ∧ ∀ t ∈ e.taken, t.1 ≠ e.posted.length
  taken_posted : ∀ t ∈ e.taken, ∃ k, t.1 = k + 1 ∧ e.posted[k]? = some t.2
  taken_once : e.taken.Pairwise fun t t' => t.1 < t'.1

theorem sound_start : (start : Exchange α).Sound where
  version_eq := rfl
  versions k value h := by simp [start] at h
  slot_iff value := by simp [start, empty, Sync.Lock.free]
  taken_posted t h := by simp [start] at h
  taken_once := List.Pairwise.nil

namespace Sound

/-- Nothing was taken that was not posted before. -/
theorem taken_le (h : e.Sound) {t : Nat × UInt32 × α} (ht : t ∈ e.taken) :
    t.1 ≤ e.posted.length := by
  obtain ⟨k, hk, hposted⟩ := h.taken_posted t ht
  have hlt := (List.getElem?_eq_some_iff.mp hposted).1
  omega

/-- Who has the slot in hand makes no difference. -/
theorem of_slot {mailbox : Mailbox α} (h : e.Sound)
    (hversion : mailbox.version = e.mailbox.version)
    (hvalue : mailbox.slot.value = e.mailbox.slot.value) :
    ({ e with mailbox } : Exchange α).Sound :=
  { h with
    version_eq := hversion.trans h.version_eq
    slot_iff := fun value => by rw [hvalue]; exact h.slot_iff value }

theorem post (h : e.Sound) (value : α) : (e.post value).Sound := by
  cases hheld : e.mailbox.slot.isHeld with
  | true => exact (post_of_held hheld value).symm ▸ h
  | false =>
    rw [post_of_free hheld, Mailbox.post_of_free hheld]
    have hversion : e.mailbox.version + 1 = .ofNat (e.posted.length + 1) := by
      rw [UInt32.ofNat_add, h.version_eq]
      rfl
    refine ⟨by simpa using hversion, fun k v hk => ?_, fun v => ?_, fun t ht => ?_, h.taken_once⟩
    · rcases Nat.lt_trichotomy k e.posted.length with hlt | rfl | hgt
      · exact h.versions k v (List.getElem?_append_left hlt ▸ hk)
      · simp only [List.getElem?_concat_length, Option.some.injEq] at hk
        rw [← hk]
        exact hversion
      · rw [List.getElem?_eq_none (by simp; omega)] at hk
        cases hk
    · -- No value was taken yet when this one had been posted.
      have hopen : ∀ t ∈ e.taken, t.1 ≠ (e.posted ++ [(e.mailbox.version + 1, value)]).length := by
        intro t ht
        have hle := h.taken_le ht
        simp only [List.length_append, List.length_singleton]
        omega
      simp only [List.getLast?_concat, and_iff_left hopen]
    · obtain ⟨k, hk, hposted⟩ := h.taken_posted t ht
      refine ⟨k, hk, ?_⟩
      rw [List.getElem?_append_left (List.getElem?_eq_some_iff.mp hposted).1]
      exact hposted

theorem take (h : e.Sound) : e.take.Sound := by
  cases hheld : e.mailbox.slot.isHeld with
  | true => exact (take_of_held hheld).symm ▸ h
  | false =>
    cases hvalue : e.mailbox.slot.value with
    | none => exact (take_of_none hvalue).symm ▸ h
    | some value =>
      obtain ⟨hlast, hopen⟩ := (h.slot_iff value).mp hvalue
      rw [take_of_some hheld hvalue, Mailbox.take_of_free hheld]
      refine ⟨h.version_eq, h.versions, fun v => ?_, fun t ht => ?_, ?_⟩
      · -- The value that was taken is not there any more.
        constructor
        · intro hleft
          cases hleft
        · rintro ⟨-, hopen'⟩
          exact absurd rfl (hopen' (e.posted.length, value) (by simp))
      · rcases List.mem_append.mp ht with hbefore | hnew
        · exact h.taken_posted t hbefore
        · rw [List.mem_singleton.mp hnew]
          rw [List.getLast?_eq_getElem?] at hlast
          have hlt := (List.getElem?_eq_some_iff.mp hlast).1
          exact ⟨e.posted.length - 1, by omega, hlast⟩
      · -- All that was taken before had been posted before the last value.
        refine List.pairwise_append.mpr ⟨h.taken_once, List.pairwise_singleton _ _, ?_⟩
        rintro t ht t' ht'
        rw [List.mem_singleton.mp ht']
        exact Nat.lt_of_le_of_ne (h.taken_le ht) (hopen t ht)

theorem step (h : e.Sound) (action : Action α) : (e.step action).Sound := by
  cases action with
  | post value => exact h.post value
  | take => exact h.take
  | hold who => exact h.of_slot (version_hold e.mailbox who) (value_hold e.mailbox who)
  | release => exact h.of_slot rfl rfl

theorem run (h : e.Sound) (actions : List (Action α)) : (e.run actions).Sound := by
  induction actions generalizing e with
  | nil => exact h
  | cons action rest ih => exact ih (h.step action)

end Sound

/-! ### What is posted and taken -/

/-- A newer value takes the place of an older one, and each value is taken once at most. -/
structure LatestWins (e : Exchange α) : Prop where
  /-- The version that a post gave back counts the posts so far, and so does the mailbox. -/
  versions : ∀ k (value : UInt32 × α), e.posted[k]? = some value →
    value.1 = UInt32.ofNat (k + 1)
  version_eq : e.mailbox.version = UInt32.ofNat e.posted.length
  /-- The next post gives back the next version, and a post that is refused changes nothing. -/
  post_of_free : e.mailbox.slot.isHeld = false → ∀ value,
    (e.mailbox.post value).2 = some (.ofNat (e.posted.length + 1))
  post_of_held : e.mailbox.slot.isHeld = true → ∀ value, e.mailbox.post value = (e.mailbox, none)
  /-- A take gives the value that was posted last, unless that was taken before. -/
  take_iff : ∀ value, e.mailbox.take.2 = some value ↔
    e.mailbox.slot.isHeld = false ∧ e.posted.getLast? = some value ∧
      ∀ t ∈ e.taken, t.1 ≠ e.posted.length
  /-- What was taken had been posted last by then. -/
  taken_posted : ∀ t ∈ e.taken, ∃ k, t.1 = k + 1 ∧ e.posted[k]? = some t.2
  /-- What is taken later was posted later. -/
  taken_once : e.taken.Pairwise fun t t' => t.1 < t'.1
  /-- A take that is refused changes nothing, and the value is there once the slot is free. -/
  take_of_held : e.mailbox.slot.isHeld = true → e.mailbox.take = (e.mailbox, none)
  take_release : (∀ t ∈ e.taken, t.1 ≠ e.posted.length) →
    e.mailbox.release.take.2 = e.posted.getLast?

theorem Sound.latestWins (h : e.Sound) : e.LatestWins where
  versions := h.versions
  version_eq := h.version_eq
  post_of_free hfree value := by
    rw [Mailbox.post_of_free hfree, UInt32.ofNat_add, h.version_eq]
    rfl
  post_of_held hheld value := Mailbox.post_of_held hheld value
  take_iff value := by
    rw [← h.slot_iff]
    cases hheld : e.mailbox.slot.isHeld with
    | true => simp [Mailbox.take_of_held hheld]
    | false => simp [Mailbox.take_of_free hheld]
  taken_posted := h.taken_posted
  taken_once := h.taken_once
  take_of_held hheld := Mailbox.take_of_held hheld
  take_release hopen := by
    have hfree : e.mailbox.release.slot.isHeld = false := rfl
    rw [Mailbox.take_of_free hfree]
    refine Option.ext fun value => ?_
    exact (h.slot_iff value).trans (and_iff_left hopen)

/-- Whoever posts, takes and holds the slot in whatever order, versions count the posts, the last
value is the one that is taken, and it is taken once at most. -/
theorem latestWins_run (actions : List (Action α)) :
    ((start : Exchange α).run actions).LatestWins :=
  (sound_start.run actions).latestWins

end Exchange

end WlanControl.Mailbox
