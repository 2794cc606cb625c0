import Mathlib.Logic.Basic
import WlanControl.Proofs.HostCalls
import WlanControl.Proofs.LinkWire
import WlanControl.Proofs.MailboxTraffic

namespace WlanControl

open Host (Call Controller)
open Link (Surroundings)
open Sync (Processor)

/-!
# Commands on their way from the host to the radio

The host posts a command into the mailbox once it read that the one before was acknowledged.  The
radio takes a command at the start of a tick, acts upon it and then acknowledges it.  Both sides go
on at their own pace: the host may come in at any point of a tick, and act upon a status that it
read before.  Versions of commands wrap around.

Acting upon a command and the work that follows have nothing to do with the mailbox or with the
version next to it (`Link.wire_obey`, `Link.wire_work`).  For commands a call in the course of them
is one right before, and an `Aside` puts into the memory whatever such a call finds there.

* `Dialogue` — both sides, with all commands that were posted and obeyed so far;
* `Dialogue.Action`, `Dialogue.run` — the steps of both sides, in any order, with `run_tick` for the
  steps that are one tick;
* `Dialogue.Progress` — how far the last command has come;
* `Dialogue.Sound` — the invariant of every run, `Dialogue.KeepsOrder` what it means for commands.

Main statement: `Dialogue.keepsOrder_run`, commands are obeyed in the order in which they were
posted, once at most, and none is replaced before it was taken.
-/

variable {σ : Type}

/-! ### Both sides -/

namespace Mailbox

variable {α : Type}

/-- What was posted from one state of a mailbox to the next, if something was. -/
def posted? (m m' : Mailbox α) : Option (UInt32 × α) :=
  if m'.version = m.version then none else m'.slot.value

end Mailbox

theorem SharedState.eq_of_postCommand {command : Command} {s s' : SharedState} {version : UInt32}
    (h : s.postCommand command = (s', .ok version)) :
    s.commands.post command = (s'.commands, some version) ∧ s'.status = s.status := by
  unfold postCommand at h
  split at h
  · rename_i commands posted hpost
    cases h
    exact ⟨hpost, rfl⟩
  · cases h

/-- What a call posts is what is new in the mailbox. -/
theorem Host.Posts.posted?_eq {h h' : Host} {command? : Option Command}
    (hposts : h.Posts command? h') : h.shared.commands.posted? h'.shared.commands =
      command?.map fun command => (h'.controller.posted, command) := by
  unfold Mailbox.posted?
  cases hposts with
  | none commands_eq _ _ => rw [commands_eq, if_pos rfl, Option.map_none]
  | one command _ post_eq _ =>
    obtain ⟨hnext, hversion, hvalue⟩ := Mailbox.eq_of_post post_eq
    have hnew : h'.shared.commands.version ≠ h.shared.commands.version := by
      rw [hversion, hnext]
      simp
    rw [if_neg hnew, hvalue, Option.map_some]

/-- Where the radio is in a tick. -/
inductive Phase
  /-- In between two ticks. -/
  | resting
  /-- A command was taken. -/
  | taken (version : UInt32) (command : Command)
  /-- A command was acted upon, and is not acknowledged yet. -/
  | obeyed (version : UInt32)
  /-- No command is left to act upon. -/
  | working

namespace Phase

/-- The command in the hands of the radio. -/
def inHand : Phase → List (UInt32 × Command)
  | .taken version command => [(version, command)]
  | _ => []

/-- Whether the radio is done with all commands that it took. -/
def isDone : Phase → Bool
  | .resting | .working => true
  | _ => false

theorem inHand_of_isDone {phase : Phase} (h : phase.isDone = true) : phase.inHand = [] := by
  cases phase <;> simp_all [isDone, inHand]

end Phase

/-- The host and the radio, with the commands that were posted and obeyed so far. -/
structure Dialogue (σ : Type) where
  controller : Controller
  /-- The radio, with the shared memory. -/
  link : Link σ
  /-- The status, as the host read it last. -/
  seen : Status
  phase : Phase
  /-- The commands that the host posted, earliest first. -/
  posted : List (UInt32 × Command)
  /-- The commands that the radio acted upon, earliest first. -/
  obeyed : List (UInt32 × Command)

namespace Dialogue

variable {d : Dialogue σ}

/-- The host, with the status that it read last. -/
def host (d : Dialogue σ) : Host := ⟨d.controller, { d.link.shared with status := d.seen }⟩

/-- The command in the slot. -/
def waiting (d : Dialogue σ) : List (UInt32 × Command) := d.link.shared.commands.slot.value.toList

/-- The radio has not acknowledged the last command of the host. -/
def IsOpen (d : Dialogue σ) : Prop := d.link.shared.status.acknowledged ≠ d.controller.posted

/-! ### Steps -/

/-- Something that has nothing to do with commands, and that the host does to the shared memory. -/
structure Aside extends Link.HostMove where
  commands_act : ∀ s, (act s).commands = s.commands

/-- The host does nothing. -/
def Aside.idle : Aside where
  toHostMove := .idle
  commands_act _ := rfl

/-- Such a host leaves the wire alone. -/
theorem Aside.sparesWire (asides : Nat → Aside) :
    Link.Meanwhile.SparesWire fun step => (asides step).act :=
  fun step s => ⟨(asides step).commands_act s, (asides step).status_act s⟩

/-- A step of either side. -/
inductive Action
  /-- The host reads the status. -/
  | look
  /-- The application calls the host. -/
  | call (call : Call)
  | aside (aside : Aside)
  /-- Somebody gets hold of the slot, and lets go of it. -/
  | hold (who : Processor)
  | release
  /-- The four parts of a tick. -/
  | take (now : Nat)
  | obey (asides : Nat → Aside)
  | acknowledge
  | work (asides : Nat → Aside)
  /-- A frame is received in between two ticks. -/
  | receive (octets : List UInt8) (rssi : UInt8) (now : Nat) (seized : Nat → Bool)

/-- The application calls the host, which goes by the status that it read last. -/
def perform (call : Call) (d : Dialogue σ) : Dialogue σ :=
  let h := (d.host.perform call).1
  { d with
    controller := h.controller
    link.shared := { h.shared with status := d.link.shared.status }
    posted := d.posted ++ (d.link.shared.commands.posted? h.shared.commands).toList }

/-- The tick starts, and the radio takes the command in the slot, if it can get at one. -/
def take (now : Nat) (d : Dialogue σ) : Dialogue σ :=
  match d.phase, (d.link.atTime now).take? with
  | .resting, some (link, version, command) => { d with link, phase := .taken version command }
  | .resting, none => { d with link := d.link.atTime now, phase := .working }
  | _, _ => d

/-- The radio acts upon the command that it took. -/
def obey (env : Surroundings σ) (asides : Nat → Aside) (d : Dialogue σ) : Dialogue σ :=
  match d.phase with
  | .taken version command =>
    { d with
      link := d.link.obey env (fun step => (asides step).act) command
      phase := .obeyed version
      obeyed := d.obeyed ++ [(version, command)] }
  | _ => d

/-- The radio acknowledges the command that it acted upon. -/
def acknowledge (d : Dialogue σ) : Dialogue σ :=
  match d.phase with
  | .obeyed version => { d with link := d.link.acknowledge version, phase := .working }
  | _ => d

/-- The radio does what is due, and the tick is over. -/
def work (env : Surroundings σ) (asides : Nat → Aside) (d : Dialogue σ) : Dialogue σ :=
  match d.phase with
  | .working => { d with link := d.link.work env fun step => (asides step).act, phase := .resting }
  | _ => d

/-- The radio receives a frame, unless it is in the middle of a tick. -/
def receive (env : Surroundings σ) (octets : List UInt8) (rssi : UInt8) (now : Nat)
    (seized : Nat → Bool) (d : Dialogue σ) : Dialogue σ :=
  match d.phase with
  | .resting => { d with link := d.link.receiveAmid env seized octets rssi now }
  | _ => d

/-- Both sides after one more step.  Out of their order the parts of a tick do nothing. -/
def step (env : Surroundings σ) (d : Dialogue σ) : Action → Dialogue σ
  | .look => { d with seen := d.link.shared.status }
  | .call call => d.perform call
  | .aside aside => { d with link.shared := aside.act d.link.shared }
  | .hold who =>
    { d with link.shared.commands :=
        (d.link.shared.commands.hold? who).getD d.link.shared.commands }
  | .release => { d with link.shared.commands := d.link.shared.commands.release }
  | .take now => d.take now
  | .obey asides => d.obey env asides
  | .acknowledge => d.acknowledge
  | .work asides => d.work env asides
  | .receive octets rssi now seized => d.receive env octets rssi now seized

/-- Both sides after some steps. -/
def run (env : Surroundings σ) (actions : List Action) (d : Dialogue σ) : Dialogue σ :=
  actions.foldl (step env) d

/-- The four parts of a tick are one tick. -/
theorem run_tick (env : Surroundings σ) (now : Nat) (asides : Nat → Aside)
    (hresting : d.phase = .resting) :
    (run env [.take now, .obey asides, .acknowledge, .work asides] d).link =
        d.link.tickAmid env (fun step => (asides step).act) now ∧
      (run env [.take now, .obey asides, .acknowledge, .work asides] d).phase = .resting := by
  rw [Link.tickAmid_eq_work, Link.serveCommand_eq]
  cases htake : (d.link.atTime now).take? with
  | none => simp [run, step, take, obey, acknowledge, work, hresting, htake]
  | some taken => simp [run, step, take, obey, acknowledge, work, hresting, htake]

/-! ### The invariant -/

/-- How far the last command has come, by the phase of the radio and the slot. -/
inductive Progress (version acknowledged : UInt32) : Phase → Option (UInt32 × Command) → Prop
  /-- There is nothing left to do. -/
  | settled {phase : Phase} (done : phase.isDone = true) (reached : acknowledged = version) :
    Progress version acknowledged phase none
  /-- The command waits to be taken. -/
  | waiting {phase : Phase} (command : Command) (done : phase.isDone = true)
    (next : acknowledged + 1 = version) :
    Progress version acknowledged phase (some (version, command))
  /-- The command was taken. -/
  | taken (command : Command) (next : acknowledged + 1 = version) :
    Progress version acknowledged (.taken version command) none
  /-- The command was acted upon. -/
  | obeyed (next : acknowledged + 1 = version) :
    Progress version acknowledged (.obeyed version) none

/-- At most one command is neither obeyed nor lost sight of, and the host knows of it. -/
structure Sound (d : Dialogue σ) : Prop where
  posted_eq : d.posted = d.obeyed ++ d.phase.inHand ++ d.waiting
  version_eq : d.link.shared.commands.version = d.controller.posted
  progress : Progress d.controller.posted d.link.shared.status.acknowledged d.phase
    d.link.shared.commands.slot.value
  /-- What the host read of the last command, it still would. -/
  seen : d.seen.acknowledged = d.controller.posted ∧
      d.link.shared.status.acknowledged = d.controller.posted ∨
    d.seen.acknowledged + 1 = d.controller.posted

/-- The version before the last one does not reach it, also where versions wrap around. -/
theorem isReached_of_next {posted acknowledged : UInt32} (h : acknowledged + 1 = posted) :
    Host.isReached posted acknowledged = false := by
  -- The distance between the two is minus one, wherever the versions are.
  have hbehind : acknowledged - posted = 0xffffffff := by grind
  simp [Host.isReached, hbehind]

namespace Progress

variable {version acknowledged : UInt32} {phase : Phase} {slot : Option (UInt32 × Command)}

/-- A command is open or settled. -/
theorem reached_or_next (h : Progress version acknowledged phase slot) :
    acknowledged = version ∨ acknowledged + 1 = version := by
  cases h with
  | settled _ reached => exact .inl reached
  | waiting _ _ next => exact .inr next
  | taken _ next => exact .inr next
  | obeyed next => exact .inr next

/-- Once the last command was acknowledged, the radio is done and the slot is empty. -/
theorem eq_none_of_reached (h : Progress version version phase slot) :
    phase.isDone = true ∧ slot = none := by
  cases h with
  | settled done => exact ⟨done, rfl⟩
  | waiting _ _ next => exact absurd next (by simp)
  | taken _ next => exact absurd next (by simp)
  | obeyed next => exact absurd next (by simp)

/-- A command in the slot is the last one, and the radio is done with the others. -/
theorem eq_of_some {posted : UInt32} {command : Command}
    (h : Progress version acknowledged phase (some (posted, command))) :
    posted = version ∧ acknowledged + 1 = version ∧ phase.isDone = true := by
  cases h with
  | waiting _ done next => exact ⟨rfl, next, done⟩

/-- A command that was taken is the last one, and leaves the slot empty. -/
theorem eq_of_taken {posted : UInt32} {command : Command}
    (h : Progress version acknowledged (.taken posted command) slot) :
    posted = version ∧ acknowledged + 1 = version ∧ slot = none := by
  cases h with
  | settled done => cases done
  | waiting _ done => cases done
  | taken _ next => exact ⟨rfl, next, rfl⟩

/-- A command that was acted upon is the last one, and leaves the slot empty. -/
theorem eq_of_obeyed {posted : UInt32} (h : Progress version acknowledged (.obeyed posted) slot) :
    posted = version ∧ slot = none := by
  cases h with
  | settled done => cases done
  | waiting _ done => cases done
  | obeyed => exact ⟨rfl, rfl⟩

/-- While the radio is done with all commands, it may go on with other things. -/
theorem withPhase (h : Progress version acknowledged phase slot) (hdone : phase.isDone = true)
    {phase' : Phase} (hdone' : phase'.isDone = true) :
    Progress version acknowledged phase' slot := by
  cases h with
  | settled _ reached => exact .settled hdone' reached
  | waiting command _ next => exact .waiting command hdone' next
  | taken => cases hdone
  | obeyed => cases hdone

end Progress

namespace Sound

/-- Whatever leaves the wire alone keeps the invariant. -/
theorem withLink (h : d.Sound) {link : Link σ} (hwire : link.wire = d.link.wire) :
    ({ d with link } : Dialogue σ).Sound := by
  obtain ⟨hcommands, hacknowledged⟩ := Link.Wire.mk.inj hwire
  constructor
  · show d.posted = d.obeyed ++ d.phase.inHand ++ link.shared.commands.slot.value.toList
    rw [hcommands]
    exact h.posted_eq
  · show link.shared.commands.version = _
    rw [hcommands]
    exact h.version_eq
  · show Progress _ link.shared.status.acknowledged _ link.shared.commands.slot.value
    rw [hcommands, hacknowledged]
    exact h.progress
  · show _ ∧ link.shared.status.acknowledged = _ ∨ _
    rw [hacknowledged]
    exact h.seen

/-- Whoever holds the slot, its contents stay. -/
theorem withHolder (h : d.Sound) {commands : Mailbox Command}
    (hversion : commands.version = d.link.shared.commands.version)
    (hvalue : commands.slot.value = d.link.shared.commands.slot.value) :
    ({ d with link.shared.commands := commands } : Dialogue σ).Sound where
  posted_eq := by
    show d.posted = d.obeyed ++ d.phase.inHand ++ commands.slot.value.toList
    rw [hvalue]
    exact h.posted_eq
  version_eq := hversion.trans h.version_eq
  progress := by
    show Progress _ _ _ commands.slot.value
    rw [hvalue]
    exact h.progress
  seen := h.seen

/-- While the radio is done with all commands, it may go on with other things. -/
theorem withPhase (h : d.Sound) (hdone : d.phase.isDone = true) {phase : Phase}
    (hdone' : phase.isDone = true) : ({ d with phase } : Dialogue σ).Sound where
  posted_eq := by
    show d.posted = d.obeyed ++ phase.inHand ++ d.waiting
    rw [h.posted_eq, Phase.inHand_of_isDone hdone, Phase.inHand_of_isDone hdone']
  version_eq := h.version_eq
  progress := h.progress.withPhase hdone hdone'
  seen := h.seen

/-! ### Steps of the host -/

theorem look (h : d.Sound) : ({ d with seen := d.link.shared.status } : Dialogue σ).Sound where
  posted_eq := h.posted_eq
  version_eq := h.version_eq
  progress := h.progress
  seen := by
    obtain hreached | hnext := h.progress.reached_or_next
    · exact .inl ⟨hreached, hreached⟩
    · exact .inr hnext

/-- What the host takes for acknowledged is. -/
theorem reached_of_isAcknowledged (h : d.Sound) (hacknowledged : d.host.isAcknowledged = true) :
    d.seen.acknowledged = d.controller.posted ∧
      d.link.shared.status.acknowledged = d.controller.posted := by
  obtain hreached | hnext := h.seen
  · exact hreached
  · have hopen : d.host.isAcknowledged = false := isReached_of_next hnext
    cases hopen.symm.trans hacknowledged

theorem perform (h : d.Sound) (call : Call) : (d.perform call).Sound := by
  obtain ⟨command?, hposts⟩ := Host.posts_perform call d.host
  have hnew := hposts.posted?_eq
  unfold Dialogue.perform
  simp only
  generalize (d.host.perform call).1 = after at hposts hnew ⊢
  have hnew' : d.link.shared.commands.posted? after.shared.commands =
      command?.map fun command => (after.controller.posted, command) := hnew
  cases hposts with
  | none commands_eq posted_eq _ =>
    -- For commands all is as it was before the call.
    have hcommands : after.shared.commands = d.link.shared.commands := commands_eq
    have hposted : after.controller.posted = d.controller.posted := posted_eq
    constructor
    · show d.posted ++ _ = d.obeyed ++ d.phase.inHand ++
        after.shared.commands.slot.value.toList
      rw [hnew', hcommands, Option.map_none, Option.toList_none, List.append_nil]
      exact h.posted_eq
    · show after.shared.commands.version = after.controller.posted
      rw [hcommands, hposted]
      exact h.version_eq
    · show Progress after.controller.posted _ _ after.shared.commands.slot.value
      rw [hcommands, hposted]
      exact h.progress
    · show _ = after.controller.posted ∧ _ = after.controller.posted ∨
        _ = after.controller.posted
      rw [hposted]
      exact h.seen
  | one command acknowledged post_eq _ =>
    obtain ⟨hseen, hreached⟩ := h.reached_of_isAcknowledged acknowledged
    obtain ⟨hnext, hversion, hvalue⟩ := Mailbox.eq_of_post post_eq
    have hnext' : d.controller.posted + 1 = after.controller.posted := by
      rw [hnext, ← h.version_eq]
      rfl
    -- The last command was settled, so the slot is empty and nothing is replaced.
    have hprogress := h.progress
    rw [hreached] at hprogress
    obtain ⟨hdone, hempty⟩ := hprogress.eq_none_of_reached
    have hposted : d.posted = d.obeyed := by
      rw [h.posted_eq, waiting, hempty, Phase.inHand_of_isDone hdone]
      simp
    constructor
    · show d.posted ++ _ = d.obeyed ++ d.phase.inHand ++
        after.shared.commands.slot.value.toList
      rw [hnew', hvalue, hposted, Phase.inHand_of_isDone hdone, List.append_nil]
      rfl
    · exact hversion
    · show Progress after.controller.posted d.link.shared.status.acknowledged d.phase
        after.shared.commands.slot.value
      rw [hvalue]
      exact .waiting command hdone (by rw [hreached, hnext'])
    · right
      show d.seen.acknowledged + 1 = after.controller.posted
      rw [hseen, hnext']

/-! ### Steps of the radio -/

theorem take (h : d.Sound) (now : Nat) : (d.take now).Sound := by
  unfold Dialogue.take
  split
  · rename_i link version command hresting htake
    obtain ⟨commands, hslot, hshared⟩ := Link.take?_eq_some htake
    have hslot' : d.link.shared.commands.take = (commands, some (version, command)) := hslot
    obtain ⟨hversion, ⟨_, hsome, hfull, hempty⟩ | ⟨hnone, -⟩⟩ :=
      Mailbox.take_cases d.link.shared.commands
    · rw [hslot'] at hversion hsome hempty
      cases hsome
      have hempty' : link.shared.commands.slot.value = none := by rw [hshared]; exact hempty
      have hprogress := h.progress
      rw [hfull] at hprogress
      obtain ⟨rfl, hnext, hdone⟩ := hprogress.eq_of_some
      constructor
      · show d.posted = d.obeyed ++ [(_, command)] ++ link.shared.commands.slot.value.toList
        rw [h.posted_eq, waiting, hfull, hempty', Phase.inHand_of_isDone hdone]
        simp
      · show link.shared.commands.version = _
        rw [hshared]
        exact hversion.trans h.version_eq
      · show Progress _ link.shared.status.acknowledged _ link.shared.commands.slot.value
        rw [hempty', hshared]
        exact .taken command hnext
      · show _ ∧ link.shared.status.acknowledged = _ ∨ _
        rw [hshared]
        exact h.seen
    · -- Something was taken.
      rw [hslot'] at hnone
      cases hnone
  · rename_i hresting _
    have hnow : ({ d with link := d.link.atTime now } : Dialogue σ).Sound := h.withLink rfl
    exact hnow.withPhase (by show d.phase.isDone = true; rw [hresting]; rfl) rfl
  · exact h

theorem obey (h : d.Sound) (env : Surroundings σ) (asides : Nat → Aside) :
    (d.obey env asides).Sound := by
  unfold Dialogue.obey
  split
  · rename_i version command hphase
    have hobeyed := h.withLink (Link.wire_obey env (Aside.sparesWire asides) command d.link)
    have hprogress := hobeyed.progress
    simp only [hphase] at hprogress
    obtain ⟨rfl, hnext, hempty⟩ := hprogress.eq_of_taken
    constructor
    · -- The command goes from the hands of the radio to those that were obeyed.
      have hposted := hobeyed.posted_eq
      simp only [hphase, Phase.inHand] at hposted
      show d.posted = d.obeyed ++ [(_, command)] ++ [] ++ _
      rw [List.append_nil]
      exact hposted
    · exact hobeyed.version_eq
    · simp only [hempty]
      exact .obeyed hnext
    · exact hobeyed.seen
  · exact h

theorem acknowledge (h : d.Sound) : d.acknowledge.Sound := by
  unfold Dialogue.acknowledge
  split
  · rename_i version hphase
    have hprogress := h.progress
    rw [hphase] at hprogress
    obtain ⟨rfl, hempty⟩ := hprogress.eq_of_obeyed
    constructor
    · have hposted := h.posted_eq
      rw [hphase] at hposted
      exact hposted
    · exact h.version_eq
    · show Progress _ d.controller.posted .working d.link.shared.commands.slot.value
      rw [hempty]
      exact .settled rfl rfl
    · -- What the host read before stays behind, unless it knew already.
      obtain ⟨hseen, -⟩ | hnext := h.seen
      · exact .inl ⟨hseen, rfl⟩
      · exact .inr hnext
  · exact h

theorem work (h : d.Sound) (env : Surroundings σ) (asides : Nat → Aside) :
    (d.work env asides).Sound := by
  unfold Dialogue.work
  split
  · rename_i hworking
    have hworked := h.withLink (Link.wire_work env (Aside.sparesWire asides) d.link)
    exact hworked.withPhase (by show d.phase.isDone = true; rw [hworking]; rfl) rfl
  · exact h

theorem receive (h : d.Sound) (env : Surroundings σ) (octets : List UInt8) (rssi : UInt8)
    (now : Nat) (seized : Nat → Bool) : (d.receive env octets rssi now seized).Sound := by
  unfold Dialogue.receive
  split
  · exact h.withLink (Link.wire_receiveAmid env seized octets rssi now d.link)
  · exact h

theorem step (h : d.Sound) (env : Surroundings σ) (action : Action) :
    (d.step env action).Sound := by
  cases action with
  | look => exact h.look
  | call call => exact h.perform call
  | aside aside =>
    refine h.withLink ?_
    simp only [Link.wire, aside.commands_act, aside.status_act]
  | hold who => exact h.withHolder (Mailbox.version_hold _ who) (Mailbox.value_hold _ who)
  | release => exact h.withHolder rfl rfl
  | take now => exact h.take now
  | obey asides => exact h.obey env asides
  | acknowledge => exact h.acknowledge
  | work asides => exact h.work env asides
  | receive octets rssi now seized => exact h.receive env octets rssi now seized

theorem run (h : d.Sound) (env : Surroundings σ) (actions : List Action) :
    (run env actions d).Sound := by
  induction actions generalizing d with
  | nil => exact h
  | cons action rest ih => exact ih (h.step env action)

end Sound

/-! ### The beginning -/

/-- The host before the radio is attached: it was started, and then called. -/
def hostAfter (calls : List Call) (h : Host) : Host :=
  calls.foldl (fun h call => (h.perform call).1) h

/-- A radio was attached to the memory of a host that posted its first command. -/
def start (controller : Controller) (link : Link σ) : Dialogue σ where
  controller
  link
  seen := link.shared.status
  phase := .resting
  posted := [(controller.posted, .enable)]
  obeyed := []

/-- A host that was started has posted its first command, which waits to be taken. -/
structure Enabled (h : Host) : Prop where
  version_eq : h.shared.commands.version = h.controller.posted
  slot_eq : h.shared.commands.slot.value = some (h.controller.posted, .enable)
  next : h.shared.status.acknowledged + 1 = h.controller.posted

theorem enabled_of_start {store : Nat → Option Profile} {r r' : Region} {controller : Controller}
    {memory : SharedState} (hstart : Controller.start store r = (r', .ok controller))
    (hmemory : r'.attach? = some memory) : Enabled ⟨controller, memory⟩ := by
  unfold Controller.start at hstart
  split at hstart
  · cases hstart
  · rename_i initialized hinit
    split at hstart
    · rename_i posted version hpost
      cases hstart
      -- Memory that was just reset has no open command, so the one posted now is the next.
      have hreset : (initialized.memory.getD .fresh).status.acknowledged =
          (initialized.memory.getD .fresh).commands.version := by
        unfold Region.init at hinit
        split at hinit
        · cases hinit
        · simp only at hinit
          split at hinit
          · rename_i hreset
            cases hinit
            exact SharedState.acknowledged_reset (Prod.ext rfl hreset)
          · cases hinit
      have hsame : memory = posted := by
        unfold Region.attach? at hmemory
        split at hmemory
        · exact (Option.some.inj hmemory).symm
        · cases hmemory
      obtain ⟨hposted, hstatus⟩ := SharedState.eq_of_postCommand hpost
      obtain ⟨hnext, hversion, hvalue⟩ := Mailbox.eq_of_post hposted
      rw [hsame]
      exact ⟨hversion, hvalue, by rw [hstatus, hreset]; exact hnext.symm⟩
    · cases hstart

/-- As long as nothing is acknowledged, calls post nothing. -/
theorem enabled_hostAfter {h : Host} (henabled : Enabled h) (calls : List Call) :
    Enabled (hostAfter calls h) := by
  induction calls generalizing h with
  | nil => exact henabled
  | cons call rest ih =>
    refine ih ?_
    obtain ⟨command?, hposts⟩ := Host.posts_perform call h
    obtain ⟨-, hcommands, hposted⟩ := hposts.of_open (isReached_of_next henabled.next)
    constructor
    · rw [hcommands, hposted]
      exact henabled.version_eq
    · rw [hcommands, hposted]
      exact henabled.slot_eq
    · rw [hposts.status_eq, hposted]
      exact henabled.next

theorem sound_start {h : Host} (henabled : Enabled h) {settings : Link.Settings}
    {address : MacAddress} {outside : σ} {s : SharedState} {link : Link σ}
    (hattach : Link.attach settings address outside h.shared = (s, .ok link)) :
    (start h.controller link).Sound := by
  have hwire : link.wire = ⟨h.shared.commands, h.shared.status.acknowledged⟩ := by
    obtain ⟨producer, rx, tx, rfl⟩ := Link.attach_eq_ok hattach
    rfl
  obtain ⟨hcommands, hacknowledged⟩ := Link.Wire.mk.inj hwire
  constructor
  · show [_] = [] ++ [] ++ link.shared.commands.slot.value.toList
    rw [hcommands, henabled.slot_eq]
    rfl
  · show link.shared.commands.version = _
    rw [hcommands]
    exact henabled.version_eq
  · show Progress _ link.shared.status.acknowledged _ link.shared.commands.slot.value
    rw [hcommands, hacknowledged, henabled.slot_eq]
    exact .waiting .enable rfl henabled.next
  · right
    show link.shared.status.acknowledged + 1 = _
    rw [hacknowledged]
    exact henabled.next

/-! ### All runs -/

/-- What becomes of the commands of the host. -/
structure KeepsOrder (d : Dialogue σ) : Prop where
  /-- Every command is obeyed once at most, and in the order in which they were posted.  One that
  was not obeyed yet is still in the hands of the radio or in the slot. -/
  posted_eq : d.posted = d.obeyed ++ d.phase.inHand ++ d.waiting
  /-- There is one such command at most. -/
  length_le : (d.phase.inHand ++ d.waiting).length ≤ 1
  /-- Once the last command is acknowledged, all of them were obeyed. -/
  obeyed_eq : ¬ d.IsOpen → d.obeyed = d.posted
  /-- While it is not, requests are refused and the mailbox stays as it is. -/
  refused : d.IsOpen → ∀ call,
    (d.perform call).link.shared.commands = d.link.shared.commands ∧
      (d.perform call).posted = d.posted ∧
      (call.isRequest = true →
        (d.host.perform call).2 = .refused ((d.host.objection? call).getD .busy))

theorem keepsOrder_of_sound (h : d.Sound) : d.KeepsOrder where
  posted_eq := h.posted_eq
  length_le := by
    have hprogress := h.progress
    unfold waiting
    generalize d.phase = phase, d.link.shared.commands.slot.value = slot at hprogress ⊢
    cases hprogress with
    | settled done => simp [Phase.inHand_of_isDone done]
    | waiting _ done => simp [Phase.inHand_of_isDone done]
    | taken => simp [Phase.inHand]
    | obeyed => simp [Phase.inHand]
  obeyed_eq := by
    intro hsettled
    have hprogress := h.progress
    rw [not_not.mp hsettled] at hprogress
    obtain ⟨hdone, hempty⟩ := hprogress.eq_none_of_reached
    rw [h.posted_eq, waiting, hempty, Phase.inHand_of_isDone hdone]
    simp
  refused := by
    intro hopen call
    -- However old the status is that the host goes by, it does not tell more than is true.
    have hseen : d.host.isAcknowledged = false := by
      obtain ⟨-, hreached⟩ | hnext := h.seen
      · exact absurd hreached hopen
      · exact isReached_of_next hnext
    obtain ⟨hcommands, hrefused⟩ := Host.perform_of_open hseen call
    have hcommands' : (d.host.perform call).1.shared.commands = d.link.shared.commands := hcommands
    refine ⟨hcommands, ?_, hrefused⟩
    show d.posted ++ _ = d.posted
    simp [Mailbox.posted?, hcommands']

/-- Whatever both sides do in whatever order, commands are obeyed in the order in which they were
posted, once at most, and none is replaced before it was taken. -/
theorem keepsOrder_run {store : Nat → Option Profile} {r r' : Region} {controller : Controller}
    {memory s : SharedState} {settings : Link.Settings} {address : MacAddress} {outside : σ}
    {link : Link σ} (hstart : Controller.start store r = (r', .ok controller))
    (hmemory : r'.attach? = some memory) (calls : List Call)
    (hattach : Link.attach settings address outside (hostAfter calls ⟨controller, memory⟩).shared =
      (s, .ok link)) (env : Surroundings σ) (actions : List Action) :
    (run env actions (start (hostAfter calls ⟨controller, memory⟩).controller link)).KeepsOrder :=
  keepsOrder_of_sound
    ((sound_start (enabled_hostAfter (enabled_of_start hstart hmemory) calls) hattach).run env
      actions)

/-- Memory that was in use until there were almost no versions left. -/
def wornRegion : Region := ⟨some { SharedState.fresh with commands.version := 0xfffffffd }, false⟩

/-- A host that was started in this memory. -/
def wornHost : Host where
  controller := .afterPost [] 0xfffffffe
  shared := (Controller.start (fun _ => none) wornRegion).1.memory.getD .fresh

/-- Versions start over, and one call comes while the radio acts upon the command before. -/
def wrappingActions : List Action :=
  let idle : Nat → Aside := fun _ => .idle
  [.take 0, .obey idle, .acknowledge, .work idle, .look, .call (.scan .all),
    .take 1, .look, .call .disconnect, .obey idle, .acknowledge, .look, .call .disconnect,
    .work idle, .take 2, .obey idle, .acknowledge, .work idle, .look, .call (.scan .all)]

theorem keepsOrder_run_wrappingActions : ∃ r s link,
    Controller.start (fun _ => none) wornRegion = (r, .ok wornHost.controller) ∧
      r.attach? = some wornHost.shared ∧
      Link.attach .standard .zero () (hostAfter [.disconnect] wornHost).shared = (s, .ok link) ∧
      (run (.answering .refused) wrappingActions
        (start (hostAfter [.disconnect] wornHost).controller link)).posted =
          [(0xfffffffe, .enable), (0xffffffff, .scan), (0, .stop), (1, .scan)] ∧
      (run (.answering .refused) wrappingActions
        (start (hostAfter [.disconnect] wornHost).controller link)).KeepsOrder := by
  have hstart : Controller.start (fun _ => none) wornRegion = (_, .ok wornHost.controller) := rfl
  have hmemory : (Controller.start (fun _ => none) wornRegion).1.attach? =
    some wornHost.shared := rfl
  have hattach : Link.attach .standard .zero () (hostAfter [.disconnect] wornHost).shared =
    (_, .ok _) := rfl
  exact ⟨_, _, _, hstart, hmemory, hattach, by decide +kernel,
    keepsOrder_run hstart hmemory [.disconnect] hattach _ _⟩

end Dialogue

end WlanControl
