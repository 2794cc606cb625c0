import WlanControl.Proofs.CommandTraffic
import WlanControl.Proofs.HostServing
import WlanControl.Proofs.LinkTidiness

namespace WlanControl

open Host (Call Controller)
open Link (Surroundings)

/-!
# What a poll tells of the radio

The host knows no more of the radio than its status, which it does not read all at once: first the
version that was acknowledged, and then the mode.  Yet a link that a poll tells of is the one that
the host asked for last, and so is a session.  The mode is never that of an earlier request.

* `Link.Follows` — the radio does what a command says, as long as it gets no other one;
* `Dialogue.Attends` — the invariant of both sides;
* `Dialogue.hostings` — the sessions that the application asked for, and got;
* `Dialogue.polling`, `Dialogue.TellsTrue` — a poll, and what has to be true if it tells of a link
  or of a session.

Main statement: `Dialogue.tellsTrue_run`, what a poll tells is true of the radio, whatever happened
before and while the status was read.
-/

variable {σ : Type}

namespace Link

variable {l l' : Link σ} (env : Surroundings σ)

/-! ### What the radio does for a command -/

theorem machine_of_take?_eq_some {version : UInt32} {command : Command}
    (h : l.take? = some (l', version, command)) : l'.machine = l.machine := by
  unfold take? at h
  split at h
  · cases h
    rfl
  · cases h

/-- No turn of an attempt disables the radio. -/
theorem Stage.Turns.ne_disabled {s s' : Stage} (h : Stage.Turns s s') (hs : s.mode ≠ .disabled) :
    s'.mode ≠ .disabled := by
  cases h with
  | stays | retried | challenged | authenticated | associated => exact hs
  | admitted | secured | deassociated | restarted | failed => simp

/-- The radio does what a command says. -/
structure Follows (command : Command) (l : Link σ) : Prop where
  enabled : l.machine.mode ≠ .disabled
  target_eq : ∀ target, command.target? = some target → l.machine.target = some target
  host_eq : ∀ parameters, command.parameters? = some parameters →
    l.machine.host = some parameters

/-- Ticks and frames keep to the command. -/
theorem Follows.of_advances {command : Command} (h : l.Follows command)
    (hadvances : Advances l l') (hturns : Stage.Turns l.stage l'.stage) :
    l'.Follows command where
  enabled := hturns.ne_disabled h.enabled
  target_eq target htarget := hadvances.target_eq.trans (h.target_eq target htarget)
  host_eq parameters hparameters := hadvances.host_eq.trans (h.host_eq parameters hparameters)

/-- For most commands it is enough that the radio is not disabled. -/
theorem follows_of_none {command : Command} (htarget : command.target? = none)
    (hparameters : command.parameters? = none) (henabled : l.machine.mode ≠ .disabled) :
    l.Follows command where
  enabled := henabled
  target_eq _ h := by cases htarget.symm.trans h
  host_eq _ h := by cases hparameters.symm.trans h

/-- A radio that is not disabled does what it is told. -/
theorem follows_obey (meanwhile : Meanwhile) {command : Command}
    (henabled : l.machine.mode ≠ .disabled ∨ command = .enable) (hpower : command ≠ .powerOff) :
    (l.obey env meanwhile command).Follows command := by
  unfold obey
  split
  · rename_i hdisabled
    obtain rfl := henabled.resolve_left (not_not.mpr hdisabled)
    exact follows_of_none rfl rfl (by rw [mode_setMode]; decide)
  · rename_i hmode
    cases command with
    | enable => exact follows_of_none rfl rfl hmode
    | powerOff => exact absurd rfl hpower
    | stop => exact follows_of_none rfl rfl (by rw [(mode_leaveMode env l).1]; decide)
    | scan => exact follows_of_none rfl rfl (by rw [mode_startScan]; decide)
    | connect target =>
      have hmode' : ((l.leaveMode env).startConnecting env target).machine.mode = .connecting :=
        congrArg Stage.mode (stage_startConnecting env target _)
      refine ⟨by rw [hmode']; decide, fun target' htarget => ?_, fun _ h => by cases h⟩
      cases htarget
      exact congrArg Course.target (course_startConnecting env target _)
    | host parameters =>
      obtain ⟨hhosting, hhost⟩ := host_startHosting env parameters
        ((l.leaveMode env).pause meanwhile 0)
      refine ⟨by rw [hhosting]; decide, fun _ h => (by cases h), fun parameters' hparameters => ?_⟩
      cases hparameters
      exact hhost

end Link

namespace Dialogue

variable {d d' : Dialogue σ}

/-! ### The invariant of both sides -/

/-- The last command that was posted serves the request, and the radio does what the last one says
that it acted upon. -/
structure Attends (d : Dialogue σ) : Prop where
  sound : d.Sound
  mode_eq : d.link.shared.status.mode = d.link.machine.mode
  /-- The radio is enabled at first, and stays so. -/
  enabling : d.posted.head?.map Prod.snd = some .enable
  remains : ∀ posted ∈ d.posted, posted.2 ≠ .powerOff
  served : ∃ version command, d.posted.getLast? = some (version, command) ∧
    d.controller.request.ServedBy command
  follows : ∀ version command, d.obeyed.getLast? = some (version, command) →
    d.link.Follows command

/-- What a call posts comes last. -/
theorem posted_perform {call : Call} {command? : Option Command}
    (hposts : d.host.Posts command? (d.host.perform call).1) :
    (d.perform call).posted = d.posted ++ (command?.map fun command =>
      ((d.perform call).controller.posted, command)).toList :=
  congrArg (fun posted : Option (UInt32 × Command) => d.posted ++ posted.toList) hposts.posted?_eq

namespace Attends

/-- Neither side goes on to another command. -/
theorem of_same (h : d.Attends) (hsound : d'.Sound)
    (hmode : d'.link.shared.status.mode = d'.link.machine.mode)
    (hrequest : d'.controller.request = d.controller.request) (hposted : d'.posted = d.posted)
    (hobeyed : d'.obeyed = d.obeyed)
    (hfollows : ∀ {command}, d.link.Follows command → d'.link.Follows command) :
    d'.Attends where
  sound := hsound
  mode_eq := hmode
  enabling := by
    rw [hposted]
    exact h.enabling
  remains := by
    rw [hposted]
    exact h.remains
  served := by
    rw [hposted, hrequest]
    exact h.served
  follows := by
    rw [hobeyed]
    exact fun version command hlast => hfollows (h.follows version command hlast)

/-- The shared memory changes, but nothing that the radio has stored. -/
theorem share (h : d.Attends) {s : SharedState} (hstatus : s.status = d.link.shared.status)
    (hsound : ({ d with link.shared := s } : Dialogue σ).Sound) :
    ({ d with link.shared := s } : Dialogue σ).Attends := by
  refine h.of_same hsound ?_ rfl rfl rfl fun hf => ⟨hf.enabled, hf.target_eq, hf.host_eq⟩
  show s.status.mode = d.link.machine.mode
  rw [hstatus]
  exact h.mode_eq

/-- The radio goes on with what it does. -/
theorem advance (h : d.Attends) {link : Link σ} {phase : Phase}
    (hadvances : Link.Advances d.link link) (hturns : Link.Stage.Turns d.link.stage link.stage)
    (hsound : ({ d with link, phase } : Dialogue σ).Sound) :
    ({ d with link, phase } : Dialogue σ).Attends :=
  h.of_same hsound (hadvances.mode.eq_of_eq h.mode_eq) rfl rfl rfl
    fun hf => hf.of_advances hadvances hturns

/-! ### Steps of the host -/

theorem perform (h : d.Attends) (call : Call) : (d.perform call).Attends := by
  have hsound := h.sound.perform call
  obtain ⟨command?, hserving, -⟩ := Host.serving_perform call d.host
  have hposted := posted_perform hserving.posts
  have hfollows {command : Command} (hf : d.link.Follows command) :
      (d.perform call).link.Follows command := ⟨hf.enabled, hf.target_eq, hf.host_eq⟩
  cases hserving with
  | none _ request_eq =>
    rw [Option.map_none, Option.toList_none, List.append_nil] at hposted
    exact h.of_same hsound h.mode_eq request_eq hposted rfl hfollows
  | one _ served =>
    rename_i command
    rw [Option.map_some, Option.toList_some] at hposted
    constructor
    · exact hsound
    · exact h.mode_eq
    · obtain ⟨first, hfirst, hcommand⟩ := Option.map_eq_some_iff.mp h.enabling
      rw [hposted, List.head?_append, hfirst]
      exact congrArg some hcommand
    · intro posted hmem
      rw [hposted] at hmem
      rcases List.mem_append.mp hmem with hmem | hmem
      · exact h.remains posted hmem
      · rw [List.mem_singleton.mp hmem]
        exact served.ne_powerOff
    · rw [hposted, List.getLast?_concat]
      exact ⟨_, _, rfl, served⟩
    · exact fun version command hlast => hfollows (h.follows version command hlast)

/-! ### Steps of the radio -/

theorem take (h : d.Attends) (now : Nat) : (d.take now).Attends := by
  have hsound := h.sound.take now
  revert hsound
  unfold Dialogue.take
  split
  · rename_i link version command _ htake
    intro hsound
    have hmachine : link.machine = (d.link.atTime now).machine :=
      Link.machine_of_take?_eq_some htake
    obtain ⟨commands, -, hshared⟩ := Link.take?_eq_some htake
    refine h.of_same hsound ?_ rfl rfl rfl fun hf => ?_
    · show link.shared.status.mode = link.machine.mode
      rw [hmachine, hshared]
      exact h.mode_eq
    · constructor
      · rw [hmachine]
        exact hf.enabled
      · rw [hmachine]
        exact hf.target_eq
      · rw [hmachine]
        exact hf.host_eq
  · exact h.advance (Link.advances_atTime now d.link) (.stays _)
  · exact fun _ => h

theorem obey (h : d.Attends) (env : Surroundings σ) (asides : Nat → Aside) :
    (d.obey env asides).Attends := by
  have hsound := h.sound.obey env asides
  revert hsound
  unfold Dialogue.obey
  split
  · rename_i version command hphase
    intro hsound
    have hposted : d.posted = d.obeyed ++ (version, command) :: d.waiting := by
      rw [h.sound.posted_eq, hphase, List.append_assoc]
      rfl
    -- The radio was enabled by an earlier command, unless this is the first one.
    have hready : d.link.machine.mode ≠ .disabled ∨ command = .enable := by
      cases hlast : d.obeyed.getLast? with
      | none =>
        right
        have hfirst := h.enabling
        rw [hposted, List.getLast?_eq_none_iff.mp hlast] at hfirst
        exact Option.some.inj hfirst
      | some last => exact .inl (h.follows last.1 last.2 hlast).enabled
    have hpower : command ≠ .powerOff := h.remains (version, command) (by simp [hposted])
    have hobeyed := Link.follows_obey env (fun step => (asides step).act) hready hpower
    have hreports := Link.reports_obey env (fun step s => (asides step).status_act s) command d.link
    constructor
    · exact hsound
    · exact hreports.mode.eq_of_eq h.mode_eq
    · exact h.enabling
    · exact h.remains
    · exact h.served
    · intro version' command' hlast
      rw [List.getLast?_concat] at hlast
      cases hlast
      exact hobeyed
  · exact fun _ => h

theorem acknowledge (h : d.Attends) : d.acknowledge.Attends := by
  have hsound := h.sound.acknowledge
  revert hsound
  unfold Dialogue.acknowledge
  split
  · intro hsound
    exact h.of_same hsound h.mode_eq rfl rfl rfl fun hf => ⟨hf.enabled, hf.target_eq, hf.host_eq⟩
  · exact fun _ => h

theorem work (h : d.Attends) (env : Surroundings σ) (asides : Nat → Aside) :
    (d.work env asides).Attends := by
  have hsound := h.sound.work env asides
  revert hsound
  unfold Dialogue.work
  split
  · exact h.advance
      (Link.advances_work env (fun step s => (asides step).status_act s) d.link)
      (Link.turns_work env _ d.link)
  · exact fun _ => h

theorem receive (h : d.Attends) (env : Surroundings σ) (octets : List UInt8) (rssi : UInt8)
    (now : Nat) (seized : Nat → Bool) : (d.receive env octets rssi now seized).Attends := by
  have hsound := h.sound.receive env octets rssi now seized
  revert hsound
  unfold Dialogue.receive
  split
  · exact h.advance (Link.advances_receiveAmid env seized octets rssi now d.link)
      (Link.turns_receiveAmid env seized octets rssi now d.link)
  · exact fun _ => h

theorem step (h : d.Attends) (env : Surroundings σ) (action : Action) :
    (d.step env action).Attends := by
  have hsound := h.sound.step env action
  cases action with
  | look => exact h.of_same hsound h.mode_eq rfl rfl rfl fun hf => hf
  | call call => exact h.perform call
  | aside aside => exact h.share (aside.status_act _) hsound
  | hold who => exact h.share rfl hsound
  | release => exact h.share rfl hsound
  | take now => exact h.take now
  | obey asides => exact h.obey env asides
  | acknowledge => exact h.acknowledge
  | work asides => exact h.work env asides
  | receive octets rssi now seized => exact h.receive env octets rssi now seized

theorem run (h : d.Attends) (env : Surroundings σ) (actions : List Action) :
    (run env actions d).Attends := by
  induction actions generalizing d with
  | nil => exact h
  | cons action rest ih => exact ih (h.step env action)

end Attends

/-! ### The beginning -/

theorem request_of_start {store : Nat → Option Profile} {r r' : Region} {controller : Controller}
    (hstart : Controller.start store r = (r', .ok controller)) : controller.request = .idle := by
  unfold Controller.start at hstart
  split at hstart
  · cases hstart
  · split at hstart
    · cases hstart
      rfl
    · cases hstart

/-- As long as nothing is acknowledged, no request is made. -/
theorem request_hostAfter {h : Host} (henabled : Enabled h) (calls : List Call) :
    (hostAfter calls h).controller.request = h.controller.request := by
  induction calls generalizing h with
  | nil => rfl
  | cons call rest ih =>
    have hafter : (h.perform call).1.controller.request = h.controller.request := by
      obtain ⟨command?, hserving, -⟩ := Host.serving_perform call h
      obtain ⟨rfl, -⟩ := hserving.posts.of_open (isReached_of_next henabled.next)
      cases hserving with
      | none _ request_eq => exact request_eq
    exact (ih (enabled_hostAfter henabled [call])).trans hafter

theorem attends_start {h : Host} (henabled : Enabled h) (hidle : h.controller.request = .idle)
    {settings : Link.Settings} {address : MacAddress} {outside : σ} {s : SharedState}
    {link : Link σ} (hattach : Link.attach settings address outside h.shared = (s, .ok link)) :
    (start h.controller link).Attends where
  sound := sound_start henabled hattach
  mode_eq := (Link.told_attach hattach).mode_eq
  enabling := rfl
  remains := by simp [start]
  served := ⟨_, _, rfl, hidle ▸ .enabling⟩
  follows := by
    intro version command hlast
    cases hlast

/-! ### Sessions that were asked for -/

/-- The session that is opened at the request of the application. -/
def hosting? (d : Dialogue σ) : Action → Option HostParameters
  | .call call => call.hosting? (d.host.perform call).2
  | _ => none

/-- The sessions that are opened in a run, at successful calls of the application. -/
def hostings (env : Surroundings σ) : List Action → Dialogue σ → List HostParameters
  | [], _ => []
  | action :: rest, d => (d.hosting? action).toList ++ hostings env rest (d.step env action)

/-- A step of either side that is no call of the application. -/
def Action.isCall : Action → Bool
  | .call _ => true
  | _ => false

/-- From one state of both sides to the other the application made no call. -/
structure Uncalled (d d' : Dialogue σ) : Prop where
  controller_eq : d'.controller = d.controller
  posted_eq : d'.posted = d.posted
  /-- The radio may have gone on with what was posted. -/
  obeyed_prefix : d.obeyed <+: d'.obeyed

theorem uncalled_step (env : Surroundings σ) {action : Action} (hcall : action.isCall = false) :
    Uncalled d (d.step env action) := by
  have hsame {d' : Dialogue σ} (hcontroller : d'.controller = d.controller)
      (hposted : d'.posted = d.posted) (hobeyed : d'.obeyed = d.obeyed) : Uncalled d d' :=
    ⟨hcontroller, hposted, hobeyed ▸ List.prefix_refl _⟩
  cases action with
  | look | aside | hold | release => exact hsame rfl rfl rfl
  | call call => cases hcall
  | take now =>
    show Uncalled d (d.take now)
    unfold Dialogue.take
    split <;> exact hsame rfl rfl rfl
  | obey asides =>
    show Uncalled d (d.obey env asides)
    unfold Dialogue.obey
    split
    · exact ⟨rfl, rfl, List.prefix_append _ _⟩
    · exact hsame rfl rfl rfl
  | acknowledge =>
    show Uncalled d d.acknowledge
    unfold Dialogue.acknowledge
    split <;> exact hsame rfl rfl rfl
  | work asides =>
    show Uncalled d (d.work env asides)
    unfold Dialogue.work
    split <;> exact hsame rfl rfl rfl
  | receive octets rssi now seized =>
    show Uncalled d (d.receive env octets rssi now seized)
    unfold Dialogue.receive
    split <;> exact hsame rfl rfl rfl

theorem uncalled_run (env : Surroundings σ) {actions : List Action}
    (hcalls : ∀ action ∈ actions, action.isCall = false) (d : Dialogue σ) :
    Uncalled d (run env actions d) := by
  induction actions generalizing d with
  | nil => exact ⟨rfl, rfl, List.prefix_refl _⟩
  | cons action rest ih =>
    have hfirst : Uncalled d (d.step env action) :=
      uncalled_step env (hcalls action List.mem_cons_self)
    have hrest := ih (fun a ha => hcalls a (List.mem_cons_of_mem _ ha)) (d.step env action)
    exact ⟨hrest.controller_eq.trans hfirst.controller_eq, hrest.posted_eq.trans hfirst.posted_eq,
      hfirst.obeyed_prefix.trans hrest.obeyed_prefix⟩

/-- The commands that open sessions. -/
def sessions (d : Dialogue σ) : List HostParameters :=
  d.posted.filterMap fun posted => posted.2.parameters?

theorem sessions_step (env : Surroundings σ) (action : Action) :
    (d.step env action).sessions = d.sessions ++ (d.hosting? action).toList := by
  by_cases hcall : action.isCall = true
  · cases action with
    | call call =>
      obtain ⟨command?, hserving, hparameters⟩ := Host.serving_perform call d.host
      have hposted := posted_perform hserving.posts
      show (d.perform call).sessions = d.sessions ++ (call.hosting? (d.host.perform call).2).toList
      rw [← hparameters, sessions, hposted, List.filterMap_append, sessions]
      cases command? with
      | none => rfl
      | some command => cases command <;> rfl
    | look | aside | hold | release | take | obey | acknowledge | work | receive => cases hcall
  · have huncalled : Uncalled d (d.step env action) := uncalled_step env (by simpa using hcall)
    have hnone : d.hosting? action = none := by
      cases action with
      | call => exact absurd rfl hcall
      | look | aside | hold | release | take | obey | acknowledge | work | receive => rfl
    rw [hnone, Option.toList_none, List.append_nil, sessions, huncalled.posted_eq, sessions]

/-- A session is opened for each successful call for one, and for nothing else. -/
theorem sessions_run (env : Surroundings σ) (actions : List Action) (d : Dialogue σ) :
    (run env actions d).sessions = d.sessions ++ hostings env actions d := by
  induction actions generalizing d with
  | nil => simp [run, hostings]
  | cons action rest ih =>
    show (run env rest (d.step env action)).sessions = _
    rw [ih, sessions_step, hostings, List.append_assoc]

/-! ### Polls -/

/-- The host in the course of a poll.  It has read which version was acknowledged when all was as in
`before`, and reads the rest of the status now. -/
def polling (before d : Dialogue σ) : Host where
  controller := d.controller
  shared := { d.link.shared with
    status.acknowledged := before.link.shared.status.acknowledged }

/-- What has to be true if a poll tells of a link or of a session, after the sessions in `hosted`
were opened. -/
structure TellsTrue (hosted : List HostParameters) (before d : Dialogue σ) : Prop where
  /-- The link is to the access point of the last command to connect. -/
  linked : ((polling before d).poll.2 = .acquiringAddress ∨
      (polling before d).poll.2 = .associated) →
    d.link.machine.mode = .connected ∧ ∃ target, d.link.machine.target = some target ∧
      (d.posted.filterMap fun posted => posted.2.target?).getLast? = some target
  /-- The session is the one that was opened last. -/
  hosting : (polling before d).isAcknowledged = true → (polling before d).poll.2 = .hosting →
    d.link.machine.mode = .accessPoint ∧ ∃ parameters,
      d.link.machine.host = some parameters ∧ hosted.getLast? = some parameters

/-- What is made of the last one comes last. -/
theorem getLast?_filterMap {α β : Type} {xs : List α} {x : α} {y : β} {f : α → Option β}
    (hlast : xs.getLast? = some x) (hf : f x = some y) : (xs.filterMap f).getLast? = some y := by
  obtain ⟨ys, rfl⟩ := List.getLast?_eq_some_iff.mp hlast
  simp [List.filterMap_append, hf]

/-- Once the last command was acknowledged the radio does what it says. -/
theorem Attends.follows_last {before : Dialogue σ} (hbefore : before.Attends) (h : d.Attends)
    (huncalled : Uncalled before d) (hacknowledged : (polling before d).isAcknowledged = true)
    {version : UInt32} {command : Command} (hlast : d.posted.getLast? = some (version, command)) :
    d.link.Follows command := by
  have hreached : before.link.shared.status.acknowledged = before.controller.posted := by
    obtain hreached | hnext := hbefore.sound.progress.reached_or_next
    · exact hreached
    · rw [← huncalled.controller_eq] at hnext
      cases (isReached_of_next hnext).symm.trans hacknowledged
  have hdone : before.obeyed = before.posted :=
    (keepsOrder_of_sound hbefore.sound).obeyed_eq (not_not.mpr hreached)
  -- The radio has acted upon all commands before the rest of the status was read.
  have hobeyed : d.obeyed = d.posted := by
    have hprefix := huncalled.obeyed_prefix
    rw [hdone, ← huncalled.posted_eq] at hprefix
    have hrest : d.obeyed <+: d.posted := by
      rw [h.sound.posted_eq, List.append_assoc]
      exact List.prefix_append _ _
    exact hrest.sublist.antisymm hprefix.sublist
  exact h.follows version command (hobeyed ▸ hlast)

theorem tellsTrue_of_attends {before : Dialogue σ} (hbefore : before.Attends) (h : d.Attends)
    (huncalled : Uncalled before d) : TellsTrue d.sessions before d := by
  obtain ⟨version, command, hlast, hserved⟩ := h.served
  constructor
  · intro hpoll
    obtain ⟨hacknowledged, hrequest, hmode⟩ := Host.of_poll_linked hpoll
    have hrequest' : d.controller.request = .connect := hrequest
    rw [hrequest'] at hserved
    cases hserved with
    | connect target =>
      have hfollows := hbefore.follows_last h huncalled hacknowledged hlast
      exact ⟨h.mode_eq.symm.trans hmode, target, hfollows.target_eq target rfl,
        getLast?_filterMap hlast rfl⟩
  · intro hacknowledged hpoll
    obtain ⟨hrequest, hmode⟩ := Host.of_poll_hosting hacknowledged hpoll
    have hrequest' : d.controller.request = .host := hrequest
    rw [hrequest'] at hserved
    cases hserved with
    | host parameters =>
      have hfollows := hbefore.follows_last h huncalled hacknowledged hlast
      exact ⟨h.mode_eq.symm.trans hmode, parameters, hfollows.host_eq parameters rfl,
        getLast?_filterMap hlast rfl⟩

/-- Whatever both sides did in whatever order, and whatever the radio does in the course of a poll:
if the poll tells of a link, the radio is connected to the access point of the last command to
connect, and if it tells of a session whose command was acknowledged, the radio hosts the one of the
last successful call for a session. -/
theorem tellsTrue_run {store : Nat → Option Profile} {r r' : Region} {controller : Controller}
    {memory s : SharedState} {settings : Link.Settings} {address : MacAddress} {outside : σ}
    {link : Link σ} (hstart : Controller.start store r = (r', .ok controller))
    (hmemory : r'.attach? = some memory) (calls : List Call)
    (hattach : Link.attach settings address outside (hostAfter calls ⟨controller, memory⟩).shared =
      (s, .ok link)) (env : Surroundings σ) (actions : List Action) {between : List Action}
    (hbetween : ∀ action ∈ between, action.isCall = false) :
    let d₀ := start (hostAfter calls ⟨controller, memory⟩).controller link
    TellsTrue (hostings env actions d₀) (run env actions d₀)
      (run env between (run env actions d₀)) := by
  intro d₀
  have henabled := enabled_of_start hstart hmemory
  have hidle := (request_hostAfter henabled calls).trans (request_of_start hstart)
  have hattends : d₀.Attends := attends_start (enabled_hostAfter henabled calls) hidle hattach
  have hbefore := hattends.run env actions
  have huncalled := uncalled_run env hbetween (run env actions d₀)
  have hsessions : (run env between (run env actions d₀)).sessions = hostings env actions d₀ := by
    rw [sessions, huncalled.posted_eq, ← sessions, sessions_run]
    rfl
  rw [← hsessions]
  exact tellsTrue_of_attends hbefore (hbefore.run env between) huncalled

/-- A tick in the course of which the host does nothing. -/
def ticking (now : Nat) : List Action :=
  [.take now, .obey fun _ => .idle, .acknowledge, .work fun _ => .idle]

/-- The access point sends a frame. -/
def hearing (fields : List Frame.Field) : Action :=
  .receive ((Frame.encode? Frame.maxFrameLength fields).getD []) 0 1 fun _ => false

/-- The application wants to connect to an access point, which is found, and the station is on its
way into the network. -/
def approachingActions : List Action :=
  ticking 0 ++
    [.look, .call (.connect ⟨Link.networkAddress, none, none⟩ none .dhcp)] ++ ticking 1 ++
    [hearing (Frame.beacon ⟨Link.networkAddress, 100, .none, .empty, 1, [0x82], none, []⟩ 0),
      .look, .call .poll] ++ ticking 2 ++
    [hearing (Frame.authentication Link.stationAddress Link.networkAddress Link.networkAddress 0
      { algorithm := .openSystem, sequence := 2, status := .success, challenge := none } false)]

/-- The access point lets the station in. -/
def admission : Action :=
  hearing (Frame.associationResponse Link.stationAddress Link.networkAddress 0 .success 1)

/-- The station gets into the network in the course of a poll, which tells of it. -/
theorem tellsTrue_run_admission : ∃ r s link,
    Controller.start (fun _ => none) wornRegion = (r, .ok wornHost.controller) ∧
      r.attach? = some wornHost.shared ∧
      Link.attach .standard Link.stationAddress () (hostAfter [.disconnect] wornHost).shared =
        (s, .ok link) ∧
      let d₀ := start (hostAfter [.disconnect] wornHost).controller link
      let before := run (.answering .refused) approachingActions d₀
      let d := run (.answering .refused) [admission] before
      (polling before d).poll.2 = .acquiringAddress ∧
        TellsTrue (hostings (.answering .refused) approachingActions d₀) before d := by
  have hstart : Controller.start (fun _ => none) wornRegion = (_, .ok wornHost.controller) := rfl
  have hmemory : (Controller.start (fun _ => none) wornRegion).1.attach? =
    some wornHost.shared := rfl
  have hattach : Link.attach .standard Link.stationAddress ()
    (hostAfter [.disconnect] wornHost).shared = (_, .ok _) := rfl
  refine ⟨_, _, _, hstart, hmemory, hattach, by decide +kernel, ?_⟩
  exact tellsTrue_run hstart hmemory [.disconnect] hattach _ approachingActions
    (by simp [admission, hearing, Action.isCall])

end Dialogue

end WlanControl
