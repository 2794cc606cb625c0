import WlanControl.Host.Poll
import WlanControl.Host.Requests
import WlanControl.Proofs.MailboxTraffic

namespace WlanControl.Host

open Discovery (ScanFilter)

/-!
# The host — its calls

The application calls the host, which posts a command at most, and only once the radio acknowledged
the one before.

* `Call`, `Answer`, `perform` — what the application may call, and what it is told;
* `Posts` — all that a call may do about commands;
* `objection?` — what the host has against a request, be a command open or not;
* `Asks` — all that a call may do to the shared memory, with `asks_perform`;
* `KeptByPosting` — what commands keep, those calls keep that only post one;
* `KeptByAsking` — what the single things keep that a call may do to it, all calls keep.

Main statements: `posts_perform`, a call posts one command or none, and `perform_of_open`, while a
command is open every request is refused.
-/

/-! ### Calls -/

/-- What the application may call. -/
inductive Call
  | connect (descriptor : Descriptor) (key : Option Key) (ip : IpConfig)
  | autoConnect
  | scan (filter : ScanFilter)
  | host (parameters : HostParameters)
  | disconnect
  | poll
  | setAdmission (accepting : Bool)
  | kick (aid : UInt16)
  | kickUnassociated
  | notifyAddressAcquired
deriving DecidableEq, Repr

/-- What the application is told. -/
inductive Answer
  | done
  | refused (e : RequestError)
  | status (status : ConnectionStatus)
deriving DecidableEq, Repr

/-- The answer that goes with a result. -/
def Answer.ofResult : Except RequestError Unit → Answer
  | .ok () => .done
  | .error e => .refused e

/-- The host after a call, and its answer. -/
def perform (call : Call) (h : Host) : Host × Answer :=
  match call with
  | .connect descriptor key ip => (h.connect descriptor key ip).map id .ofResult
  | .autoConnect => h.autoConnect.map id .ofResult
  | .scan filter => (h.scan filter).map id .ofResult
  | .host parameters => (h.host parameters).map id .ofResult
  | .disconnect => h.disconnect.map id .ofResult
  | .poll => h.poll.map id .status
  | .setAdmission accepting => (h.setAdmission accepting).map id .ofResult
  | .kick aid => (h.kick aid).map id .ofResult
  | .kickUnassociated => h.kickUnassociated.map id .ofResult
  | .notifyAddressAcquired => (h.notifyAddressAcquired, .done)

/-- Whether the application wants something else of the radio than it wanted before. -/
def Call.isRequest : Call → Bool
  | .connect _ _ _ | .autoConnect | .scan _ | .host _ | .disconnect => true
  | _ => false

/-- What the host has against a request, be a command open or not. -/
def objection? (call : Call) (h : Host) : Option RequestError :=
  match call with
  | .autoConnect => if h.controller.profiles.isEmpty then some .noProfiles else none
  | .host parameters =>
    match parameters.validate with
    | .ok () => none
    | .error e => some e
  | _ => none

/-! ### What a call does about commands -/

/-- A call posts no command, or it posts one once the last one was acknowledged. -/
inductive Posts (h : Host) : Option Command → Host → Prop
  | none {h' : Host} (commands_eq : h'.shared.commands = h.shared.commands)
    (posted_eq : h'.controller.posted = h.controller.posted)
    (status_eq : h'.shared.status = h.shared.status) : Posts h none h'
  | one {h' : Host} (command : Command) (acknowledged : h.isAcknowledged = true)
    (post_eq : h.shared.commands.post command =
      (h'.shared.commands, some h'.controller.posted))
    (status_eq : h'.shared.status = h.shared.status) : Posts h (some command) h'

variable {h h' : Host}

namespace Posts

theorem refl (h : Host) : Posts h .none h := .none rfl rfl rfl

/-- What a call did before leaves commands alone. -/
theorem precede {h₀ : Host} {command? : Option Command} (hposts : Posts h₀ command? h')
    (hcommands : h₀.shared.commands = h.shared.commands)
    (hposted : h₀.controller.posted = h.controller.posted)
    (hstatus : h₀.shared.status = h.shared.status) : Posts h command? h' := by
  cases hposts with
  | none commands_eq posted_eq status_eq =>
    exact .none (commands_eq.trans hcommands) (posted_eq.trans hposted) (status_eq.trans hstatus)
  | one command acknowledged post_eq status_eq =>
    refine .one command ?_ ?_ (status_eq.trans hstatus)
    · unfold isAcknowledged at acknowledged ⊢
      rw [← hposted, ← hstatus]
      exact acknowledged
    · rw [← hcommands]
      exact post_eq

/-- What else a call does leaves commands alone. -/
theorem extend {h'' : Host} {command? : Option Command} (hposts : Posts h command? h')
    (hcommands : h''.shared.commands = h'.shared.commands)
    (hposted : h''.controller.posted = h'.controller.posted)
    (hstatus : h''.shared.status = h'.shared.status) : Posts h command? h'' := by
  cases hposts with
  | none commands_eq posted_eq status_eq =>
    exact .none (hcommands.trans commands_eq) (hposted.trans posted_eq) (hstatus.trans status_eq)
  | one command acknowledged post_eq status_eq =>
    refine .one command acknowledged ?_ (hstatus.trans status_eq)
    rw [hcommands, hposted]
    exact post_eq

/-- A call does not store what the radio publishes. -/
theorem status_eq {command? : Option Command} (hposts : Posts h command? h') :
    h'.shared.status = h.shared.status := by
  cases hposts with
  | none _ _ status_eq => exact status_eq
  | one _ _ _ status_eq => exact status_eq

/-- While a command is open nothing is posted. -/
theorem of_open {command? : Option Command} (hposts : Posts h command? h')
    (hopen : h.isAcknowledged = false) : command? = .none ∧
      h'.shared.commands = h.shared.commands ∧ h'.controller.posted = h.controller.posted := by
  cases hposts with
  | none commands_eq posted_eq _ => exact ⟨rfl, commands_eq, posted_eq⟩
  | one _ acknowledged _ _ => cases hopen.symm.trans acknowledged

end Posts

/-- A command is posted, or it is refused and nothing happens. -/
theorem post_cases (command : Command) (h : Host) :
    (∃ h', h.post command = (h', .ok ()) ∧ Posts h (some command) h') ∨
      h.post command = (h, .error .busy) := by
  unfold post
  split
  · rename_i hacknowledged
    unfold SharedState.postCommand
    cases hheld : h.shared.commands.slot.isHeld with
    | true =>
      rw [Mailbox.post_of_held hheld]
      exact .inr rfl
    | false =>
      have hpost := Mailbox.post_of_free hheld command
      rw [hpost]
      exact .inl ⟨_, rfl, .one command hacknowledged hpost rfl⟩
  · exact .inr rfl

theorem search_cases (h : Host) :
    (∃ h', h.search = (h', .ok ()) ∧ Posts h (some .scan) h') ∨
      h.search = (h, .error .busy) := by
  unfold search
  obtain ⟨h', hpost, hposts⟩ | hpost := post_cases .scan h
  · rw [hpost]
    exact .inl ⟨_, rfl, hposts.extend rfl rfl rfl⟩
  · rw [hpost]
    exact .inr rfl

/-- A request posts a command, or it is refused and posts none. -/
def Settles (call : Call) (h : Host) (result : Host × Except RequestError Unit) : Prop :=
  result.2 = .ok () ∧ (∃ command, Posts h (some command) result.1) ∨
    result.2 = .error ((h.objection? call).getD .busy) ∧ Posts h none result.1

/-- Looking for candidates, whatever they are, settles a request that nothing speaks against. -/
theorem settles_search {call : Call} (hobjection : h.objection? call = none)
    (candidates : List Candidate) : Settles call h (h.setCandidates candidates).search := by
  unfold Settles
  rw [hobjection]
  obtain ⟨h', hsearch, hposts⟩ | hsearch := search_cases (h.setCandidates candidates)
  · rw [hsearch]
    exact .inl ⟨rfl, .scan, hposts.precede rfl rfl rfl⟩
  · rw [hsearch]
    exact .inr ⟨rfl, .none rfl rfl rfl⟩

theorem settles_autoConnect (h : Host) : Settles .autoConnect h h.autoConnect := by
  unfold autoConnect
  split
  · rename_i hempty
    exact .inr ⟨by simp [objection?, hempty], .refl h⟩
  · rename_i hprofiles
    exact settles_search (by simp [objection?, hprofiles]) _

theorem settles_scan (filter : ScanFilter) (h : Host) :
    Settles (.scan filter) h (h.scan filter) := by
  unfold scan
  obtain ⟨h', hpost, hposts⟩ | hpost := post_cases .scan h
  · rw [hpost]
    exact .inl ⟨rfl, .scan, hposts.extend rfl rfl rfl⟩
  · rw [hpost]
    exact .inr ⟨rfl, .refl h⟩

theorem settles_host (parameters : HostParameters) (h : Host) :
    Settles (.host parameters) h (h.host parameters) := by
  unfold host
  split
  · rename_i e hinvalid
    exact .inr ⟨by simp [objection?, hinvalid], .refl h⟩
  · rename_i hvalid
    -- New peers are let in first, and turned away again if the command is refused.
    obtain ⟨h', hpost, hposts⟩ | hpost := post_cases (.host parameters) (h.setAccepting true)
    · have hposted : Posts h (some (.host parameters)) h' := hposts.precede rfl rfl rfl
      rw [hpost]
      exact .inl ⟨rfl, .host parameters, hposted.extend rfl rfl rfl⟩
    · rw [hpost]
      exact .inr ⟨by simp [objection?, hvalid], .none rfl rfl rfl⟩

theorem settles_disconnect (h : Host) : Settles .disconnect h h.disconnect := by
  unfold disconnect
  obtain ⟨h', hpost, hposts⟩ | hpost := post_cases .stop h
  · rw [hpost]
    exact .inl ⟨rfl, .stop, hposts.extend rfl rfl rfl⟩
  · rw [hpost]
    exact .inr ⟨rfl, .refl h⟩

theorem posts_poll (h : Host) : ∃ command?, Posts h command? h.poll.1 := by
  have hresolve : ∃ command?, Posts h command? h.resolveTarget.1 := by
    unfold resolveTarget
    simp only
    split
    · exact ⟨none, .refl h⟩
    · rename_i found _
      generalize Command.connect _ = command
      obtain ⟨h', hpost, hposts⟩ | hpost := post_cases command h
      · rw [hpost]
        exact ⟨some command, hposts.extend rfl rfl rfl⟩
      · rw [hpost]
        exact ⟨none, .refl h⟩
  -- Only a host that looks for candidates ever posts something by itself.
  unfold poll
  split
  · exact ⟨none, .refl h⟩
  · split
    · exact ⟨none, .refl h⟩
    · exact ⟨none, .refl h⟩
    · exact ⟨none, .refl h⟩
    · exact hresolve
    · exact ⟨none, .refl h⟩

theorem posts_setAdmission (accepting : Bool) (h : Host) :
    Posts h none (h.setAdmission accepting).1 := by
  unfold setAdmission
  split <;> exact .none rfl rfl rfl

theorem posts_kick (aid : UInt16) (h : Host) : Posts h none (h.kick aid).1 := by
  unfold kick SharedState.requestKick
  split
  · simp only
    split <;> exact .none rfl rfl rfl
  · exact .refl h

theorem posts_kickUnassociated (h : Host) : Posts h none h.kickUnassociated.1 := by
  unfold kickUnassociated
  split <;> exact .none rfl rfl rfl

/-- A request posts a command and succeeds, or it is refused and posts none. -/
theorem perform_of_isRequest {call : Call} (hrequest : call.isRequest = true) (h : Host) :
    (h.perform call).2 = .done ∧ (∃ command, Posts h (some command) (h.perform call).1) ∨
      (h.perform call).2 = .refused ((h.objection? call).getD .busy) ∧
        Posts h none (h.perform call).1 := by
  -- The answer tells what the result is, whatever the call.
  have hanswer {result : Host × Except RequestError Unit} (hsettles : Settles call h result) :
      (result.map id Answer.ofResult).2 = .done ∧
          (∃ command, Posts h (some command) (result.map id Answer.ofResult).1) ∨
        (result.map id Answer.ofResult).2 = .refused ((h.objection? call).getD .busy) ∧
          Posts h none (result.map id Answer.ofResult).1 := by
    obtain ⟨hok, hposts⟩ | ⟨herror, hposts⟩ := hsettles
    · exact .inl ⟨by simp [hok, Answer.ofResult], hposts⟩
    · exact .inr ⟨by simp [herror, Answer.ofResult], hposts⟩
  cases call with
  | connect descriptor key ip => exact hanswer (settles_search rfl _)
  | autoConnect => exact hanswer (settles_autoConnect h)
  | scan filter => exact hanswer (settles_scan filter h)
  | host parameters => exact hanswer (settles_host parameters h)
  | disconnect => exact hanswer (settles_disconnect h)
  | poll | setAdmission | kick | kickUnassociated | notifyAddressAcquired => cases hrequest

/-- A call posts one command or none. -/
theorem posts_perform (call : Call) (h : Host) :
    ∃ command?, Posts h command? (h.perform call).1 := by
  by_cases hrequest : call.isRequest = true
  · obtain ⟨-, command, hposts⟩ | ⟨-, hposts⟩ := perform_of_isRequest hrequest h
    · exact ⟨some command, hposts⟩
    · exact ⟨none, hposts⟩
  · cases call with
    | connect | autoConnect | scan | host | disconnect => exact absurd rfl hrequest
    | poll => exact posts_poll h
    | setAdmission accepting => exact ⟨none, posts_setAdmission accepting h⟩
    | kick aid => exact ⟨none, posts_kick aid h⟩
    | kickUnassociated => exact ⟨none, posts_kickUnassociated h⟩
    | notifyAddressAcquired => exact ⟨none, .none rfl rfl rfl⟩

/-- While a command is open, every request is refused, and no call touches the mailbox. -/
theorem perform_of_open (hopen : h.isAcknowledged = false) (call : Call) :
    (h.perform call).1.shared.commands = h.shared.commands ∧
      (call.isRequest = true →
        (h.perform call).2 = .refused ((h.objection? call).getD .busy)) := by
  constructor
  · obtain ⟨command?, hposts⟩ := posts_perform call h
    exact (hposts.of_open hopen).2.1
  · intro hrequest
    obtain ⟨-, command, hposts⟩ | ⟨hrefused, -⟩ := perform_of_isRequest hrequest h
    · cases (hposts.of_open hopen).1
    · exact hrefused

/-! ### What a call does to the shared memory -/

/-- The host asked the radio for something, and did nothing else to the shared memory. -/
structure Asks (s s' : SharedState) : Prop where
  shared_eq : s' = { s with
    commands := s'.commands
    sessions.accepting := s'.sessions.accepting
    kicks := s'.kicks
    kickUnassociated := s'.kickUnassociated }

namespace Asks

variable {s₁ s₂ s₃ : SharedState}

theorem refl (s : SharedState) : Asks s s := ⟨rfl⟩

theorem trans (h : Asks s₁ s₂) (h' : Asks s₂ s₃) : Asks s₁ s₃ := by
  constructor
  rw [h'.shared_eq, h.shared_eq]

end Asks

/-- What commands keep. -/
structure KeptByPosting (P : SharedState → Prop) : Prop where
  post : ∀ {s} command, P s → P (s.postCommand command).1

/-- What the single things keep that the host may do to the shared memory. -/
structure KeptByAsking (P : SharedState → Prop) : Prop extends KeptByPosting P where
  setAccepting : ∀ {s} accepting, P s → P { s with sessions := s.sessions.setAccepting accepting }
  requestKick : ∀ {s} aid, P s → P (s.requestKick aid).1
  requestKickUnassociated : ∀ {s}, P s → P s.requestKickUnassociated

namespace KeptByPosting

variable {P : SharedState → Prop} (hkept : KeptByPosting P)
include hkept

theorem of_post {command : Command} {result : Except RequestError Unit}
    (hpost : h.post command = (h', result)) (hP : P h.shared) : P h'.shared := by
  have hposted := hkept.post command hP
  unfold Host.post at hpost
  split at hpost
  · split at hpost
    · rename_i hanswer
      rw [hanswer] at hposted
      cases hpost
      exact hposted
    · rename_i hanswer
      rw [hanswer] at hposted
      cases hpost
      exact hposted
  · cases hpost
    exact hP

theorem search (hP : P h.shared) : P h.search.1.shared := by
  unfold Host.search
  split <;> rename_i hpost <;> exact (hkept.of_post hpost hP :)

theorem poll (hP : P h.shared) : P h.poll.1.shared := by
  have hresolved : P h.resolveTarget.1.shared := by
    unfold resolveTarget
    simp only
    split
    · exact hP
    · split <;> rename_i hpost <;> exact (hkept.of_post hpost hP :)
  unfold Host.poll
  split
  · exact hP
  · split
    · exact hP
    · exact hP
    · exact hP
    · exact hresolved
    · exact hP

end KeptByPosting

namespace KeptByAsking

variable {P : SharedState → Prop} (hkept : KeptByAsking P)
include hkept

/-- What all of them keep every call keeps. -/
theorem perform (call : Call) (hP : P h.shared) : P (h.perform call).1.shared := by
  cases call with
  | connect descriptor key ip =>
    exact hkept.search (h := h.setCandidates [⟨descriptor.matcher, key, ip⟩]) hP
  | autoConnect =>
    show P h.autoConnect.1.shared
    unfold autoConnect
    split
    · exact hP
    · exact hkept.search (h := h.setCandidates (h.controller.profiles.map .ofProfile)) hP
  | scan filter =>
    show P (h.scan filter).1.shared
    unfold scan
    split <;> rename_i hpost <;> exact (hkept.of_post hpost hP :)
  | host parameters =>
    have hopened : P (h.setAccepting true).shared := hkept.setAccepting true hP
    show P (h.host parameters).1.shared
    unfold host
    split
    · exact hP
    · split
      · rename_i hpost
        exact hkept.setAccepting false (hkept.of_post hpost hopened)
      · rename_i hpost
        exact (hkept.of_post hpost hopened :)
  | disconnect =>
    show P h.disconnect.1.shared
    unfold disconnect
    split
    · rename_i hpost
      exact hkept.of_post hpost hP
    · rename_i hpost
      exact hkept.setAccepting false (hkept.of_post hpost hP)
  | poll => exact hkept.poll hP
  | setAdmission accepting =>
    show P (h.setAdmission accepting).1.shared
    unfold setAdmission
    split
    · exact hkept.setAccepting accepting hP
    · exact hP
  | kick aid =>
    show P (h.kick aid).1.shared
    unfold kick
    split
    · exact hkept.requestKick aid hP
    · exact hP
  | kickUnassociated =>
    show P h.kickUnassociated.1.shared
    unfold kickUnassociated
    split
    · exact hkept.requestKickUnassociated hP
    · exact hP
  | notifyAddressAcquired => exact hP

end KeptByAsking

/-- Whatever the application calls, the host only asks the radio for something. -/
theorem asks_perform (call : Call) (h : Host) : Asks h.shared (h.perform call).1.shared := by
  refine KeptByAsking.perform (P := Asks h.shared) ?_ call (.refl _)
  refine ⟨⟨fun command hs => hs.trans ?_⟩, fun _ hs => hs.trans ⟨rfl⟩, fun aid hs => hs.trans ?_,
    fun hs => hs.trans ⟨rfl⟩⟩
  · unfold SharedState.postCommand
    split <;> exact ⟨rfl⟩
  · unfold SharedState.requestKick
    split <;> exact ⟨rfl⟩

end WlanControl.Host
