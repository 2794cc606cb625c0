import WlanControl.Proofs.HostCalls

namespace WlanControl

/-!
# The host — what it posts for a request

The application asks the host for something, and a command is posted that serves it.  For a
connection these are two: the host scans at first, and the poll that finds one of the candidates
posts the command to connect.  What a poll tells depends on the request and on the status.

* `Command.target?`, `Command.parameters?` — what a command is for;
* `Request.ServedBy` — the command that serves a request;
* `Serving` — a call posts the command that serves the new request, or leaves requests alone;
* `Call.hosting?` — the session that a call has opened.

Main statements: `serving_perform`, for all calls, with `of_poll_linked` and `of_poll_hosting`, what
a poll goes by that tells of a link or of a session.
-/

namespace Command

/-- The access point that a command is to connect to. -/
def target? : Command → Option ConnectTarget
  | .connect target => some target
  | .enable | .powerOff | .stop | .scan | .host _ => none

/-- The session that a command is to open. -/
def parameters? : Command → Option HostParameters
  | .host parameters => some parameters
  | .enable | .powerOff | .stop | .scan | .connect _ => none

end Command

namespace Host

open Discovery (ScanFilter)

variable {h h' h'' : Host}

/-! ### Requests and commands -/

/-- The command that serves a request.  Before the first request the radio is enabled. -/
inductive Request.ServedBy : Request → Command → Prop
  | enabling : ServedBy .idle .enable
  | idle : ServedBy .idle .stop
  | scan : ServedBy .scan .scan
  | search : ServedBy .search .scan
  | connect (target : ConnectTarget) : ServedBy .connect (.connect target)
  | host (parameters : HostParameters) : ServedBy .host (.host parameters)

theorem Request.ServedBy.ne_powerOff {request : Request} {command : Command}
    (h : request.ServedBy command) : command ≠ .powerOff := by
  cases h <;> simp

/-- A call leaves requests alone, or the command that it posts serves the new one. -/
inductive Serving (h : Host) : Option Command → Host → Prop
  | none {h' : Host} (posts : Posts h none h')
    (request_eq : h'.controller.request = h.controller.request) : Serving h none h'
  | one {h' : Host} {command : Command} (posts : Posts h (some command) h')
    (served : h'.controller.request.ServedBy command) : Serving h (some command) h'

namespace Serving

theorem refl (h : Host) : Serving h .none h := .none (.refl h) rfl

theorem posts {command? : Option Command} (hserving : Serving h command? h') :
    Posts h command? h' := by
  cases hserving with
  | none posts _ => exact posts
  | one posts _ => exact posts

/-- What a call did before has nothing to do with requests. -/
theorem precede {command? : Option Command} (hserving : Serving h' command? h'')
    (hshared : h'.shared = h.shared) (hposted : h'.controller.posted = h.controller.posted)
    (hrequest : h'.controller.request = h.controller.request) : Serving h command? h'' := by
  have hposts := hserving.posts.precede (congrArg SharedState.commands hshared) hposted
    (congrArg SharedState.status hshared)
  cases hserving with
  | none _ request_eq => exact .none hposts (request_eq.trans hrequest)
  | one _ served => exact .one hposts served

end Serving

/-- The session that was opened at the request of the application, if its call was one for that and
has succeeded. -/
def Call.hosting? : Call → Answer → Option HostParameters
  | .host parameters, .done => some parameters
  | _, _ => none

/-- A call that opens no session. -/
def ServesOther (h : Host) (h' : Host) : Prop :=
  ∃ command?, Serving h command? h' ∧ command?.bind Command.parameters? = none

theorem servesOther_search (h : Host) : ServesOther h h.search.1 := by
  unfold search
  obtain ⟨h', hpost, hposts⟩ | hpost := post_cases .scan h
  · rw [hpost]
    exact ⟨some .scan, .one (hposts.extend rfl rfl rfl) .search, rfl⟩
  · rw [hpost]
    exact ⟨none, .refl h, rfl⟩

/-- Which candidates are looked for has nothing to do with requests. -/
theorem servesOther_setCandidates (candidates : List Candidate) (h : Host) :
    ServesOther h (h.setCandidates candidates).search.1 := by
  obtain ⟨command?, hserving, hother⟩ := servesOther_search (h.setCandidates candidates)
  exact ⟨command?, hserving.precede rfl rfl rfl, hother⟩

theorem servesOther_autoConnect (h : Host) : ServesOther h h.autoConnect.1 := by
  unfold autoConnect
  split
  · exact ⟨none, .refl h, rfl⟩
  · exact servesOther_setCandidates _ h

theorem servesOther_scan (filter : ScanFilter) (h : Host) :
    ServesOther h (h.scan filter).1 := by
  unfold scan
  obtain ⟨h', hpost, hposts⟩ | hpost := post_cases .scan h
  · rw [hpost]
    exact ⟨some .scan, .one (hposts.extend rfl rfl rfl) .scan, rfl⟩
  · rw [hpost]
    exact ⟨none, .refl h, rfl⟩

theorem servesOther_disconnect (h : Host) : ServesOther h h.disconnect.1 := by
  unfold disconnect
  obtain ⟨h', hpost, hposts⟩ | hpost := post_cases .stop h
  · rw [hpost]
    exact ⟨some .stop, .one (hposts.extend rfl rfl rfl) .idle, rfl⟩
  · rw [hpost]
    exact ⟨none, .refl h, rfl⟩

theorem servesOther_poll (h : Host) : ServesOther h h.poll.1 := by
  have hnothing : ServesOther h h := ⟨none, .refl h, rfl⟩
  have hresolve : ServesOther h h.resolveTarget.1 := by
    unfold resolveTarget
    simp only
    split
    · exact hnothing
    · rename_i found _
      generalize ConnectTarget.mk _ _ = target
      obtain ⟨h', hpost, hposts⟩ | hpost := post_cases (.connect target) h
      · rw [hpost]
        exact ⟨some (.connect target), .one (hposts.extend rfl rfl rfl) (.connect target), rfl⟩
      · rw [hpost]
        exact hnothing
  unfold poll
  split
  · exact hnothing
  · split
    · exact hnothing
    · exact hnothing
    · exact hnothing
    · exact hresolve
    · exact hnothing

/-- A session is opened if the call for it succeeds, and only then. -/
theorem serving_host (parameters : HostParameters) (h : Host) :
    ∃ command?, Serving h command? (h.perform (.host parameters)).1 ∧
      command?.bind Command.parameters? =
        (Call.host parameters).hosting? (h.perform (.host parameters)).2 := by
  unfold perform host
  simp only
  split
  · exact ⟨none, .refl h, rfl⟩
  · obtain ⟨h', hpost, hposts⟩ | hpost := post_cases (.host parameters) (h.setAccepting true)
    · have hposted : Posts h (some (.host parameters)) h' := hposts.precede rfl rfl rfl
      rw [hpost]
      exact ⟨some (.host parameters), .one (hposted.extend rfl rfl rfl) (.host parameters), rfl⟩
    · rw [hpost]
      exact ⟨none, .none (.none rfl rfl rfl) rfl, rfl⟩

/-- Whatever the application calls, the command that is posted serves the request, and a session is
opened by a successful call for it alone. -/
theorem serving_perform (call : Call) (h : Host) :
    ∃ command?, Serving h command? (h.perform call).1 ∧
      command?.bind Command.parameters? = call.hosting? (h.perform call).2 := by
  cases call with
  | connect descriptor key ip => exact servesOther_setCandidates _ h
  | autoConnect => exact servesOther_autoConnect h
  | scan filter => exact servesOther_scan filter h
  | host parameters => exact serving_host parameters h
  | disconnect => exact servesOther_disconnect h
  | poll => exact servesOther_poll h
  | setAdmission accepting =>
    refine ⟨none, .none (posts_setAdmission accepting h) ?_, rfl⟩
    show (h.setAdmission accepting).1.controller.request = _
    unfold setAdmission
    split <;> rfl
  | kick aid =>
    refine ⟨none, .none (posts_kick aid h) ?_, rfl⟩
    show (h.kick aid).1.controller.request = _
    unfold kick
    split <;> rfl
  | kickUnassociated =>
    refine ⟨none, .none (posts_kickUnassociated h) ?_, rfl⟩
    show h.kickUnassociated.1.controller.request = _
    unfold kickUnassociated
    split <;> rfl
  | notifyAddressAcquired => exact ⟨none, .none (.none rfl rfl rfl) rfl, rfl⟩

/-! ### Polls -/

theorem status_resolveTarget (h : Host) :
    h.resolveTarget.2 = .searching ∨ h.resolveTarget.2 = .authenticating := by
  unfold resolveTarget
  simp only
  split
  · exact .inl rfl
  · split
    · exact .inl rfl
    · exact .inr rfl

/-- The mode decides whether there is a link. -/
theorem mode_of_connectionStatus
    (hlinked : h.connectionStatus = .acquiringAddress ∨ h.connectionStatus = .associated) :
    h.shared.status.mode = .connected := by
  unfold connectionStatus at hlinked
  split at hlinked
  · simp at hlinked
  · simp at hlinked
  · simp at hlinked
  · rename_i hmode
    exact hmode
  · simp at hlinked
  · simp at hlinked

theorem connectionStatus_ne_hosting (h : Host) : h.connectionStatus ≠ .hosting := by
  unfold connectionStatus
  split
  · simp
  · simp
  · simp
  · split <;> simp
  · simp
  · simp

/-- A poll that tells of a link goes by the mode, once the command to connect was acknowledged. -/
theorem of_poll_linked (hpoll : h.poll.2 = .acquiringAddress ∨ h.poll.2 = .associated) :
    h.isAcknowledged = true ∧ h.controller.request = .connect ∧
      h.shared.status.mode = .connected := by
  unfold poll at hpoll
  split at hpoll
  · -- What is told while a command is open is no link.
    generalize h.controller.request = request at hpoll
    cases request <;> simp [Request.openStatus] at hpoll
  · rename_i hacknowledged
    refine ⟨by simpa using hacknowledged, ?_⟩
    split at hpoll
    · simp at hpoll
    · split at hpoll <;> simp at hpoll
    · split at hpoll <;> simp at hpoll
    · obtain hstatus | hstatus := h.status_resolveTarget <;> simp [hstatus] at hpoll
    · rename_i hrequest
      exact ⟨hrequest, mode_of_connectionStatus hpoll⟩

/-- A poll that tells of a session goes by the mode, if the command for it was acknowledged. -/
theorem of_poll_hosting (hacknowledged : h.isAcknowledged = true) (hpoll : h.poll.2 = .hosting) :
    h.controller.request = .host ∧ h.shared.status.mode = .accessPoint := by
  unfold poll at hpoll
  simp only [hacknowledged, Bool.not_true, Bool.false_eq_true, if_false] at hpoll
  split at hpoll
  · cases hpoll
  · split at hpoll <;> cases hpoll
  · rename_i hrequest
    split at hpoll
    · rename_i hmode
      exact ⟨hrequest, hmode⟩
    · cases hpoll
  · obtain hstatus | hstatus := h.status_resolveTarget <;> cases hstatus.symm.trans hpoll
  · exact absurd hpoll h.connectionStatus_ne_hosting

end Host

end WlanControl
