import WlanControl.Proofs.HostRefusals
import WlanControl.Proofs.SessionHistory

namespace WlanControl.Host

open Discovery (ScanFilter)

/-!
# The host — who decides whether new peers are let in

A flag in the shared memory lets new peers into a session or keeps them out.  It is the host that
stores it, and it always stands as the last call left it that had something to say about it.
Hosting opens the session before the command is posted.  If the command is refused the session is
closed, and not left as it was: a refused call closes a session that is under way.

* `isAccepting` — the flag;
* `Call.admission?` — what a call decides about it, going by its answer;
* `decision?` — what was decided last in the course of a history, with `isAccepting_after`;
* `host_cases` — what becomes of a call that wants to host a session;
* `Closes` — what a refused one does to the session.

Main statement: `closes_of_refused`, a refused call to host a session changes nothing but this flag,
and if its parameters are valid it keeps all new peers out until a later call lets them in again.
-/

variable {h h' : Host}

/-- Whether new peers are let in. -/
def isAccepting (h : Host) : Bool := h.shared.sessions.accepting

/-! ### What calls decide -/

/-- What a call decides about new peers, going by its answer, if it decides anything. -/
def Call.admission? : Call → Answer → Option Bool
  | .host _, .done => some true
  | .host parameters, .refused _ =>
    match parameters.validate with
    | .ok () => some false
    | .error _ => none
  | .disconnect, .done => some false
  | .setAdmission accepting, .done => some accepting
  | _, _ => none

/-- Posting a command has nothing to do with peers. -/
theorem keptByPosting_sessions (sessions : Session.Table) :
    KeptByPosting fun s => s.sessions = sessions where
  post command h := (SharedState.sessions_postCommand command _).trans h

/-- What becomes of a call that wants to host a session: it is refused for its parameters, or while
a command is open or the mailbox in use, or the session is requested. -/
theorem host_cases (parameters : HostParameters) (h : Host) :
    (∃ e, parameters.validate = .error e ∧ h.host parameters = (h, .error e)) ∨
    (parameters.validate = .ok () ∧
      h.host parameters = (h.setAccepting false, .error .busy)) ∨
    (parameters.validate = .ok () ∧ ∃ h', h.host parameters = (h', .ok ()) ∧
      h'.isAccepting = true) := by
  cases hvalidate : parameters.validate with
  | error e => exact .inl ⟨e, rfl, host_of_invalid hvalidate h⟩
  | ok =>
    right
    unfold host
    rw [hvalidate]
    obtain ⟨posted, hpost, -⟩ | hpost := post_cases (.host parameters) (h.setAccepting true)
    · right
      refine ⟨rfl, { posted with controller.request := .host }, by rw [hpost], ?_⟩
      exact congrArg Session.Table.accepting ((keptByPosting_sessions _).of_post hpost rfl)
    · left
      refine ⟨rfl, ?_⟩
      rw [hpost]
      rfl

/-- The flag stands as the call left it that had something to say about it. -/
theorem isAccepting_perform (call : Call) (h : Host) :
    (h.perform call).1.isAccepting = (call.admission? (h.perform call).2).getD h.isAccepting := by
  have hsame {h'' : Host} (hsessions : h''.shared.sessions = h.shared.sessions) :
      h''.isAccepting = h.isAccepting := congrArg Session.Table.accepting hsessions
  have hposts := keptByPosting_sessions h.shared.sessions
  cases call with
  | connect descriptor key ip => exact hsame (hposts.search (h := h.setCandidates _) rfl)
  | autoConnect =>
    show h.autoConnect.1.isAccepting = _
    unfold autoConnect
    split
    · rfl
    · exact hsame (hposts.search (h := h.setCandidates _) rfl)
  | scan filter =>
    show (h.scan filter).1.isAccepting = _
    unfold scan
    split <;> rename_i hpost <;> exact (hsame (hposts.of_post hpost rfl) :)
  | host parameters =>
    show (h.host parameters).1.isAccepting =
      (Call.admission? _ (.ofResult (h.host parameters).2)).getD _
    obtain ⟨e, hinvalid, hhost⟩ | ⟨hvalid, hhost⟩ | ⟨-, h', hhost, haccepting⟩ :=
      host_cases parameters h
    · rw [hhost]
      simp only [Answer.ofResult, Call.admission?, hinvalid, Option.getD_none]
    · rw [hhost]
      simp only [Answer.ofResult, Call.admission?, hvalid, Option.getD_some]
      rfl
    · rw [hhost]
      exact haccepting
  | disconnect =>
    show h.disconnect.1.isAccepting =
      (Call.admission? .disconnect (.ofResult h.disconnect.2)).getD _
    unfold disconnect
    split
    · rename_i hpost
      exact hsame (hposts.of_post hpost rfl)
    · rfl
  | poll => exact hsame (hposts.poll rfl)
  | setAdmission accepting =>
    show (h.setAdmission accepting).1.isAccepting =
      (Call.admission? (.setAdmission accepting) (.ofResult (h.setAdmission accepting).2)).getD _
    unfold setAdmission
    split <;> rfl
  | kick aid =>
    show (h.kick aid).1.isAccepting = _
    unfold kick SharedState.requestKick
    split
    · simp only
      split <;> rfl
    · rfl
  | kickUnassociated =>
    show h.kickUnassociated.1.isAccepting = _
    unfold kickUnassociated
    split <;> rfl
  | notifyAddressAcquired => rfl

/-! ### Histories -/

/-- Nobody but the host stores the flag. -/
def Happening.SparesFlag : Happening → Prop
  | .call _ => True
  | .change act => ∀ s, (act s).sessions.accepting = s.sessions.accepting

/-- What was decided last about new peers, if anything was. -/
def decision? : List Happening → Host → Option Bool
  | [], _ => none
  | .call call :: rest, h =>
    (decision? rest (h.perform call).1).or (call.admission? (h.perform call).2)
  | .change act :: rest, h => decision? rest { h with shared := act h.shared }

/-- Whatever happens, the flag stands as it was decided last. -/
theorem isAccepting_after {happenings : List Happening}
    (hspares : ∀ happening ∈ happenings, happening.SparesFlag) (h : Host) :
    (h.after happenings).isAccepting = (decision? happenings h).getD h.isAccepting := by
  -- By induction on what happens: a call leaves the flag as it decides, or as it was.
  induction happenings generalizing h with
  | nil => rfl
  | cons happening rest ih =>
    rw [List.forall_mem_cons] at hspares
    cases happening with
    | call call =>
      show (after rest (h.perform call).1).isAccepting =
        ((decision? rest (h.perform call).1).or (call.admission? (h.perform call).2)).getD _
      rw [ih hspares.2, Option.getD_or, isAccepting_perform]
    | change act =>
      have hsame : ({ h with shared := act h.shared } : Host).isAccepting = h.isAccepting :=
        hspares.1 h.shared
      show (after rest { h with shared := act h.shared }).isAccepting =
        (decision? rest { h with shared := act h.shared }).getD _
      rw [ih hspares.2, hsame]

/-! ### Refused calls -/

/-- What a call to host a session does that is refused. -/
structure Closes (parameters : HostParameters) (e : RequestError) (h h' : Host) : Prop where
  /-- It is refused for its parameters, or while a command is open or the mailbox in use. -/
  reason : parameters.validate = .error e ∨ parameters.validate = .ok () ∧ e = .busy
  /-- The request stands as it was, with all that the host keeps to itself. -/
  controller_eq : h'.controller = h.controller
  /-- Of all that is shared, the flag is the only thing that may be different. -/
  shared_eq : h'.shared =
    { h.shared with sessions.accepting := h'.isAccepting }
  /-- The session stays open only if the parameters were at fault. -/
  isAccepting_iff : h'.isAccepting = true ↔
    h.isAccepting = true ∧ parameters.validate = .error e
  /-- Nothing is different exactly if the parameters were at fault, or the session was closed. -/
  eq_iff : h' = h ↔ parameters.validate = .error e ∨ h.isAccepting = false
  /-- If the parameters were fine, nobody new gets in until a later call says so. -/
  rejects : parameters.validate = .ok () → ∀ happenings : List Happening,
    (∀ happening ∈ happenings, happening.SparesFlag) → decision? happenings h' ≠ some true →
      ∀ a, (h'.after happenings).shared.sessions.roster.value.position? a = none →
        ((h'.after happenings).shared.sessions.authenticate a).2 = .error
          (if (h'.after happenings).shared.sessions.roster.isHeld then .busy else .rejected)

/-- A refused call to host a session leaves the request and all else as it was, but it closes the
session, unless it was refused for its parameters. -/
theorem closes_of_refused {parameters : HostParameters} {e : RequestError}
    (hrefused : h.perform (.host parameters) = (h', .refused e)) : Closes parameters e h h' := by
  have hanswer : (h.host parameters).map id Answer.ofResult = (h', .refused e) := hrefused
  obtain ⟨e', hinvalid, hhost⟩ | ⟨hvalid, hhost⟩ | ⟨-, h'', hhost, -⟩ := host_cases parameters h
  · rw [hhost] at hanswer
    cases hanswer
    exact {
      reason := .inl hinvalid
      controller_eq := rfl
      shared_eq := rfl
      isAccepting_iff := by simp [hinvalid]
      eq_iff := by simp [hinvalid]
      rejects := by simp [hinvalid] }
  · rw [hhost] at hanswer
    cases hanswer
    exact {
      reason := .inr ⟨hvalid, rfl⟩
      controller_eq := rfl
      shared_eq := rfl
      isAccepting_iff := by simp [hvalid, isAccepting, setAccepting, Session.Table.setAccepting]
      eq_iff := by
        constructor
        · intro hsame
          exact .inr (congrArg isAccepting hsame).symm
        · rintro (hinvalid | hclosed)
          · cases hvalid.symm.trans hinvalid
          · show h.setAccepting false = h
            rw [← hclosed]
            rfl
      rejects := by
        intro _ happenings hspares hdecision a hnew
        -- The flag is low in the end, be it that nobody said more or that the last call said no.
        refine Session.Table.authenticate_of_closed ?_ hnew
        have hflag := isAccepting_after hspares (h.setAccepting false)
        cases hlast : decision? happenings (h.setAccepting false) with
        | none =>
          rw [hlast] at hflag
          exact hflag
        | some accepting =>
          cases accepting with
          | false =>
            rw [hlast] at hflag
            exact hflag
          | true => exact absurd hlast hdecision }
  · rw [hhost] at hanswer
    cases hanswer

/-- A session for two peers. -/
def smallSession : HostParameters where
  ssid := .empty
  channel := 1
  gameId := 0
  streamCode := 0
  maxPeers := 2
  hostPacketSize := 0
  peerPacketSize := 0

/-- A host whose radio has not yet acted upon the request for a session. -/
def hostingHost : Host := startedHost.after [acknowledged, .call (.host smallSession)]

theorem closes_of_refused_hostingHost :
    hostingHost.perform (.host smallSession) =
        (hostingHost.setAccepting false, .refused .busy) ∧
      Closes smallSession .busy hostingHost (hostingHost.setAccepting false) := by
  have hrefused : hostingHost.perform (.host smallSession) =
    (hostingHost.setAccepting false, .refused .busy) := rfl
  exact ⟨hrefused, closes_of_refused hrefused⟩

/-- A call that is refused because the session is already requested keeps the peers of that session
out. -/
theorem refused_host_shuts_out : ∃ r,
    Controller.start (fun _ => none) .empty = (r, .ok startedHost.controller) ∧
      r.attach? = some startedHost.shared ∧
      let h := startedHost.after [acknowledged, .call (.host smallSession)]
      let h' := (h.perform (.host smallSession)).1
      (h.perform (.host smallSession)).2 = .refused .busy ∧
      h.controller.request = .host ∧ h.isAccepting = true ∧
      (h.shared.sessions.authenticate firstAddress).2 = .ok 0 ∧
      h'.controller.request = .host ∧ h'.isAccepting = false ∧
      (h'.shared.sessions.authenticate firstAddress).2 = .error .rejected := by
  have hstart : Controller.start (fun _ => none) .empty = (_, .ok startedHost.controller) := rfl
  have hmemory : (Controller.start (fun _ => none) .empty).1.attach? =
    some startedHost.shared := rfl
  exact ⟨_, hstart, hmemory, rfl, rfl, rfl, rfl, rfl, rfl, rfl⟩

end WlanControl.Host
