import WlanControl.Proofs.HostCalls
import WlanControl.Proofs.TableSearch

namespace WlanControl.Host

open Discovery (ScanFilter)

/-!
# The host — requests that are refused

The host notes the candidates of a request before it is known whether the request can be posted.
What is left of a refused one are its candidates, and these matter while the host looks for
candidates or connects to one.

* `withCandidates` — a host with other candidates;
* `Happening`, `answers`, `after` — what goes on between the application, the host and the radio,
  and what comes of it;
* `Regarded` — candidates that make no difference, with `unaffected_perform` for one call.

Main statements: `answers_of_refused`, as long as the host neither looks for candidates nor connects
to one, a refused request makes no difference ever, and `refused_connect_misdirects`, otherwise it
may.
-/

variable {h h' : Host} {candidates : List Candidate} {count : Nat}

/-- The host with other candidates. -/
def withCandidates (candidates : List Candidate) (count : Nat) (h : Host) : Host :=
  { h with controller.candidates := candidates, controller.candidateCount := count }

/-! ### What happens to a host -/

/-- Something that happens to a host: a call, or a change of the shared memory by the radio or by
whoever else uses it. -/
inductive Happening
  | call (call : Call)
  | change (act : SharedState → SharedState)

/-- The answers to all calls, in their order. -/
def answers : List Happening → Host → List Answer
  | [], _ => []
  | .call call :: rest, h => (h.perform call).2 :: answers rest (h.perform call).1
  | .change act :: rest, h => answers rest { h with shared := act h.shared }

/-- The host after all that happened. -/
def after : List Happening → Host → Host
  | [], h => h
  | .call call :: rest, h => after rest (h.perform call).1
  | .change act :: rest, h => after rest { h with shared := act h.shared }

/-! ### Candidates that make no difference -/

/-- Other candidates make no difference: the host has no use for any, or they are the same as far as
the host looks at them. -/
def Regarded (candidates : List Candidate) (count : Nat) (h : Host) : Prop :=
  h.controller.request = .search ∨ h.controller.request = .connect →
    count = h.controller.candidateCount ∧ ∃ bound, count ≤ bound ∧
      (∀ i ∈ h.controller.selected, i < bound) ∧
      ∀ i < bound, candidates[i]? = h.controller.candidates[i]?

/-- Candidates that made no difference still make none. -/
theorem Regarded.congr (hregarded : Regarded candidates count h)
    (hrequest : h'.controller.request = h.controller.request)
    (hselected : h'.controller.selected = h.controller.selected)
    (hcandidates : h'.controller.candidates = h.controller.candidates)
    (hcount : h'.controller.candidateCount = h.controller.candidateCount) :
    Regarded candidates count h' := by
  unfold Regarded
  rw [hrequest, hselected, hcandidates, hcount]
  exact hregarded

/-- A host that neither looks for candidates nor connects to one has no use for any. -/
theorem regarded_of_request (hsearch : h.controller.request ≠ .search)
    (hconnect : h.controller.request ≠ .connect) : Regarded candidates count h := by
  rintro (hrequest | hrequest)
  · exact absurd hrequest hsearch
  · exact absurd hrequest hconnect

/-- New candidates are put in front of the ones before. -/
theorem getElem?_put (new old : List Candidate) (i : Nat) :
    (new ++ old.drop new.length)[i]? = if i < new.length then new[i]? else old[i]? := by
  split
  · rename_i hi
    exact List.getElem?_append_left hi
  · rename_i hi
    rw [List.getElem?_append_right (by omega), List.getElem?_drop]
    congr 1
    omega

/-- Candidates that made no difference make none behind the same new ones. -/
theorem Regarded.setCandidates (hregarded : Regarded candidates count h) (new : List Candidate) :
    Regarded (new ++ candidates.drop new.length) new.length (h.setCandidates new) := by
  intro hrequest
  obtain ⟨-, bound, -, hselected, hsame⟩ := hregarded hrequest
  refine ⟨rfl, max bound new.length, by omega, ?_, ?_⟩
  · intro i hi
    have := hselected i hi
    omega
  · intro i hi
    show _ = (new ++ h.controller.candidates.drop new.length)[i]?
    rw [getElem?_put, getElem?_put]
    split
    · rfl
    · exact hsame i (by omega)

/-- With candidates that make no difference the answer is the same, and what they are then makes no
difference either. -/
def Unaffected {α : Type} (f : Host → Host × α) : Prop :=
  ∀ (h : Host) (candidates : List Candidate) (count : Nat), Regarded candidates count h →
    ∃ candidates' count', f (h.withCandidates candidates count) =
        ((f h).1.withCandidates candidates' count', (f h).2) ∧
      Regarded candidates' count' (f h).1

theorem Unaffected.map {α β : Type} {f : Host → Host × α} (hf : Unaffected f) (g : α → β) :
    Unaffected fun h => (f h).map id g := by
  intro h candidates count hregarded
  obtain ⟨candidates', count', hsame, hregarded'⟩ := hf h candidates count hregarded
  exact ⟨candidates', count', by simp [hsame], hregarded'⟩

/-! ### Requests -/

/-- Posting a command has nothing to do with candidates. -/
theorem post_withCandidates (command : Command) (h : Host) :
    (h.withCandidates candidates count).post command =
      ((h.post command).1.withCandidates candidates count, (h.post command).2) := by
  unfold post isAcknowledged withCandidates
  simp only
  split
  · split <;> rfl
  · rfl

/-- Of what the host keeps to itself, posting changes the version alone. -/
theorem controller_of_post {command : Command} {result : Except RequestError Unit}
    (hpost : h.post command = (h', result)) :
    h'.controller = { h.controller with posted := h'.controller.posted } := by
  unfold post at hpost
  split at hpost
  · split at hpost
    · cases hpost
      rfl
    · cases hpost
      rfl
  · cases hpost
    rfl

theorem unaffected_scan (filter : ScanFilter) : Unaffected (scan filter) := by
  intro h candidates count hregarded
  refine ⟨candidates, count, ?_⟩
  unfold scan
  rw [post_withCandidates]
  obtain ⟨posted, hpost, -⟩ | hpost := post_cases .scan h
  · rw [hpost]
    exact ⟨rfl, regarded_of_request (by simp) (by simp)⟩
  · rw [hpost]
    exact ⟨rfl, hregarded⟩

theorem unaffected_host (parameters : HostParameters) : Unaffected (host parameters) := by
  intro h candidates count hregarded
  refine ⟨candidates, count, ?_⟩
  have haccepting : (h.withCandidates candidates count).setAccepting true =
    (h.setAccepting true).withCandidates candidates count := rfl
  unfold host
  split
  · exact ⟨rfl, hregarded⟩
  · rw [haccepting, post_withCandidates]
    obtain ⟨posted, hpost, -⟩ | hpost := post_cases (.host parameters) (h.setAccepting true)
    · rw [hpost]
      exact ⟨rfl, regarded_of_request (by simp) (by simp)⟩
    · rw [hpost]
      exact ⟨rfl, hregarded.congr rfl rfl rfl rfl⟩

theorem unaffected_disconnect : Unaffected disconnect := by
  intro h candidates count hregarded
  refine ⟨candidates, count, ?_⟩
  unfold disconnect
  rw [post_withCandidates]
  obtain ⟨posted, hpost, -⟩ | hpost := post_cases .stop h
  · rw [hpost]
    exact ⟨rfl, regarded_of_request (by simp) (by simp)⟩
  · rw [hpost]
    exact ⟨rfl, hregarded⟩

/-- The candidates that are looked for are put in their places whatever was there before. -/
theorem unaffected_search (new : List Candidate) :
    Unaffected fun h => (h.setCandidates new).search := by
  intro h candidates count hregarded
  refine ⟨new ++ candidates.drop new.length, new.length, ?_⟩
  have hplaced : (h.withCandidates candidates count).setCandidates new =
    (h.setCandidates new).withCandidates (new ++ candidates.drop new.length) new.length := rfl
  show search _ = ((h.setCandidates new).search.1.withCandidates _ _,
    (h.setCandidates new).search.2) ∧ Regarded _ _ (h.setCandidates new).search.1
  unfold search
  rw [hplaced, post_withCandidates]
  obtain ⟨posted, hpost, -⟩ | hpost := post_cases .scan (h.setCandidates new)
  · rw [hpost]
    have hcontroller := controller_of_post hpost
    have hcount : posted.controller.candidateCount = new.length := by
      rw [hcontroller]
      rfl
    have hcandidates : posted.controller.candidates =
        new ++ h.controller.candidates.drop new.length := by
      rw [hcontroller]
      rfl
    -- From now on only the new candidates are looked at.
    refine ⟨rfl, fun _ => ⟨hcount.symm, new.length, Nat.le_refl _, by simp, ?_⟩⟩
    intro i hi
    show _ = posted.controller.candidates[i]?
    rw [hcandidates, getElem?_put, getElem?_put, if_pos hi, if_pos hi]
  · rw [hpost]
    exact ⟨rfl, hregarded.setCandidates new⟩

theorem unaffected_autoConnect : Unaffected autoConnect := by
  intro h candidates count hregarded
  unfold autoConnect
  by_cases hempty : h.controller.profiles.isEmpty = true
  · have hempty' : (h.withCandidates candidates count).controller.profiles.isEmpty = true := hempty
    rw [if_pos hempty, if_pos hempty']
    exact ⟨candidates, count, rfl, hregarded⟩
  · have hempty' : ¬ (h.withCandidates candidates count).controller.profiles.isEmpty = true :=
      hempty
    rw [if_neg hempty, if_neg hempty']
    exact unaffected_search (h.controller.profiles.map .ofProfile) h candidates count hregarded

/-! ### Polling -/

/-- A host that looks for candidates finds the same one, and connects to it in the same way. -/
theorem resolveTarget_withCandidates (hregarded : Regarded candidates count h)
    (hrequest : h.controller.request = .search) :
    (h.withCandidates candidates count).resolveTarget =
        (h.resolveTarget.1.withCandidates candidates count, h.resolveTarget.2) ∧
      Regarded candidates count h.resolveTarget.1 := by
  obtain ⟨hcount, bound, hbound, -, hsame⟩ := hregarded (.inl hrequest)
  -- The table is searched for the first candidates only, and these are the same.
  have htaken : candidates.take count =
      h.controller.candidates.take h.controller.candidateCount := by
    rw [← hcount]
    apply List.ext_getElem?
    intro i
    rw [List.getElem?_take, List.getElem?_take]
    split
    · exact hsame i (by omega)
    · rfl
  unfold resolveTarget
  simp only
  rw [show (h.withCandidates candidates count).controller.candidates.take
    (h.withCandidates candidates count).controller.candidateCount = _ from htaken]
  cases hfound : h.shared.accessPoints.findMatching?
    ((h.controller.candidates.take h.controller.candidateCount).map (·.matcher))
    (·.compatible) with
  | none =>
    rw [show (h.withCandidates candidates count).shared.accessPoints.findMatching? _ _ = _ from
      hfound]
    exact ⟨rfl, hregarded⟩
  | some found =>
    rw [show (h.withCandidates candidates count).shared.accessPoints.findMatching? _ _ = _ from
      hfound]
    have hlt : found.candidate < bound := by
      have := Discovery.Table.candidate_lt_of_findMatching? hfound
      rw [← htaken, List.length_map, List.length_take] at this
      omega
    simp only
    rw [show (h.withCandidates candidates count).controller.candidates[found.candidate]? = _ from
      hsame _ hlt, post_withCandidates]
    generalize Command.connect _ = command
    obtain ⟨posted, hpost, -⟩ | hpost := post_cases command h
    · rw [hpost]
      have hcontroller := controller_of_post hpost
      have hcount' : posted.controller.candidateCount = h.controller.candidateCount := by
        rw [hcontroller]
      have hcandidates : posted.controller.candidates = h.controller.candidates := by
        rw [hcontroller]
      -- The candidate that was found is among them, so it is still regarded once selected.
      refine ⟨rfl, fun _ => ⟨hcount.trans hcount'.symm, bound, hbound, ?_, ?_⟩⟩
      · intro i hi
        cases hi
        exact hlt
      · intro i hi
        show _ = posted.controller.candidates[i]?
        rw [hcandidates]
        exact hsame i hi
    · rw [hpost]
      exact ⟨rfl, hregarded⟩

/-- How far a connection has come is told the same. -/
theorem connectionStatus_withCandidates (hregarded : Regarded candidates count h)
    (hrequest : h.controller.request = .connect) :
    (h.withCandidates candidates count).connectionStatus = h.connectionStatus := by
  obtain ⟨-, bound, -, hselected, hsame⟩ := hregarded (.inr hrequest)
  have hcandidate : h.controller.selected.bind (candidates[·]?) =
      h.controller.selected.bind (h.controller.candidates[·]?) := by
    cases hchosen : h.controller.selected with
    | none => rfl
    | some i => exact hsame i (hselected i hchosen)
  have hawaits : (h.withCandidates candidates count).awaitsAddress = h.awaitsAddress := by
    unfold awaitsAddress
    rw [← hcandidate]
    rfl
  unfold connectionStatus
  rw [hawaits]
  rfl

theorem unaffected_poll : Unaffected poll := by
  intro h candidates count hregarded
  refine ⟨candidates, count, ?_⟩
  have hsame : (h.withCandidates candidates count).isAcknowledged = h.isAcknowledged := rfl
  unfold poll
  rw [hsame]
  by_cases hopen : (!h.isAcknowledged) = true
  · rw [if_pos hopen, if_pos hopen]
    exact ⟨rfl, hregarded⟩
  · rw [if_neg hopen, if_neg hopen]
    have hrequest' : (h.withCandidates candidates count).controller.request =
      h.controller.request := rfl
    rw [hrequest']
    cases hrequest : h.controller.request with
    | idle | scan | host => exact ⟨rfl, hregarded⟩
    | search => exact resolveTarget_withCandidates hregarded hrequest
    | connect =>
      refine ⟨?_, hregarded⟩
      simp only
      rw [connectionStatus_withCandidates hregarded hrequest]

/-! ### All calls -/

/-- What is allowed while a session is hosted has nothing to do with candidates. -/
theorem unaffected_of_session {f : Host → Host × Except RequestError Unit}
    (hsame : ∀ h candidates count, f (h.withCandidates candidates count) =
      ((f h).1.withCandidates candidates count, (f h).2))
    (hcontroller : ∀ h, (f h).1.controller = h.controller) :
    Unaffected fun h =>
      if h.controller.request = .host then f h else (h, .error .invalidState) := by
  intro h candidates count hregarded
  refine ⟨candidates, count, ?_⟩
  by_cases hrequest : h.controller.request = .host
  · have hrequest' : (h.withCandidates candidates count).controller.request = .host := hrequest
    simp only [if_pos hrequest, if_pos hrequest']
    refine ⟨hsame h candidates count, ?_⟩
    exact hregarded.congr (congrArg Controller.request (hcontroller h))
      (congrArg Controller.selected (hcontroller h))
      (congrArg Controller.candidates (hcontroller h))
      (congrArg Controller.candidateCount (hcontroller h))
  · have hrequest' : ¬ (h.withCandidates candidates count).controller.request = .host := hrequest
    simp only [if_neg hrequest, if_neg hrequest']
    exact ⟨trivial, hregarded⟩

/-- Whatever the application calls, candidates that make no difference make none. -/
theorem unaffected_perform (call : Call) : Unaffected (perform call) := by
  cases call with
  | connect descriptor key ip =>
    exact (unaffected_search [⟨descriptor.matcher, key, ip⟩]).map Answer.ofResult
  | autoConnect => exact unaffected_autoConnect.map Answer.ofResult
  | scan filter => exact (unaffected_scan filter).map Answer.ofResult
  | host parameters => exact (unaffected_host parameters).map Answer.ofResult
  | disconnect => exact unaffected_disconnect.map Answer.ofResult
  | poll => exact unaffected_poll.map Answer.status
  | setAdmission accepting =>
    exact (unaffected_of_session (f := fun h => (h.setAccepting accepting, .ok ()))
      (fun _ _ _ => rfl) fun _ => rfl).map Answer.ofResult
  | kick aid =>
    exact (unaffected_of_session (f := fun h =>
      ({ h with shared := (h.shared.requestKick aid).1 }, (h.shared.requestKick aid).2))
      (fun _ _ _ => rfl) fun _ => rfl).map Answer.ofResult
  | kickUnassociated =>
    exact (unaffected_of_session (f := fun h =>
      ({ h with shared := h.shared.requestKickUnassociated }, .ok ()))
      (fun _ _ _ => rfl) fun _ => rfl).map Answer.ofResult
  | notifyAddressAcquired =>
    intro h candidates count hregarded
    exact ⟨candidates, count, rfl, hregarded.congr rfl rfl rfl rfl⟩

/-- Candidates that make no difference make none, whatever happens. -/
theorem answers_withCandidates (hregarded : Regarded candidates count h)
    (happenings : List Happening) :
    (h.withCandidates candidates count).answers happenings = h.answers happenings ∧
      ((h.withCandidates candidates count).after happenings).shared =
        (h.after happenings).shared := by
  -- By induction on what happens: what a call leaves are again candidates that make no difference.
  induction happenings generalizing h candidates count with
  | nil => exact ⟨rfl, rfl⟩
  | cons happening rest ih =>
    cases happening with
    | call call =>
      obtain ⟨candidates', count', hsame, hregarded'⟩ :=
        unaffected_perform call h candidates count hregarded
      obtain ⟨hanswers, hshared⟩ := ih hregarded'
      simp only [answers, after, hsame]
      exact ⟨by rw [hanswers], hshared⟩
    | change act =>
      have hchanged : Regarded candidates count { h with shared := act h.shared } :=
        hregarded.congr rfl rfl rfl rfl
      exact ih hchanged

/-! ### Requests that are refused -/

/-- Whether the application asks for a connection. -/
def Call.isConnection : Call → Bool
  | .connect _ _ _ | .autoConnect => true
  | _ => false

/-- A refused request for a connection leaves its candidates behind, or nothing at all if there were
none. -/
theorem withCandidates_of_refused {call : Call} (hcall : call.isConnection = true)
    {e : RequestError} (hrefused : h.perform call = (h', .refused e)) :
    ∃ candidates count, h' = h.withCandidates candidates count ∧ (e = .noProfiles → h' = h) := by
  -- When the command is refused, nothing was changed but the candidates.
  have hsearch {candidates : List Candidate}
      (hrefused : (h.setCandidates candidates).search.map id Answer.ofResult = (h', .refused e)) :
      h' = h.setCandidates candidates ∧ e = .busy := by
    obtain ⟨posted, hsearch, -⟩ | hsearch := search_cases (h.setCandidates candidates)
    · rw [hsearch] at hrefused
      cases hrefused
    · rw [hsearch] at hrefused
      cases hrefused
      exact ⟨rfl, rfl⟩
  cases call with
  | connect descriptor key ip =>
    obtain ⟨rfl, rfl⟩ := hsearch hrefused
    exact ⟨_, _, rfl, by simp⟩
  | autoConnect =>
    unfold perform autoConnect at hrefused
    simp only at hrefused
    split at hrefused
    · cases hrefused
      exact ⟨_, _, rfl, fun _ => rfl⟩
    · obtain ⟨rfl, rfl⟩ := hsearch hrefused
      exact ⟨_, _, rfl, by simp⟩
  | scan | host | disconnect | poll | setAdmission | kick | kickUnassociated
    | notifyAddressAcquired => cases hcall

/-- A refused request for a connection makes no difference, now or later, unless a command is open
or the mailbox in use while the host looks for candidates or connects to one. -/
theorem answers_of_refused {call : Call} (hcall : call.isConnection = true) {e : RequestError}
    (hrefused : h.perform call = (h', .refused e))
    (hrequest : h.controller.request = .search ∨ h.controller.request = .connect →
      e = .noProfiles)
    (happenings : List Happening) :
    h'.answers happenings = h.answers happenings ∧
      (h'.after happenings).shared = (h.after happenings).shared := by
  obtain ⟨candidates, count, hleft, hnothing⟩ := withCandidates_of_refused hcall hrefused
  by_cases hlooks : h.controller.request = .search ∨ h.controller.request = .connect
  · rw [hnothing (hrequest hlooks)]
    exact ⟨rfl, rfl⟩
  · rw [hleft]
    exact answers_withCandidates (fun hlooks' => absurd hlooks' hlooks) happenings

/-- A host that was just started. -/
def startedHost : Host where
  controller := .afterPost [] 1
  shared := (Controller.start (fun _ => none) .empty).1.memory.getD .fresh

def firstAddress : MacAddress := ⟨0x02, 0, 0, 0, 0, 0x01⟩

def secondAddress : MacAddress := ⟨0x02, 0, 0, 0, 0, 0x02⟩

/-- The application asks for an access point. -/
def asking (bssid : MacAddress) : Call := .connect ⟨bssid, none, none⟩ none .dhcp

/-- The radio acts upon the command of the host. -/
def acknowledged : Happening :=
  .change fun s => { s with status.acknowledged := s.commands.version }

/-- The radio hears an access point. -/
def observed (bssid : MacAddress) : Happening :=
  .change fun s => { s with accessPoints := (s.accessPoints.record {
    bssid
    transmitter := bssid
    ssid := none
    channel := 1
    rssi := none
    security := .plain
    compatible := true
    interval := 100
    advertisement := none } fun _ => false).1 }

theorem answers_of_refused_startedHost :
    (startedHost.perform (asking secondAddress)).2 = .refused .busy ∧
      (startedHost.perform (asking secondAddress)).1 ≠ startedHost ∧
      (startedHost.perform (asking secondAddress)).1.answers
          [acknowledged, observed secondAddress, .call .poll, .call (asking firstAddress)] =
        startedHost.answers
          [acknowledged, observed secondAddress, .call .poll, .call (asking firstAddress)] := by
  have hrefused : startedHost.perform (asking secondAddress) = (_, .refused .busy) := rfl
  exact ⟨rfl, by decide +kernel,
    (answers_of_refused rfl hrefused (by rintro (h | h) <;> cases h) _).1⟩

/-- While the host looks for an access point, a refused request has it connect to another one. -/
theorem refused_connect_misdirects : ∃ r,
    Controller.start (fun _ => none) .empty = (r, .ok startedHost.controller) ∧
      r.attach? = some startedHost.shared ∧
      let h := startedHost.after [acknowledged, .call (asking firstAddress)]
      let later := [acknowledged, observed secondAddress, .call .poll]
      (h.perform (asking secondAddress)).2 = .refused .busy ∧
      h.answers later = [.status .searching] ∧
      (h.perform (asking secondAddress)).1.answers later = [.status .authenticating] ∧
      ∃ version target,
        ((h.perform (asking secondAddress)).1.after later).shared.commands.slot.value =
            some (version, .connect target) ∧
          target.bssid = secondAddress := by
  have hstart : Controller.start (fun _ => none) .empty = (_, .ok startedHost.controller) := rfl
  have hmemory : (Controller.start (fun _ => none) .empty).1.attach? =
    some startedHost.shared := rfl
  refine ⟨_, hstart, hmemory, by decide +kernel, by decide +kernel, by decide +kernel, ?_⟩
  exact ⟨_, _, rfl, rfl⟩

end WlanControl.Host
