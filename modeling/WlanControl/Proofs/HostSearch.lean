import WlanControl.Proofs.HostRefusals

namespace WlanControl

open Discovery (Matcher Record Table)

/-!
# The host — connecting to a stored connection

The slots for stored connections need not be in use, and the host keeps the connections of those
that are, one after the other.  When it is asked for any of them, they become its candidates in
their order, until somebody names another access point.  The poll that follows the scan searches the
table for them.

* `connections` — the stored connections of the first slots;
* `Earliest` — the first stored connection that an access point in the table can be used for;
* `Host.Seeks` — the candidates are the stored connections, kept by all calls but one;
* `Host.Resolves` — what a poll makes of the search.

Main statement: `Host.earliest_is_resolved`, the search finds the first candidate that can be used,
so that the host connects to the first stored connection that has a compatible access point.
-/

variable {store : Nat → Option Profile} {p : Profile} {n k : Nat}

/-! ### Stored connections -/

/-- The stored connections in the first slots. -/
def connections (store : Nat → Option Profile) (slots : Nat) : List Profile :=
  (List.range slots).filterMap store

theorem connections_succ (store : Nat → Option Profile) (n : Nat) :
    connections store (n + 1) = connections store n ++ (store n).toList := by
  rw [connections, List.range_succ, List.filterMap_append]
  cases hstored : store n <;> simp [connections, hstored]

theorem connections_prefix_of_le (store : Nat → Option Profile) {m n : Nat} (hle : m ≤ n) :
    connections store m <+: connections store n := by
  induction hle with
  | refl => exact List.prefix_refl _
  | step _ ih =>
    apply ih.trans
    rw [Nat.succ_eq_add_one, connections_succ]
    exact List.prefix_append _ _

/-- A stored connection comes after those of the slots before. -/
theorem getElem?_connections {slots : Nat} (hlt : n < slots) (hstored : store n = some p) :
    (connections store slots)[(connections store n).length]? = some p := by
  have hprefix := connections_prefix_of_le store (Nat.succ_le_of_lt hlt)
  rw [Nat.succ_eq_add_one, connections_succ, hstored] at hprefix
  obtain ⟨rest, hrest⟩ := hprefix
  rw [← hrest]
  simp

/-- What is in the list is in some slot. -/
theorem exists_slot_of_connections {slots : Nat} (h : (connections store slots)[k]? = some p) :
    ∃ n < slots, store n = some p ∧ (connections store n).length = k := by
  -- By induction on the slots: either the last one has the connection, or one before.
  induction slots with
  | zero => simp [connections] at h
  | succ slots ih =>
    rw [connections_succ] at h
    by_cases hbefore : k < (connections store slots).length
    · rw [List.getElem?_append_left hbefore] at h
      obtain ⟨n, hlt, hstored, hplace⟩ := ih h
      exact ⟨n, by omega, hstored, hplace⟩
    · rw [List.getElem?_append_right (by omega)] at h
      cases hstored : store slots with
      | none => simp [hstored] at h
      | some q =>
        rw [hstored, Option.toList_some, List.getElem?_singleton] at h
        split at h
        · cases h
          exact ⟨slots, by omega, hstored, by omega⟩
        · cases h

/-- Connections of later slots come later. -/
theorem length_connections_lt {m : Nat} {q : Profile} (hlt : m < n) (hstored : store m = some q) :
    (connections store m).length < (connections store n).length := by
  have hle := (connections_prefix_of_le store (Nat.succ_le_of_lt hlt)).length_le
  rw [Nat.succ_eq_add_one, connections_succ, hstored] at hle
  simp only [Option.toList_some, List.length_append, List.length_singleton] at hle
  omega

/-- The first stored connection that some access point in the table can be used for, and the first
such entry. -/
structure Earliest (store : Nat → Option Profile) (t : Table) (n : Nat) (p : Profile) (i : Nat)
    (r : Record) : Prop where
  lt : n < maxProfiles
  stored : store n = some p
  offers : t.Offers p.matcher (·.compatible) i r
  /-- Nothing is offered to the connections in the slots before. -/
  first_stored : ∀ m < n, ∀ q, store m = some q → ∀ j s, ¬ t.Offers q.matcher (·.compatible) j s
  first_entry : ∀ j < i, ∀ s, ¬ t.Offers p.matcher (·.compatible) j s

/-- The first candidate that is found is the first stored connection. -/
theorem earliest_of_isFirst {t : Table} {found : Table.Match}
    (h : t.IsFirst ((loadProfiles store).map Profile.matcher) (·.compatible) found) :
    ∃ n p, Earliest store t n p found.slot found.record ∧
      (loadProfiles store)[found.candidate]? = some p := by
  obtain ⟨⟨c, hc, hoffers⟩, hcandidate, hslot⟩ := h
  obtain ⟨p, hp, rfl⟩ := Option.map_eq_some_iff.mp (List.getElem?_map.symm.trans hc)
  obtain ⟨n, hlt, hstored, hplace⟩ := exists_slot_of_connections hp
  refine ⟨n, p, ⟨hlt, hstored, hoffers, fun m hm q hq => ?_, hslot _ hc⟩, hp⟩
  have hbefore := length_connections_lt hm hq
  rw [hplace] at hbefore
  refine hcandidate _ hbefore q.matcher ?_
  rw [List.getElem?_map]
  exact congrArg _ (getElem?_connections (Nat.lt_trans hm hlt) hq)

namespace Host

variable {h h' : Host}

/-! ### Which candidates are looked for -/

/-- What the host would look for, and what it has stored. -/
def choices (h : Host) : List Profile × List Candidate × Nat :=
  (h.controller.profiles, h.controller.candidates, h.controller.candidateCount)

theorem choices_of_post {command : Command} {result : Except RequestError Unit}
    (hpost : h.post command = (h', result)) : h'.choices = h.choices := by
  unfold choices
  rw [controller_of_post hpost]

theorem choices_search (h : Host) : h.search.1.choices = h.choices := by
  unfold search
  split <;> rename_i hpost <;> exact (choices_of_post hpost :)

theorem choices_poll (h : Host) : h.poll.1.choices = h.choices := by
  have hresolve : h.resolveTarget.1.choices = h.choices := by
    unfold resolveTarget
    simp only
    split
    · rfl
    · split <;> rename_i hpost <;> exact (choices_of_post hpost :)
  unfold poll
  split
  · rfl
  · split
    · rfl
    · rfl
    · rfl
    · exact hresolve
    · rfl

/-- Only a request for a connection has to do with candidates. -/
theorem choices_perform {call : Call} (hcall : call.isConnection = false) (h : Host) :
    (h.perform call).1.choices = h.choices := by
  cases call with
  | connect | autoConnect => cases hcall
  | scan filter =>
    show (h.scan filter).1.choices = _
    unfold scan
    split <;> rename_i hpost <;> exact (choices_of_post hpost :)
  | host parameters =>
    show (h.host parameters).1.choices = _
    unfold host
    split
    · rfl
    · split <;> rename_i hpost <;> exact (choices_of_post hpost :)
  | disconnect =>
    show h.disconnect.1.choices = _
    unfold disconnect
    split <;> rename_i hpost <;> exact (choices_of_post hpost :)
  | poll => exact choices_poll h
  | setAdmission accepting =>
    show (h.setAdmission accepting).1.choices = _
    unfold setAdmission
    split <;> rfl
  | kick aid =>
    show (h.kick aid).1.choices = _
    unfold kick
    split <;> rfl
  | kickUnassociated =>
    show h.kickUnassociated.1.choices = _
    unfold kickUnassociated
    split <;> rfl
  | notifyAddressAcquired => rfl

/-- The stored connections are loaded once. -/
theorem profiles_perform (call : Call) (h : Host) :
    (h.perform call).1.controller.profiles = h.controller.profiles := by
  cases hcall : call.isConnection with
  | false => exact congrArg Prod.fst (choices_perform hcall h)
  | true =>
    cases call with
    | connect descriptor key ip =>
      exact congrArg Prod.fst (choices_search (h.setCandidates [⟨descriptor.matcher, key, ip⟩]))
    | autoConnect =>
      show h.autoConnect.1.controller.profiles = _
      unfold autoConnect
      split
      · rfl
      · exact congrArg Prod.fst
          (choices_search (h.setCandidates (h.controller.profiles.map .ofProfile)))
    | scan | host | disconnect | poll | setAdmission | kick | kickUnassociated
      | notifyAddressAcquired => cases hcall

theorem profiles_after (happenings : List Happening) (h : Host) :
    (h.after happenings).controller.profiles = h.controller.profiles := by
  induction happenings generalizing h with
  | nil => rfl
  | cons happening rest ih =>
    cases happening with
    | call call => exact (ih _).trans (profiles_perform call h)
    | change act => exact ih _

theorem profiles_of_start {r r' : Region} {controller : Controller}
    (hstart : Controller.start store r = (r', .ok controller)) :
    controller.profiles = loadProfiles store := by
  unfold Controller.start at hstart
  split at hstart
  · cases hstart
  · split at hstart
    · cases hstart
      rfl
    · cases hstart

/-- The host looks for the stored connections, if it looks for candidates at all. -/
structure Seeks (store : Nat → Option Profile) (h : Host) : Prop where
  profiles_eq : h.controller.profiles = loadProfiles store
  candidates_eq : h.controller.candidates.take h.controller.candidateCount =
    (loadProfiles store).map .ofProfile

theorem Seeks.of_choices (hseeks : Seeks store h) (hchoices : h'.choices = h.choices) :
    Seeks store h' := by
  simp only [choices, Prod.mk.injEq] at hchoices
  obtain ⟨hprofiles, hcandidates, hcount⟩ := hchoices
  refine ⟨hprofiles.trans hseeks.profiles_eq, ?_⟩
  rw [hcandidates, hcount]
  exact hseeks.candidates_eq

/-- A request for any of the stored connections makes them the candidates, also if it is refused. -/
theorem seeks_setCandidates (hprofiles : h.controller.profiles = loadProfiles store) :
    Seeks store (h.setCandidates (h.controller.profiles.map .ofProfile)).search.1 := by
  refine Seeks.of_choices (h := h.setCandidates _) ⟨hprofiles, ?_⟩ (choices_search _)
  rw [hprofiles]
  exact List.take_left

theorem seeks_autoConnect (hprofiles : h.controller.profiles = loadProfiles store)
    (hdone : (h.perform .autoConnect).2 = .done) : Seeks store (h.perform .autoConnect).1 := by
  show Seeks store h.autoConnect.1
  unfold perform at hdone
  unfold autoConnect at hdone ⊢
  by_cases hempty : h.controller.profiles.isEmpty = true
  · simp [hempty, Answer.ofResult] at hdone
  · rw [if_neg hempty]
    exact seeks_setCandidates hprofiles

/-- Whether the application names an access point. -/
def Call.isConnect : Call → Bool
  | .connect _ _ _ => true
  | _ => false

theorem Seeks.perform (hseeks : Seeks store h) {call : Call} (hcall : call.isConnect = false) :
    Seeks store (h.perform call).1 := by
  by_cases hauto : call = .autoConnect
  · subst hauto
    show Seeks store h.autoConnect.1
    unfold autoConnect
    split
    · exact hseeks
    · exact seeks_setCandidates hseeks.profiles_eq
  · refine hseeks.of_choices (choices_perform ?_ h)
    cases call with
    | connect => cases hcall
    | autoConnect => exact absurd rfl hauto
    | scan | host | disconnect | poll | setAdmission | kick | kickUnassociated
      | notifyAddressAcquired => rfl

/-- Nobody names an access point. -/
def Happening.IsIndifferent : Happening → Prop
  | .call made => made.isConnect = false
  | .change _ => True

theorem Seeks.after (hseeks : Seeks store h) {happenings : List Happening}
    (hindifferent : ∀ happening ∈ happenings, happening.IsIndifferent) :
    Seeks store (h.after happenings) := by
  induction happenings generalizing h with
  | nil => exact hseeks
  | cons happening rest ih =>
    rw [List.forall_mem_cons] at hindifferent
    cases happening with
    | call call => exact ih (hseeks.perform hindifferent.1) hindifferent.2
    | change act => exact ih (hseeks.of_choices rfl) hindifferent.2

/-! ### The poll that ends the search -/

/-- What becomes of the search for the stored connections. -/
inductive Resolves (store : Nat → Option Profile) (h : Host) : Host × ConnectionStatus → Prop
  /-- The radio is told to connect to the first one, with its key. -/
  | found {n i : Nat} {p : Profile} {r : Record} {h' : Host}
    (earliest : Earliest store h.shared.accessPoints n p i r)
    (posts : Posts h (some (.connect ⟨r, p.key⟩)) h')
    (request_eq : h'.controller.request = .connect)
    (selected : h'.controller.selected.bind (h'.controller.candidates[·]?) =
      some (Candidate.ofProfile p)) : Resolves store h (h', .authenticating)
  /-- It cannot be told, and nothing happens. -/
  | hindered (held : h.shared.commands.slot.isHeld = true) : Resolves store h (h, .searching)
  /-- No access point in the table can be used for any of them, and nothing happens. -/
  | nothing (absent : ∀ n < maxProfiles, ∀ p, store n = some p →
      ∀ i r, ¬ h.shared.accessPoints.Offers p.matcher (·.compatible) i r) :
    Resolves store h (h, .searching)

/-- A command is posted unless somebody uses the mailbox. -/
theorem post_of_acknowledged (hacknowledged : h.isAcknowledged = true) (command : Command) :
    (∃ h', h.post command = (h', .ok ()) ∧ Posts h (some command) h') ∨
      h.shared.commands.slot.isHeld = true ∧ h.post command = (h, .error .busy) := by
  obtain hposted | hrefused := post_cases command h
  · exact .inl hposted
  · refine .inr ⟨?_, hrefused⟩
    cases hheld : h.shared.commands.slot.isHeld with
    | true => rfl
    | false =>
      simp [post, hacknowledged, SharedState.postCommand, Mailbox.post_of_free hheld] at hrefused

theorem resolves_resolveTarget (hseeks : Seeks store h) (hacknowledged : h.isAcknowledged = true) :
    Resolves store h h.resolveTarget := by
  have hmatchers : (h.controller.candidates.take h.controller.candidateCount).map (·.matcher) =
      (loadProfiles store).map Profile.matcher := by
    rw [hseeks.candidates_eq, List.map_map]
    rfl
  unfold resolveTarget
  simp only [hmatchers]
  cases hsearch : h.shared.accessPoints.findMatching? ((loadProfiles store).map Profile.matcher)
    (·.compatible) with
  | none =>
    apply Resolves.nothing
    intro n hlt p hstored
    have habsent := Table.findMatching?_eq_none_iff.mp hsearch
    have hmem := List.mem_of_getElem? (getElem?_connections hlt hstored)
    exact habsent p.matcher (List.mem_map_of_mem hmem)
  | some found =>
    obtain ⟨n, p, hearliest, hp⟩ := earliest_of_isFirst (Table.isFirst_of_findMatching? hsearch)
    have hcandidate : h.controller.candidates[found.candidate]? = some (.ofProfile p) := by
      have htaken : (h.controller.candidates.take h.controller.candidateCount)[found.candidate]? =
          some (.ofProfile p) := by
        rw [hseeks.candidates_eq, List.getElem?_map, hp]
        rfl
      rw [List.getElem?_take] at htaken
      split at htaken
      · exact htaken
      · cases htaken
    simp only [hcandidate, Option.getD_some]
    obtain ⟨h', hpost, hposts⟩ | ⟨hheld, hpost⟩ :=
      post_of_acknowledged hacknowledged (.connect ⟨found.record, (Candidate.ofProfile p).key⟩)
    · rw [hpost]
      have hcandidates : h'.controller.candidates = h.controller.candidates :=
        congrArg (·.2.1) (choices_of_post hpost)
      refine .found hearliest (hposts.extend rfl rfl rfl) rfl ?_
      show h'.controller.candidates[found.candidate]? = _
      rw [hcandidates]
      exact hcandidate
    · rw [hpost]
      exact .hindered hheld

theorem resolves_poll (hseeks : Seeks store h) (hacknowledged : h.isAcknowledged = true)
    (hrequest : h.controller.request = .search) : Resolves store h h.poll := by
  unfold poll
  rw [if_neg (by simp [hacknowledged]), hrequest]
  exact resolves_resolveTarget hseeks hacknowledged

/-- Whichever slots of the table are in use or masked, the first candidate that can be used is
found.  Once the host was asked for any of the stored connections, and nobody named an access point
since, the poll that ends the search connects to the first one that a compatible access point is
there for. -/
theorem earliest_is_resolved :
    (∀ (t : Table) (candidates : List Matcher) (usable : Record → Bool),
      t.Finds candidates usable (t.findMatching? candidates usable)) ∧
    ∀ {store : Nat → Option Profile} {r r' : Region} {controller : Controller}
      {memory : SharedState} {h : Host} (before waiting : List Happening),
      Controller.start store r = (r', .ok controller) →
      ((⟨controller, memory⟩ : Host).after before).perform .autoConnect = (h, .done) →
      (∀ happening ∈ waiting, happening.IsIndifferent) →
      (h.after waiting).controller.request = .search → (h.after waiting).isAcknowledged = true →
      Resolves store (h.after waiting) (h.after waiting).poll := by
  constructor
  · intro t candidates usable
    exact Table.finds_findMatching? candidates usable t
  · intro store r r' controller memory h before waiting hstart hcall hindifferent hrequest
      hacknowledged
    have hloaded := (profiles_after before ⟨controller, memory⟩).trans (profiles_of_start hstart)
    have hseeks := seeks_autoConnect hloaded (congrArg Prod.snd hcall)
    rw [hcall] at hseeks
    exact resolves_poll (hseeks.after hindifferent) hacknowledged hrequest

/-- The name of a network. -/
def homeName : Option Ssid := Ssid.ofOctets? [0x48]

/-- The first slot is not in use, the second one is for a name, the third one for an address. -/
def homeAndOffice : Nat → Option Profile
  | 1 => some ⟨homeName.getD .empty, .zero, .plain, none, .dhcp⟩
  | 2 => some ⟨.empty, ⟨0x02, 0, 0, 0, 0, 0x0f⟩, .plain, none, .dhcp⟩
  | _ => none

/-- The radio hears an access point. -/
def sighted (last : UInt8) (ssid : Option Ssid) (compatible : Bool) : Happening :=
  .change fun s => { s with accessPoints := (s.accessPoints.record {
    bssid := ⟨0x02, 0, 0, 0, 0, last⟩
    transmitter := ⟨0x02, 0, 0, 0, 0, last⟩
    ssid
    channel := 1
    rssi := none
    security := .plain
    compatible
    interval := 100
    advertisement := none } fun _ => false).1 }

/-- Of the three access points with the name, one is not compatible and one is in use.  Another one,
for the connection that is stored later, was heard before the last of them. -/
def crowdedHappenings : List Happening :=
  [.call .poll, acknowledged, sighted 1 homeName false, sighted 2 homeName true,
    sighted 0x0f none true, sighted 3 homeName true,
    .change fun s => { s with accessPoints := (s.accessPoints.hold? .radio 1).getD s.accessPoints }]

theorem earliest_is_resolved_crowdedHappenings : ∃ r controller memory h,
    Controller.start homeAndOffice .empty = (r, .ok controller) ∧ r.attach? = some memory ∧
      ((⟨controller, memory⟩ : Host).after [acknowledged]).perform .autoConnect = (h, .done) ∧
      (h.after crowdedHappenings).poll.2 = .authenticating ∧
      Resolves homeAndOffice (h.after crowdedHappenings) (h.after crowdedHappenings).poll ∧
      ∃ version target,
        (h.after crowdedHappenings).poll.1.shared.commands.slot.value =
            some (version, .connect target) ∧
          target.record.bssid = ⟨0x02, 0, 0, 0, 0, 3⟩ := by
  have hstart : Controller.start homeAndOffice .empty = (_, .ok _) := rfl
  have hmemory : (Controller.start homeAndOffice .empty).1.attach? = some _ := rfl
  refine ⟨_, _, _, _, hstart, hmemory, rfl, by decide +kernel, ?_, _, _, rfl, rfl⟩
  exact earliest_is_resolved.2 [acknowledged] crowdedHappenings hstart rfl
    (by simp [crowdedHappenings, acknowledged, sighted, Happening.IsIndifferent, Call.isConnect])
    rfl rfl

end Host

end WlanControl
