import WlanControl.Proofs.LinkBurst
import WlanControl.Proofs.LinkTurns

namespace WlanControl.Link

open WlanControl.Frame (Draft ReasonCode)
open Session (Roster Slot)

/-!
# The link layer — removing peers in a tick

In a tick of a session the requests for single peers are taken at once, and those that could not be
served are put back.  Then the request for the peers that were not associated is taken, and it is
made again if it could not be served.  The host may make the same requests at any time in between,
and take the roster or give it back.

* `KickCourse`, `kickCourse` — the moments of a tick in which the radio does something to the
  requests or to the roster;
* `serveKicksByAid_cases`, `sweeps_serveKicks` — what it does in them;
* `requests_serveKicks` — the requests that are left;
* `ServesKicks` — what a tick does about the requests, be it that the roster was in use or not;
* `wants_step`, `wants_run` — a request is there until it is served.

Main statement: `servesKicks_tick`, every request is served in the tick or left after it, and nobody
is removed whom the host does not want removed.
-/

variable {σ : Type} {l l' m : Link σ} (env : Surroundings σ) {meanwhile : Meanwhile} {aid : Nat}

/-! ### The course of a tick -/

/-- The link layer without the requests for single peers, which it has taken. -/
def withoutKicks (l : Link σ) : Link σ := { l with shared := l.shared.takeKicks.1 }

/-- The link layer after the turns of all requested identifiers, and those that are put off. -/
def kickRound (env : Surroundings σ) (meanwhile : Meanwhile) (l : Link σ) : Link σ × UInt16 :=
  kickEach env meanwhile (requestedAids l.shared.kicks) 0 l.withoutKicks

/-- The moments while peers are removed in which the radio does something to the requests or to the
roster, after the host may have done so. -/
structure KickCourse (σ : Type) where
  /-- The turns of the identifiers that are requested. -/
  turns : List (Nat × Link σ)
  /-- Identifiers are put off. -/
  deferring : Option (Link σ)
  /-- The radio looks whether peers are to be removed that were not associated. -/
  asking : Link σ
  /-- The radio tries to remove these. -/
  sweeping : Option (Link σ)
  /-- All that was to be done is done or put off. -/
  counting : Link σ

/-- What happens while peers are removed. -/
def kickCourse (env : Surroundings σ) (meanwhile : Meanwhile) (l : Link σ) : KickCourse σ :=
  let round := l.kickRound env meanwhile
  let asking := (l.serveKicksByAid env meanwhile).pause meanwhile (maxPeers + 2)
  { turns := turns env meanwhile (requestedAids l.shared.kicks) l.withoutKicks
    deferring := if round.2 = 0 then none else some (round.1.pause meanwhile (maxPeers + 1))
    asking
    sweeping :=
      if asking.shared.kickUnassociated then
        some ({ asking with shared := asking.shared.takeKickUnassociated.1 }.pause meanwhile
          (maxPeers + 3))
      else none
    counting := (l.serveKicks env meanwhile).pause meanwhile (maxPeers + 4) }

namespace KickCourse

/-- The moments before the radio takes the request for the peers that were not associated. -/
def early (course : KickCourse σ) : List (Link σ) :=
  course.turns.map Prod.snd ++ course.deferring.toList ++ [course.asking]

/-- The moments after that. -/
def late (course : KickCourse σ) : List (Link σ) := course.sweeping.toList ++ [course.counting]

/-- The peers that were not associated are removed. -/
def sweeps (course : KickCourse σ) : Bool := course.sweeping.any fun m => !m.isSeized

/-- What is left of a slot. -/
def remains (course : KickCourse σ) (i : Nat) (slot : Slot) : Slot :=
  let left := if i + 1 ∈ freeTurns course.turns then slot.kicked else slot
  if course.sweeps then left.swept else left

/-- What is sent to the peers of a session that are removed. -/
def dismissals (course : KickCourse σ) (l : Link σ) : List Draft :=
  ((freeTurns course.turns).filterMap (l.member? ·)).map
      (dismissal l.machine.address .unspecified) ++
    (if course.sweeps then
      l.shared.sessions.roster.value.slots.filterMap Slot.unassociated? else []).map
      (dismissal l.machine.address .notAssociated)

end KickCourse

/-! ### Identifiers that are requested -/

theorem nodup_requestedAids (kicks : UInt16) : (requestedAids kicks).Nodup :=
  List.Pairwise.filter _ List.nodup_range'

theorem bounds_of_mem_requestedAids (kicks : UInt16) :
    ∀ aid ∈ requestedAids kicks, 1 ≤ aid ∧ aid ≤ maxPeers :=
  fun _ haid => ((SharedState.mem_requestedAids kicks).mp haid).1

/-- Identifiers that are put off are put back, if there are any. -/
theorem serveKicksByAid_cases (meanwhile : Meanwhile) (l : Link σ) :
    ((l.kickCourse env meanwhile).deferring = none ∧ (l.kickRound env meanwhile).2 = 0 ∧
      l.serveKicksByAid env meanwhile = (l.kickRound env meanwhile).1) ∨
    ∃ m, (l.kickCourse env meanwhile).deferring = some m ∧
      m = (l.kickRound env meanwhile).1.pause meanwhile (maxPeers + 1) ∧
      l.serveKicksByAid env meanwhile =
        { m with shared := m.shared.deferKicks (l.kickRound env meanwhile).2 }.count
          Statistics.countLockBusy := by
  have hround : l.serveKicksByAid env meanwhile =
      if (l.kickRound env meanwhile).2 = 0 then (l.kickRound env meanwhile).1
      else
        let m := (l.kickRound env meanwhile).1.pause meanwhile (maxPeers + 1)
        { m with shared := m.shared.deferKicks (l.kickRound env meanwhile).2 }.count
          Statistics.countLockBusy := rfl
  by_cases hnone : (l.kickRound env meanwhile).2 = 0
  · rw [if_pos hnone] at hround
    exact .inl ⟨if_pos hnone, hnone, hround⟩
  · rw [if_neg hnone] at hround
    exact .inr ⟨_, if_neg hnone, rfl, hround⟩

/-- The identifiers whose turns came while somebody used the roster are wanted again. -/
theorem wants_of_mem_heldTurns (haid : aid ∈ heldTurns (l.kickCourse env meanwhile).turns) :
    (l.serveKicksByAid env meanwhile).shared.Wants aid := by
  have hbit : (l.kickRound env meanwhile).2.toNat.testBit aid = true :=
    (testBit_kickEach env (fun aid haid => (bounds_of_mem_requestedAids _ aid haid).2) 0 _
      aid).mpr (.inr haid)
  obtain ⟨-, hnone, -⟩ | ⟨m, -, -, hdone⟩ := serveKicksByAid_cases env meanwhile l
  · rw [hnone] at hbit
    simp at hbit
  · have hbounds : 1 ≤ aid ∧ aid ≤ maxPeers := by
      obtain ⟨turn, hturn, rfl⟩ := List.mem_map.mp haid
      refine bounds_of_mem_requestedAids l.shared.kicks _ ?_
      rw [← map_fst_turns env meanwhile (requestedAids l.shared.kicks)
        l.withoutKicks]
      exact List.mem_map_of_mem (List.mem_filter.mp hturn).1
    rw [hdone]
    refine (SharedState.wants_or (s := m.shared) rfl).mpr (.inr ?_)
    exact (SharedState.mem_requestedAids _).mpr ⟨hbounds, hbit⟩

section Demands

variable (hdemands : meanwhile.OnlyDemands)
include hdemands

theorem slot?_serveKicksByAid (l : Link σ) (k : Nat) :
    (l.serveKicksByAid env meanwhile).slot? k =
      if k + 1 ∈ freeTurns (l.kickCourse env meanwhile).turns then (l.slot? k).map Slot.kicked
      else l.slot? k := by
  have hround : (l.kickRound env meanwhile).1.slot? k = _ :=
    slot?_kickEach env hdemands (bounds_of_mem_requestedAids _) 0 l.withoutKicks k
  obtain ⟨-, -, hdone⟩ | ⟨m, -, rfl, hdone⟩ := serveKicksByAid_cases env meanwhile l
  · rw [hdone]
    exact hround
  · rw [hdone]
    exact (slot?_pause hdemands _ k _).trans hround

theorem dismisses_serveKicksByAid (l : Link σ) :
    Dismisses (((freeTurns (l.kickCourse env meanwhile).turns).filterMap (l.member? ·)).map
      (dismissal l.machine.address .unspecified)) l (l.serveKicksByAid env meanwhile) := by
  have hround := dismisses_kickEach env hdemands (bounds_of_mem_requestedAids l.shared.kicks)
    (nodup_requestedAids _) 0 l.withoutKicks
  obtain ⟨-, -, hdone⟩ | ⟨m, -, rfl, hdone⟩ := serveKicksByAid_cases env meanwhile l
  · rw [hdone]
    exact hround.of_eq rfl rfl
  · rw [hdone]
    exact hround.of_eq rfl rfl

/-- No request is lost between the turns and the moment in which the radio takes the request for the
peers that were not associated. -/
theorem retains_kickRound (l : Link σ) : (l.kickRound env meanwhile).1.shared.Retains
    (l.kickCourse env meanwhile).asking.shared := by
  have hasking : (l.serveKicksByAid env meanwhile).shared.Retains
      (l.kickCourse env meanwhile).asking.shared := retains_pause hdemands _ _
  refine SharedState.Retains.trans ?_ hasking
  -- What was put off before is put back in addition to what the host wants by then.
  obtain ⟨-, -, hdone⟩ | ⟨m', -, rfl, hdone⟩ := serveKicksByAid_cases env meanwhile l
  · rw [hdone]
    exact .refl _
  · rw [hdone]
    exact (retains_pause hdemands _ _).trans (.of_or rfl id)

theorem retains_withoutKicks (l : Link σ) : l.withoutKicks.shared.Retains
    (l.kickCourse env meanwhile).asking.shared := by
  refine SharedState.Retains.trans ?_ (retains_kickRound env hdemands l)
  exact kickEach_keeps env (P := fun m => l.withoutKicks.shared.Retains m.shared)
    (fun step h => h.trans (retains_pause hdemands step _))
    (fun aid h => h.trans (retains_kick env aid _)) _ 0 (.refl _)

theorem retains_early (hm : m ∈ (l.kickCourse env meanwhile).early) :
    m.shared.Retains (l.kickCourse env meanwhile).asking.shared := by
  unfold KickCourse.early at hm
  simp only [List.mem_append, List.mem_map, Option.mem_toList, List.mem_singleton] at hm
  rcases hm with (⟨turn, hturn, rfl⟩ | hm) | rfl
  · refine SharedState.Retains.trans ?_ (retains_kickRound env hdemands l)
    exact kickEach_keeps_from env (P := fun m => turn.2.shared.Retains m.shared)
      (fun step h => h.trans (retains_pause hdemands step _))
      (fun aid h => h.trans (retains_kick env aid _)) hturn 0 (.refl _)
  · have hput : m.shared.Retains (l.serveKicksByAid env meanwhile).shared := by
      obtain ⟨hnone, -, -⟩ | ⟨m', hsome, -, hdone⟩ := serveKicksByAid_cases env meanwhile l
      · cases hnone.symm.trans hm
      · cases hsome.symm.trans hm
        rw [hdone]
        exact .of_or rfl id
    exact hput.trans (retains_pause hdemands _ _)
  · exact .refl _

end Demands

/-! ### Peers that were not associated -/

/-- What becomes of the request for the peers that were not associated. -/
inductive Sweeps (env : Surroundings σ) (course : KickCourse σ) (l' : Link σ) : Prop
  /-- There is none. -/
  | unasked (unasked : course.asking.shared.kickUnassociated = false)
    (sweeping_eq : course.sweeping = none) (done : l' = course.asking)
  /-- It is put off, since somebody uses the roster. -/
  | putOff (m : Link σ) (asked : course.asking.shared.kickUnassociated = true)
    (sweeping_eq : course.sweeping = some m) (seized : m.isSeized = true)
    (done : l' = { m with shared := m.shared.requestKickUnassociated }.count
      Statistics.countLockBusy)
  /-- They are told, and then they lose their slots. -/
  | swept (m : Link σ) (asked : course.asking.shared.kickUnassociated = true)
    (sweeping_eq : course.sweeping = some m) (free : m.isSeized = false)
    (done : l' = (m.sendAway env
        (m.shared.sessions.roster.value.slots.filterMap Slot.unassociated?)
        .notAssociated).withRoster m.shared.sessions.roster.value.kickUnassociated.1)

/-- The request for the peers that were not associated is taken before it is tried to remove
them. -/
theorem eq_of_sweeping (h : (l.kickCourse env meanwhile).sweeping = some m) :
    m = { (l.kickCourse env meanwhile).asking with
      shared.kickUnassociated := false }.pause meanwhile (maxPeers + 3) := by
  have hsweeping : (if (l.kickCourse env meanwhile).asking.shared.kickUnassociated then
      some ({ (l.kickCourse env meanwhile).asking with
        shared.kickUnassociated := false }.pause meanwhile (maxPeers + 3)) else none) = some m := h
  split at hsweeping
  · cases hsweeping
    rfl
  · cases hsweeping

theorem sweeps_serveKicks (meanwhile : Meanwhile) (l : Link σ) :
    Sweeps env (l.kickCourse env meanwhile) (l.serveKicks env meanwhile) := by
  have hdone : l.serveKicks env meanwhile =
    (l.kickCourse env meanwhile).asking.serveKickUnassociated env meanwhile := rfl
  have hsweeping : (l.kickCourse env meanwhile).sweeping =
      if (l.kickCourse env meanwhile).asking.shared.kickUnassociated then
        some ({ (l.kickCourse env meanwhile).asking with
          shared := (l.kickCourse env meanwhile).asking.shared.takeKickUnassociated.1 }.pause
            meanwhile (maxPeers + 3))
      else none := rfl
  generalize (l.kickCourse env meanwhile) = course at hdone hsweeping ⊢
  cases hasked : course.asking.shared.kickUnassociated with
  | false =>
    rw [hasked] at hsweeping
    refine .unasked hasked hsweeping (hdone.trans ?_)
    unfold serveKickUnassociated SharedState.takeKickUnassociated
    rw [hasked]
  | true =>
    rw [hasked, if_pos rfl] at hsweeping
    unfold serveKickUnassociated SharedState.takeKickUnassociated at hdone
    rw [hasked] at hdone
    unfold SharedState.takeKickUnassociated at hsweeping
    simp only at hdone hsweeping
    -- Both outcomes depend on nothing but who uses the roster at this one moment.
    generalize pause meanwhile (maxPeers + 3) _ = m at hdone hsweeping
    obtain ⟨hseized, hsame⟩ | ⟨hfree, hremoved⟩ := Session.Table.updateTelling_cases
      Roster.kickUnassociated m.shared.sessions
    · unfold Session.Table.kickUnassociated at hdone
      rw [hsame] at hdone
      exact .putOff m hasked hsweeping hseized hdone
    · unfold Session.Table.kickUnassociated at hdone
      rw [hremoved] at hdone
      refine .swept m hasked hsweeping hfree (hdone.trans ?_)
      rw [withRoster_of_sessions_eq (sessions_sendAway env _ _ m)]
      rfl

/-! ### The rest of a tick -/

/-- What follows the removal of peers leaves the roster and the requests alone, and sends nobody
away. -/
theorem spares_rest (l : Link σ) (k : Nat) :
    ((l.countPeers.beaconTick env).drainBurst env).slot? k = l.slot? k ∧
      ((l.countPeers.beaconTick env).drainBurst env).wishes = l.wishes ∧
      Dismisses [] l ((l.countPeers.beaconTick env).drainBurst env) := by
  have hcounted : l.countPeers.shared = l.shared ∧ l.countPeers.log = l.log := by
    unfold countPeers
    split <;> exact ⟨rfl, rfl⟩
  have hbeacon : (l.countPeers.beaconTick env).shared.sessions = l.shared.sessions := by
    rw [← hcounted.1]
    unfold beaconTick
    split
    · show (l.countPeers.sendBeacon env).shared.sessions = _
      rw [(transmits_sendBeacon env _).shared_eq]
    · rfl
  have hburst : ((l.countPeers.beaconTick env).drainBurst env).shared.sessions =
      l.shared.sessions := by
    refine drainBurst_keeps env (P := fun m => m.shared.sessions = l.shared.sessions)
      (fun _ h => h) ?_ hbeacon
    intro m bssid direction record h
    unfold forward
    split
    · exact h
    · rw [(transmits_send env _ _).shared_eq]
      exact h
  refine ⟨?_, (wishes_drainBurst env _).trans (wishes_beaconTick env l), ?_⟩
  · unfold slot?
    rw [hburst]
  · refine Dismisses.of_eq ((dismisses_beaconTick env l.countPeers).trans
      (dismisses_drainBurst env _)) ?_ rfl
    rw [hcounted.2]

theorem address_asking (l : Link σ) :
    (l.kickCourse env meanwhile).asking.machine.address = l.machine.address := by
  have hkept : KeptByKicks env meanwhile fun m : Link σ =>
      m.machine.address = l.machine.address := by
    refine keptByKicks_of_tends env (fun htends h => ?_) fun _ h => h
    rw [htends.machine_eq]
    exact h
  exact hkept.serveKicksByAid rfl

/-! ### Ticks -/

/-- What a tick does about the requests of the host to remove peers, from the moment when it has
served the command of the host. -/
structure ServesKicks (env : Surroundings σ) (meanwhile : Meanwhile) (course : KickCourse σ)
    (l l' : Link σ) : Prop where
  /-- Every identifier that is requested has its turn. -/
  turns_eq : course.turns.map Prod.fst = requestedAids l.shared.kicks
  /-- If nobody uses the roster then, the peer that takes part with it is told while it still has
  its slot, and loses the slot then. -/
  removes : ∀ aid m, (aid, m) ∈ course.turns → m.isSeized = false → ∀ a, l.member? aid = some a →
    (m.sendDeauthentication env a m.machine.address .unspecified).member? aid = some a ∧
      m.kick env aid = ((m.sendDeauthentication env a m.machine.address .unspecified).withRoster
        (m.shared.sessions.roster.value.set (aid - 1) .free), false)
  /-- Else it is still requested after the tick. -/
  put_off : ∀ aid ∈ heldTurns course.turns, l'.shared.Wants aid
  /-- The peers that were not associated are looked for if this is requested. -/
  sweeping_eq : course.sweeping.isSome = course.asking.shared.kickUnassociated
  /-- All that is sent to remove peers in this tick is one frame for each peer that is removed. -/
  dismisses : Dismisses (course.dismissals l) l l'
  /-- No other slot changes. -/
  slots : ∀ i, l'.slot? i = (l.slot? i).map (course.remains i)
  /-- Whatever is requested at any moment of the tick is still requested after it. -/
  wants : ∀ m ∈ course.early ++ course.late, ∀ aid, m.shared.Wants aid → l'.shared.Wants aid
  /-- The request for the peers that were not associated is served or still there after the tick. -/
  unassociated : (l.shared.kickUnassociated = true ∨
      ∃ m ∈ course.early, m.shared.kickUnassociated = true) →
    course.sweeps = true ∨ l'.shared.kickUnassociated = true
  /-- If it is made after it was taken, it is still there in any case. -/
  unassociated_late : ∀ m ∈ course.late, m.shared.kickUnassociated = true →
    l'.shared.kickUnassociated = true
  /-- What the host does not request in the tick is only requested after it if it was put off. -/
  settled : ∀ aid, (∀ step s, SharedState.Wants aid (meanwhile step s) → s.Wants aid) →
    l'.shared.Wants aid → aid ∈ heldTurns course.turns
  unassociated_settled : (∀ step s, (meanwhile step s).kickUnassociated = true →
      s.kickUnassociated = true) → l'.shared.kickUnassociated = true →
    l.shared.kickUnassociated = true ∧ course.sweeps = false

section Demands

variable (hdemands : meanwhile.OnlyDemands)
include hdemands

theorem removes_of_free {a : MacAddress} (hturn : (aid, m) ∈ (l.kickCourse env meanwhile).turns)
    (hfree : m.isSeized = false) (ha : l.member? aid = some a) :
    (m.sendDeauthentication env a m.machine.address .unspecified).member? aid = some a ∧
      m.kick env aid = ((m.sendDeauthentication env a m.machine.address .unspecified).withRoster
        (m.shared.sessions.roster.value.set (aid - 1) .free), false) := by
  have hmember : m.member? aid = some a := by
    rw [← ha]
    exact member?_of_mem_turns env hdemands (l := l.withoutKicks)
      (bounds_of_mem_requestedAids l.shared.kicks) (nodup_requestedAids _) hturn
  have hbounds : 1 ≤ aid ∧ aid ≤ maxPeers := by
    refine bounds_of_mem_requestedAids l.shared.kicks aid ?_
    rw [← map_fst_turns env meanwhile (requestedAids l.shared.kicks)
      l.withoutKicks]
    exact List.mem_map_of_mem hturn
  obtain ⟨i, rfl⟩ : ∃ i, aid = i + 1 := ⟨aid - 1, by omega⟩
  have hkicked : m.shared.sessions.roster.value.kick (UInt16.ofNat (i + 1)) =
      (m.shared.sessions.roster.value.set i .free, [a], .ok ()) :=
    Roster.kick_of_member (by omega : i < maxPeers) hmember
  constructor
  · unfold member? slot?
    rw [show (m.sendDeauthentication env a m.machine.address .unspecified).shared.sessions = _ from
      sessions_sendAway env [a] .unspecified m]
    exact hmember
  · rw [kick_of_free env hfree, hkicked]
    rfl

theorem slot?_asking (l : Link σ) (k : Nat) : (l.kickCourse env meanwhile).asking.slot? k =
    (l.slot? k).map fun slot =>
      if k + 1 ∈ freeTurns (l.kickCourse env meanwhile).turns then slot.kicked else slot := by
  refine (slot?_pause hdemands _ k _).trans ((slot?_serveKicksByAid env hdemands l k).trans ?_)
  by_cases hserved : k + 1 ∈ freeTurns (l.kickCourse env meanwhile).turns
  · simp only [hserved, if_true]
  · simp only [hserved, if_false, Option.map_id']

theorem slot?_sweeping (h : (l.kickCourse env meanwhile).sweeping = some m) (k : Nat) :
    m.slot? k = (l.kickCourse env meanwhile).asking.slot? k := by
  rw [eq_of_sweeping env h]
  exact slot?_pause hdemands _ k _

theorem slot?_serveKicks (l : Link σ) (k : Nat) : (l.serveKicks env meanwhile).slot? k =
    (l.slot? k).map ((l.kickCourse env meanwhile).remains k) := by
  have hasking := slot?_asking env hdemands l k
  unfold KickCourse.remains KickCourse.sweeps
  cases sweeps_serveKicks env meanwhile l with
  | unasked unasked sweeping_eq done =>
    rw [done, hasking, sweeping_eq]
    rfl
  | putOff m asked sweeping_eq seized done =>
    have hslot : (l.serveKicks env meanwhile).slot? k = m.slot? k := by
      rw [done]
      rfl
    rw [hslot, slot?_sweeping env hdemands sweeping_eq, hasking, sweeping_eq, Option.any_some,
      seized]
    rfl
  | swept m asked sweeping_eq free done =>
    have hslot : (l.serveKicks env meanwhile).slot? k = (m.slot? k).map Slot.swept := by
      rw [done]
      exact Roster.getElem?_slots_kickUnassociated m.shared.sessions.roster.value k
    rw [hslot, slot?_sweeping env hdemands sweeping_eq, hasking, sweeping_eq, Option.any_some, free,
      Option.map_map]
    rfl

/-- The peers that were not associated are still the same when they are looked for. -/
theorem unassociated_sweeping (h : (l.kickCourse env meanwhile).sweeping = some m) :
    m.shared.sessions.roster.value.slots.filterMap Slot.unassociated? =
      l.shared.sessions.roster.value.slots.filterMap Slot.unassociated? := by
  -- The turns before only removed peers that were associated.
  refine Roster.filterMap_unassociated?_congr fun k => ?_
  have hslot : m.slot? k = _ :=
    (slot?_sweeping env hdemands h k).trans (slot?_asking env hdemands l k)
  by_cases hserved : k + 1 ∈ freeTurns (l.kickCourse env meanwhile).turns
  · simp only [hserved, if_true] at hslot
    exact .inr hslot
  · simp only [hserved, if_false, Option.map_id'] at hslot
    exact .inl hslot

theorem dismisses_serveKicks (l : Link σ) :
    Dismisses ((l.kickCourse env meanwhile).dismissals l) l (l.serveKicks env meanwhile) := by
  have hkicked : Dismisses _ l (l.kickCourse env meanwhile).asking :=
    (dismisses_serveKicksByAid env hdemands l).of_eq rfl rfl
  unfold KickCourse.dismissals KickCourse.sweeps
  refine hkicked.trans ?_
  cases sweeps_serveKicks env meanwhile l with
  | unasked unasked sweeping_eq done =>
    rw [done, sweeping_eq]
    exact dismisses_nil rfl
  | putOff m asked sweeping_eq seized done =>
    rw [done, sweeping_eq, Option.any_some, seized]
    exact dismisses_nil (by rw [eq_of_sweeping env sweeping_eq]; rfl)
  | swept m asked sweeping_eq free done =>
    have haddress : m.machine.address = l.machine.address := by
      rw [eq_of_sweeping env sweeping_eq]
      exact address_asking env l
    have hlog : m.log = (l.kickCourse env meanwhile).asking.log := by
      rw [eq_of_sweeping env sweeping_eq]
      rfl
    have hreason : ReasonCode.ofNumber (ReasonCode.number .notAssociated) = .notAssociated := by rfl
    have hsent := dismisses_sendAway env
      (m.shared.sessions.roster.value.slots.filterMap Slot.unassociated?) hreason m
    rw [haddress, unassociated_sweeping env hdemands sweeping_eq] at hsent
    rw [done, unassociated_sweeping env hdemands sweeping_eq, sweeping_eq, Option.any_some, free]
    exact hsent.of_eq (by rw [hlog]) rfl

end Demands

/-! ### Requests that are left -/

/-- The requests are left as they are while the peers are removed that were not associated, but for
the one for these peers if it is put off. -/
theorem requests_serveKicks (meanwhile : Meanwhile) (l : Link σ) :
    ((l.kickCourse env meanwhile).sweeping = none ∧
      (l.kickCourse env meanwhile).asking.shared.kickUnassociated = false ∧
      l.serveKicks env meanwhile = (l.kickCourse env meanwhile).asking) ∨
    ∃ m, (l.kickCourse env meanwhile).sweeping = some m ∧
      (l.kickCourse env meanwhile).asking.shared.kickUnassociated = true ∧
      (l.serveKicks env meanwhile).shared.kicks = m.shared.kicks ∧
      (l.serveKicks env meanwhile).shared.kickUnassociated =
        (m.shared.kickUnassociated || m.isSeized) := by
  cases sweeps_serveKicks env meanwhile l with
  | unasked unasked sweeping_eq done => exact .inl ⟨sweeping_eq, unasked, done⟩
  | putOff m asked sweeping_eq seized done =>
    refine .inr ⟨m, sweeping_eq, asked, ?_, ?_⟩
    · rw [done]
      rfl
    · rw [done, seized, Bool.or_true]
      rfl
  | swept m asked sweeping_eq free done =>
    have hkept := wishes_withRoster_sendAway env
      (m.shared.sessions.roster.value.slots.filterMap Slot.unassociated?) .notAssociated
      m.shared.sessions.roster.value.kickUnassociated.1 m
    rw [← done] at hkept
    refine .inr ⟨m, sweeping_eq, asked, congrArg Wishes.kicks hkept, ?_⟩
    rw [free, Bool.or_false]
    exact congrArg Wishes.kickUnassociated hkept

/-- If the request for the peers that were not associated is there when it is looked for, it is
served or there again. -/
theorem unassociated_of_asking
    (h : (l.kickCourse env meanwhile).asking.shared.kickUnassociated = true) :
    (l.kickCourse env meanwhile).sweeps = true ∨
      (l.serveKicks env meanwhile).shared.kickUnassociated = true := by
  obtain ⟨-, hunasked, -⟩ | ⟨m, hsweeping, -, -, hleft⟩ := requests_serveKicks env meanwhile l
  · cases hunasked.symm.trans h
  · unfold KickCourse.sweeps
    rw [hsweeping, Option.any_some, hleft]
    cases m.isSeized with
    | true => exact .inr (Bool.or_true _)
    | false => exact .inl rfl

theorem retains_sweeping (h : (l.kickCourse env meanwhile).sweeping = some m) :
    m.shared.Retains (l.serveKicks env meanwhile).shared := by
  obtain ⟨hnone, -, -⟩ | ⟨m', hsweeping, -, hkicks, hleft⟩ := requests_serveKicks env meanwhile l
  · cases hnone.symm.trans h
  · cases hsweeping.symm.trans h
    refine ⟨fun aid hwants => ?_, fun hraised => by rw [hleft, hraised, Bool.true_or]⟩
    unfold SharedState.Wants
    rw [hkicks]
    exact hwants

section Demands

variable (hdemands : meanwhile.OnlyDemands)
include hdemands

/-- The requests for single peers are all kept from the moment in which the radio takes the other
one. -/
theorem wants_of_asking (h : (l.kickCourse env meanwhile).asking.shared.Wants aid) :
    (l.serveKicks env meanwhile).shared.Wants aid := by
  obtain ⟨-, -, hdone⟩ | ⟨m, hsweeping, -⟩ := requests_serveKicks env meanwhile l
  · rw [hdone]
    exact h
  · refine (retains_sweeping env hsweeping).wants aid ?_
    rw [eq_of_sweeping env hsweeping]
    exact (retains_pause hdemands _ _).wants aid h

end Demands

/-! ### Requests that are not made again -/

/-- Unless the host requests it, an identifier is only left if it was put off. -/
theorem mem_heldTurns_of_wants
    (hnothing : ∀ step s, SharedState.Wants aid (meanwhile step s) → s.Wants aid)
    (h : (l.serveKicks env meanwhile).shared.Wants aid) :
    aid ∈ heldTurns (l.kickCourse env meanwhile).turns := by
  have hasking : (l.serveKicksByAid env meanwhile).shared.Wants aid := by
    refine hnothing (maxPeers + 2) _ ?_
    obtain ⟨-, -, hdone⟩ | ⟨m, hsweeping, -, hkicks, -⟩ := requests_serveKicks env meanwhile l
    · rw [hdone] at h
      exact h
    · unfold SharedState.Wants at h
      rw [hkicks, eq_of_sweeping env hsweeping] at h
      exact (hnothing (maxPeers + 3)
        { (l.kickCourse env meanwhile).asking.shared with kickUnassociated := false } h :)
  -- All requests were taken before the turns, so that none is there after them.
  have hround : ¬ (l.kickRound env meanwhile).1.shared.Wants aid := by
    refine kickEach_keeps env (P := fun m => ¬ m.shared.Wants aid)
      (fun step h hwants => h (hnothing step _ hwants)) (fun {m} other h => ?_) _ 0
      (SharedState.not_wants_of_kicks_eq_zero rfl)
    have hkicks : (m.kick env other).1.shared.kicks = m.shared.kicks :=
      congrArg Wishes.kicks (wishes_kick env other m)
    unfold SharedState.Wants at h ⊢
    rw [hkicks]
    exact h
  obtain ⟨-, -, hdone⟩ | ⟨m, -, rfl, hdone⟩ := serveKicksByAid_cases env meanwhile l
  · rw [hdone] at hasking
    exact absurd hasking hround
  · rw [hdone] at hasking
    have hwanted : ((l.kickRound env meanwhile).1.pause meanwhile (maxPeers + 1)).shared.Wants aid ∨
        aid ∈ requestedAids (l.kickRound env meanwhile).2 := (SharedState.wants_or rfl).mp hasking
    obtain hwants | hdeferred := hwanted
    · exact absurd (hnothing _ _ hwants) hround
    · have hbit := ((SharedState.mem_requestedAids _).mp hdeferred).2
      refine ((testBit_kickEach env (fun aid haid => ?_) 0 _ aid).mp hbit).resolve_left (by simp)
      exact (bounds_of_mem_requestedAids _ aid haid).2

/-- Unless the host requests it again, the request for the peers that were not associated is only
left if it was put off. -/
theorem unassociated_of_left
    (hnothing : ∀ step s, (meanwhile step s).kickUnassociated = true → s.kickUnassociated = true)
    (h : (l.serveKicks env meanwhile).shared.kickUnassociated = true) :
    l.shared.kickUnassociated = true ∧ (l.kickCourse env meanwhile).sweeps = false := by
  obtain ⟨-, hunasked, hdone⟩ | ⟨m, hsweeping, hasked, -, hleft⟩ :=
    requests_serveKicks env meanwhile l
  · rw [hdone, hunasked] at h
    cases h
  · constructor
    · -- It was there before the turns, which do nothing about it.
      have hround : l.shared.kickUnassociated = false →
          (l.kickRound env meanwhile).1.shared.kickUnassociated = false := by
        intro hunasked
        refine kickEach_keeps env (P := fun m => m.shared.kickUnassociated = false)
          (fun step h => ?_) (fun aid h => ?_) _ 0 hunasked
        · exact Bool.eq_false_iff.mpr fun hraised =>
            Bool.false_ne_true (h.symm.trans (hnothing step _ hraised))
        · exact (congrArg Wishes.kickUnassociated (wishes_kick env aid _)).trans h
      have hkicked : (l.kickRound env meanwhile).1.shared.kickUnassociated = true := by
        have hasked := hnothing (maxPeers + 2) _ hasked
        obtain ⟨-, -, hdone⟩ | ⟨m, -, rfl, hdone⟩ := serveKicksByAid_cases env meanwhile l
        · rw [hdone] at hasked
          exact hasked
        · rw [hdone] at hasked
          exact hnothing (maxPeers + 1) _ hasked
      cases hraised : l.shared.kickUnassociated with
      | true => rfl
      | false => cases (hround hraised).symm.trans hkicked
    · have htaken : m.shared.kickUnassociated = false := by
        rw [eq_of_sweeping env hsweeping]
        exact Bool.eq_false_iff.mpr fun hraised =>
          Bool.false_ne_true (hnothing (maxPeers + 3) _ hraised)
      rw [h, htaken, Bool.false_or] at hleft
      unfold KickCourse.sweeps
      rw [hsweeping, Option.any_some, ← hleft]
      rfl

/-- What the host and the radio do to remove peers while a session is hosted. -/
theorem servesKicks_accessPointTick (hdemands : meanwhile.OnlyDemands) (l : Link σ) :
    ServesKicks env meanwhile (l.kickCourse env meanwhile) l (l.accessPointTick env meanwhile) := by
  have hrest (k : Nat) := spares_rest env (l.kickCourse env meanwhile).counting k
  have hwishes : (l.accessPointTick env meanwhile).wishes =
    (l.kickCourse env meanwhile).counting.wishes := (hrest 0).2.1
  have hcounting : (l.serveKicks env meanwhile).shared.Retains
      (l.kickCourse env meanwhile).counting.shared := retains_pause hdemands (maxPeers + 4) _
  have hafter : (l.kickCourse env meanwhile).counting.shared.Retains
      (l.accessPointTick env meanwhile).shared := retains_of_wishes_eq hwishes
  have hlate : ∀ m ∈ (l.kickCourse env meanwhile).late,
      m.shared.Retains (l.accessPointTick env meanwhile).shared := by
    intro m hm
    simp only [KickCourse.late, List.mem_append, Option.mem_toList, List.mem_singleton] at hm
    rcases hm with hm | rfl
    · exact ((retains_sweeping env hm).trans hcounting).trans hafter
    · exact hafter
  refine
    { turns_eq := map_fst_turns env meanwhile _ _
      removes := fun aid m hturn hfree a ha => removes_of_free env hdemands hturn hfree ha
      put_off := fun aid haid => ?_
      sweeping_eq := ?_
      dismisses := ?_
      slots := fun i => ?_
      wants := fun m hm aid hwants => ?_
      unassociated := fun hraised => ?_
      unassociated_late := fun m hm => (hlate m hm).unassociated
      settled := fun aid hnothing hwants => ?_
      unassociated_settled := fun hnothing hraised => ?_ }
  · -- What is put off is put back before the other request is looked for, and stays.
    refine (hcounting.trans hafter).wants aid (wants_of_asking env hdemands ?_)
    exact (retains_pause hdemands _ _).wants aid (wants_of_mem_heldTurns env haid)
  · obtain ⟨hsweeping, hasked, -⟩ | ⟨m, hsweeping, hasked, -⟩ := requests_serveKicks env meanwhile l
    · rw [hsweeping, hasked]
      rfl
    · rw [hsweeping, hasked]
      rfl
  · have hnobody : Dismisses [] (l.serveKicks env meanwhile) (l.accessPointTick env meanwhile) :=
      (hrest 0).2.2.of_eq rfl rfl
    have hdone := (dismisses_serveKicks env hdemands l).trans hnobody
    rw [List.append_nil] at hdone
    exact hdone
  · exact (hrest i).1.trans ((slot?_pause hdemands _ i _).trans (slot?_serveKicks env hdemands l i))
  · rcases List.mem_append.mp hm with hm | hm
    · refine (hcounting.trans hafter).wants aid (wants_of_asking env hdemands ?_)
      exact (retains_early env hdemands hm).wants aid hwants
    · exact (hlate m hm).wants aid hwants
  · -- However early it was made, it is there when it is looked for.
    have hasked : (l.kickCourse env meanwhile).asking.shared.kickUnassociated = true := by
      obtain hraised | ⟨m, hm, hraised⟩ := hraised
      · exact (retains_withoutKicks env hdemands l).unassociated hraised
      · exact (retains_early env hdemands hm).unassociated hraised
    exact (unassociated_of_asking env hasked).imp_right (hcounting.trans hafter).unassociated
  · have hkicks : (l.accessPointTick env meanwhile).shared.kicks =
      (l.kickCourse env meanwhile).counting.shared.kicks := congrArg Wishes.kicks hwishes
    unfold SharedState.Wants at hwants
    rw [hkicks] at hwants
    exact mem_heldTurns_of_wants env hnothing (hnothing (maxPeers + 4) _ hwants)
  · have hleft : (l.accessPointTick env meanwhile).shared.kickUnassociated =
        (l.kickCourse env meanwhile).counting.shared.kickUnassociated :=
      congrArg Wishes.kickUnassociated hwishes
    rw [hleft] at hraised
    exact unassociated_of_left env hnothing (hnothing (maxPeers + 4) _ hraised)

/-- A tick that serves a session removes peers, and then does what is left of it. -/
theorem step_tick_of_hosting {now : Nat} {moves : Nat → HostMove}
    (hmode : (l.served env moves now).machine.mode = .accessPoint) :
    l.step env (.tick now moves) =
      (l.served env moves now).accessPointTick env fun step => (moves step).act := by
  have hstep : l.step env (.tick now moves) =
    (l.served env moves now).work env fun step => (moves step).act := rfl
  rw [hstep]
  unfold work
  rw [hmode]

/-- Any other tick leaves the requests alone. -/
theorem wishes_step_tick_of_not_hosting {now : Nat} {moves : Nat → HostMove}
    (hmode : (l.served env moves now).machine.mode ≠ .accessPoint) :
    (l.step env (.tick now moves)).wishes = l.wishes := by
  refine (wishes_work_of_not_hosting env _ hmode).trans ?_
  cases leavesWishes_serveCommand env (fun step => (moves step).act) (l.atTime now) with
  | same wishes_eq => exact wishes_eq
  | opening _ _ hosting => exact absurd hosting hmode

/-- No request is lost while a command is served. -/
theorem LeavesWishes.retains {meanwhile : Meanwhile} {command? : Option Command}
    (h : LeavesWishes meanwhile command? l l') (hdemands : meanwhile.OnlyDemands) :
    l.shared.Retains l'.shared := by
  cases h with
  | same wishes_eq => exact retains_of_wishes_eq wishes_eq
  | opening left _ _ before after =>
    exact ((retains_of_wishes_eq before).trans (retains_pause hdemands 0 left)).trans
      (retains_of_wishes_eq after)

/-! ### Requests over time -/

/-- In the course of the action an identifier has its turn while nobody uses the roster. -/
def ServesAid (env : Surroundings σ) (aid : Nat) (l : Link σ) : Action → Prop
  | .tick now moves => (l.served env moves now).machine.mode = .accessPoint ∧
      aid ∈ freeTurns ((l.served env moves now).kickCourse env fun step => (moves step).act).turns
  | .post _ | .host _ | .receive _ _ _ _ => False

/-- It has such a turn in the course of some actions. -/
def ServesAidAmid (env : Surroundings σ) (aid : Nat) : List Action → Link σ → Prop
  | [], _ => False
  | action :: rest, l => l.ServesAid env aid action ∨ ServesAidAmid env aid rest (l.step env action)

/-- A request outlives every action, unless it is served in the course of it. -/
theorem wants_step {action : Action} (hdemands : action.OnlyDemands) (h : l.shared.Wants aid) :
    (l.step env action).shared.Wants aid ∨ l.ServesAid env aid action := by
  cases action with
  | post command =>
    have hposted : l.shared.Demands (l.shared.postCommand command).1 :=
      (SharedState.keptByAsking_demands l.shared).post command ⟨.refl _, rfl⟩
    exact .inl (hposted.wants aid h)
  | host move => exact .inl ((hdemands l.shared).wants aid h)
  | receive octets rssi now seized =>
    have hsame := wishes_receiveAmid env seized octets rssi now l
    exact .inl ((retains_of_wishes_eq hsame).wants aid h)
  | tick now moves =>
    by_cases hmode : (l.served env moves now).machine.mode = .accessPoint
    · have honly : Meanwhile.OnlyDemands fun step => (moves step).act := hdemands
      have hserves := servesKicks_accessPointTick env honly (l.served env moves now)
      have hserved : (l.served env moves now).shared.Wants aid :=
        ((leavesWishes_serveCommand env _ (l.atTime now)).retains honly).wants aid h
      have hrequested : aid ∈ ((l.served env moves now).kickCourse env
          fun step => (moves step).act).turns.map Prod.fst := by
        rw [hserves.turns_eq]
        exact hserved
      obtain ⟨turn, hturn, rfl⟩ := List.mem_map.mp hrequested
      cases hseized : turn.2.isSeized with
      | true =>
        rw [step_tick_of_hosting env hmode]
        refine .inl (hserves.put_off turn.1 (List.mem_map_of_mem ?_))
        exact List.mem_filter.mpr ⟨hturn, hseized⟩
      | false =>
        refine .inr ⟨hmode, List.mem_map_of_mem ?_⟩
        exact List.mem_filter.mpr ⟨hturn, by rw [hseized]; rfl⟩
    · have hsame : (l.step env (.tick now moves)).wishes = l.wishes :=
        wishes_step_tick_of_not_hosting env hmode
      exact .inl ((retains_of_wishes_eq hsame).wants aid h)

/-- A request is there until it is served, however long that takes and whatever happens. -/
theorem wants_run {actions : List Action} (hdemands : ∀ action ∈ actions, action.OnlyDemands)
    (h : l.shared.Wants aid) :
    (run env actions l).shared.Wants aid ∨ ServesAidAmid env aid actions l := by
  induction actions generalizing l with
  | nil => exact .inl h
  | cons action rest ih =>
    -- Either the first action serves it, or it is still there for the rest of them.
    rw [List.forall_mem_cons] at hdemands
    obtain hwants | hserves := wants_step env hdemands.1 h
    · exact (ih hdemands.2 hwants).imp_right .inr
    · exact .inr (.inl hserves)

/-! ### Ticks of any kind -/

/-- A tick serves every request to remove peers or leaves it, whatever the host asks for in the
meantime and whenever it uses the roster.  A tick that starts or ends something else leaves all of
them. -/
theorem servesKicks_tick {now : Nat} {moves : Nat → HostMove}
    (hdemands : ∀ step, (moves step).OnlyDemands) (l : Link σ) :
    LeavesWishes (fun step => (moves step).act) (l.shared.commands.take.2.map Prod.snd) l
        (l.served env moves now) ∧
      l.shared.Retains (l.served env moves now).shared ∧
      ((l.served env moves now).machine.mode = .accessPoint →
        ServesKicks env (fun step => (moves step).act)
          ((l.served env moves now).kickCourse env fun step => (moves step).act)
          (l.served env moves now) (l.step env (.tick now moves))) ∧
      ((l.served env moves now).machine.mode ≠ .accessPoint →
        (l.step env (.tick now moves)).wishes = l.wishes) := by
  have hleaves : LeavesWishes (fun step => (moves step).act)
      (l.shared.commands.take.2.map Prod.snd) l (l.served env moves now) := by
    cases leavesWishes_serveCommand env (fun step => (moves step).act) (l.atTime now) with
    | same wishes_eq => exact .same wishes_eq
    | opening left hcommand hosting before after =>
      exact .opening left hcommand hosting before after
  refine ⟨hleaves, hleaves.retains hdemands, fun hmode => ?_, wishes_step_tick_of_not_hosting env⟩
  rw [step_tick_of_hosting env hmode]
  exact servesKicks_accessPointTick env (fun step => hdemands step) (l.served env moves now)

/-- The host of an open session. -/
def sessionController : Host.Controller := { Host.Controller.afterPost [] 2 with request := .host }

/-- A session whose host wants its only peer removed, somebody who does not take part, and all who
were not associated. -/
def weededSession : Link Unit :=
  run (.answering .refused) (hostingActions ++ [.host (calling sessionController (.kick 1)),
    .host (calling sessionController (.kick 2)),
    .host (calling sessionController .kickUnassociated)]) (fresh networkAddress)

/-- The host uses the roster from the second turn on, and gives it back once that turn is put
off. -/
def graspingMoves (step : Nat) : HostMove :=
  if step = 2 then holding else if step = 17 then releasing else .idle

theorem servesKicks_tick_weededSession :
    let env := Surroundings.answering .refused
    let served := weededSession.served env graspingMoves 1
    let course := served.kickCourse env fun step => (graspingMoves step).act
    let after := weededSession.step env (.tick 1 graspingMoves)
    (∀ step, (graspingMoves step).OnlyDemands) ∧ served.machine.mode = .accessPoint ∧
      freeTurns course.turns = [1] ∧ heldTurns course.turns = [2] ∧ course.sweeps = true ∧
      served.member? 1 = some stationAddress ∧ after.member? 1 = none ∧
      requestedAids after.shared.kicks = [2] ∧ after.shared.kickUnassociated = false ∧
      LeavesWishes (fun step => (graspingMoves step).act)
        (weededSession.shared.commands.take.2.map Prod.snd) weededSession served ∧
      weededSession.shared.Retains served.shared ∧
      (served.machine.mode = .accessPoint →
        ServesKicks env (fun step => (graspingMoves step).act) course served after) ∧
      (served.machine.mode ≠ .accessPoint → after.wishes = weededSession.wishes) := by
  have hdemands : ∀ step, (graspingMoves step).OnlyDemands := by
    intro step
    unfold graspingMoves
    split
    · exact onlyDemands_holding
    · split
      · exact onlyDemands_releasing
      · exact onlyDemands_idle
  refine ⟨hdemands, by decide +kernel, by decide +kernel, by decide +kernel, by decide +kernel,
    by decide +kernel, by decide +kernel, by decide +kernel, by decide +kernel, ?_⟩
  exact servesKicks_tick _ hdemands _

end WlanControl.Link
