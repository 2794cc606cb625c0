import WlanControl.Link.Reception
import WlanControl.Link.Tick
import WlanControl.Proofs.LinkFrames

namespace WlanControl.Link

open WlanControl.Frame (Authentication Header)

/-!
# The link layer — tending a session

What an access point does for its peers changes the roster, the requests to remove peers and the
rings, and sends frames.  Nothing that is published has to do with it.

* `Tends` — a link before and after its session was tended;
* `tends_receivePeerAuthentication`, `tends_kick`, … — the operations that do nothing else.
-/

variable {σ : Type} {l l' l₁ l₂ l₃ : Link σ} (env : Surroundings σ)

/-- From one link to the other a session was tended or a packet was delivered. -/
structure Tends (l l' : Link σ) : Prop where
  machine_eq : l'.machine = { l.machine with
    sequenceNumber := l'.machine.sequenceNumber
    handshake.sentAt := l'.machine.handshake.sentAt
    lastSent := l'.machine.lastSent
    nextBeacon := l'.machine.nextBeacon
    currentPeers := l'.machine.currentPeers
    producer := l'.machine.producer }
  shared_eq : l'.shared = { l.shared with
    statistics := l'.shared.statistics
    sessions := l'.shared.sessions
    rx := l'.shared.rx
    tx := l'.shared.tx
    kicks := l'.shared.kicks
    kickUnassociated := l'.shared.kickUnassociated }
  log_eq : ∃ events, l'.log = events ++ l.log ∧ ∀ e ∈ events, e.isTransmission = true

namespace Tends

theorem refl (l : Link σ) : Tends l l := ⟨rfl, rfl, [], rfl, by simp⟩

theorem trans (h : Tends l₁ l₂) (h' : Tends l₂ l₃) : Tends l₁ l₃ where
  machine_eq := by
    rw [h'.machine_eq, h.machine_eq]
  shared_eq := by
    rw [h'.shared_eq, h.shared_eq]
  log_eq := by
    obtain ⟨events, hlog, hevents⟩ := h.log_eq
    obtain ⟨events', hlog', hevents'⟩ := h'.log_eq
    refine ⟨events' ++ events, by rw [hlog', hlog, List.append_assoc], ?_⟩
    intro e he
    rcases List.mem_append.mp he with he | he
    · exact hevents' e he
    · exact hevents e he

end Tends

theorem Transmits.tends (h : Transmits l l') : Tends l l' where
  machine_eq := by
    rw [h.machine_eq]
  shared_eq := by
    rw [h.shared_eq]
  log_eq := h.log_eq

theorem tends_sessions (sessions : Session.Table) (l : Link σ) :
    Tends l { l with shared.sessions := sessions } := ⟨rfl, rfl, [], rfl, by simp⟩

theorem tends_count (f : Statistics → Statistics) (l : Link σ) : Tends l (l.count f) :=
  ⟨rfl, rfl, [], rfl, by simp⟩

/-! ### Peers that come and go -/

theorem tends_receivePeerAuthentication (header : Header) (body : Authentication) (l : Link σ) :
    Tends l (l.receivePeerAuthentication env header body) := by
  have hanswered (sessions : Session.Table) (status) : Tends l
      (answerAuthentication env header.address₂ body.algorithm status
        { l with shared.sessions := sessions }) :=
    (tends_sessions sessions l).trans (transmits_answerAuthentication env _ _ _ _).tends
  unfold receivePeerAuthentication
  split
  · exact .refl l
  · simp only
    split
    · exact (transmits_answerAuthentication env _ _ _ _).tends
    · split
      · exact hanswered _ _
      · exact (tends_sessions _ l).trans (tends_count _ _)
      · exact hanswered _ _
      · exact hanswered _ _

theorem tends_receivePeerAssociation (header : Header) (l : Link σ) :
    Tends l (l.receivePeerAssociation env header) := by
  unfold receivePeerAssociation
  split
  · exact .refl l
  · simp only
    split
    · exact (tends_sessions _ l).trans (transmits_answerAssociation env _ _ _ _).tends
    · exact (tends_sessions _ l).trans (tends_count _ _)
    · exact (tends_sessions _ l).trans (transmits_answerAssociation env _ _ _ _).tends

theorem tends_dismiss (peer : MacAddress) (l : Link σ) : Tends l (l.dismiss peer) := by
  unfold dismiss
  split
  · exact tends_count _ l
  · exact tends_sessions _ l

theorem tends_kick (aid : Nat) (l : Link σ) : Tends l (l.kick env aid).1 := by
  unfold kick
  split
  · exact .refl l
  · exact (transmits_sendAway env _ _ l).tends.trans (tends_sessions _ _)

/-- The session ends before the mode is left. -/
theorem tends_endSession (l : Link σ) : ∃ ended, Tends l ended ∧
    l.endSession env = { ended with machine.host := none, machine.currentPeers := 0 } := by
  unfold endSession
  refine ⟨_, ?_, rfl⟩
  split
  · exact (transmits_sendAway env _ _ l).tends.trans (tends_sessions _ _)
  · exact (tends_count _ l).trans (transmits_sendAway env _ _ _).tends

/-! ### Packets and beacons -/

theorem tends_deliver (packet : Packet) (l : Link σ) : Tends l (l.deliver packet) := by
  unfold deliver
  split
  · exact ⟨rfl, rfl, [], rfl, by simp⟩
  · exact ⟨rfl, rfl, [], rfl, by simp⟩

theorem tends_receiveFromPeer (header : Header) (body : List UInt8) (l : Link σ) :
    Tends l (l.receiveFromPeer env header body) := by
  unfold receiveFromPeer
  split
  · exact .refl l
  · split
    · split
      · exact .refl l
      · exact tends_deliver _ l
    · exact tends_count _ l
    · exact (transmits_sendAway env _ _ l).tends

theorem tends_countPeers (l : Link σ) : Tends l l.countPeers := by
  unfold countPeers
  split
  · exact ⟨rfl, rfl, [], rfl, by simp⟩
  · exact .refl l

theorem tends_beaconTick (l : Link σ) : Tends l (l.beaconTick env) := by
  unfold beaconTick
  split
  · refine (transmits_sendBeacon env l).tends.trans ?_
    exact ⟨rfl, rfl, [], rfl, by simp⟩
  · exact .refl l

end WlanControl.Link
