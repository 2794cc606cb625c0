import WlanControl.Proofs.LinkSilence
import WlanControl.Proofs.LinkUtterances

namespace WlanControl

open WlanControl.Frame (AuthAlgorithm Draft Header RateSet ReasonCode StatusCode)
open Session (Roster)

/-!
# The link layer — a station and an access point get together

A station that was told to connect to an access point, and an access point that lets it in, need
only each other's frames.  A station that left the access point just before says so first, and is
then a newcomer.

* `Session.Table.Welcomes` — the access point has room for a station, or knows it already;
* `Link.Encounter` — a station, an access point and the frames on their way, with
  `Link.Encounter.Move` for what happens to them;
* `Link.Attempt` — what the station wants, with `Link.Attempt.Awaits` and `Link.Attempt.Hosts` for
  the two sides of it;
* `Link.Progress`, `Link.Attempt.Reached` — how far they have come, and how many frames are left;
* `Link.Encounter.Joined` — both sides agree that the station takes part.

Main statements: `Link.Encounter.joins_if_delivered`, the station takes part as soon as all frames
have arrived, and `Link.not_joined_after_farewell`, who leaves a session that is closed does not get
into it again.
-/

/-! ### Room in the roster -/

namespace Session

namespace Roster

variable {r : Roster} {a : MacAddress} {i : Nat}

/-- There is a free slot as long as not all are used. -/
theorem exists_firstFree? (h : r.occupied < maxPeers) : ∃ k, r.firstFree? = some k := by
  cases hfree : r.firstFree? with
  | some k => exact ⟨k, rfl⟩
  | none =>
    have hall : r.occupied = r.slots.length := by
      refine List.countP_eq_length.mpr ?_
      intro slot hslot
      simpa using List.findIdx?_eq_none_iff.mp hfree slot hslot
    rw [hall, r.length_slots] at h
    exact absurd h (Nat.lt_irrefl _)

/-- A peer that takes part is known as one. -/
theorem stateOf_of_slot (horderly : r.Orderly) (hslot : r.slots[i]? = some (.associated a)) :
    r.stateOf a = .associated := by
  have ha : r.address? i = some a := by
    rw [address?, hslot]
    rfl
  rw [stateOf, horderly.position?_eq ha]
  simp only
  rw [hslot]
  rfl

end Roster

namespace Table

variable {α : Type} {t : Table} {a : MacAddress} {i : Nat}

/-- The table has room for a newcomer, or the station is none. -/
def Welcomes (a : MacAddress) (t : Table) : Prop :=
  (∃ i, t.roster.value.address? i = some a) ∨
    t.accepting = true ∧ t.roster.value.occupied < t.roster.value.limit

/-- Who is welcome gets a slot. -/
theorem authenticate_of_welcomes (hfree : t.roster.isHeld = false)
    (horderly : t.roster.value.Orderly) (h : t.Welcomes a) : ∃ i, (t.authenticate a).2 = .ok i := by
  unfold authenticate
  rw [snd_update, hfree, if_neg Bool.false_ne_true]
  rcases h with ⟨i, hi⟩ | ⟨haccepting, hroom⟩
  · exact ⟨i, Roster.authenticate_of_position? (horderly.position?_eq hi) _⟩
  · unfold Roster.authenticate
    split
    · exact ⟨_, rfl⟩
    · obtain ⟨k, hk⟩ := Roster.exists_firstFree? (Nat.lt_of_lt_of_le hroom horderly.limit_le)
      rw [haccepting, hk, if_neg (by decide), if_neg (Nat.not_le.mpr hroom)]
      exact ⟨k, rfl⟩

/-- A peer that takes part is in the slot that it had. -/
theorem slot_of_associate (hfree : t.roster.isHeld = false) (horderly : t.roster.value.Orderly)
    (ha : t.roster.value.address? i = some a) :
    (t.associate a).1.roster.value.slots[i]? = some (.associated a) := by
  have hi : i < t.roster.value.slots.length := by
    rw [t.roster.value.length_slots]
    exact Roster.lt_of_address? ha
  unfold associate
  rcases update_cases (Roster.associate a) t with ⟨hheld, -⟩ | ⟨-, hchanged⟩
  · rw [hfree] at hheld
    cases hheld
  · rw [hchanged]
    show (t.roster.value.associate a).1.slots[i]? = _
    rw [Roster.associate, horderly.position?_eq ha]
    exact List.getElem?_set_self hi

/-- A station that leaves is welcome again, as long as newcomers are let in. -/
theorem welcomes_disconnect (horderly : t.roster.value.Orderly) (haccepting : t.accepting = true)
    (h : t.Welcomes a) (b : MacAddress) : (t.disconnect b).1.Welcomes a := by
  unfold disconnect
  rcases update_cases (Roster.disconnect b) t with ⟨-, hsame⟩ | ⟨-, hchanged⟩
  · rw [hsame]
    exact h
  · rw [hchanged]
    cases hfound : t.roster.value.position? b with
    | none =>
      rw [show t.roster.value.disconnect b = (t.roster.value, _) by
        rw [Roster.disconnect, hfound]]
      exact h
    | some k =>
      -- One slot less is used than before, when no more than allowed were.
      refine .inr ⟨haccepting, ?_⟩
      have hk : k < t.roster.value.slots.length := by
        rw [t.roster.value.length_slots]
        exact (Roster.position_eq_some hfound).1
      obtain ⟨slot, hslot, hsame⟩ :=
        Option.bind_eq_some_iff.mp (Roster.position_eq_some hfound).2
      have hset := Roster.occupied_set hslot .free
      have hle := horderly.occupied_le
      rw [if_neg (by rintro rfl; cases hsame), if_pos rfl] at hset
      rw [show t.roster.value.disconnect b = (t.roster.value.set k .free, _) by
        rw [Roster.disconnect, hfound]]
      show (t.roster.value.set k .free).occupied < t.roster.value.limit
      omega

end Table

end Session

namespace Link

variable {σ τ : Type}

/-! ### Two sides and the frames between them -/

/-- The frames that were sent from one link to the other. -/
def sentSince (l l' : Link σ) : List (List UInt8) :=
  (transmitted l'.log).drop (transmitted l.log).length

theorem Utters.sentSince {l l' : Link σ} {drafts : List Draft} (h : Utters drafts l l') :
    List.Forall₂ Draft.Reads drafts (l.sentSince l') := by
  obtain ⟨frames, hframes, hreads⟩ := h
  rw [Link.sentSince, hframes, List.drop_left]
  exact hreads

/-- A station and an access point that hear each other. -/
structure Encounter (σ τ : Type) where
  station : Link σ
  accessPoint : Link τ
  /-- The frames that the access point has not heard yet, oldest first. -/
  up : List (List UInt8)
  /-- The frames that the station has not heard yet, oldest first. -/
  down : List (List UInt8)

namespace Encounter

/-- What may happen next. -/
inductive Move
  /-- The access point hears the oldest frame. -/
  | up (rssi : UInt8) (now : Nat) (seized : Nat → Bool)
  /-- The station hears the oldest frame. -/
  | down (rssi : UInt8) (now : Nat) (seized : Nat → Bool)
  /-- A tick of the station. -/
  | wait (now : Nat)

variable (envA : Surroundings σ) (envB : Surroundings τ)

/-- The encounter after one more move. -/
def step (e : Encounter σ τ) : Move → Encounter σ τ
  | .up rssi now seized =>
    match e.up with
    | [] => e
    | frame :: rest =>
      let accessPoint := e.accessPoint.receiveAmid envB seized frame rssi now
      { e with accessPoint, up := rest, down := e.down ++ e.accessPoint.sentSince accessPoint }
  | .down rssi now seized =>
    match e.down with
    | [] => e
    | frame :: rest =>
      let station := e.station.receiveAmid envA seized frame rssi now
      { e with station, up := e.up ++ e.station.sentSince station, down := rest }
  | .wait now =>
    let station := e.station.tick envA now
    { e with station, up := e.up ++ e.station.sentSince station }

/-- The encounter after some moves. -/
def run (moves : List Move) (e : Encounter σ τ) : Encounter σ τ := moves.foldl (step envA envB) e

/-- Whether a frame arrives in a move. -/
def delivers (e : Encounter σ τ) : Move → Bool
  | .up _ _ _ => !e.up.isEmpty
  | .down _ _ _ => !e.down.isEmpty
  | .wait _ => false

/-- How many frames arrive in some moves. -/
def deliveries : List Move → Encounter σ τ → Nat
  | [], _ => 0
  | move :: rest, e => (if e.delivers move then 1 else 0) + deliveries rest (e.step envA envB move)

/-- The station does all it does at a time in which it waits for an answer. -/
def Move.IsWithin (start interval : Nat) : Move → Prop
  | .up _ _ _ => True
  | .down _ now _ | .wait now => start ≤ now ∧ now < start + interval

instance (start interval : Nat) : (move : Move) → Decidable (move.IsWithin start interval)
  | .up _ _ _ => inferInstanceAs (Decidable True)
  | .down _ now _ | .wait now =>
    inferInstanceAs (Decidable (start ≤ now ∧ now < start + interval))

/-- Both sides agree that the station takes part, and it got there at once. -/
structure Joined (e : Encounter σ τ) : Prop where
  connected : e.station.machine.mode = .connected
  retries_eq : e.station.machine.retries = 0
  associated : e.accessPoint.shared.sessions.roster.value.stateOf e.station.machine.address =
    .associated
  mem_peers : ⟨e.station.machine.address, e.station.shared.status.aid⟩ ∈
    e.accessPoint.shared.sessions.roster.value.peers

end Encounter

/-! ### What the station wants -/

/-- What matters of a station on its way into a network. -/
structure Bearing where
  mode : Mode
  authLevel : AuthLevel
  target : Option ConnectTarget
  address : MacAddress
  interval : Nat
  retries : UInt8
  step : HandshakeStep
  algorithm : AuthAlgorithm
  rateSet : RateSet
  mayFallBack : Bool

/-- How a station stands. -/
def Machine.bearing (m : Machine) : Bearing where
  mode := m.mode
  authLevel := m.authLevel
  target := m.target
  address := m.address
  interval := m.settings.resendInterval
  retries := m.retries
  step := m.handshake.step
  algorithm := m.handshake.algorithm
  rateSet := m.handshake.rateSet
  mayFallBack := m.handshake.algorithm = .sharedKey && !m.handshake.openSystemTried

/-- What a station wants, and since when. -/
structure Attempt where
  address : MacAddress
  target : ConnectTarget
  start : Nat
  interval : Nat

namespace Attempt

/-- The first frame of the handshake. -/
def request (c : Attempt) (algorithm : AuthAlgorithm) : Draft :=
  .authentication c.target.bssid c.address c.target.bssid
    { algorithm, sequence := 1, status := .success, challenge := none } false

/-- The answer of the access point. -/
def answer (c : Attempt) (algorithm : AuthAlgorithm) (status : StatusCode) : Draft :=
  .authentication c.address c.target.bssid c.target.bssid
    { algorithm, sequence := 2, status, challenge := none } false

/-- The request to take part. -/
def joinRequest (c : Attempt) : Draft :=
  .associationRequest c.target.bssid c.address (c.target.record.ssid.getD .empty)
    (decide (c.target.record.security.security ≠ .plain)) .native

/-- The station takes part under an identifier. -/
def permission (c : Attempt) (aid : UInt16) : Draft :=
  .associationResponse c.address c.target.bssid .success aid

variable {c : Attempt}

/-- How the station should stand while it waits for an answer in a step of its handshake. -/
def bearing (c : Attempt) (step : HandshakeStep) (algorithm : AuthAlgorithm) : Bearing where
  mode := .connecting
  authLevel := if step = .associate then .authenticated else .disconnected
  target := some c.target
  address := c.address
  interval := c.interval
  retries := 0
  step
  algorithm
  rateSet := .native
  mayFallBack := algorithm = .sharedKey

/-- The station waits for an answer in a step of its handshake. -/
structure Awaits (c : Attempt) (step : HandshakeStep) (algorithm : AuthAlgorithm) (l : Link σ) :
    Prop where
  waits : l.Waits
  bearing_eq : l.machine.bearing = c.bearing step algorithm
  start_le : c.start ≤ l.machine.handshake.sentAt

/-- The access point has a session, and nobody uses its roster. -/
structure Hosts (c : Attempt) (b : Link τ) : Prop where
  mode_eq : b.machine.mode = .accessPoint
  address_eq : b.machine.address = c.target.bssid
  free : b.shared.sessions.roster.isHeld = false
  orderly : b.shared.sessions.roster.value.Orderly

end Attempt

/-! ### The access point -/

section AccessPoint

variable {c : Attempt} {b : Link τ} {envB : Surroundings τ} {frame : List UInt8}

namespace Attempt.Hosts

/-- The roster may change as long as it stays in order, and it does not matter when. -/
theorem of_sessions (h : c.Hosts b) {t : Session.Table} (hfree : t.roster.isHeld = false)
    (horderly : t.roster.value.Orderly) (now : Nat) :
    c.Hosts { b.atTime now with shared.sessions := t } :=
  ⟨h.mode_eq, h.address_eq, hfree, horderly⟩

/-- What a peer does to the roster leaves it in order. -/
theorem of_update (h : c.Hosts b) {α : Type} {f : Roster → Roster × Except Session.Error α}
    (horderly : (f b.shared.sessions.roster.value).1.Orderly) (now : Nat) :
    c.Hosts { b.atTime now with shared.sessions := (b.shared.sessions.update f).1 } :=
  h.of_sessions ((Session.Table.isHeld_update f b.shared.sessions).trans h.free)
    (Session.Table.value_update h.orderly horderly) now

/-- What is sent changes nothing of the session. -/
theorem of_transmits {b' : Link τ} (h : c.Hosts b) (hsent : Transmits b b') : c.Hosts b' := by
  constructor
  · rw [hsent.machine_eq]
    exact h.mode_eq
  · rw [hsent.machine_eq]
    exact h.address_eq
  · rw [hsent.shared_eq]
    exact h.free
  · rw [hsent.shared_eq]
    exact h.orderly

/-- The access point acts upon what it hears. -/
theorem exists_handle (h : c.Hosts b) (envB : Surroundings τ) {draft : Draft}
    (hread : draft.Reads frame) :
    ∃ number, ∀ seized rssi now, b.receiveAmid envB seized frame rssi now =
      (b.atTime now).handle envB seized (draft.received number) rssi :=
  receiveAmid_of_reads envB (by rw [h.mode_eq]; decide) hread

end Attempt.Hosts

/-- A peer that leaves gives up its slot, as long as nobody uses the roster. -/
theorem dismiss_of_free (hfree : b.shared.sessions.roster.isHeld = false) (peer : MacAddress) :
    b.dismiss peer = { b with shared.sessions := (b.shared.sessions.disconnect peer).1 } := by
  have hresult : (b.shared.sessions.disconnect peer).2 ≠ .error .busy := by
    unfold Session.Table.disconnect
    rw [Session.Table.snd_update, hfree, if_neg Bool.false_ne_true, Roster.disconnect]
    split <;> simp
  unfold dismiss
  split
  · rename_i hbusy
    rw [hbusy] at hresult
    exact absurd rfl hresult
  · rename_i hleft
    rw [hleft]

/-- The station says that it leaves somebody. -/
theorem receive_farewell (h : c.Hosts b) {receiver bssid : MacAddress} {reason : ReasonCode}
    (hread : (Draft.deauthentication receiver c.address bssid reason).Reads frame)
    (seized : Nat → Bool) (rssi : UInt8) (now : Nat) :
    b.receiveAmid envB seized frame rssi now =
      if receiver = c.target.bssid then
        { b.atTime now with shared.sessions := (b.shared.sessions.disconnect c.address).1 }
      else b.atTime now := by
  have hmode : (b.atTime now).machine.mode = .accessPoint := h.mode_eq
  have haddress : (b.atTime now).machine.address = c.target.bssid := h.address_eq
  obtain ⟨number, hheard⟩ := h.exists_handle envB hread
  rw [hheard, Draft.received, handle, receiveDeauthentication, hmode]
  show (if receiver = (b.atTime now).machine.address then (b.atTime now).dismiss c.address
    else b.atTime now) = _
  rw [haddress]
  split
  · exact dismiss_of_free (b := b.atTime now) h.free c.address
  · rfl

/-- The session goes on without the station, which stays welcome. -/
theorem outcome_farewell (envB : Surroundings τ) (h : c.Hosts b)
    (hwelcome : b.shared.sessions.Welcomes c.address)
    {receiver bssid : MacAddress} {reason : ReasonCode}
    (haccepting : receiver = c.target.bssid → b.shared.sessions.accepting = true)
    (hread : (Draft.deauthentication receiver c.address bssid reason).Reads frame)
    (seized : Nat → Bool) (rssi : UInt8) (now : Nat) :
    let b' := b.receiveAmid envB seized frame rssi now
    c.Hosts b' ∧ Utters [] b b' ∧ b'.shared.sessions.Welcomes c.address ∧
      b'.shared.sessions.accepting = b.shared.sessions.accepting := by
  simp only
  rw [receive_farewell h hread]
  split
  · rename_i hours
    exact ⟨h.of_update (h.orderly.disconnect c.address) now, utters_nil rfl,
      Session.Table.welcomes_disconnect h.orderly (haccepting hours) hwelcome c.address,
      Session.Table.accepting_update _ _⟩
  · exact ⟨h.of_sessions h.free h.orderly now, utters_nil rfl, hwelcome, rfl⟩

theorem utters_answerAuthentication (henv : envB.Accepts) (haddress : b.machine.address =
      c.target.bssid) {algorithm : AuthAlgorithm}
    (halgorithm : AuthAlgorithm.ofNumber algorithm.number = algorithm) {status : StatusCode}
    (hstatus : StatusCode.ofNumber status.number = status) :
    Utters [c.answer algorithm status] b
      (b.answerAuthentication envB c.address algorithm status) := by
  unfold answerAuthentication Attempt.answer
  rw [← haddress]
  exact utters_send henv
    (Draft.isSendable_authentication c.address b.machine.address b.machine.address halgorithm
      hstatus (by simp) false) b

/-- Access points refuse a shared key. -/
theorem receive_sharedKey (h : c.Hosts b) (hread : (c.request .sharedKey).Reads frame)
    (seized : Nat → Bool) (rssi : UInt8) (now : Nat) :
    b.receiveAmid envB seized frame rssi now =
      (b.atTime now).answerAuthentication envB c.address .sharedKey .unsupportedAuthAlgorithm := by
  have hmode : (b.atTime now).machine.mode = .accessPoint := h.mode_eq
  have haddress : (b.atTime now).machine.address = c.target.bssid := h.address_eq
  obtain ⟨number, hheard⟩ := h.exists_handle envB hread
  rw [hheard, Attempt.request, Draft.received, handle, hmode]
  simp only
  unfold receivePeerAuthentication
  rw [if_neg (by simp [Header.management, haddress]), if_pos (by decide)]
  rfl

theorem outcome_sharedKey (h : c.Hosts b) (hsend : envB.Accepts)
    (hread : (c.request .sharedKey).Reads frame) (seized : Nat → Bool) (rssi : UInt8) (now : Nat) :
    let b' := b.receiveAmid envB seized frame rssi now
    c.Hosts b' ∧ Utters [c.answer .sharedKey .unsupportedAuthAlgorithm] b b' ∧
      b'.shared.sessions = b.shared.sessions := by
  have hanswered := transmits_answerAuthentication envB c.address .sharedKey
    .unsupportedAuthAlgorithm (b.atTime now)
  simp only
  rw [receive_sharedKey h hread]
  refine ⟨(h.of_sessions h.free h.orderly now).of_transmits hanswered, ?_, ?_⟩
  · exact utters_answerAuthentication (b := b.atTime now) hsend h.address_eq rfl rfl
  · rw [hanswered.shared_eq]
    rfl

/-- A station that is welcome is let in. -/
theorem receive_openSystem (h : c.Hosts b) (hread : (c.request .openSystem).Reads frame)
    (hwelcome : b.shared.sessions.Welcomes c.address) (seized : Nat → Bool) (rssi : UInt8)
    (now : Nat) :
    b.receiveAmid envB seized frame rssi now =
      { b.atTime now with
        shared.sessions := (b.shared.sessions.authenticate c.address).1 }.answerAuthentication
          envB c.address .openSystem .success := by
  have hmode : (b.atTime now).machine.mode = .accessPoint := h.mode_eq
  have haddress : (b.atTime now).machine.address = c.target.bssid := h.address_eq
  obtain ⟨number, hheard⟩ := h.exists_handle envB hread
  obtain ⟨i, hi⟩ := Session.Table.authenticate_of_welcomes h.free h.orderly hwelcome
  rw [hheard, Attempt.request, Draft.received, handle, hmode]
  simp only
  unfold receivePeerAuthentication
  rw [if_neg (by simp [Header.management, haddress]), if_neg (by decide)]
  have hgiven : (b.atTime now).shared.sessions.authenticate c.address =
      ((b.shared.sessions.authenticate c.address).1, .ok i) := Prod.ext rfl hi
  simp only [Header.management]
  rw [hgiven]

theorem outcome_openSystem (h : c.Hosts b) (hsend : envB.Accepts)
    (hread : (c.request .openSystem).Reads frame)
    (hwelcome : b.shared.sessions.Welcomes c.address) (seized : Nat → Bool) (rssi : UInt8)
    (now : Nat) :
    let b' := b.receiveAmid envB seized frame rssi now
    c.Hosts b' ∧ Utters [c.answer .openSystem .success] b b' ∧
      ∃ i, b'.shared.sessions.roster.value.address? i = some c.address := by
  obtain ⟨i, hi⟩ := Session.Table.authenticate_of_welcomes h.free h.orderly hwelcome
  have hgiven : c.Hosts { b.atTime now with
      shared.sessions := (b.shared.sessions.authenticate c.address).1 } :=
    h.of_update (h.orderly.authenticate b.shared.sessions.accepting c.address) now
  simp only
  rw [receive_openSystem h hread hwelcome]
  generalize hlet : { b.atTime now with
    shared.sessions := (b.shared.sessions.authenticate c.address).1 } = admitted at hgiven ⊢
  have hanswered := transmits_answerAuthentication envB c.address .openSystem .success admitted
  have hlog : transmitted admitted.log = transmitted b.log := by
    rw [← hlet]
    rfl
  refine ⟨hgiven.of_transmits hanswered, ?_, i, ?_⟩
  · exact (utters_nil hlog).trans (utters_answerAuthentication hsend hgiven.address_eq rfl rfl)
  · rw [hanswered.shared_eq, ← hlet]
    exact Session.Table.address?_of_authenticate hi

/-- A station that has a slot takes part as soon as it asks to. -/
theorem receive_joinRequest (h : c.Hosts b) (hread : c.joinRequest.Reads frame) {i : Nat}
    (hslot : b.shared.sessions.roster.value.address? i = some c.address) (seized : Nat → Bool)
    (rssi : UInt8) (now : Nat) :
    b.receiveAmid envB seized frame rssi now =
      { b.atTime now with
        shared.sessions := (b.shared.sessions.associate c.address).1 }.answerAssociation
          envB c.address .success (Session.aidOf i) := by
  have hmode : (b.atTime now).machine.mode = .accessPoint := h.mode_eq
  have haddress : (b.atTime now).machine.address = c.target.bssid := h.address_eq
  have hgiven : (b.atTime now).shared.sessions.associate c.address =
      ((b.shared.sessions.associate c.address).1, .ok (Session.aidOf i)) := by
    refine Prod.ext rfl ?_
    show (b.shared.sessions.associate c.address).2 = _
    rw [(Session.Table.keeps_of_address? h.orderly hslot).associate_eq, h.free]
    rfl
  obtain ⟨number, hheard⟩ := h.exists_handle envB hread
  rw [hheard, Attempt.joinRequest, Draft.received, handle, if_pos hmode]
  unfold receivePeerAssociation
  rw [if_neg (by simp [Header.management, haddress])]
  simp only [Header.management]
  rw [hgiven]

theorem utters_answerAssociation (henv : envB.Accepts) (haddress : b.machine.address =
      c.target.bssid) {aid : UInt16} (haid : aid < 0x4000) :
    Utters [c.permission aid] b (b.answerAssociation envB c.address .success aid) := by
  unfold answerAssociation Attempt.permission
  rw [← haddress]
  exact utters_send henv (Draft.isSendable_associationResponse c.address b.machine.address rfl haid)
    b

theorem outcome_joinRequest (h : c.Hosts b) (hsend : envB.Accepts)
    (hread : c.joinRequest.Reads frame) {i : Nat}
    (hslot : b.shared.sessions.roster.value.address? i = some c.address) (seized : Nat → Bool)
    (rssi : UInt8) (now : Nat) :
    let b' := b.receiveAmid envB seized frame rssi now
    c.Hosts b' ∧ Utters [c.permission (Session.aidOf i)] b b' ∧
      b'.shared.sessions.roster.value.slots[i]? = some (.associated c.address) := by
  -- There are few enough slots that the identifier can be read back from the frame.
  have hsmall : Session.aidOf i < 0x4000 := by
    rw [UInt16.lt_iff_toNat_lt, Roster.toNat_aidOf (Roster.lt_of_address? hslot)]
    have := Roster.lt_of_address? hslot
    simp only [maxPeers] at this
    simp only [UInt16.reduceToNat]
    omega
  have hgiven : c.Hosts { b.atTime now with
      shared.sessions := (b.shared.sessions.associate c.address).1 } :=
    h.of_update (h.orderly.associate c.address) now
  simp only
  rw [receive_joinRequest h hread hslot]
  generalize hlet : { b.atTime now with
    shared.sessions := (b.shared.sessions.associate c.address).1 } = admitted at hgiven ⊢
  have hanswered := transmits_answerAssociation envB c.address .success (Session.aidOf i) admitted
  have hlog : transmitted admitted.log = transmitted b.log := by
    rw [← hlet]
    rfl
  refine ⟨hgiven.of_transmits hanswered, ?_, ?_⟩
  · exact (utters_nil hlog).trans (utters_answerAssociation hsend hgiven.address_eq hsmall)
  · rw [hanswered.shared_eq, ← hlet]
    exact Session.Table.slot_of_associate h.free h.orderly hslot

end AccessPoint

/-! ### The station -/

section Station

variable {c : Attempt} {l : Link σ} {envA : Surroundings σ} {frame : List UInt8}
  {step : HandshakeStep} {algorithm : AuthAlgorithm}

theorem Transmits.bearing_eq {l' : Link σ} (h : Transmits l l') :
    l'.machine.bearing = l.machine.bearing := by
  rw [h.machine_eq]
  rfl

namespace Attempt.Awaits

variable (h : c.Awaits step algorithm l)
include h

theorem mode_eq : l.machine.mode = .connecting := congrArg Bearing.mode h.bearing_eq

theorem target_eq : l.machine.target = some c.target := congrArg Bearing.target h.bearing_eq

theorem address_eq : l.machine.address = c.address := congrArg Bearing.address h.bearing_eq

theorem step_eq : l.machine.handshake.step = step := congrArg Bearing.step h.bearing_eq

theorem authLevel_ne : l.machine.authLevel ≠ .deassociated := by
  rw [show l.machine.authLevel = _ from congrArg Bearing.authLevel h.bearing_eq]
  show (if step = .associate then AuthLevel.authenticated else .disconnected) ≠ _
  split <;> decide

theorem interval_eq : l.machine.settings.resendInterval = c.interval :=
  congrArg Bearing.interval h.bearing_eq

theorem algorithm_eq : l.machine.handshake.algorithm = algorithm :=
  congrArg Bearing.algorithm h.bearing_eq

theorem rateSet_eq : l.machine.handshake.rateSet = .native :=
  congrArg Bearing.rateSet h.bearing_eq

/-- The station waits for an answer to what it sends now. -/
theorem sendHandshakeFrame (hnow : c.start ≤ l.machine.now) :
    c.Awaits step algorithm (l.sendHandshakeFrame envA) := by
  have hsent := transmits_sendHandshakeFrame envA l
  refine ⟨waits_of_wire_eq hsent.quiet.wire_eq h.waits, hsent.bearing_eq.trans h.bearing_eq, ?_⟩
  rw [sentAt_sendHandshakeFrame envA h.target_eq]
  exact hnow

theorem utters_request (hsend : envA.Accepts) (hstep : step = .authenticate)
    (halgorithm : AuthAlgorithm.ofNumber algorithm.number = algorithm) :
    Utters [c.request algorithm] l (l.sendHandshakeFrame envA) := by
  refine utters_sendHandshakeFrame hsend c.target h.target_eq ?_
    (Draft.isSendable_authentication c.target.bssid c.address c.target.bssid halgorithm rfl
      (by simp) false)
  rw [Handshake.draft?, h.step_eq, hstep, h.algorithm_eq, h.address_eq]
  rfl

theorem utters_joinRequest (hsend : envA.Accepts) (hstep : step = .associate) :
    Utters [c.joinRequest] l (l.sendHandshakeFrame envA) := by
  refine utters_sendHandshakeFrame hsend c.target h.target_eq ?_
    (Draft.isSendable_associationRequest _ _ _ _ _)
  rw [Handshake.draft?, h.step_eq, hstep, h.rateSet_eq, h.address_eq]
  rfl

/-- The station acts upon what it hears. -/
theorem exists_handle (envA : Surroundings σ) {draft : Draft} (hread : draft.Reads frame) :
    ∃ number, ∀ seized rssi now, l.receiveAmid envA seized frame rssi now =
      (l.atTime now).handle envA seized (draft.received number) rssi :=
  receiveAmid_of_reads envA (by rw [h.mode_eq]; decide) hread

/-- The access point is the one that the station listens to. -/
theorem isFromTarget {header : Header} (hreceiver : header.address₁ = c.address)
    (htransmitter : header.address₂ = c.target.bssid) (now : Nat) :
    (l.atTime now).isFromTarget header = true := by
  unfold Link.isFromTarget
  rw [show (l.atTime now).machine.target = _ from h.target_eq, hreceiver, htransmitter,
    show (l.atTime now).machine.address = _ from h.address_eq]
  simp

end Attempt.Awaits

/-- As long as an answer may still come in time, nothing is due. -/
theorem work_of_awaits (h : c.Awaits step algorithm l)
    (hnow : c.start ≤ l.machine.now ∧ l.machine.now < c.start + c.interval) :
    l.work envA .idle = l := by
  have hearly : isDue l.machine.settings.resendInterval l.machine.handshake.sentAt l.machine.now =
      false := by
    have hsince := h.start_le
    rw [h.interval_eq, isDue, decide_eq_false_iff_not]
    omega
  rw [work, h.mode_eq]
  simp only
  rw [connectingTick, if_neg h.authLevel_ne, hearly]
  rfl

theorem tick_of_awaits (envA : Surroundings σ) (h : c.Awaits step algorithm l) {now : Nat}
    (hnow : c.start ≤ now ∧ now < c.start + c.interval) : l.tick envA now = l.atTime now := by
  have hlater : c.Awaits step algorithm (l.atTime now) := ⟨h.waits, h.bearing_eq, h.start_le⟩
  rw [tick, tickAmid_eq_work, serveCommand_of_waits envA .idle hlater.waits,
    work_of_awaits hlater hnow]

/-- The access point refuses the shared key, and the station tries the open system. -/
theorem receive_refusal (envA : Surroundings σ) (h : c.Awaits .authenticate .sharedKey l)
    (hread : (c.answer .sharedKey .unsupportedAuthAlgorithm).Reads frame) (seized : Nat → Bool)
    (rssi : UInt8) {now : Nat} (hnow : c.start ≤ now) :
    ∃ l', c.Awaits .authenticate .openSystem l' ∧ transmitted l'.log = transmitted l.log ∧
      c.start ≤ l'.machine.now ∧
      l.receiveAmid envA seized frame rssi now = l'.sendHandshakeFrame envA := by
  have hmode : (l.atTime now).machine.mode = .connecting := h.mode_eq
  have hstep : (l.atTime now).noteHeard.machine.handshake.step = .authenticate := h.step_eq
  have hawaited : (l.atTime now).noteHeard.machine.handshake.step.awaits 2 = true := by
    rw [hstep]
    rfl
  -- The open system was not tried before.
  have hfallBack : (l.atTime now).noteHeard.canFallBack .unsupportedAuthAlgorithm = true := by
    have hmay : (decide (l.machine.handshake.algorithm = .sharedKey) &&
        !l.machine.handshake.openSystemTried) = true := congrArg Bearing.mayFallBack h.bearing_eq
    unfold canFallBack
    rw [hstep]
    exact hmay
  obtain ⟨number, hheard⟩ := h.exists_handle envA hread
  rw [hheard, Attempt.answer, Draft.received, handle, hmode]
  simp only
  rw [receiveAuthentication, h.isFromTarget rfl rfl, if_neg (by decide)]
  simp only
  rw [hawaited, if_neg (by decide), if_neg (by decide), if_pos hfallBack]
  refine ⟨_, ⟨?_, ?_, ?_⟩, ?_, ?_, rfl⟩
  · exact h.waits
  · show { l.machine.bearing with algorithm := .openSystem, mayFallBack := false } = _
    rw [h.bearing_eq]
    rfl
  · exact h.start_le
  · rfl
  · exact hnow

/-- The access point believes who the station is, and the station asks to take part. -/
theorem receive_admission (envA : Surroundings σ) (h : c.Awaits .authenticate .openSystem l)
    (hread : (c.answer .openSystem .success).Reads frame) (seized : Nat → Bool) (rssi : UInt8)
    {now : Nat} (hnow : c.start ≤ now) :
    ∃ l', c.Awaits .associate .openSystem l' ∧ transmitted l'.log = transmitted l.log ∧
      c.start ≤ l'.machine.now ∧
      l.receiveAmid envA seized frame rssi now = l'.sendHandshakeFrame envA := by
  have hmode : (l.atTime now).machine.mode = .connecting := h.mode_eq
  have hstep : (l.atTime now).noteHeard.machine.handshake.step = .authenticate := h.step_eq
  have hawaited : (l.atTime now).noteHeard.machine.handshake.step.awaits 2 = true := by
    rw [hstep]
    rfl
  obtain ⟨number, hheard⟩ := h.exists_handle envA hread
  rw [hheard, Attempt.answer, Draft.received, handle, hmode]
  simp only
  rw [receiveAuthentication, h.isFromTarget rfl rfl, if_neg (by decide)]
  simp only
  rw [hawaited, if_neg (by decide), if_pos trivial, acceptAuthentication, hstep]
  simp only
  refine ⟨_, ⟨?_, ?_, ?_⟩, ?_, ?_, rfl⟩
  · exact h.waits
  · show { l.machine.bearing with authLevel := .authenticated, step := .associate } = _
    rw [h.bearing_eq]
    rfl
  · exact h.start_le
  · rfl
  · exact hnow

/-- The access point lets the station in, which needs no keys. -/
theorem receive_permission (envA : Surroundings σ) (h : c.Awaits .associate .openSystem l)
    (hsecurity : c.target.record.security.security.isWpa = false) {aid : UInt16}
    (hread : (c.permission aid).Reads frame) (seized : Nat → Bool) (rssi : UInt8) (now : Nat) :
    let l' := l.receiveAmid envA seized frame rssi now
    l'.machine.mode = .connected ∧ l'.machine.retries = 0 ∧ l'.machine.address = c.address ∧
      l'.shared.status.aid = aid := by
  have hretries : l.machine.retries = 0 := congrArg Bearing.retries h.bearing_eq
  have hmode : (l.atTime now).machine.mode = .connecting := h.mode_eq
  have hstep : (l.atTime now).machine.handshake.step = .associate := h.step_eq
  have htarget : (l.atTime now).noteHeard.machine.target = some c.target := h.target_eq
  obtain ⟨number, hheard⟩ := h.exists_handle envA hread
  simp only
  rw [hheard, Attempt.permission, Draft.received, handle, if_pos hmode,
    receiveAssociationResponse, h.isFromTarget rfl rfl, hstep, if_neg (by decide)]
  simp only
  rw [htarget]
  simp only
  rw [acceptAssociation]
  simp only
  rw [hsecurity, if_neg Bool.false_ne_true, establish, setMode_of_hasLink rfl]
  exact ⟨rfl, hretries, h.address_eq, rfl⟩

end Station

/-! ### How far they have come -/

/-- How far a station has come on its way into a session. -/
inductive Progress
  /-- The station says goodbye to others and asks to be believed, with a shared key or without. -/
  | asking (farewells : List Draft) (shared : Bool)
  /-- The access point has refused the shared key. -/
  | refused
  /-- The access point has believed the station. -/
  | believed
  /-- The station asks to take part. -/
  | joining
  /-- The access point has let the station in, into a slot. -/
  | admitted (slot : Nat)

namespace Progress

/-- How many frames are still to arrive. -/
def left : Progress → Nat
  | .asking farewells shared => farewells.length + if shared then 6 else 4
  | .refused => 5
  | .believed => 3
  | .joining => 2
  | .admitted _ => 1

/-- What the access point has not heard yet. -/
def up (c : Attempt) : Progress → List Draft
  | .asking farewells shared =>
    farewells ++ [c.request (if shared then .sharedKey else .openSystem)]
  | .joining => [c.joinRequest]
  | .refused | .believed | .admitted _ => []

/-- What the station has not heard yet. -/
def down (c : Attempt) : Progress → List Draft
  | .refused => [c.answer .sharedKey .unsupportedAuthAlgorithm]
  | .believed => [c.answer .openSystem .success]
  | .admitted slot => [c.permission (Session.aidOf slot)]
  | .asking _ _ | .joining => []

/-- The step in which the station waits. -/
def step : Progress → HandshakeStep
  | .asking _ _ | .refused | .believed => .authenticate
  | .joining | .admitted _ => .associate

/-- How the station proves who it is. -/
def algorithm : Progress → AuthAlgorithm
  | .asking _ shared => if shared then .sharedKey else .openSystem
  | .refused => .sharedKey
  | .believed | .joining | .admitted _ => .openSystem

/-- What the roster has to do with the station. -/
def Suits (c : Attempt) (t : Session.Table) : Progress → Prop
  | .asking farewells _ => t.Welcomes c.address ∧ ∀ draft ∈ farewells,
      ∃ receiver bssid reason, draft = .deauthentication receiver c.address bssid reason ∧
        (receiver = c.target.bssid → t.accepting = true)
  | .refused => t.Welcomes c.address
  | .believed | .joining => ∃ i, t.roster.value.address? i = some c.address
  | .admitted slot => t.roster.value.slots[slot]? = some (.associated c.address)

end Progress

/-- Station and access point have come this far. -/
structure Attempt.Reached (c : Attempt) (p : Progress) (e : Encounter σ τ) : Prop where
  up : List.Forall₂ Draft.Reads (p.up c) e.up
  down : List.Forall₂ Draft.Reads (p.down c) e.down
  awaits : c.Awaits p.step p.algorithm e.station
  hosts : c.Hosts e.accessPoint
  suits : p.Suits c e.accessPoint.shared.sessions

section Exchange

variable {c : Attempt} {p : Progress} {e : Encounter σ τ} {envA : Surroundings σ}
  {envB : Surroundings τ}

/-- One frame more has arrived, and was it the last one, the station takes part. -/
def Attempt.Advances (c : Attempt) (p : Progress) (e : Encounter σ τ) : Prop :=
  (∃ p', c.Reached p' e ∧ p'.left + 1 = p.left) ∨ p.left = 1 ∧ e.Joined

/-- A tick of the station changes nothing. -/
theorem Attempt.Reached.wait (h : c.Reached p e) {now : Nat}
    (hnow : c.start ≤ now ∧ now < c.start + c.interval) :
    c.Reached p (e.step envA envB (.wait now)) := by
  have htick := tick_of_awaits envA h.awaits hnow
  have hsilent : e.station.sentSince (e.station.tick envA now) = [] := by
    rw [htick]
    exact List.drop_length
  constructor
  · show List.Forall₂ _ _ (e.up ++ e.station.sentSince (e.station.tick envA now))
    rw [hsilent, List.append_nil]
    exact h.up
  · exact h.down
  · show c.Awaits _ _ (e.station.tick envA now)
    rw [htick]
    exact ⟨h.awaits.waits, h.awaits.bearing_eq, h.awaits.start_le⟩
  · exact h.hosts
  · exact h.suits

/-- The access point hears a frame. -/
theorem Attempt.Reached.up_move (h : c.Reached p e) (hsend : envB.Accepts) {rssi : UInt8}
    {now : Nat} {seized : Nat → Bool} (hup : e.up ≠ []) :
    c.Advances p (e.step envA envB (.up rssi now seized)) := by
  obtain ⟨frame, rest, hframes⟩ := List.exists_cons_of_ne_nil hup
  have hreads := h.up
  rw [hframes] at hreads
  unfold Encounter.step
  rw [hframes]
  simp only
  -- As long as the access point has something to hear, the station has nothing.
  have hfirst : p.down c = [] → e.down = [] := by
    intro hnone
    have hdown := h.down
    rw [hnone] at hdown
    exact List.forall₂_nil_left_iff.mp hdown
  cases p with
  | asking farewells shared =>
    rw [hfirst rfl, List.nil_append]
    obtain ⟨hwelcome, hfarewells⟩ := h.suits
    refine .inl ?_
    cases farewells with
    | cons farewell more =>
      obtain ⟨hread, hrest⟩ := List.forall₂_cons.mp hreads
      obtain ⟨⟨receiver, bssid, reason, rfl, haccepting⟩, hmore⟩ :=
        List.forall_mem_cons.mp hfarewells
      -- The goodbye is for this access point or for another one.
      obtain ⟨hhosts, hutters, hwelcome', haccepting'⟩ := outcome_farewell envB h.hosts
        hwelcome haccepting hread seized rssi now
      refine ⟨.asking more shared, ⟨hrest, hutters.sentSince, h.awaits, hhosts, hwelcome', ?_⟩, ?_⟩
      · simp only
        rw [haccepting']
        exact hmore
      · simp [Progress.left]
        omega
    | nil =>
      obtain ⟨hread, hrest⟩ := List.forall₂_cons.mp hreads
      cases shared with
      | true =>
        obtain ⟨hhosts, hutters, hsame⟩ := outcome_sharedKey h.hosts hsend hread seized rssi now
        exact ⟨.refused, ⟨hrest, hutters.sentSince, h.awaits, hhosts, hsame ▸ hwelcome⟩, rfl⟩
      | false =>
        obtain ⟨hhosts, hutters, hslot⟩ :=
          outcome_openSystem h.hosts hsend hread hwelcome seized rssi now
        exact ⟨.believed, ⟨hrest, hutters.sentSince, h.awaits, hhosts, hslot⟩, rfl⟩
  | joining =>
    rw [hfirst rfl, List.nil_append]
    obtain ⟨i, hslot⟩ := h.suits
    obtain ⟨hread, hrest⟩ := List.forall₂_cons.mp hreads
    obtain ⟨hhosts, hutters, hassociated⟩ :=
      outcome_joinRequest h.hosts hsend hread hslot seized rssi now
    exact .inl ⟨.admitted i, ⟨hrest, hutters.sentSince, h.awaits, hhosts, hassociated⟩, rfl⟩
  | refused => cases hreads
  | believed => cases hreads
  | admitted slot => cases hreads

/-- The station hears a frame. -/
theorem Attempt.Reached.down_move (h : c.Reached p e) (hsend : envA.Accepts)
    (hsecurity : c.target.record.security.security.isWpa = false) {rssi : UInt8} {now : Nat}
    {seized : Nat → Bool} (hnow : c.start ≤ now) (hdown : e.down ≠ []) :
    c.Advances p (e.step envA envB (.down rssi now seized)) := by
  obtain ⟨frame, rest, hframes⟩ := List.exists_cons_of_ne_nil hdown
  have hreads := h.down
  rw [hframes] at hreads
  unfold Encounter.step
  rw [hframes]
  simp only
  -- As long as the station has something to hear, the access point has nothing.
  have hfirst : p.up c = [] → e.up = [] := by
    intro hnone
    have hup := h.up
    rw [hnone] at hup
    exact List.forall₂_nil_left_iff.mp hup
  cases p with
  | refused =>
    rw [hfirst rfl, List.nil_append]
    obtain ⟨hread, hrest⟩ := List.forall₂_cons.mp hreads
    obtain ⟨l', hawaits, hlog, hlater, heq⟩ :=
      receive_refusal envA h.awaits hread seized rssi hnow
    rw [heq]
    refine .inl ⟨.asking [] false, ⟨?_, hrest, hawaits.sendHandshakeFrame hlater, h.hosts, h.suits,
      by simp⟩, rfl⟩
    exact ((utters_nil hlog).trans (hawaits.utters_request hsend rfl rfl)).sentSince
  | believed =>
    rw [hfirst rfl, List.nil_append]
    obtain ⟨hread, hrest⟩ := List.forall₂_cons.mp hreads
    obtain ⟨l', hawaits, hlog, hlater, heq⟩ :=
      receive_admission envA h.awaits hread seized rssi hnow
    rw [heq]
    refine .inl ⟨.joining, ⟨?_, hrest, hawaits.sendHandshakeFrame hlater, h.hosts, h.suits⟩, rfl⟩
    exact ((utters_nil hlog).trans (hawaits.utters_joinRequest hsend rfl)).sentSince
  | admitted slot =>
    obtain ⟨hread, -⟩ := List.forall₂_cons.mp hreads
    obtain ⟨hconnected, hretries, haddress, haid⟩ :=
      receive_permission envA h.awaits hsecurity hread seized rssi now
    have hslot : e.accessPoint.shared.sessions.roster.value.slots[slot]? =
      some (.associated c.address) := h.suits
    refine .inr ⟨rfl, hconnected, hretries, ?_, ?_⟩
    · simp only
      rw [haddress]
      exact Roster.stateOf_of_slot h.hosts.orderly hslot
    · simp only
      rw [haddress, haid]
      exact Roster.mem_peers.mpr ⟨slot, hslot, rfl⟩
  | asking farewells shared => cases hreads
  | joining => cases hreads

/-- In every move that delivers a frame they come one frame closer, and in the others they stay
where they are. -/
theorem Attempt.Reached.step (h : c.Reached p e) (hsendA : envA.Accepts) (hsendB : envB.Accepts)
    (hsecurity : c.target.record.security.security.isWpa = false) {move : Encounter.Move}
    (hmove : move.IsWithin c.start c.interval) :
    if e.delivers move then c.Advances p (e.step envA envB move)
    else c.Reached p (e.step envA envB move) := by
  cases move with
  | up rssi now seized =>
    by_cases hup : e.up = []
    · simpa [Encounter.delivers, Encounter.step, hup] using h
    · simpa [Encounter.delivers, hup] using h.up_move hsendB hup
  | down rssi now seized =>
    by_cases hdown : e.down = []
    · simpa [Encounter.delivers, Encounter.step, hdown] using h
    · simpa [Encounter.delivers, hdown] using h.down_move hsendA hsecurity hmove.1 hdown
  | wait now => exact h.wait hmove

/-- As long as the station does not take part, a frame is on its way. -/
theorem Attempt.Reached.inFlight (h : c.Reached p e) : e.up ++ e.down ≠ [] := by
  intro hnone
  obtain ⟨hup, hdown⟩ := List.append_eq_nil_iff.mp hnone
  have hups := h.up
  have hdowns := h.down
  rw [hup] at hups
  rw [hdown] at hdowns
  have hnoUp := List.forall₂_nil_right_iff.mp hups
  have hnoDown := List.forall₂_nil_right_iff.mp hdowns
  cases p with
  | asking farewells shared => simp [Progress.up] at hnoUp
  | joining => cases hnoUp
  | refused | believed | admitted => cases hnoDown

theorem Progress.left_pos (p : Progress) : 0 < p.left := by
  cases p with
  | asking farewells shared => cases shared <;> simp [left]
  | refused | believed | joining | admitted => exact Nat.succ_pos _

/-- The station takes part at some time, once all frames or enough of them have arrived. -/
theorem Attempt.Reached.run (h : c.Reached p e) (hsendA : envA.Accepts) (hsendB : envB.Accepts)
    (hsecurity : c.target.record.security.security.isWpa = false) {moves : List Encounter.Move}
    (hmoves : ∀ move ∈ moves, move.IsWithin c.start c.interval)
    (hover : (e.run envA envB moves).up ++ (e.run envA envB moves).down = [] ∨
      p.left ≤ e.deliveries envA envB moves) :
    ∃ before after, moves = before ++ after ∧ (e.run envA envB before).Joined := by
  -- By induction on the moves, with how many frames are left when each of them is made.
  induction moves generalizing p e with
  | nil =>
    rcases hover with hnone | hleft
    · exact absurd hnone h.inFlight
    · exact absurd p.left_pos (Nat.not_lt.mpr hleft)
  | cons move rest ih =>
    obtain ⟨hmove, hrest⟩ := List.forall_mem_cons.mp hmoves
    have hstep := h.step hsendA hsendB hsecurity hmove
    -- What comes after this move does so from where it leads.
    have hlater {p' : Progress} (h' : c.Reached p' (e.step envA envB move))
        (hleft : p.left ≤ e.deliveries envA envB (move :: rest) →
          p'.left ≤ (e.step envA envB move).deliveries envA envB rest) :
        ∃ before after, move :: rest = before ++ after ∧ (e.run envA envB before).Joined := by
      obtain ⟨before, after, hsplit, hjoined⟩ := ih h' hrest (hover.imp_right hleft)
      exact ⟨move :: before, after, by rw [hsplit, List.cons_append], hjoined⟩
    have hdeliveries : e.deliveries envA envB (move :: rest) =
        (if e.delivers move then 1 else 0) +
          (e.step envA envB move).deliveries envA envB rest := rfl
    split at hstep
    · rename_i hdelivers
      rw [hdelivers, if_pos rfl] at hdeliveries
      rcases hstep with ⟨p', h', hcount⟩ | ⟨-, hjoined⟩
      · exact hlater h' (by omega)
      · exact ⟨[move], rest, rfl, hjoined⟩
    · rename_i hdelivers
      rw [if_neg hdelivers] at hdeliveries
      exact hlater hstep (by omega)

end Exchange

/-! ### A command to connect -/

/-- A station at a time, after it took its command, and an access point that is to hear of it. -/
def Encounter.start (envA : Surroundings σ) (now : Nat) (l : Link σ) (b : Link τ) :
    Encounter σ τ where
  station := l.tick envA now
  accessPoint := b
  up := l.sentSince (l.tick envA now)
  down := []

/-- What a station wants that is told to connect. -/
def attempting (l : Link σ) (target : ConnectTarget) (now : Nat) : Attempt where
  address := l.machine.address
  target
  start := now
  interval := l.machine.settings.resendInterval

section Start

variable {l : Link σ} {envA : Surroundings σ} {version : UInt32} {target : ConnectTarget}
  {now : Nat}

/-- A station that was told to connect waits for an answer. -/
theorem awaits_serveCommand (envA : Surroundings σ) (henabled : l.machine.mode ≠ .disabled)
    (hcommand : l.shared.commands.take.2 = some (version, .connect target)) :
    (l.attempting target l.machine.now).Awaits .authenticate
        (if target.record.security.security = .wep then .sharedKey else .openSystem)
        (l.serveCommand envA .idle) ∧
      (l.serveCommand envA .idle).machine.now = l.machine.now := by
  have hserved := serveCommand_of_some envA .idle hcommand
  have hmachine : (l.taken version (.connect target)).machine = l.machine := rfl
  generalize l.taken version (.connect target) = taken at hserved hmachine
  obtain ⟨ready, hready, hstarted⟩ := exists_isReady envA target (taken.leaveMode envA)
  have hsame := isSame_leaveMode envA taken
  have hsent := transmits_sendHandshakeFrame envA ready
  have hobeyed : taken.obey envA .idle (.connect target) = ready.sendHandshakeFrame envA := by
    unfold obey
    rw [if_neg (by rw [hmachine]; exact henabled)]
    exact hstarted
  have hnow : ready.machine.now = l.machine.now := by
    rw [hready.machine_eq, ← hmachine, ← hsame.now_eq]
  have htarget : ready.machine.target = some target := by rw [hready.machine_eq]
  refine ⟨⟨waits_serveCommand envA (fun _ _ h => h) hcommand, ?_, ?_⟩, ?_⟩
  · rw [hserved, hobeyed]
    show (ready.sendHandshakeFrame envA).machine.bearing = _
    rw [hsent.bearing_eq, hready.machine_eq]
    simp only [Machine.bearing, Attempt.bearing, attempting, Handshake.start, hsame.address_eq,
      hsame.settings_eq, hmachine, Bool.not_false, Bool.and_true]
    rfl
  · rw [hserved, hobeyed]
    show l.machine.now ≤ (ready.sendHandshakeFrame envA).machine.handshake.sentAt
    rw [sentAt_sendHandshakeFrame envA htarget, hnow]
  · rw [hserved, hobeyed]
    show (ready.sendHandshakeFrame envA).machine.now = _
    rw [hsent.machine_eq]
    exact hnow

/-- With its command the station says goodbye and sends the first frame of the handshake. -/
theorem reached_start (now : Nat) (hsend : envA.Accepts) (henabled : l.machine.mode ≠ .disabled)
    (hcommand : l.shared.commands.take.2 = some (version, .connect target))
    (hinterval : 0 < l.machine.settings.resendInterval) {b : Link τ}
    (hhosts : (l.attempting target now).Hosts b)
    (hwelcome : b.shared.sessions.Welcomes l.machine.address)
    (haccepting : b.machine.address ∈ l.partings → b.shared.sessions.accepting = true) :
    (l.attempting target now).Reached
      (.asking (l.partings.map l.farewell) (decide (target.record.security.security = .wep)))
      (.start envA now l b) := by
  obtain ⟨hawaits, hlater⟩ := awaits_serveCommand (l := l.atTime now) envA henabled
    hcommand
  have htick : l.tick envA now = (l.atTime now).serveCommand envA .idle := by
    rw [tick, tickAmid_eq_work]
    refine work_of_awaits hawaits ?_
    rw [hlater]
    exact ⟨Nat.le_refl _, Nat.lt_add_of_pos_right hinterval⟩
  have huttered := utters_serveCommand (l := l.atTime now) hsend .idle henabled hcommand
    (by simp)
  have halgorithm : (if decide (target.record.security.security = .wep) then
      AuthAlgorithm.sharedKey else .openSystem) =
        if target.record.security.security = .wep then .sharedKey else .openSystem := by
    simp
  constructor
  · show List.Forall₂ _ (_ ++ [_]) (l.sentSince (l.tick envA now))
    rw [htick, halgorithm]
    exact Utters.sentSince (l := l.atTime now) huttered
  · exact .nil
  · show Attempt.Awaits _ _ (if _ then _ else _) (l.tick envA now)
    rw [htick, halgorithm]
    exact hawaits
  · exact hhosts
  · refine ⟨hwelcome, ?_⟩
    intro draft hdraft
    obtain ⟨receiver, hreceiver, rfl⟩ := List.mem_map.mp hdraft
    have hours : receiver = target.bssid → b.shared.sessions.accepting = true := by
      rintro rfl
      exact haccepting (hhosts.address_eq ▸ hreceiver)
    unfold farewell
    split
    · exact ⟨receiver, _, _, rfl, hours⟩
    · exact ⟨receiver, _, _, rfl, hours⟩

end Start

/-- A station that is told to connect to an access point with room for it, or that knows it, takes
part in its session without another try, if their frames arrive in time.  It does so at the latest
when nothing is on its way any more, or when six frames and its goodbyes have arrived.  If the
access point is among those to whom it says goodbye, newcomers have to be let in. -/
theorem Encounter.joins_if_delivered {envA : Surroundings σ} {envB : Surroundings τ}
    (hsendA : envA.Accepts) (hsendB : envB.Accepts) {l : Link σ} {version : UInt32}
    {target : ConnectTarget}
    (hcommand : l.shared.commands.take.2 = some (version, .connect target))
    (henabled : l.machine.mode ≠ .disabled) (hinterval : 0 < l.machine.settings.resendInterval)
    (hsecurity : target.record.security.security = .plain ∨
      target.record.security.security = .wep)
    {b : Link τ} (hbssid : target.bssid = b.machine.address)
    (hhosting : b.machine.mode = .accessPoint)
    (hfree : b.shared.sessions.roster.isHeld = false)
    (horderly : b.shared.sessions.roster.value.Orderly)
    (hwelcome : b.shared.sessions.Welcomes l.machine.address)
    (haccepting : b.machine.address ∈ l.partings → b.shared.sessions.accepting = true)
    {now : Nat} {moves : List Move}
    (hmoves : ∀ move ∈ moves, move.IsWithin now l.machine.settings.resendInterval)
    (hover : let e := (start envA now l b).run envA envB moves
      e.up ++ e.down = [] ∨
        l.partings.length + 6 ≤ (start envA now l b).deliveries envA envB moves) :
    ∃ before after, moves = before ++ after ∧
      ((start envA now l b).run envA envB before).Joined := by
  have hreached := reached_start now hsendA henabled hcommand hinterval
    ⟨hhosting, hbssid.symm, hfree, horderly⟩ hwelcome haccepting
  have hopen : target.record.security.security.isWpa = false := by
    rcases hsecurity with hplain | hwep
    · rw [hplain]
      rfl
    · rw [hwep]
      rfl
  refine hreached.run hsendA hsendB hopen hmoves (hover.imp_right fun henough => ?_)
  refine Nat.le_trans ?_ henough
  simp only [Progress.left, List.length_map]
  split <;> omega

/-- The next frame arrives in a quiet moment. -/
def hearingUp : Encounter.Move := .up 0 0 fun _ => false

def hearingDown : Encounter.Move := .down 0 0 fun _ => false

/-- The station is to connect to a network that encrypts with WEP. -/
def securedRequestActions : List Action :=
  [.post .enable, undisturbed, .post (.connect (network .wep))]

/-- The access point opens a session and lets peers in. -/
def openingActions : List Action := hostingActions.take 5

theorem joins_if_delivered_secured :
    let env := Surroundings.answering .refused
    let l := run env securedRequestActions (fresh stationAddress)
    let b := run env openingActions (fresh networkAddress)
    let moves := [hearingUp, hearingDown, .wait 1, hearingUp, hearingDown, hearingUp, hearingDown]
    env.Accepts ∧ l.shared.commands.take.2 = some (2, .connect (network .wep)) ∧
      l.machine.mode ≠ .disabled ∧ 0 < l.machine.settings.resendInterval ∧
      (network .wep).bssid = b.machine.address ∧ b.machine.mode = .accessPoint ∧
      b.shared.sessions.roster.isHeld = false ∧ b.shared.sessions.roster.value.Orderly ∧
      b.shared.sessions.Welcomes l.machine.address ∧
      (∀ move ∈ moves, move.IsWithin 0 l.machine.settings.resendInterval) ∧
      l.partings.length + 6 ≤ (Encounter.start env 0 l b).deliveries env env moves ∧
      ∃ before after, moves = before ++ after ∧
        ((Encounter.start env 0 l b).run env env before).Joined := by
  have hsend : (Surroundings.answering .refused).Accepts := fun _ _ => rfl
  have hcommand : (run (.answering .refused) securedRequestActions
      (fresh stationAddress)).shared.commands.take.2 = some (2, .connect (network .wep)) := by
    decide +kernel
  have hroster : (run (.answering .refused) openingActions
      (fresh networkAddress)).shared.sessions.roster.value = .empty 1 := by decide +kernel
  have horderly : (run (.answering .refused) openingActions
      (fresh networkAddress)).shared.sessions.roster.value.Orderly := by
    rw [hroster]
    exact Roster.orderly_empty 1
  have hwelcome : (run (.answering .refused) openingActions
      (fresh networkAddress)).shared.sessions.Welcomes stationAddress :=
    .inr ⟨by decide +kernel, by decide +kernel⟩
  refine ⟨hsend, hcommand, by decide +kernel, by decide +kernel, by decide +kernel,
    by decide +kernel, by decide +kernel, horderly, hwelcome, by decide +kernel,
    by decide +kernel, ?_⟩
  exact Encounter.joins_if_delivered hsend hsend hcommand (by decide +kernel) (by decide +kernel)
    (.inr rfl) (by decide +kernel) (by decide +kernel) (by decide +kernel) horderly hwelcome
    (fun hleft => absurd hleft (by decide +kernel)) (by decide +kernel) (.inr (by decide +kernel))

/-- The host lets nobody else take part in its session. -/
def turningAway : HostMove where
  act s := { s with sessions := s.sessions.setAccepting false }
  status_act _ := rfl

/-- The access point knows the station until the station says that it leaves, and does not let it in
again while newcomers are turned away. -/
theorem not_joined_after_farewell :
    let env := Surroundings.answering .refused
    let l := run env (joiningActions ++ [.post (.connect (network .plain))]) (fresh stationAddress)
    let b := run env (hostingActions ++ [.host turningAway]) (fresh networkAddress)
    let moves := [hearingUp, hearingUp, hearingDown]
    l.shared.commands.take.2 = some (3, .connect (network .plain)) ∧
      l.machine.mode ≠ .disabled ∧ 0 < l.machine.settings.resendInterval ∧
      (network .plain).bssid = b.machine.address ∧ b.machine.mode = .accessPoint ∧
      b.shared.sessions.roster.isHeld = false ∧
      b.shared.sessions.roster.value.stateOf l.machine.address = .associated ∧
      (∀ move ∈ moves, move.IsWithin 0 l.machine.settings.resendInterval) ∧
      (∀ n ≤ 3, ((Encounter.start env 0 l b).run env env (moves.take n)).station.machine.mode ≠
        .connected) ∧
      ((Encounter.start env 0 l b).run env env moves).station.machine.retries = 1 := by
  decide +kernel

end Link

end WlanControl
