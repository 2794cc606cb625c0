import WlanControl.Proofs.LinkPartings
import WlanControl.Proofs.SessionHistory

namespace WlanControl

open Session (Roster Table)
open WlanControl.Frame (Authentication Header Received)

/-!
# The link layer — whom a new session finds

An access point that opens a session forgets the peers of the last one and allows as many as it was
told, unless somebody uses the roster at that moment.  Then the roster stays as it is, and nothing
is done about it later: the old limit goes on.  So do the old peers, unless they were sent away as
the old session ended, for which nobody may have used the roster a moment before.

* `Session.Roster.Tended` — peers came and went, and only those came who were let in;
* `Link.HostMove.SparesPeers` — what the host does other than changing the roster, with
  `Link.sparesPeers_calling` for its calls;
* `Link.Continues` — an access point that went on with its session;
* `Link.KeepsTask`, `Link.AdmitsAmid` — runs in which no other task is taken up, and who is let in;
* `Link.beforeOpening` — an access point between the two moments at which it empties the roster;
* `Link.Opens` — what becomes of a session, by whether the roster was in use at either of them;
* `Link.peers_left_over` — a session with a peer of the one before.

Main statement: `Link.session_of_hosting`, a session that is opened while nobody uses the roster has
the limit that was asked for, and no peers but those who were let in since; any other one has the
limit of before, and may have the peers of before if these were not sent away.
-/

namespace Session

namespace Roster

variable {r r' r'' : Roster} {admits : MacAddress → Prop} {a : MacAddress} {k : Nat} {slot : Slot}

/-! ### Peers that come and go -/

/-- From one roster to the other peers came and went, and `admits` says who may have come. -/
structure Tended (admits : MacAddress → Prop) (r r' : Roster) : Prop where
  limit_eq : r'.limit = r.limit
  occupied_le : r'.occupied ≤ max r.occupied r.limit
  /-- Who has a slot had it before or came. -/
  origin : ∀ i a, r'.address? i = some a → r.address? i = some a ∨ admits a

namespace Tended

theorem refl (r : Roster) : Tended admits r r :=
  ⟨rfl, Nat.le_max_left _ _, fun _ _ h => .inl h⟩

theorem trans (h : Tended admits r r') (h' : Tended admits r' r'') : Tended admits r r'' where
  limit_eq := h'.limit_eq.trans h.limit_eq
  occupied_le := by
    have hle := h.occupied_le
    have hle' := h'.occupied_le
    rw [h.limit_eq] at hle'
    omega
  origin := by
    intro i a hi
    rcases h'.origin i a hi with hi | ha
    · exact h.origin i a hi
    · exact .inr ha

theorem mono {admits' : MacAddress → Prop} (h : Tended admits r r')
    (hmore : ∀ a, admits a → admits' a) : Tended admits' r r' :=
  ⟨h.limit_eq, h.occupied_le, fun i a hi => (h.origin i a hi).imp_right (hmore a)⟩

end Tended

/-- A slot goes to somebody who had it or who may come, if there is room. -/
theorem tended_set {old : Slot} (hold : r.slots[k]? = some old)
    (hslot : ∀ a, slot.address? = some a → old.address? = some a ∨ admits a)
    (hroom : old = .free → slot ≠ .free → r.occupied < r.limit) :
    Tended admits r (r.set k slot) where
  limit_eq := rfl
  occupied_le := by
    -- One more slot is used only where a free one goes to somebody.
    have hset := occupied_set hold slot
    by_cases hfree : old = .free
    · by_cases hleft : slot = .free
      · simp only [hfree, hleft, if_true] at hset ⊢
        omega
      · have := hroom hfree hleft
        simp only [hfree, hleft, if_true, if_false] at hset ⊢
        omega
    · rw [if_neg hfree] at hset
      split at hset <;> omega
  origin := by
    intro i a hi
    by_cases hik : k = i
    · subst hik
      rw [address?_set_self] at hi
      · rw [address?, hold]
        exact hslot a hi
      · rw [← r.length_slots]
        exact (List.getElem?_eq_some_iff.mp hold).1
    · rw [address?_set_of_ne hik] at hi
      exact .inl hi

/-- Whoever has a slot may come farther in it, or start over. -/
theorem tended_set_same (hfound : r.position? a = some k) (hslot : slot.address? = some a) :
    Tended admits r (r.set k slot) := by
  obtain ⟨-, hk⟩ := position_eq_some hfound
  obtain ⟨old, hold, ha⟩ := Option.bind_eq_some_iff.mp hk
  refine tended_set hold ?_ ?_
  · intro b hb
    rw [hslot] at hb
    cases hb
    exact .inl ha
  · rintro rfl
    cases ha

/-- A slot may be left. -/
theorem tended_set_free (hk : k < maxPeers) : Tended admits r (r.set k .free) := by
  have hlt : k < r.slots.length := by
    rw [r.length_slots]
    exact hk
  refine tended_set (List.getElem?_eq_getElem hlt) ?_ fun _ hne => absurd rfl hne
  intro a ha
  cases ha

theorem tended_authenticate {accepting : Bool}
    (hadmits : ∀ k, (r.authenticate accepting a).2 = .ok k → admits a) :
    Tended admits r (r.authenticate accepting a).1 := by
  rcases authenticate_cases accepting a r with
    ⟨e, hrefused⟩ | ⟨k, hgiven, hfound | ⟨-, hfree, hroom⟩⟩
  · rw [hrefused]
    exact .refl r
  · rw [hgiven]
    exact tended_set_same hfound rfl
  · rw [hgiven] at hadmits ⊢
    refine tended_set hfree ?_ fun _ _ => hroom
    intro b hb
    cases hb
    exact .inr (hadmits k rfl)

theorem tended_associate (a : MacAddress) (r : Roster) :
    Tended admits r (r.associate a).1 := by
  unfold associate
  split
  · rename_i hfound
    exact tended_set_same hfound rfl
  · exact .refl r

theorem tended_disconnect (a : MacAddress) (r : Roster) :
    Tended admits r (r.disconnect a).1 := by
  unfold disconnect
  split
  · rename_i hfound
    exact tended_set_free (position_eq_some hfound).1
  · exact .refl r

theorem tended_kick (aid : UInt16) (r : Roster) : Tended admits r (r.kick aid).1 := by
  rcases kick_cases aid r with hnobody | ⟨k, a, ha, hkicked⟩
  · rw [hnobody]
    exact .refl r
  · rw [hkicked]
    exact tended_set_free (lt_of_address? ha)

/-- Nobody is in the roster. -/
def IsVacant (r : Roster) : Prop := ∀ slot ∈ r.slots, slot = .free

theorem isVacant_empty (limit : Nat) : (empty limit).IsVacant :=
  fun _ => List.eq_of_mem_replicate

theorem isVacant_kickAll (r : Roster) : r.kickAll.1.IsVacant := by
  intro slot hslot
  obtain ⟨_, -, rfl⟩ := List.mem_map.mp hslot
  rfl

theorem IsVacant.occupied_eq (h : r.IsVacant) : r.occupied = 0 := by
  refine List.countP_eq_zero.mpr fun slot hslot => ?_
  simp [h slot hslot]

theorem IsVacant.address?_eq (h : r.IsVacant) (i : Nat) : r.address? i = none := by
  unfold address?
  cases hslot : r.slots[i]? with
  | none => rfl
  | some slot => rw [h slot (List.mem_of_getElem? hslot)]; rfl

theorem tended_kickUnassociated (r : Roster) : Tended admits r r.kickUnassociated.1 where
  limit_eq := rfl
  occupied_le := Nat.le_trans (occupied_map_le _ rfl) (Nat.le_max_left _ _)
  origin := by
    intro i a hi
    rw [kickUnassociated, address?_map] at hi
    obtain ⟨slot, hslot, ha⟩ := Option.bind_eq_some_iff.mp hi
    split at ha
    · cases ha
    · left
      rw [address?, hslot]
      exact ha

end Roster

namespace Table

variable {t : Table} {a : MacAddress} {admits : MacAddress → Prop}

/-- A peer that authenticates itself is let in only if the table says so. -/
theorem tended_authenticate (hadmits : ∀ k, (t.authenticate a).2 = .ok k → admits a) :
    Roster.Tended admits t.roster.value (t.authenticate a).1.roster.value := by
  unfold authenticate at hadmits ⊢
  rcases update_cases (Roster.authenticate t.accepting a) t with ⟨-, hsame⟩ | ⟨-, hchanged⟩
  · rw [hsame]
    exact .refl _
  · rw [hchanged] at hadmits ⊢
    exact Roster.tended_authenticate hadmits

/-- Peers stay where somebody holds the roster. -/
theorem value_kickAll (t : Table) : t.kickAll.1.roster.value =
    if t.roster.isHeld then t.roster.value else t.roster.value.kickAll.1 := by
  rcases updateTelling_cases Roster.kickAll t with ⟨hheld, hbusy⟩ | ⟨hfree, hdone⟩
  · rw [kickAll, hbusy, hheld]
    rfl
  · rw [kickAll, hdone, hfree]
    rfl

end Table

end Session

namespace Link

variable {σ : Type} {l l' l₁ l₂ l₃ : Link σ} {env : Surroundings σ} {admits : MacAddress → Prop}
  {meanwhile : Meanwhile}

/-! ### What the host does -/

/-- The host leaves it to the radio who has which slot. -/
def HostMove.SparesPeers (move : HostMove) : Prop :=
  ∀ s, (move.act s).sessions.roster.value = s.sessions.roster.value

/-- The same in the middle of a tick. -/
def Meanwhile.SparesPeers (meanwhile : Meanwhile) : Prop :=
  ∀ step s, (meanwhile step s).sessions.roster.value = s.sessions.roster.value

/-- Whatever the host does in the course of the action, it leaves the peers to the radio. -/
def Action.SparesPeers : Action → Prop
  | .host move => move.SparesPeers
  | .tick _ moves => ∀ step, (moves step).SparesPeers
  | .post _ | .receive _ _ _ _ => True

/-- No call of the host changes the roster. -/
theorem sparesPeers_calling (controller : Host.Controller) (call : Host.Call) :
    (calling controller call).SparesPeers := by
  intro s
  show (Host.perform call ⟨controller, s⟩).1.shared.sessions.roster.value = _
  rw [(Host.asks_perform call ⟨controller, s⟩).shared_eq]

/-- The host takes the roster or gives it back. -/
theorem sparesPeers_holding : holding.SparesPeers := fun s => Table.value_hold .host s.sessions

/-! ### Going on with a session -/

/-- An access point went on with its session. -/
structure Continues (admits : MacAddress → Prop) (l l' : Link σ) : Prop where
  mode_eq : l'.machine.mode = l.machine.mode
  host_eq : l'.machine.host = l.machine.host
  tended : Roster.Tended admits l.shared.sessions.roster.value l'.shared.sessions.roster.value

namespace Continues

theorem refl (l : Link σ) : Continues admits l l := ⟨rfl, rfl, .refl _⟩

theorem trans (h : Continues admits l₁ l₂) (h' : Continues admits l₂ l₃) :
    Continues admits l₁ l₃ :=
  ⟨h'.mode_eq.trans h.mode_eq, h'.host_eq.trans h.host_eq, h.tended.trans h'.tended⟩

theorem mono {admits' : MacAddress → Prop} (h : Continues admits l l')
    (hmore : ∀ a, admits a → admits' a) : Continues admits' l l' :=
  ⟨h.mode_eq, h.host_eq, h.tended.mono hmore⟩

end Continues

theorem Quiet.continues (h : Quiet l l')
    (htended : Roster.Tended admits l.shared.sessions.roster.value
      l'.shared.sessions.roster.value) : Continues admits l l' where
  mode_eq := by rw [h.machine_eq]
  host_eq := by rw [h.machine_eq]
  tended := htended

theorem Quiet.continues_of_sessions_eq (h : Quiet l l')
    (hsessions : l'.shared.sessions = l.shared.sessions) : Continues admits l l' := by
  refine h.continues ?_
  rw [hsessions]
  exact .refl _

theorem Transmits.continues (h : Transmits l l') : Continues admits l l' :=
  h.quiet.continues_of_sessions_eq (by rw [h.shared_eq])

theorem continues_pause (hspares : meanwhile.SparesPeers) (step : Nat) (l : Link σ) :
    Continues admits l (l.pause meanwhile step) := by
  refine ⟨rfl, rfl, ?_⟩
  show Roster.Tended admits _ (meanwhile step l.shared).sessions.roster.value
  rw [hspares step l.shared]
  exact .refl _

/-! ### Peers that are removed -/

theorem continues_kick (aid : Nat) (l : Link σ) : Continues admits l (l.kick env aid).1 := by
  have htended : Roster.Tended admits l.shared.sessions.roster.value
      (l.shared.sessions.kick (UInt16.ofNat aid)).1.roster.value :=
    Table.value_updateTelling (P := Roster.Tended admits _) (.refl _)
      (Roster.tended_kick (UInt16.ofNat aid) _)
  refine (quiet_kick env aid l).continues ?_
  unfold kick
  split
  · exact .refl _
  · rename_i hkicked
    rw [hkicked] at htended
    exact htended

theorem keptByKicks_continues (hspares : meanwhile.SparesPeers) (l : Link σ) :
    KeptByKicks env meanwhile (Continues admits l) where
  pause step h := h.trans (continues_pause hspares step _)
  kick aid h := h.trans (continues_kick aid _)
  kickUnassociated {m _ told _} hremoved h := by
    have htended : Roster.Tended admits m.shared.sessions.roster.value
        m.shared.sessions.kickUnassociated.1.roster.value :=
      Table.value_updateTelling (P := Roster.Tended admits _) (.refl _)
        (Roster.tended_kickUnassociated _)
    rw [hremoved] at htended
    have hsent : Continues admits m (m.sendAway env told .notAssociated) :=
      (transmits_sendAway env told .notAssociated m).continues
    exact h.trans ⟨hsent.mode_eq, hsent.host_eq, htended⟩
  requests _ _ _ h := h.trans ⟨rfl, rfl, .refl _⟩

/-! ### Ticks and frames -/

theorem continues_drainBurst (env : Surroundings σ) (l : Link σ) :
    Continues admits l (l.drainBurst env) := by
  refine drainBurst_keeps env (P := Continues admits l) (fun _ h => h.trans ⟨rfl, rfl, .refl _⟩)
    ?_ (.refl l)
  intro m bssid direction record h
  unfold forward
  split
  · exact h.trans ⟨rfl, rfl, .refl _⟩
  · refine h.trans (Continues.trans ?_ (transmits_send env _ _).continues)
    exact ⟨rfl, rfl, .refl _⟩

theorem continues_accessPointTick (hspares : meanwhile.SparesPeers) (l : Link σ) :
    Continues admits l (l.accessPointTick env meanwhile) := by
  have hcount (l : Link σ) : Continues admits l l.countPeers := by
    unfold countPeers
    split <;> exact ⟨rfl, rfl, .refl _⟩
  have hbeacon (l : Link σ) : Continues admits l (l.beaconTick env) := by
    unfold beaconTick
    split
    · exact (transmits_sendBeacon env l).continues.trans ⟨rfl, rfl, .refl _⟩
    · exact .refl l
  have hkept : KeptByKicks env meanwhile (Continues admits l) := keptByKicks_continues hspares l
  have hkicks := hkept.serveKicks (.refl l)
  unfold accessPointTick
  exact (((hkicks.trans (continues_pause hspares _ _)).trans (hcount _)).trans (hbeacon _)).trans
    (continues_drainBurst env _)

/-! ### Frames -/

/-- The access point lets the sender of the frame into its session. -/
structure LetsIn (octets : List UInt8) (a : MacAddress) (l : Link σ) : Prop where
  /-- The frame is the first one of an authentication, without a key. -/
  exists_frame : ∃ header body, Received.ofOctets octets = .ok (.authentication header body) ∧
    header.address₁ = l.machine.address ∧ header.address₂ = a ∧ body.sequence = 1 ∧
    body.algorithm = .openSystem
  exists_slot : ∃ i, (l.shared.sessions.authenticate a).2 = .ok i

theorem continues_receivePeerAuthentication (header : Header) (body : Authentication) (l : Link σ)
    (hadmits : header.address₁ = l.machine.address → body.sequence = 1 →
      body.algorithm = .openSystem →
      ∀ k, (l.shared.sessions.authenticate header.address₂).2 = .ok k → admits header.address₂) :
    Continues admits l (l.receivePeerAuthentication env header body) := by
  have hsent {m : Link σ} (algorithm status) : Continues admits m
      (m.answerAuthentication env header.address₂ algorithm status) :=
    (transmits_answerAuthentication env _ _ _ _).continues
  unfold receivePeerAuthentication
  split
  · exact .refl l
  · rename_i hours
    obtain ⟨haddress, hsequence⟩ := not_or.mp hours
    simp only
    split
    · exact hsent _ _
    · rename_i halgorithm
      have hanswered : Continues admits l
          { l with shared.sessions := (l.shared.sessions.authenticate header.address₂).1 } :=
        ⟨rfl, rfl, Table.tended_authenticate
          (hadmits (not_not.mp haddress) (not_not.mp hsequence) (not_not.mp halgorithm))⟩
      split
      · exact hanswered.trans (hsent _ _)
      · exact hanswered.trans ⟨rfl, rfl, .refl _⟩
      · exact hanswered.trans (hsent _ _)
      · exact hanswered.trans (hsent _ _)

theorem continues_receivePeerAssociation (header : Header) (l : Link σ) :
    Continues admits l (l.receivePeerAssociation env header) := by
  have hasked : Continues admits l
      { l with shared.sessions := (l.shared.sessions.associate header.address₂).1 } :=
    ⟨rfl, rfl, Table.value_update (P := Roster.Tended admits _) (.refl _)
      (Roster.tended_associate header.address₂ _)⟩
  unfold receivePeerAssociation
  split
  · exact .refl l
  · simp only
    split
    · exact hasked.trans (transmits_answerAssociation env _ _ _ _).continues
    · exact hasked.trans ⟨rfl, rfl, .refl _⟩
    · exact hasked.trans (transmits_answerAssociation env _ _ _ _).continues

theorem continues_dismiss (peer : MacAddress) (l : Link σ) :
    Continues admits l (l.dismiss peer) := by
  have htended : Roster.Tended admits l.shared.sessions.roster.value
      (l.shared.sessions.disconnect peer).1.roster.value :=
    Table.value_update (P := Roster.Tended admits _) (.refl _)
      (Roster.tended_disconnect peer _)
  unfold dismiss
  split
  · exact ⟨rfl, rfl, .refl _⟩
  · rename_i hgone
    rw [hgone] at htended
    exact ⟨rfl, rfl, htended⟩

/-- A peer that leaves makes room, however it says so. -/
theorem continues_receiveDeauthentication (hmode : l.machine.mode = .accessPoint)
    (header : Header) (entirely : Bool) :
    Continues admits l (l.receiveDeauthentication env header entirely) := by
  unfold receiveDeauthentication
  rw [hmode]
  simp only
  split
  · exact continues_dismiss _ l
  · exact .refl l

theorem continues_receiveBeacon (seized : Nat → Bool) (info : Frame.BeaconInfo) (rssi : UInt8)
    (l : Link σ) : Continues admits l (l.receiveBeacon seized info rssi) := by
  refine (quiet_receiveBeacon seized info rssi l).continues_of_sessions_eq ?_
  have hnoted (o : Discovery.Observation) (slot : Option Nat) (m : Link σ) :
      (m.noteTargetObserved o slot).shared.sessions = m.shared.sessions := by
    unfold noteTargetObserved
    split <;> split <;> rfl
  unfold receiveBeacon
  split
  · rfl
  · simp only
    split <;> split
    · exact hnoted _ _ _
    · rfl
    · exact hnoted _ _ _
    · rfl

theorem continues_receiveFromPeer (header : Header) (body : List UInt8) (l : Link σ) :
    Continues admits l (l.receiveFromPeer env header body) := by
  unfold receiveFromPeer
  split
  · exact .refl l
  · split
    · split
      · exact .refl l
      · rename_i payload _
        refine (quiet_deliver _ l).continues_of_sessions_eq ?_
        rw [(handsOver_deliver _ l).shared_eq]
    · exact ⟨rfl, rfl, .refl _⟩
    · exact (transmits_sendAway env _ _ l).continues

/-- An access point that hears a frame goes on with its session, and lets nobody in but the sender
of an authentication. -/
theorem continues_receiveAmid (hmode : l.machine.mode = .accessPoint) {octets : List UInt8}
    (hadmits : ∀ a, l.LetsIn octets a → admits a) (seized : Nat → Bool) (rssi : UInt8)
    (now : Nat) : Continues admits l (l.receiveAmid env seized octets rssi now) := by
  have hlater : (l.atTime now).machine.mode = .accessPoint := hmode
  have hfirst : Continues admits l (l.atTime now) := ⟨rfl, rfl, .refl _⟩
  rcases receiveAmid_cases env seized octets rssi now l with hidle | ⟨-, frame, hframe, hheard⟩
  · rw [hidle]
    exact hfirst
  · rw [hheard]
    refine hfirst.trans ?_
    cases frame with
    | beacon info => exact continues_receiveBeacon _ _ _ _
    | probeResponse info => exact continues_receiveBeacon _ _ _ _
    | authentication header body =>
      unfold handle
      simp only [hlater]
      refine continues_receivePeerAuthentication header body _ ?_
      intro haddress hsequence halgorithm k hslot
      exact hadmits _ ⟨⟨header, body, hframe, haddress, rfl, hsequence, halgorithm⟩, k, hslot⟩
    | associationResponse header status aid =>
      unfold handle
      simp only [hlater]
      exact .refl _
    | associationRequest header ssid rates =>
      unfold handle
      simp only [hlater]
      exact continues_receivePeerAssociation header _
    | deauthentication header reason =>
      exact continues_receiveDeauthentication hlater header true
    | disassociation header reason =>
      exact continues_receiveDeauthentication hlater header false
    | data header body =>
      unfold handle receiveData
      simp only [hlater]
      exact continues_receiveFromPeer header body _
    | probeRequest header ssid => exact .refl _
    | other => exact .refl _

/-! ### Runs -/

/-- No command is acted upon but the one that enables the radio, which is enabled anyway. -/
def TakesNoTask (l : Link σ) : Action → Prop
  | .tick _ _ => ∀ version command,
    l.shared.commands.take.2 = some (version, command) → command = .enable
  | .post _ | .host _ | .receive _ _ _ _ => True

/-- No other task is taken up in the run. -/
def KeepsTask (env : Surroundings σ) : List Action → Link σ → Prop
  | [], _ => True
  | action :: rest, l => l.TakesNoTask action ∧ KeepsTask env rest (l.step env action)

/-- In the run the access point lets somebody into its session. -/
def AdmitsAmid (env : Surroundings σ) (a : MacAddress) : List Action → Link σ → Prop
  | [], _ => False
  | action :: rest, l =>
    (∃ octets rssi now seized, action = .receive octets rssi now seized ∧ l.LetsIn octets a) ∨
      AdmitsAmid env a rest (l.step env action)

theorem continues_serveCommand (hmode : l.machine.mode = .accessPoint)
    (hkeeps : ∀ version command, l.shared.commands.take.2 = some (version, command) →
      command = .enable) : Continues admits l (l.serveCommand env meanwhile) := by
  cases htake : l.shared.commands.take.2 with
  | none =>
    rw [serveCommand_of_none env meanwhile htake]
    exact .refl l
  | some posted =>
    obtain ⟨version, command⟩ := posted
    obtain rfl := hkeeps version command htake
    have henabled : (l.taken version .enable).machine.mode ≠ .disabled := by
      show l.machine.mode ≠ .disabled
      rw [hmode]
      decide
    rw [serveCommand_of_some env meanwhile htake]
    unfold obey
    rw [if_neg henabled]
    exact ⟨rfl, rfl, .refl _⟩

theorem continues_tickAmid (hmode : l.machine.mode = .accessPoint)
    (hspares : meanwhile.SparesPeers)
    (hkeeps : ∀ version command, l.shared.commands.take.2 = some (version, command) →
      command = .enable) (now : Nat) : Continues admits l (l.tickAmid env meanwhile now) := by
  have hlater : Continues admits (l.atTime now) ((l.atTime now).serveCommand env meanwhile) :=
    continues_serveCommand hmode hkeeps
  have hfirst : Continues admits l (l.atTime now) := ⟨rfl, rfl, .refl _⟩
  have hserved := hfirst.trans hlater
  unfold tickAmid
  simp only
  rw [hserved.mode_eq.trans hmode]
  exact hserved.trans (continues_accessPointTick hspares _)

/-- A step of an access point that takes up no other task lets somebody in, or nobody comes. -/
theorem continues_step (hmode : l.machine.mode = .accessPoint) {action : Action}
    (hspares : action.SparesPeers) (hkeeps : l.TakesNoTask action)
    (hadmits : ∀ a octets rssi now seized, action = .receive octets rssi now seized →
      l.LetsIn octets a → admits a) : Continues admits l (l.step env action) := by
  cases action with
  | post command =>
    refine ⟨rfl, rfl, ?_⟩
    show Roster.Tended admits _ (l.shared.postCommand command).1.sessions.roster.value
    rw [SharedState.sessions_postCommand]
    exact .refl _
  | host move =>
    refine ⟨rfl, rfl, ?_⟩
    show Roster.Tended admits _ (move.act l.shared).sessions.roster.value
    rw [hspares l.shared]
    exact .refl _
  | tick now moves => exact continues_tickAmid hmode hspares hkeeps now
  | receive octets rssi now seized =>
    have hlets (a : MacAddress) := hadmits a octets rssi now seized rfl
    exact continues_receiveAmid hmode hlets seized rssi now

/-- As long as it takes up no other task, an access point goes on with its session, and nobody comes
but those who are let in. -/
theorem continues_run {actions : List Action} (hmode : l.machine.mode = .accessPoint)
    (hspares : ∀ action ∈ actions, action.SparesPeers) (hkeeps : KeepsTask env actions l) :
    Continues (AdmitsAmid env · actions l) l (run env actions l) := by
  -- By induction on the actions: who comes later in the run is let in by the rest of it.
  induction actions generalizing l with
  | nil => exact .refl l
  | cons action rest ih =>
    obtain ⟨hspare, hspares⟩ := List.forall_mem_cons.mp hspares
    have hstep : Continues (AdmitsAmid env · (action :: rest) l) l (l.step env action) :=
      continues_step hmode hspare hkeeps.1 fun a octets rssi now seized haction hlets =>
        .inl ⟨octets, rssi, now, seized, haction, hlets⟩
    have hrest := ih (hstep.mode_eq.trans hmode) hspares hkeeps.2
    exact hstep.trans (hrest.mono fun _ => .inr)

/-! ### Opening a session -/

theorem sessions_setMode (mode : Mode) (l : Link σ) :
    (l.setMode mode).shared.sessions = l.shared.sessions := by
  unfold setMode
  simp only
  split <;> rfl

/-- When a session ends, all peers are removed, if nobody holds the roster. -/
theorem sessions_endSession (env : Surroundings σ) (l : Link σ) :
    (l.endSession env).shared.sessions = l.shared.sessions.kickAll.1 := by
  unfold endSession
  simp only
  rcases Table.updateTelling_cases Roster.kickAll l.shared.sessions with
    ⟨-, hbusy⟩ | ⟨-, hdone⟩
  · rw [Table.kickAll, hbusy]
    simp only
    rw [(transmits_sendAway env _ _ _).shared_eq]
    rfl
  · rw [Table.kickAll, hdone]
    rfl

theorem sessions_leaveMode (env : Surroundings σ) (l : Link σ) :
    (l.leaveMode env).shared.sessions =
      if l.machine.mode = .accessPoint then l.shared.sessions.kickAll.1
      else l.shared.sessions := by
  have hsent : (l.leaveAp env).shared.sessions = l.shared.sessions := by
    rw [(transmits_leaveAp env l).shared_eq]
  unfold leaveMode
  simp only
  rw [sessions_setMode]
  cases hmode : l.machine.mode with
  | connecting | connected => exact hsent
  | accessPoint => exact sessions_endSession env l
  | disabled | normal | scanning | cannotConnect => rfl

/-- An access point that is to host a session, right before it empties the roster for that one.  The
old mode is left, and the host came in. -/
def beforeOpening (env : Surroundings σ) (meanwhile : Meanwhile) (version : UInt32)
    (p : HostParameters) (l : Link σ) : Link σ :=
  ((l.taken version (.host p)).leaveMode env).pause meanwhile 0

/-- The peers of the last session are removed as it ends, unless somebody holds the roster. -/
theorem roster_beforeOpening (env : Surroundings σ) (hspares : meanwhile.SparesPeers)
    (version : UInt32) (p : HostParameters) (l : Link σ) :
    (l.beforeOpening env meanwhile version p).shared.sessions.roster.value =
      if l.machine.mode = .accessPoint ∧ l.shared.sessions.roster.isHeld = false then
        l.shared.sessions.roster.value.kickAll.1
      else l.shared.sessions.roster.value := by
  have hcame : (l.beforeOpening env meanwhile version p).shared.sessions.roster.value =
      ((l.taken version (.host p)).leaveMode env).shared.sessions.roster.value := hspares 0 _
  have hsessions : (l.taken version (.host p)).shared.sessions = l.shared.sessions := rfl
  have hmode : (l.taken version (.host p)).machine.mode = l.machine.mode := rfl
  rw [hcame, sessions_leaveMode, hmode, hsessions]
  by_cases hhosting : l.machine.mode = .accessPoint
  · rw [if_pos hhosting, Table.value_kickAll]
    cases l.shared.sessions.roster.isHeld <;> simp [hhosting]
  · rw [if_neg hhosting, if_neg fun h => hhosting h.1]

/-- A session starts without peers, unless somebody holds the roster. -/
theorem roster_startHosting (env : Surroundings σ) (p : HostParameters) (l : Link σ) :
    (l.startHosting env p).shared.sessions.roster.value =
      if l.shared.sessions.roster.isHeld then l.shared.sessions.roster.value
      else .empty p.maxPeers.toNat := by
  unfold startHosting
  rw [sessions_setMode]
  rcases Table.update_cases (α := Unit) (fun _ => (.empty p.maxPeers.toNat, .ok ()))
    l.shared.sessions with ⟨hheld, hbusy⟩ | ⟨hfree, hdone⟩
  · rw [Table.reset, hbusy, hheld]
    rfl
  · rw [Table.reset, hdone, hfree]
    rfl

theorem host_startHosting (env : Surroundings σ) (p : HostParameters) (l : Link σ) :
    (l.startHosting env p).machine.mode = .accessPoint ∧
      (l.startHosting env p).machine.host = some p := by
  unfold startHosting
  rw [machine_setMode]
  exact ⟨rfl, rfl⟩

/-- What the command to host a session does. -/
theorem serveCommand_host (env : Surroundings σ) (meanwhile : Meanwhile)
    (henabled : l.machine.mode ≠ .disabled) {version : UInt32} {p : HostParameters}
    (hcommand : l.shared.commands.take.2 = some (version, .host p)) :
    let opening := l.beforeOpening env meanwhile version p
    (l.serveCommand env meanwhile).machine.mode = .accessPoint ∧
      (l.serveCommand env meanwhile).machine.host = some p ∧
      (l.serveCommand env meanwhile).shared.sessions.roster.value =
        if opening.shared.sessions.roster.isHeld then opening.shared.sessions.roster.value
        else .empty p.maxPeers.toNat := by
  intro opening
  have hobeyed : (l.taken version (.host p)).obey env meanwhile (.host p) =
      opening.startHosting env p := by
    unfold obey
    exact if_neg henabled
  obtain ⟨hmode, hhost⟩ := host_startHosting env p opening
  rw [serveCommand_of_some env meanwhile hcommand, hobeyed]
  exact ⟨hmode, hhost, roster_startHosting env p opening⟩

/-- A session starts with the roster that its command left, and goes on with it. -/
theorem continues_since_host (henabled : l.machine.mode ≠ .disabled) {version : UInt32}
    {p : HostParameters} (hcommand : l.shared.commands.take.2 = some (version, .host p))
    {now : Nat} {moves : Nat → HostMove} (hmoves : ∀ step, (moves step).SparesPeers)
    {after : List Action} (hspares : ∀ action ∈ after, action.SparesPeers)
    (hkeeps : KeepsTask env after (l.step env (.tick now moves))) :
    Continues (AdmitsAmid env · after (l.step env (.tick now moves)))
      ((l.atTime now).serveCommand env fun step => (moves step).act)
      (run env (.tick now moves :: after) l) := by
  let meanwhile : Meanwhile := fun step => (moves step).act
  have henabled' : (l.atTime now).machine.mode ≠ .disabled := henabled
  obtain ⟨hmode, -⟩ := serveCommand_host env meanwhile henabled' hcommand
  have hticked : l.step env (.tick now moves) =
      ((l.atTime now).serveCommand env meanwhile).accessPointTick env meanwhile := by
    show l.tickAmid env _ now = _
    unfold tickAmid
    simp only
    rw [hmode]
  have hfirst : Continues (AdmitsAmid env · after (l.step env (.tick now moves)))
      ((l.atTime now).serveCommand env meanwhile) (l.step env (.tick now moves)) := by
    rw [hticked]
    exact continues_accessPointTick hmoves _
  exact hfirst.trans (continues_run (hfirst.mode_eq.trans hmode) hspares hkeeps)

/-- A session that began without peers: as many as allowed at most, and only those who were let in
since. -/
structure BeginsVacant (limit : Nat) (letIn : MacAddress → Prop) (r : Roster) : Prop where
  limit_eq : r.limit = limit
  occupied_le : r.occupied ≤ limit
  letIn : ∀ i a, r.address? i = some a → letIn a

/-- What was asked for of the session of an access point holds. -/
def AsAsked (p : HostParameters) (letIn : MacAddress → Prop) (r : Roster) : Prop :=
  BeginsVacant p.maxPeers.toNat letIn r

/-- The roster of a session goes on from the one of the last session. -/
structure LeftOver (old : Roster) (letIn : MacAddress → Prop) (r : Roster) : Prop where
  limit_eq : r.limit = old.limit
  occupied_le : r.occupied ≤ max old.occupied old.limit
  letIn : ∀ i a, r.address? i = some a → old.address? i = some a ∨ letIn a

theorem leftOver_of_tended {old r : Roster} (h : Roster.Tended admits old r) :
    LeftOver old admits r := ⟨h.limit_eq, h.occupied_le, h.origin⟩

theorem beginsVacant_of_tended {old r : Roster} (h : Roster.Tended admits old r)
    (hvacant : old.IsVacant) : BeginsVacant old.limit admits r where
  limit_eq := h.limit_eq
  occupied_le := by
    have hle := h.occupied_le
    rw [hvacant.occupied_eq] at hle
    omega
  letIn := by
    intro i a hi
    refine (h.origin i a hi).resolve_left fun hold => ?_
    rw [hvacant.address?_eq] at hold
    cases hold

/-- What becomes of a session, by whether somebody used the roster as it was opened, and a moment
before, as the old mode was left. -/
structure Opens (p : HostParameters) (before opening : Link σ) (letIn : MacAddress → Prop)
    (r : Roster) : Prop where
  /-- Nobody used the roster as the session was opened. -/
  asAsked : opening.shared.sessions.roster.isHeld = false → AsAsked p letIn r
  /-- Somebody took the roster when the last session had ended.  Its limit goes on, its peers are
  gone. -/
  vacated : opening.shared.sessions.roster.isHeld = true → before.machine.mode = .accessPoint →
    before.shared.sessions.roster.isHeld = false →
      BeginsVacant before.shared.sessions.roster.value.limit letIn r
  /-- Somebody used the roster, and it was not emptied before either. -/
  leftOver : opening.shared.sessions.roster.isHeld = true →
    (before.machine.mode = .accessPoint → before.shared.sessions.roster.isHeld = true) →
      LeftOver before.shared.sessions.roster.value letIn r

/-- An access point that is told to host a session does so until it gets another task.  If nobody
uses the roster as the session is opened, the session is as it was asked for at any later time, no
matter who used the roster before.  Otherwise the old limit goes on, and with it go the old peers
unless they were sent away as the old mode was left. -/
theorem session_of_hosting {env : Surroundings σ} (henabled : l.machine.mode ≠ .disabled)
    {version : UInt32} {p : HostParameters} (hvalid : p.validate = .ok ())
    (hcommand : l.shared.commands.take.2 = some (version, .host p))
    {now : Nat} {moves : Nat → HostMove} (hmoves : ∀ step, (moves step).SparesPeers)
    {after : List Action} (hspares : ∀ action ∈ after, action.SparesPeers)
    (hkeeps : KeepsTask env after (l.step env (.tick now moves))) :
    let b := run env (.tick now moves :: after) l
    let opening := (l.atTime now).beforeOpening env (fun step => (moves step).act) version p
    let letIn := (AdmitsAmid env · after (l.step env (.tick now moves)))
    b.machine.mode = .accessPoint ∧ b.machine.host = some p ∧
      Opens p l opening letIn b.shared.sessions.roster.value := by
  intro b opening letIn
  have hsince := continues_since_host henabled hcommand hmoves hspares hkeeps
  have henabled' : (l.atTime now).machine.mode ≠ .disabled := henabled
  obtain ⟨hmode, hhost, hserved⟩ := serveCommand_host env _ henabled' hcommand
  have hstart : opening.shared.sessions.roster.value =
      if l.machine.mode = .accessPoint ∧ l.shared.sessions.roster.isHeld = false then
        l.shared.sessions.roster.value.kickAll.1
      else l.shared.sessions.roster.value :=
    roster_beforeOpening env hmoves version p (l.atTime now)
  have htended := hsince.tended
  refine ⟨hsince.mode_eq.trans hmode, hsince.host_eq.trans hhost, ?_, ?_, ?_⟩
  -- The roster was made anew for the session, whatever became of it before.
  · intro hfree
    have hcut : (Roster.empty p.maxPeers.toNat).limit = p.maxPeers.toNat :=
      Nat.min_eq_left (HostParameters.maxPeers_of_validate hvalid).2
    rw [hserved.trans (if_neg (by simpa using hfree))] at htended
    unfold AsAsked
    rw [← hcut]
    exact beginsVacant_of_tended htended (Roster.isVacant_empty _)
  -- It was only emptied, as the last session ended.
  · intro hheld hhosting hfree
    rw [hserved.trans (if_pos hheld), hstart, if_pos ⟨hhosting, hfree⟩] at htended
    exact (beginsVacant_of_tended htended (Roster.isVacant_kickAll _) :)
  -- It was left as it is both times.
  · intro hheld hbusy
    have hkept : ¬ (l.machine.mode = .accessPoint ∧ l.shared.sessions.roster.isHeld = false) := by
      rintro ⟨hhosting, hfree⟩
      cases hfree.symm.trans (hbusy hhosting)
    rw [hserved.trans (if_pos hheld), hstart, if_neg hkept] at htended
    exact leftOver_of_tended htended

/-- The host gives the roster back. -/
def releasing : HostMove where
  act s := { s with sessions := s.sessions.release }
  status_act _ := rfl

theorem sparesPeers_releasing : releasing.SparesPeers := fun _ => rfl

/-- What is asked for of a session with two peers. -/
def forTwo : HostParameters := ⟨.empty, 1, 0, 0, 2, 0, 0⟩

/-- A session with one peer, and the command for one with two of them. -/
def reopeningActions (meanwhile : List Action) : List Action :=
  hostingActions ++ meanwhile ++ [.post (.host forTwo)]

/-- An access point in its session with one peer, with the command for the other one. -/
def reopening (meanwhile : List Action) : Link Unit :=
  run (.answering .refused) (reopeningActions meanwhile) (fresh networkAddress)

/-- In the course of a tick the host does something before a session is opened, and nothing else. -/
def movingFirst (move : HostMove) (step : Nat) : HostMove := if step = 0 then move else .idle

theorem sparesPeers_movingFirst {move : HostMove} (h : move.SparesPeers) (step : Nat) :
    (movingFirst move step).SparesPeers := by
  unfold movingFirst
  split
  · exact h
  · exact fun _ => rfl

/-- What follows when the session is open: nobody uses the roster any more, and a peer comes. -/
def reopenedActions : List Action := .host releasing :: hostingActions.drop 5

/-- The host takes the roster when the old session has ended, or gives it back then, and the new one
is opened after that. -/
theorem session_of_hosting_reopened :
    let env := Surroundings.answering .refused
    let taking := Action.tick 1 (movingFirst holding)
    let giving := Action.tick 1 (movingFirst releasing)
    let vacated := run env (taking :: reopenedActions) (reopening [])
    let asAsked := run env (giving :: reopenedActions) (reopening [.host holding])
    (reopening []).machine.mode = .accessPoint ∧
      (reopening [.host holding]).machine.mode = .accessPoint ∧ forTwo.validate = .ok () ∧
      (reopening []).shared.commands.take.2 = some (3, .host forTwo) ∧
      (reopening [.host holding]).shared.commands.take.2 = some (3, .host forTwo) ∧
      (reopening []).shared.sessions.roster.isHeld = false ∧
      (reopening [.host holding]).shared.sessions.roster.isHeld = true ∧
      vacated.shared.sessions.limit = .ok 1 ∧ asAsked.shared.sessions.limit = .ok 2 ∧
      (vacated.machine.mode = .accessPoint ∧ vacated.machine.host = some forTwo ∧
        Opens forTwo (reopening [])
          (((reopening []).atTime 1).beforeOpening env (fun step => (movingFirst holding step).act)
            3 forTwo)
          (AdmitsAmid env · reopenedActions ((reopening []).step env taking))
          vacated.shared.sessions.roster.value) ∧
      (asAsked.machine.mode = .accessPoint ∧ asAsked.machine.host = some forTwo ∧
        Opens forTwo (reopening [.host holding])
          (((reopening [.host holding]).atTime 1).beforeOpening env
            (fun step => (movingFirst releasing step).act) 3 forTwo)
          (AdmitsAmid env · reopenedActions ((reopening [.host holding]).step env giving))
          asAsked.shared.sessions.roster.value) := by
  have hmode : (reopening []).machine.mode = .accessPoint := by decide +kernel
  have hmode' : (reopening [.host holding]).machine.mode = .accessPoint := by decide +kernel
  have henabled : (reopening []).machine.mode ≠ .disabled := by rw [hmode]; decide
  have henabled' : (reopening [.host holding]).machine.mode ≠ .disabled := by rw [hmode']; decide
  have hcommand : (reopening []).shared.commands.take.2 = some (3, .host forTwo) := by
    decide +kernel
  have hcommand' : (reopening [.host holding]).shared.commands.take.2 =
      some (3, .host forTwo) := by decide +kernel
  have hspares : ∀ action ∈ reopenedActions, action.SparesPeers := by
    simp [reopenedActions, hostingActions, heard, Action.SparesPeers, sparesPeers_releasing]
  have hkeeps (l : Link Unit) : KeepsTask (.answering .refused) reopenedActions l :=
    ⟨trivial, trivial, trivial, trivial⟩
  refine ⟨hmode, hmode', rfl, hcommand, hcommand', by decide +kernel, by decide +kernel,
    by decide +kernel, by decide +kernel, ?_, ?_⟩
  · exact session_of_hosting henabled rfl hcommand (sparesPeers_movingFirst sparesPeers_holding)
      hspares (hkeeps _)
  · exact session_of_hosting henabled' rfl hcommand' (sparesPeers_movingFirst sparesPeers_releasing)
      hspares (hkeeps _)

/-- A session that was to have two peers has one from the last session, which nobody let in since,
and no room for another one. -/
theorem peers_left_over :
    let env := Surroundings.answering .refused
    let l := reopening [.host holding]
    let b := run env [undisturbed, .host releasing] l
    forTwo.validate = .ok () ∧ l.shared.commands.take.2 = some (3, .host forTwo) ∧
      b.machine.mode = .accessPoint ∧ b.machine.host = some forTwo ∧
      b.shared.sessions.limit = .ok 1 ∧
      b.shared.sessions.stateOf stationAddress = .ok .associated ∧
      ¬ AsAsked forTwo (AdmitsAmid env · [.host releasing] (l.step env undisturbed))
        b.shared.sessions.roster.value := by
  refine ⟨rfl, by decide +kernel, by decide +kernel, by decide +kernel, by decide +kernel,
    by decide +kernel, ?_⟩
  intro hasked
  -- The limit is still the one of the last session.
  exact absurd hasked.limit_eq (by decide +kernel)

end Link

end WlanControl
