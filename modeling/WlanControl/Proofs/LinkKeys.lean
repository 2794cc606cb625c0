import WlanControl.Proofs.LinkQuiet
import WlanControl.Proofs.LinkStanding

namespace WlanControl.Link

open WlanControl.Frame (Header SecurityInfo)

/-!
# The link layer — what its log tells about keys

The log tells which frames were made of records of the host and what the key exchange was asked to
do, and at each point also what the link layer was up to.

* `published?`, `wanted?`, `begun?`, `completed` — where the link layer and the key exchange stand
  at the end of a log;
* `forwarded`, `handed` — the frames made of records and the messages for the key exchange, each
  with the log up to it;
* `Rightful` — what holds of both in every log;
* `Keying` — all that decides about keys, `Keying.Tracked` what holds after each store of a mode or
  a level, `Keying.Sound` what holds in between two calls;
* `Keying.Tracked.idle`, `Keying.Tracked.started`, … — the ways to get from one call to the next.
-/

/-! ### The end of a log -/

/-- The access point that a command asks to connect to. -/
def Event.target? : Event → Option ConnectTarget
  | .commanded _ (.connect target) => some target
  | _ => none

/-- What is logged of frames, channels and installed keys. -/
def Event.isInert : Event → Bool
  | .taken _ | .sent _ _ | .unsendable | .tuned _ | .keyInstalled _ => true
  | _ => false

theorem Event.isInert_of_isQuiet {e : Event} (h : e.isQuiet = true) : e.isInert = true := by
  cases e <;> simp_all [isQuiet, isInert]

/-- The mode and the level that the host can read. -/
def published? (log : List Event) : Option (Mode × AuthLevel) := log.findSome? Event.published?

/-- The access point that the host wanted last. -/
def wanted? (log : List Event) : Option ConnectTarget := log.findSome? Event.target?

/-- What the key exchange was begun with last, unless it was reset since. -/
def begun? : List Event → Option (MacAddress × SecurityInfo × Key)
  | [] => none
  | .exchangeBegun authenticator security key :: _ => some (authenticator, security, key)
  | .exchangeReset :: _ => none
  | _ :: log => begun? log

/-- Whether the key exchange was completed since it was begun last. -/
def completed : List Event → Bool
  | [] => false
  | .exchangeBegun _ _ _ :: _ => false
  | .exchanged _ answer :: log => answer.state = .complete || completed log
  | _ :: log => completed log

/-- The key exchange was begun for an access point, and not reset since. -/
def BegunFor (target : ConnectTarget) (log : List Event) : Prop :=
  ∃ key, target.key = some key ∧ begun? log = some (target.bssid, target.record.security, key)

/-! ### What happened in the course of a log -/

/-- The frames that were made of records of the host and sent, each with the log up to its record.
Records without room for a packet make no frame. -/
def forwarded : List Event → List (List UInt8 × List Event)
  | [] => []
  | .sent frame _ :: .taken record :: log =>
    if (Packet.ofOctets? record).isSome then (frame, log) :: forwarded log else forwarded log
  | _ :: log => forwarded log

/-- The log up to each message that was handed to the key exchange. -/
def handed : List Event → List (List Event)
  | [] => []
  | .exchanged _ _ :: log => log :: handed log
  | _ :: log => handed log

/-- A record was taken, and its frame is not sent yet. -/
def inHand : List Event → Bool
  | .taken record :: _ => (Packet.ofOctets? record).isSome
  | _ => false

/-- A frame has its mark for encryption set or not. -/
def IsMarked (frame : List UInt8) (on : Bool) : Prop :=
  ∃ header body, Header.ofOctets? frame = some (header, body) ∧ header.control.has .encrypted = on

/-- A frame that was made of a record is marked for a network that encrypts, and not marked for a
session. -/
def RightlyMarked (frame : List UInt8) (log : List Event) : Prop :=
  (∀ level target, published? log = some (.connected, level) → wanted? log = some target →
    target.record.security.security ≠ .plain → IsMarked frame true) ∧
  ∀ level, published? log = some (.accessPoint, level) → IsMarked frame false

/-- What is true of the key exchange whenever it is handed a message. -/
def RightlyHanded (log : List Event) : Prop :=
  ∃ mode level target, published? log = some (mode, level) ∧ mode.hasLink = true ∧
    wanted? log = some target ∧
    (target.record.security.security.isWpa = true → level = .associated → BegunFor target log) ∧
    (target.record.security.security.isWpa = false → begun? log = none)

/-- All frames were marked and all messages handed over as they should be. -/
structure Rightful (log : List Event) : Prop where
  forwarded : ∀ p ∈ forwarded log, RightlyMarked p.1 p.2
  handed : ∀ before ∈ handed log, RightlyHanded before
  inHand_eq : inHand log = false

section Log

variable {log events : List Event} {e : Event}

theorem begun?_append (h : ∀ e ∈ events, e.isInert = true) :
    begun? (events ++ log) = begun? log := by
  induction events with
  | nil => rfl
  | cons e rest ih =>
    have he := h e (by simp)
    have hrest := ih fun e he => h e (by simp [he])
    cases e <;> simp_all [Event.isInert, begun?]

theorem completed_append (h : ∀ e ∈ events, e.isInert = true) :
    completed (events ++ log) = completed log := by
  induction events with
  | nil => rfl
  | cons e rest ih =>
    have he := h e (by simp)
    have hrest := ih fun e he => h e (by simp [he])
    cases e <;> simp_all [Event.isInert, completed]

theorem published?_append (h : ∀ e ∈ events, e.isInert = true) :
    published? (events ++ log) = published? log := by
  have hnone : events.findSome? Event.published? = none := by
    rw [List.findSome?_eq_none_iff]
    intro e he
    have := h e he
    cases e <;> simp_all [Event.isInert, Event.published?]
  rw [published?, List.findSome?_append, hnone]
  rfl

theorem wanted?_append (h : ∀ e ∈ events, e.isInert = true) :
    wanted? (events ++ log) = wanted? log := by
  have hnone : events.findSome? Event.target? = none := by
    rw [List.findSome?_eq_none_iff]
    intro e he
    have := h e he
    cases e <;> simp_all [Event.isInert, Event.target?]
  rw [wanted?, List.findSome?_append, hnone]
  rfl

/-- Without a record in hand no frame is made of one. -/
theorem forwarded_cons (h : inHand log = false) (e : Event) :
    forwarded (e :: log) = forwarded log := by
  cases e with
  | sent frame accepted =>
    cases log with
    | nil => rfl
    | cons e' rest =>
      cases e' with
      | taken record =>
        -- The record is not in hand, so no packet could be read of it.
        have hmalformed : ¬ (Packet.ofOctets? record).isSome = true := by
          simpa [inHand] using h
        simp [forwarded, hmalformed]
      | _ => rfl
  | _ => rfl

namespace Rightful

/-- Most events are neither records that are taken nor messages that are handed over. -/
theorem cons (h : Rightful log) (htaken : ∀ record, e ≠ .taken record)
    (hexchanged : ∀ payload answer, e ≠ .exchanged payload answer) : Rightful (e :: log) where
  forwarded := by
    rw [forwarded_cons h.inHand_eq]
    exact h.forwarded
  handed := by
    have hsame : Link.handed (e :: log) = Link.handed log := by
      cases e with
      | exchanged payload answer => exact absurd rfl (hexchanged payload answer)
      | _ => rfl
    rw [hsame]
    exact h.handed
  inHand_eq := by
    cases e with
    | taken record => exact absurd rfl (htaken record)
    | _ => rfl

theorem append (h : Rightful log) (hquiet : ∀ e ∈ events, e.isQuiet = true) :
    Rightful (events ++ log) := by
  induction events with
  | nil => exact h
  | cons e rest ih =>
    have he := hquiet e (by simp)
    have hrest := ih fun e he => hquiet e (by simp [he])
    refine hrest.cons ?_ ?_
    · rintro record rfl
      cases he
    · rintro payload answer rfl
      cases he

/-- A message is handed to the key exchange. -/
theorem exchanged (h : Rightful log) (hlog : RightlyHanded log) (payload : List UInt8)
    (answer : ExchangeStep) : Rightful (.exchanged payload answer :: log) where
  forwarded := by
    rw [forwarded_cons h.inHand_eq]
    exact h.forwarded
  handed := by
    intro before hbefore
    rcases List.mem_cons.mp hbefore with rfl | hbefore
    · exact hlog
    · exact h.handed before hbefore
  inHand_eq := rfl

/-- A record is taken that no frame can be made of. -/
theorem malformed (h : Rightful log) {record : List UInt8}
    (hmalformed : Packet.ofOctets? record = none) : Rightful (.taken record :: log) where
  forwarded := h.forwarded
  handed := h.handed
  inHand_eq := by
    simp [inHand, hmalformed]

/-- A record is taken, and its frame is sent. -/
theorem sent (h : Rightful log) {frame record : List UInt8} (hlog : RightlyMarked frame log)
    (accepted : Bool) : Rightful (.sent frame accepted :: .taken record :: log) where
  forwarded := by
    intro p hp
    unfold Link.forwarded at hp
    split at hp
    · rcases List.mem_cons.mp hp with rfl | hp
      · exact hlog
      · exact h.forwarded p hp
    · exact h.forwarded p hp
  handed := h.handed
  inHand_eq := rfl

/-- A record is taken, and its frame is given up. -/
theorem unsendable (h : Rightful log) (record : List UInt8) :
    Rightful (.unsendable :: .taken record :: log) where
  forwarded := h.forwarded
  handed := h.handed
  inHand_eq := rfl

end Rightful

end Log

/-! ### All that decides about keys -/

variable {σ : Type} {l l' : Link σ}

/-- All that decides about keys. -/
structure Keying where
  mode : Mode
  authLevel : AuthLevel
  step : HandshakeStep
  target : Option ConnectTarget
  encrypting : Bool
  /-- What the host reads. -/
  published : Mode × AuthLevel
  /-- What the link layer did, latest first. -/
  log : List Event

/-- What decides about the keys of a link layer. -/
def keying (l : Link σ) : Keying where
  mode := l.machine.mode
  authLevel := l.machine.authLevel
  step := l.machine.handshake.step
  target := l.machine.target
  encrypting := l.machine.encrypting
  published := (l.shared.status.mode, l.shared.status.authLevel)
  log := l.log

namespace Keying

variable {k : Keying}

/-- A level is stored. -/
def setLevel (authLevel : AuthLevel) (k : Keying) : Keying :=
  { k with
    authLevel
    published := (k.published.1, authLevel)
    log := .published k.published.1 authLevel :: k.log }

/-- A mode is stored, after an association that does not go with it was given up. -/
def setMode (mode : Mode) (k : Keying) : Keying :=
  let k := if !mode.hasLink && k.authLevel = .associated then k.setLevel .disconnected else k
  { k with
    mode
    published := (mode, k.published.2)
    log := .published mode k.published.2 :: k.log }

/-- What holds after each store of a mode or a level. -/
structure Tracked (k : Keying) : Prop where
  published?_eq : published? k.log = some k.published
  mode_eq : k.published.1 = k.mode
  rightful : Rightful k.log

/-- What holds in between two calls. -/
structure Sound (k : Keying) : Prop extends Tracked k where
  wanted : k.mode.hasLink = true → ∃ target, k.target = some target ∧ wanted? k.log = some target
  level_eq : k.mode.hasLink = true → k.published.2 = k.authLevel
  /-- Without a link there are no keys. -/
  idle : k.mode.hasLink = false → k.encrypting = false ∧ begun? k.log = none
  /-- Only WPA networks have keys exchanged. -/
  begun_eq : ∀ target, k.target = some target → target.record.security.security.isWpa = false →
    begun? k.log = none
  /-- Keys of WPA networks are exchanged once the station is associated. -/
  begunFor : k.mode.hasLink = true → k.authLevel = .associated → ∀ target, k.target = some target →
    target.record.security.security.isWpa = true → BegunFor target k.log
  /-- A link that is not up yet waits for keys only if it is associated to a WPA network. -/
  exchanging : k.mode = .connecting → k.step = .keyExchange → k.authLevel = .associated ∧
    ∀ target, k.target = some target → target.record.security.security.isWpa = true
  /-- A link that is up waits for nothing. -/
  up : k.mode = .connected → k.authLevel = .associated ∧ k.step = .done
  /-- Nothing goes in clear to a network that encrypts. -/
  encrypting_eq : k.mode = .connected → ∀ target, k.target = some target →
    target.record.security.security ≠ .plain → k.encrypting = true
  /-- A link to a WPA network is up only once keys were exchanged. -/
  completed_eq : k.mode = .connected → ∀ target, k.target = some target →
    target.record.security.security.isWpa = true → completed k.log = true

/-! ### Stores -/

@[simp] theorem begun?_setMode (mode : Mode) (k : Keying) :
    begun? (k.setMode mode).log = begun? k.log := by
  unfold setMode
  split <;> rfl

@[simp] theorem wanted?_setMode (mode : Mode) (k : Keying) :
    wanted? (k.setMode mode).log = wanted? k.log := by
  unfold setMode
  split <;> rfl

@[simp] theorem mode_setMode (mode : Mode) (k : Keying) : (k.setMode mode).mode = mode := rfl

@[simp] theorem encrypting_setMode (mode : Mode) (k : Keying) :
    (k.setMode mode).encrypting = k.encrypting := by
  unfold setMode
  split <;> rfl

/-- A mode with a link is stored without giving an association up. -/
theorem setMode_of_hasLink {mode : Mode} (h : mode.hasLink = true) (k : Keying) :
    k.setMode mode = { k with
      mode
      published := (mode, k.published.2)
      log := .published mode k.published.2 :: k.log } := by
  simp [setMode, h]

namespace Tracked

/-- What is not published may change. -/
theorem withSecrets (h : k.Tracked) (step : HandshakeStep) (encrypting : Bool) :
    ({ k with step, encrypting } : Keying).Tracked := ⟨h.published?_eq, h.mode_eq, h.rightful⟩

/-- Frames, channels and installed keys change nothing. -/
theorem append (h : k.Tracked) (events : List Event) (hinert : ∀ e ∈ events, e.isInert = true)
    (hrightful : Rightful (events ++ k.log)) :
    ({ k with log := events ++ k.log } : Keying).Tracked :=
  ⟨(published?_append hinert).trans h.published?_eq, h.mode_eq, hrightful⟩

/-- Something else than a store is logged. -/
theorem log (h : k.Tracked) {e : Event} (hstore : e.published? = none)
    (hrightful : Rightful (e :: k.log)) : ({ k with log := e :: k.log } : Keying).Tracked where
  published?_eq := by
    show published? (e :: k.log) = some k.published
    rw [published?, List.findSome?_cons, hstore]
    exact h.published?_eq
  mode_eq := h.mode_eq
  rightful := hrightful

theorem setLevel (h : k.Tracked) (authLevel : AuthLevel) : (k.setLevel authLevel).Tracked where
  published?_eq := rfl
  mode_eq := h.mode_eq
  rightful := h.rightful.cons (by simp) (by simp)

theorem setMode (h : k.Tracked) (mode : Mode) : (k.setMode mode).Tracked := by
  -- An association that is given up is published before the mode is.
  have hdropped : (if !mode.hasLink && k.authLevel = .associated then k.setLevel .disconnected
      else k).Tracked := by
    split
    · exact h.setLevel _
    · exact h
  exact ⟨rfl, rfl, hdropped.rightful.cons (by simp) (by simp)⟩

/-! ### From one call to the next -/

/-- There is no link. -/
theorem idle (h : k.Tracked) {mode : Mode} (hmode : mode.hasLink = false)
    (hencrypting : k.encrypting = false) (hbegun : begun? k.log = none) :
    (k.setMode mode).Sound := by
  have hnone : ¬ (k.setMode mode).mode.hasLink = true := by simp [hmode]
  exact {
    toTracked := h.setMode mode
    wanted := fun hlink => absurd hlink hnone
    level_eq := fun hlink => absurd hlink hnone
    idle := fun _ => by simp [hencrypting, hbegun]
    begun_eq := fun _ _ _ => by simp [hbegun]
    begunFor := fun hlink => absurd hlink hnone
    exchanging := fun hconnecting => absurd (by rw [hconnecting]; rfl) hnone
    up := fun hup => absurd (by rw [hup]; rfl) hnone
    encrypting_eq := fun hup => absurd (by rw [hup]; rfl) hnone
    completed_eq := fun hup => absurd (by rw [hup]; rfl) hnone }

/-- The link is not up yet. -/
theorem connecting (h : k.Tracked) (hmode : k.mode = .connecting)
    (hpublished : k.published.2 = k.authLevel) {target : ConnectTarget}
    (htarget : k.target = some target) (hwanted : wanted? k.log = some target)
    (hplain : target.record.security.security.isWpa = false → begun? k.log = none)
    (hwpa : k.authLevel = .associated → target.record.security.security.isWpa = true →
      BegunFor target k.log)
    (hkeys : k.step = .keyExchange → k.authLevel = .associated ∧
      target.record.security.security.isWpa = true) : k.Sound where
  toTracked := h
  wanted := fun _ => ⟨target, htarget, hwanted⟩
  level_eq := fun _ => hpublished
  idle := by
    intro hnone
    rw [hmode] at hnone
    cases hnone
  begun_eq := by
    intro t ht
    cases htarget.symm.trans ht
    exact hplain
  begunFor := by
    intro _ hlevel t ht
    cases htarget.symm.trans ht
    exact hwpa hlevel
  exchanging := by
    intro _ hstep
    refine ⟨(hkeys hstep).1, ?_⟩
    intro t ht
    cases htarget.symm.trans ht
    exact (hkeys hstep).2
  up := by
    intro hup
    cases hmode.symm.trans hup
  encrypting_eq := by
    intro hup
    cases hmode.symm.trans hup
  completed_eq := by
    intro hup
    cases hmode.symm.trans hup

/-- The attempt starts, or starts over. -/
theorem started (h : k.Tracked) {authLevel : AuthLevel} {target : ConnectTarget}
    (hstep : k.step = .authenticate) (hlevel : authLevel ≠ .associated)
    (htarget : k.target = some target) (hwanted : wanted? k.log = some target)
    (hbegun : target.record.security.security.isWpa = false → begun? k.log = none) :
    ((k.setLevel authLevel).setMode .connecting).Sound := by
  have hstored := (h.setLevel authLevel).setMode .connecting
  rw [setMode_of_hasLink rfl] at hstored ⊢
  refine hstored.connecting rfl rfl htarget hwanted hbegun ?_ ?_
  · intro hassociated
    exact absurd hassociated hlevel
  · intro hkeys
    cases hstep.symm.trans hkeys

/-- The link is up. -/
theorem established (h : k.Tracked) {target : ConnectTarget} (hstep : k.step = .done)
    (hlevel : k.authLevel = .associated) (hpublished : k.published.2 = .associated)
    (htarget : k.target = some target) (hwanted : wanted? k.log = some target)
    (hencrypting : target.record.security.security ≠ .plain → k.encrypting = true)
    (hplain : target.record.security.security.isWpa = false → begun? k.log = none)
    (hwpa : target.record.security.security.isWpa = true →
      BegunFor target k.log ∧ completed k.log = true) :
    (k.setMode .connected).Sound := by
  have hstored := h.setMode .connected
  rw [setMode_of_hasLink rfl] at hstored ⊢
  exact {
    toTracked := hstored
    wanted := fun _ => ⟨target, htarget, hwanted⟩
    level_eq := fun _ => hpublished.trans hlevel.symm
    idle := by
      intro hlink
      cases hlink
    begun_eq := by
      intro t ht
      cases htarget.symm.trans ht
      exact hplain
    begunFor := by
      intro _ _ t ht htwpa
      cases htarget.symm.trans ht
      exact (hwpa htwpa).1
    exchanging := by
      intro hconnecting
      cases hconnecting
    up := fun _ => ⟨hlevel, hstep⟩
    encrypting_eq := by
      intro _ t ht
      cases htarget.symm.trans ht
      exact hencrypting
    completed_eq := by
      intro _ t ht htwpa
      cases htarget.symm.trans ht
      exact (hwpa htwpa).2 }

end Tracked

namespace Sound

/-- Frames, channels and installed keys change nothing. -/
theorem append (h : k.Sound) (events : List Event) (hinert : ∀ e ∈ events, e.isInert = true)
    (hrightful : Rightful (events ++ k.log)) :
    ({ k with log := events ++ k.log } : Keying).Sound where
  toTracked := h.toTracked.append events hinert hrightful
  wanted := by
    show k.mode.hasLink = true → ∃ target, k.target = some target ∧
      wanted? (events ++ k.log) = some target
    rw [wanted?_append hinert]
    exact h.wanted
  level_eq := h.level_eq
  idle := by
    show k.mode.hasLink = false → k.encrypting = false ∧ begun? (events ++ k.log) = none
    rw [begun?_append hinert]
    exact h.idle
  begun_eq := by
    intro target htarget hplain
    exact (begun?_append hinert).trans (h.begun_eq target htarget hplain)
  begunFor := by
    intro hlink hlevel target htarget hwpa
    unfold BegunFor
    rw [begun?_append hinert]
    exact h.begunFor hlink hlevel target htarget hwpa
  exchanging := h.exchanging
  up := h.up
  encrypting_eq := h.encrypting_eq
  completed_eq := by
    intro hmode target htarget hwpa
    exact (completed_append hinert).trans (h.completed_eq hmode target htarget hwpa)

/-- A command was taken that does not ask for another link than the one that there is. -/
theorem commanded (h : k.Sound) (version : UInt32) {command : Command}
    (hkept : k.mode.hasLink = true → ∀ target, command ≠ .connect target) :
    ({ k with log := .commanded version command :: k.log } : Keying).Sound where
  toTracked := h.toTracked.log rfl (h.rightful.cons (by simp) (by simp))
  wanted := by
    intro hlink
    obtain ⟨target, htarget, hwanted⟩ := h.wanted hlink
    refine ⟨target, htarget, ?_⟩
    cases command with
    | connect other =>
      -- The log would tell of a target that the link does not have.
      exact absurd rfl (hkept hlink other)
    | enable | powerOff | stop | scan | host => exact hwanted
  level_eq := h.level_eq
  idle := h.idle
  begun_eq := h.begun_eq
  begunFor := h.begunFor
  exchanging := h.exchanging
  up := h.up
  encrypting_eq := h.encrypting_eq
  completed_eq := h.completed_eq

/-- The handshake goes on, but not to the exchange of keys. -/
theorem withStep (h : k.Sound) (hmode : k.mode = .connecting) {step : HandshakeStep}
    (hstep : step ≠ .keyExchange) : ({ k with step } : Keying).Sound := by
  have hlink : k.mode.hasLink = true := by rw [hmode]; rfl
  obtain ⟨target, htarget, hwanted⟩ := h.wanted hlink
  refine (h.toTracked.withSecrets step k.encrypting).connecting hmode (h.level_eq hlink) htarget
    hwanted (h.begun_eq target htarget) ?_ ?_
  · intro hlevel
    exact h.begunFor hlink hlevel target htarget
  · intro hkeys
    exact absurd hkeys hstep

/-- While there is a link, frames may be marked. -/
theorem withEncryption (h : k.Sound) (hlink : k.mode.hasLink = true) :
    ({ k with encrypting := true } : Keying).Sound where
  published?_eq := h.published?_eq
  mode_eq := h.mode_eq
  rightful := h.rightful
  wanted := h.wanted
  level_eq := h.level_eq
  idle := by
    intro hnone
    cases hlink.symm.trans hnone
  begun_eq := h.begun_eq
  begunFor := h.begunFor
  exchanging := h.exchanging
  up := h.up
  encrypting_eq := fun _ _ _ _ => rfl
  completed_eq := h.completed_eq

/-- The access point believes who the station is. -/
theorem authenticated (h : k.Sound) (hmode : k.mode = .connecting) :
    ({ k.setLevel .authenticated with step := .associate } : Keying).Sound := by
  obtain ⟨target, htarget, hwanted⟩ := h.wanted (by rw [hmode]; rfl)
  refine ((h.toTracked.setLevel _).withSecrets _ _).connecting hmode rfl htarget hwanted
    (h.begun_eq target htarget) ?_ ?_
  · intro hassociated
    cases hassociated
  · intro hkeys
    cases hkeys

/-- The access point let the station in, and the exchange of keys begins. -/
theorem associated (h : k.Sound) (hmode : k.mode = .connecting) {target : ConnectTarget} {key : Key}
    (htarget : k.target = some target) (hkey : target.key = some key)
    (hwpa : target.record.security.security.isWpa = true) :
    ({ k.setLevel .associated with
      step := .keyExchange
      log := .exchangeBegun target.bssid target.record.security key ::
        (k.setLevel .associated).log } : Keying).Sound := by
  obtain ⟨wanted, hsame, hwanted⟩ := h.wanted (by rw [hmode]; rfl)
  cases htarget.symm.trans hsame
  have hlevel := (h.toTracked.setLevel .associated).withSecrets .keyExchange k.encrypting
  have hbegun := hlevel.log (e := .exchangeBegun target.bssid target.record.security key) rfl
    (hlevel.rightful.cons (by simp) (by simp))
  refine hbegun.connecting hmode rfl htarget hwanted ?_ ?_ ?_
  · intro hplain
    cases hwpa.symm.trans hplain
  · intro _ _
    exact ⟨key, hkey, rfl⟩
  · intro _
    exact ⟨rfl, hwpa⟩

/-- Whenever there is a link, the key exchange may be handed a message. -/
theorem rightlyHanded (h : k.Sound) (hlink : k.mode.hasLink = true) : RightlyHanded k.log := by
  obtain ⟨target, htarget, hwanted⟩ := h.wanted hlink
  have hpublished : published? k.log = some (k.mode, k.authLevel) := by
    rw [h.published?_eq, ← h.mode_eq, ← h.level_eq hlink]
  refine ⟨k.mode, k.authLevel, target, hpublished, hlink, hwanted, ?_, ?_⟩
  · intro hwpa hlevel
    exact h.begunFor hlink hlevel target htarget hwpa
  · exact h.begun_eq target htarget

/-- A message was handed to the key exchange. -/
theorem exchanged (h : k.Sound) (hlink : k.mode.hasLink = true) (payload : List UInt8)
    (answer : ExchangeStep) :
    ({ k with log := .exchanged payload answer :: k.log } : Keying).Sound where
  toTracked := h.toTracked.log rfl (h.rightful.exchanged (h.rightlyHanded hlink) payload answer)
  wanted := h.wanted
  level_eq := h.level_eq
  idle := h.idle
  begun_eq := h.begun_eq
  begunFor := h.begunFor
  exchanging := h.exchanging
  up := h.up
  encrypting_eq := h.encrypting_eq
  completed_eq := by
    intro hmode target htarget hwpa
    show (answer.state = .complete || completed k.log) = true
    rw [h.completed_eq hmode target htarget hwpa, Bool.or_true]

/-- A frame with the mark of the link is rightly marked. -/
theorem rightlyMarked (h : k.Sound) {frame : List UInt8} (hframe : IsMarked frame k.encrypting) :
    RightlyMarked frame k.log := by
  -- The log tells the mode, which decides about the mark.
  have hmode {mode : Mode} {level : AuthLevel} (hp : published? k.log = some (mode, level)) :
      k.mode = mode := by
    rw [h.published?_eq] at hp
    rw [← h.mode_eq, Option.some.inj hp]
  constructor
  · intro level target hp hwanted hsecret
    have hup := hmode hp
    obtain ⟨target', htarget, hwanted'⟩ := h.wanted (by rw [hup]; rfl)
    cases hwanted.symm.trans hwanted'
    rw [h.encrypting_eq hup target htarget hsecret] at hframe
    exact hframe
  · intro level hp
    have hup := hmode hp
    rw [(h.idle (by rw [hup]; rfl)).1] at hframe
    exact hframe

end Sound

end Keying

end WlanControl.Link
