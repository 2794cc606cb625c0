import WlanControl.Proofs.LinkPassages

namespace WlanControl.Link

open WlanControl.Frame (Security SecurityInfo eapolType encode? maxFrameLength)

/-!
# The link layer — keys and marks

Whatever commands, ticks and frames come, and whatever the key exchange answers, a link to a WPA
network is up only after its keys were exchanged, and what the host sends goes out with the mark
that the network asks for.

* `Keying.Tracked.logged`, `Keying.Tracked.forget` — frames, and keys that are given up;
* `Keying.Passage.sound` — every passage keeps the keying sound;
* `Guarded` — what that means for the link and for the frames that were made of records.

Main statements: `guarded_run`, in every run the link and its frames are guarded, and
`rightlyHanded_run`, when the key exchange is handed messages in a run.
-/

variable {σ : Type} {l : Link σ} (env : Surroundings σ)

/-! ### Passages -/

namespace Keying

variable {k k' : Keying} {events : List Event}

theorem Tracked.logged (h : k.Tracked) (hquiet : ∀ e ∈ events, e.isQuiet = true) :
    (k.logged events).Tracked :=
  h.append events (fun e he => Event.isInert_of_isQuiet (hquiet e he)) (h.rightful.append hquiet)

/-- When the key exchange forgets all, no frame is marked any more. -/
theorem Tracked.forget (h : k.Tracked) : k.forget.Tracked :=
  (h.withSecrets _ false).log rfl (h.rightful.cons (by simp) (by simp))

theorem Tracked.unlinked (h : k.Tracked) : k.unlinked.Tracked := by
  have hremoved := h.forget.log (e := .keyInstalled none) rfl
    (h.forget.rightful.cons (by simp) (by simp))
  exact ⟨hremoved.published?_eq, hremoved.mode_eq, hremoved.rightful⟩

theorem Tracked.givenUp (h : k.Tracked) : k.givenUp.Sound :=
  (h.forget.setLevel .error).idle rfl rfl rfl

/-- A mode that was left has no keys.  The command that made the link layer leave it may ask for
another access point already. -/
theorem Tracked.left (h : k.Tracked) (hquiet : ∀ e ∈ events, e.isQuiet = true)
    (hidle : k.mode.hasLink = false → k.encrypting = false ∧ begun? k.log = none) :
    (k.left events).Sound := by
  unfold Keying.left
  split
  · exact ((h.logged hquiet).unlinked.setLevel .disconnected).idle rfl rfl rfl
  · rename_i hkeys
    have hnone : k.mode.hasLink = false := by
      cases hmode : k.mode <;> simp_all [Mode.hasLink, Mode.hasKeys]
    obtain ⟨hencrypting, hbegun⟩ := hidle hnone
    refine ((h.logged hquiet).setLevel .disconnected).idle rfl hencrypting ?_
    show begun? (events ++ k.log) = none
    rw [begun?_append fun e he => Event.isInert_of_isQuiet (hquiet e he)]
    exact hbegun

/-- A network without WPA let the station in. -/
theorem Sound.admitted (h : k.Sound) (hmode : k.mode = .connecting) {target : ConnectTarget}
    (htarget : k.target = some target)
    (hplain : target.record.security.security.isWpa = false) :
    (established { k.setLevel .associated with
      encrypting := decide (target.record.security.security = Security.wep) }).Sound := by
  obtain ⟨wanted, hsame, hwanted⟩ := h.wanted (by rw [hmode]; rfl)
  cases htarget.symm.trans hsame
  have hlevel := (h.toTracked.setLevel .associated).withSecrets .done
    (decide (target.record.security.security = Security.wep))
  refine hlevel.established rfl rfl rfl htarget hwanted ?_ ?_ ?_
  · -- Without WPA only WEP networks encrypt.
    intro hsecret
    show decide (target.record.security.security = .wep) = true
    cases hsecurity : target.record.security.security <;> simp_all [Security.isWpa]
  · intro _
    exact h.begun_eq target htarget hplain
  · intro hwpa
    cases hplain.symm.trans hwpa

/-- The key exchange completed while it was waited for. -/
theorem Sound.secured (h : k.Sound) (hlink : k.mode.hasLink = true) (hkeys : k.step = .keyExchange)
    (hencrypting : k.encrypting = true) (hcompleted : completed k.log = true) :
    k.established.Sound := by
  -- A link that is up waits for nothing, so this one is not.
  have hconnecting : k.mode = .connecting := by
    cases hmode : k.mode with
    | connecting => rfl
    | connected => cases hkeys.symm.trans (h.up hmode).2
    | disabled | normal | scanning | cannotConnect | accessPoint =>
      rw [hmode] at hlink
      cases hlink
  obtain ⟨hlevel, hwpa⟩ := h.exchanging hconnecting hkeys
  obtain ⟨target, htarget, hwanted⟩ := h.wanted hlink
  have hbegun := h.begunFor hlink hlevel target htarget (hwpa target htarget)
  refine (h.toTracked.withSecrets .done k.encrypting).established rfl hlevel
    ((h.level_eq hlink).trans hlevel) htarget hwanted (fun _ => hencrypting) ?_
    (fun _ => ⟨hbegun, hcompleted⟩)
  intro hplain
  cases (hwpa target htarget).symm.trans hplain

/-- Every passage keeps the keying sound. -/
theorem Passage.sound (hpassage : k.Passage k') (h : k.Sound) : k'.Sound := by
  induction hpassage with
  | refl => exact h
  | trans _ _ ih ih' => exact ih' (ih h)
  | quiet hquiet =>
    exact h.append _ (fun e he => Event.isInert_of_isQuiet (hquiet e he))
      (h.rightful.append hquiet)
  | malformed hmalformed =>
    exact h.append _ (by simp [Event.isInert]) (h.rightful.malformed hmalformed)
  | unsendable record =>
    exact h.append _ (by simp [Event.isInert]) (h.rightful.unsendable record)
  | forwarded hmarked accepted =>
    exact h.append _ (by simp [Event.isInert])
      (h.rightful.sent (h.rightlyMarked hmarked) accepted)
  | heeded hkept => exact h.commanded _ hkept
  | left version command hquiet =>
    have htaken := h.toTracked.log (e := .commanded version command) rfl
      (h.rightful.cons (by simp) (by simp))
    exact htaken.left hquiet h.idle
  | @idled k mode hfrom hto =>
    have hlink : k.mode.hasLink = false := by rcases hfrom with hmode | hmode <;> rw [hmode] <;> rfl
    obtain ⟨hencrypting, hbegun⟩ := h.idle hlink
    refine h.toTracked.idle ?_ hencrypting hbegun
    simp only [List.mem_cons, List.not_mem_nil, or_false] at hto
    rcases hto with rfl | rfl | rfl <;> rfl
  | hosted hmode =>
    obtain ⟨hencrypting, hbegun⟩ := h.idle (congrArg Mode.hasLink hmode)
    exact (h.toTracked.setLevel .disconnected).idle rfl hencrypting hbegun
  | keyInstalled key =>
    exact h.append _ (by simp [Event.isInert]) (h.rightful.cons (by simp) (by simp))
  | @begun k target hmode hwanted =>
    have hprepared : Keying.Tracked { k with
        step := .authenticate, target := some target, encrypting := false } :=
      ⟨h.published?_eq, h.mode_eq, h.rightful⟩
    exact hprepared.started rfl (by simp) rfl hwanted
      fun _ => (h.idle (congrArg Mode.hasLink hmode)).2
  | givenUp hquiet => exact (h.toTracked.logged hquiet).givenUp
  | keyless hmode hquiet => exact ((h.toTracked.setLevel .associated).logged hquiet).givenUp
  | restarted hlink =>
    -- Of the attempt only its target is left.
    obtain ⟨target, htarget, hwanted⟩ := h.wanted hlink
    exact (h.toTracked.forget.withSecrets .authenticate false).started rfl (by simp) htarget hwanted
      fun _ => rfl
  | deassociated hlink =>
    -- The key exchange is not reset, but frames are not marked any more.
    obtain ⟨target, htarget, hwanted⟩ := h.wanted hlink
    exact (h.toTracked.withSecrets .authenticate false).started rfl (by simp) htarget hwanted
      (h.begun_eq target htarget)
  | stepped hmode hstep => exact h.withStep hmode hstep
  | authenticated hmode => exact h.authenticated hmode
  | associated hmode htarget hkey hwpa => exact h.associated hmode htarget hkey hwpa
  | admitted hmode htarget hplain => exact h.admitted hmode htarget hplain
  | exchanged hlink payload answer => exact h.exchanged hlink payload answer
  | encrypting hlink => exact h.withEncryption hlink
  | secured hlink hkeys hencrypting hcompleted =>
    exact h.secured hlink hkeys hencrypting hcompleted

end Keying

/-! ### All runs -/

theorem sound_run (h : l.keying.Sound) (actions : List Action) :
    (run env actions l).keying.Sound :=
  keying_run env (P := Keying.Sound) (fun hpassage hk => hpassage.sound hk) h actions

/-- A link layer that was just attached is disabled, whatever the shared memory holds. -/
theorem sound_attach {settings : Settings} {address : MacAddress} {outside : σ}
    {s s' : SharedState} (h : attach settings address outside s = (s', .ok l)) :
    l.keying.Sound := by
  obtain ⟨producer, rx, tx, rfl⟩ := attach_eq_ok h
  exact {
    published?_eq := rfl
    mode_eq := rfl
    rightful := ⟨by simp [keying, forwarded], by simp [keying, handed], rfl⟩
    wanted := by simp [keying, Machine.start, Mode.hasLink]
    level_eq := by simp [keying, Machine.start, Mode.hasLink]
    idle := fun _ => ⟨rfl, rfl⟩
    begun_eq := fun _ _ _ => rfl
    begunFor := by simp [keying, Machine.start, Mode.hasLink]
    exchanging := by simp [keying, Machine.start]
    up := by simp [keying, Machine.start]
    encrypting_eq := by simp [keying, Machine.start]
    completed_eq := by simp [keying, Machine.start] }

/-- What is true of a link layer and of all that it did. -/
structure Guarded (l : Link σ) : Prop where
  /-- The log tells the mode. -/
  mode_eq : (published? l.log).map Prod.fst = some l.machine.mode
  /-- While there is a link, the log tells to which access point. -/
  target_eq : l.machine.mode.hasLink = true → l.machine.target.isSome = true ∧
    l.machine.target = wanted? l.log
  /-- A link to a WPA network is up only if the key exchange was begun for it and completed
  since. -/
  completed : l.machine.mode = .connected → ∀ target, l.machine.target = some target →
    target.record.security.security.isWpa = true → BegunFor target l.log ∧ completed l.log = true
  /-- Frames made of records are marked for networks that encrypt. -/
  marked : ∀ frame before level target, (frame, before) ∈ forwarded l.log →
    published? before = some (.connected, level) → wanted? before = some target →
    target.record.security.security ≠ .plain → IsMarked frame true
  /-- Frames made of records are not marked for the peers of a session. -/
  unmarked : ∀ frame before level, (frame, before) ∈ forwarded l.log →
    published? before = some (.accessPoint, level) → IsMarked frame false

theorem guarded_of_sound (h : l.keying.Sound) : l.Guarded where
  mode_eq := by
    have hpublished : published? l.log = some (l.shared.status.mode, l.shared.status.authLevel) :=
      h.published?_eq
    have hmode : l.shared.status.mode = l.machine.mode := h.mode_eq
    rw [hpublished, Option.map_some, hmode]
  target_eq := by
    intro hlink
    obtain ⟨target, htarget, hwanted⟩ := h.wanted hlink
    have htarget' : l.machine.target = some target := htarget
    have hwanted' : wanted? l.log = some target := hwanted
    exact ⟨by rw [htarget']; rfl, htarget'.trans hwanted'.symm⟩
  completed := by
    intro hmode target htarget hwpa
    have hlink : l.machine.mode.hasLink = true := by rw [hmode]; rfl
    exact ⟨h.begunFor hlink (h.up hmode).1 target htarget hwpa,
      h.completed_eq hmode target htarget hwpa⟩
  marked := fun _ _ level target hframe => (h.rightful.forwarded _ hframe).1 level target
  unmarked := fun _ _ level hframe => (h.rightful.forwarded _ hframe).2 level

/-- In every run a link to a WPA network is up only once its keys were exchanged, nothing that the
host sends goes out in clear to a network that encrypts, and nothing goes out marked to the peers of
a session. -/
theorem guarded_run {settings : Settings} {address : MacAddress} {outside : σ}
    {s s' : SharedState} (h : attach settings address outside s = (s', .ok l))
    (actions : List Action) : (run env actions l).Guarded :=
  guarded_of_sound (sound_run env (sound_attach h) actions)

/-! ### A station and an access point -/

def stationAddress : MacAddress := ⟨0x02, 0, 0, 0, 0, 0x01⟩

def networkAddress : MacAddress := ⟨0x02, 0, 0, 0, 0, 0x02⟩

/-- A network of some security, as the host asks for it. -/
def network (security : Security) : ConnectTarget where
  record := { Discovery.Record.blank networkAddress with
    channel := 1
    security := { SecurityInfo.plain with security } }
  key := some ⟨[1, 2, 3, 4, 5, 6, 7, 8], by decide⟩

/-- The access point sends a frame. -/
def heard (fields : List Frame.Field) : Action :=
  .receive ((encode? maxFrameLength fields).getD []) 0 1 fun _ => false

/-- The access point sends a message for the key exchange. -/
def heardMessage : Action :=
  heard (Frame.data .fromDs networkAddress stationAddress networkAddress 0 false eapolType
    [1, 3, 0, 0])

/-- A tick in the course of which the host does nothing. -/
def undisturbed : Action := .tick 1 fun _ => .idle

/-- The host puts a packet into the ring. -/
def pushing (packet : Packet) : HostMove where
  act s := match s.tx.attachProducer with
    | (tx, some producer) => { s with tx := (tx.push packet.octets producer).1 }
    | (_, none) => s
  status_act s := by split <;> rfl

/-- The station connects to a WPA network, and a packet of the host goes out. -/
def securedActions : List Action :=
  [.post .enable, undisturbed, .post (.connect (network .wpa2)), undisturbed,
    heard (Frame.authentication stationAddress networkAddress networkAddress 0
      { algorithm := .openSystem, sequence := 2, status := .success, challenge := none } false),
    heard (Frame.associationResponse stationAddress networkAddress 0 .success 1), heardMessage,
    .host (pushing ⟨networkAddress, stationAddress, 0x0800, [0x45]⟩), undisturbed]

theorem guarded_run_securedActions :
    ∃ s l, attach .standard stationAddress () .fresh = (s, .ok l) ∧
      (run (.answering ⟨.complete, [], 0⟩) securedActions l).machine.mode = .connected ∧
      (forwarded (run (.answering ⟨.complete, [], 0⟩) securedActions l).log).length = 1 ∧
      (run (.answering ⟨.complete, [], 0⟩) securedActions l).Guarded := by
  have hattached : attach .standard stationAddress () .fresh = (_, .ok _) := rfl
  exact ⟨_, _, hattached, by decide +kernel, by decide +kernel, guarded_run _ hattached _⟩

/-! ### Messages for the key exchange -/

/-- In every run the key exchange is handed messages only while there is a link.  If the station is
associated to a WPA network, it was begun for that network before and not reset since, and for other
networks it was not begun at all. -/
theorem rightlyHanded_run {settings : Settings} {address : MacAddress} {outside : σ}
    {s s' : SharedState} (h : attach settings address outside s = (s', .ok l))
    (actions : List Action) : ∀ before ∈ handed (run env actions l).log, RightlyHanded before :=
  (sound_run env (sound_attach h) actions).rightful.handed

theorem rightlyHanded_run_securedActions :
    ∃ s l, attach .standard stationAddress () .fresh = (s, .ok l) ∧
      (handed (run (.answering ⟨.complete, [], 0⟩) securedActions l).log).length = 1 ∧
      ∀ before ∈ handed (run (.answering ⟨.complete, [], 0⟩) securedActions l).log,
        RightlyHanded before := by
  have hattached : attach .standard stationAddress () .fresh = (_, .ok _) := rfl
  exact ⟨_, _, hattached, by decide +kernel, rightlyHanded_run _ hattached _⟩

/-- The station connects to a network that does not encrypt. -/
def plainActions : List Action :=
  [.post .enable, undisturbed, .post (.connect (network .plain)), undisturbed]

/-- The key exchange may be handed a message although it was never begun.  Without WPA, the answer
of a station that has no key exchange ends the attempt. -/
theorem handed_without_begin :
    ∃ s l, attach .standard stationAddress () .fresh = (s, .ok l) ∧
      (run (.answering .refused) plainActions l).machine.mode = .connecting ∧
      (run (.answering .refused) (plainActions ++ [heardMessage]) l).machine.mode = .cannotConnect ∧
      ¬ ∀ before ∈ handed (run (.answering .refused) (plainActions ++ [heardMessage]) l).log,
        ∃ target, wanted? before = some target ∧ BegunFor target before := by
  have hattached : attach .standard stationAddress () .fresh = (_, .ok _) := rfl
  have hnever {logs : List (List Event)} (hbegun : logs.map begun? = [none]) :
      ¬ ∀ before ∈ logs, ∃ target, wanted? before = some target ∧ BegunFor target before := by
    intro h
    obtain ⟨before, hbefore, hnone⟩ : ∃ before ∈ logs, begun? before = none := by
      rw [← List.mem_map, hbegun]
      exact List.mem_singleton.mpr rfl
    obtain ⟨target, -, key, -, hsome⟩ := h before hbefore
    cases hnone.symm.trans hsome
  exact ⟨_, _, hattached, by decide +kernel, by decide +kernel, hnever (by decide +kernel)⟩

end WlanControl.Link
