import WlanControl.Proofs.LinkInbox

namespace WlanControl.Link

open WlanControl.Frame (Direction)

/-!
# The link layer — the records of its host

What the host wants to send waits in a ring.  A link that is up and a session send the records, and
a tick without a task throws them away.  Commands do neither, and neither do the ticks of a scan or
of an attempt.  What waits there when a command for another network is taken may still wait when
that network is reached.

* `Hauls` — from one state of the ring to the other records came at the end and left at the front;
* `HostMove.OnlyAppends` — the host puts records of some kind into the ring and does nothing else to
  it;
* `Rests`, `Busy` — ticks without a task, and runs without such ticks;
* `hauls_drain`, `hauls_step` — what a burst of records and any action do to the ring;
* `outbox_of_connect` — the tick that takes the command to connect leaves the ring as it is.

Main statements: `despatches_run`, records leave the ring in their order, in a run without a rest
they are all sent, and after a rest only what came later is, and `sent_to_next_network`, a record
that was there before the command goes out to the network that the command is for.
-/

variable {σ : Type} {l : Link σ} {new : List UInt8 → Prop} {kept kept' : Prop}
  {o o₁ o₂ o₃ : Outbox} (env : Surroundings σ)

/-! ### Records that come and go -/

/-- Records that are `new` came at the end of the ring, others left at its front, and some of these
were sent in the same order, all of them if they are `kept`. -/
def Hauls (new : List UInt8 → Prop) (kept : Prop) (o o' : Outbox) : Prop :=
  ∀ records, o.tx.Holds records → ∃ added gone rest sent,
    (∀ record ∈ added, new record) ∧ records ++ added = gone ++ rest ∧ o'.tx.Holds rest ∧
      o'.taken = o.taken ++ sent ∧ sent.Sublist gone ∧ (kept → sent = gone)

namespace Hauls

theorem refl (o : Outbox) : Hauls new kept o o := by
  intro records h
  exact ⟨[], [], records, [], by simp, by simp, h, by simp, .slnil, fun _ => rfl⟩

theorem trans (h : Hauls new kept o₁ o₂) (h' : Hauls new kept' o₂ o₃) :
    Hauls new (kept ∧ kept') o₁ o₃ := by
  intro records hrecords
  obtain ⟨added, gone, rest, sent, hadded, hsplit, hrest, hsent, hsub, hall⟩ := h records hrecords
  obtain ⟨added', gone', rest', sent', hadded', hsplit', hrest', hsent', hsub', hall'⟩ :=
    h' rest hrest
  refine ⟨added ++ added', gone ++ gone', rest', sent ++ sent', ?_, ?_, hrest', ?_,
    hsub.append hsub', ?_⟩
  · intro record hrecord
    rcases List.mem_append.mp hrecord with hrecord | hrecord
    · exact hadded record hrecord
    · exact hadded' record hrecord
  · calc records ++ (added ++ added')
      _ = (gone ++ rest) ++ added' := by rw [← List.append_assoc, hsplit]
      _ = gone ++ (gone' ++ rest') := by rw [List.append_assoc, hsplit']
      _ = gone ++ gone' ++ rest' := (List.append_assoc ..).symm
  · rw [hsent', hsent, List.append_assoc]
  · rintro ⟨hkept, hkept'⟩
    rw [hall hkept, hall' hkept']

theorem imp (h : Hauls new kept o₁ o₂) (himp : kept' → kept) : Hauls new kept' o₁ o₂ := by
  intro records hrecords
  obtain ⟨added, gone, rest, sent, hadded, hsplit, hrest, hsent, hsub, hall⟩ := h records hrecords
  exact ⟨added, gone, rest, sent, hadded, hsplit, hrest, hsent, hsub,
    fun hkept => hall (himp hkept)⟩

end Hauls

/-- The host puts records that are `new` into the ring, and does nothing else to it. -/
def HostMove.OnlyAppends (new : List UInt8 → Prop) (move : HostMove) : Prop :=
  ∀ s payloads, s.tx.Holds payloads →
    ∃ added, (∀ record ∈ added, new record) ∧ (move.act s).tx.Holds (payloads ++ added)

/-- Whatever the host does to the ring is putting `new` records into it. -/
def Action.OnlyAppends (new : List UInt8 → Prop) : Action → Prop
  | .host move => move.OnlyAppends new
  | .tick _ moves => ∀ step, (moves step).OnlyAppends new
  | .post _ | .receive _ _ _ _ => True

/-- What the host puts into the ring comes at its end. -/
theorem hauls_act {move : HostMove} (happends : move.OnlyAppends new) (s : SharedState)
    (taken : List (List UInt8)) : Hauls new True ⟨s.tx, taken⟩ ⟨(move.act s).tx, taken⟩ := by
  intro records h
  obtain ⟨added, hadded, hholds⟩ := happends s records h
  exact ⟨added, [], records ++ added, [], hadded, rfl, hholds, (List.append_nil _).symm, .slnil,
    fun _ => rfl⟩

theorem Hauls.act {move : HostMove} {l : Link σ} {o : Outbox} (h : Hauls new True o l.outbox)
    (happends : move.OnlyAppends new) :
    Hauls new True o ({ l with shared := move.act l.shared } : Link σ).outbox :=
  (h.trans (hauls_act happends l.shared _)).imp fun _ => ⟨trivial, trivial⟩

/-! ### Bursts -/

/-- The record is out of the ring when a frame is made of it. -/
theorem outbox_forward (bssid : MacAddress) (direction : Direction) (record : List UInt8)
    (l : Link σ) : (l.forward env bssid direction record).outbox =
      ⟨l.shared.tx, l.outbox.taken ++ [record]⟩ := by
  have hlogged : outbox { l with log := .taken record :: l.log } =
      ⟨l.shared.tx, l.outbox.taken ++ [record]⟩ := by
    unfold outbox
    rw [recordsTaken_cons]
    rfl
  unfold forward
  split
  · exact hlogged
  · exact (congrArg Freight.outbox (transmits_send env _ _).freight_eq).trans hlogged

/-- A burst sends the first records in the ring, and leaves the others there. -/
theorem hauls_drain (bssid : MacAddress) (direction : Direction) (burst : Nat) (l : Link σ) :
    Hauls new True l.outbox (l.drain env bssid direction burst).outbox := by
  -- By induction on how many records may still be sent in this tick.
  induction burst generalizing l with
  | zero => exact .refl _
  | succ burst ih =>
    intro records h
    have htx : l.shared.tx.Holds records := h
    unfold drain
    cases records with
    | nil =>
      rw [Ring.take_of_holds_nil htx]
      exact Hauls.refl l.outbox [] h
    | cons record rest =>
      obtain ⟨tx, htake, hrest⟩ := htx.take_cons
      rw [htake]
      simp only
      generalize htaken : ({ l with shared.tx := tx } : Link σ) = taken
      have hforwarded := outbox_forward env bssid direction record taken
      obtain ⟨added, gone, left, sent, hadded, hsplit, hleft, hsent, hsub, hall⟩ :=
        ih (taken.forward env bssid direction record) rest (by
          rw [hforwarded, ← htaken]
          exact hrest)
      have hbefore : taken.outbox.taken = l.outbox.taken := by
        rw [← htaken]
        rfl
      refine ⟨added, record :: gone, left, record :: sent, hadded, ?_, hleft, ?_,
        hsub.cons_cons record, fun hkept => by rw [hall hkept]⟩
      · rw [List.cons_append, hsplit, List.cons_append]
      · rw [hsent, hforwarded, hbefore, List.append_assoc]
        rfl

/-! ### Actions -/

/-- A tick finds the link layer without a task, once its command is taken. -/
def Rests : Action → Link σ → Prop
  | .tick now moves, l =>
    ((l.atTime now).serveCommand env fun step => (moves step).act).machine.mode.hasTask = false
  | .post _, _ | .host _, _ | .receive _ _ _ _, _ => False

/-- No tick finds the link layer without a task. -/
def Busy : List Action → Link σ → Prop
  | [], _ => True
  | action :: rest, l => ¬ Rests env action l ∧ Busy rest (l.step env action)

/-- The host may put records into the ring before a session is opened. -/
theorem hauls_serveCommand {moves : Nat → HostMove}
    (happends : ∀ step, (moves step).OnlyAppends new) (l : Link σ) :
    Hauls new True l.outbox (l.serveCommand env fun step => (moves step).act).outbox :=
  serving_keeps env (P := fun f => Hauls new True l.outbox f.outbox)
    (fun step h => h.act (happends step)) (.refl _)

/-- A tick without a task throws all records away, and sends none. -/
theorem outbox_of_rests {now : Nat} {moves : Nat → HostMove}
    (h : Rests env (.tick now moves) l) :
    (l.step env (.tick now moves)).outbox = ⟨l.shared.tx.discardAll, l.outbox.taken⟩ := by
  let meanwhile : Meanwhile := fun step => (moves step).act
  have hmode : ((l.atTime now).serveCommand env meanwhile).machine.mode.hasTask = false := h
  have hnone : ((l.atTime now).serveCommand env meanwhile).machine.mode ≠ .accessPoint := by
    intro hhosting
    rw [hhosting] at hmode
    cases hmode
  have hserved := congrArg Freight.outbox (freight_serveCommand env hnone)
  show (((l.atTime now).serveCommand env meanwhile).work env _).outbox = _
  generalize (l.atTime now).serveCommand env meanwhile = served at hserved hmode
  have hworked : served.work env (fun step => (moves step).act) = served.discard := by
    unfold work
    split <;> simp_all [Mode.hasTask]
  rw [hworked]
  have htx : served.shared.tx = l.shared.tx := congrArg Outbox.tx hserved
  have htaken : served.outbox.taken = l.outbox.taken := congrArg Outbox.taken hserved
  show Outbox.mk served.shared.tx.discardAll served.outbox.taken = _
  rw [htx, htaken]

/-- All records that a tick takes out of the ring are sent, unless it throws them away. -/
theorem hauls_tick {now : Nat} {moves : Nat → HostMove}
    (happends : ∀ step, (moves step).OnlyAppends new) (l : Link σ) :
    Hauls new (¬ Rests env (.tick now moves) l) l.outbox
      (l.step env (.tick now moves)).outbox := by
  by_cases hrests : Rests env (.tick now moves) l
  · rw [outbox_of_rests env hrests]
    intro records h
    exact ⟨[], records, [], [], by simp, by simp, h.discardAll, (List.append_nil _).symm,
      List.nil_sublist _, fun hbusy => absurd hrests hbusy⟩
  · have hserved := hauls_serveCommand env happends (l.atTime now)
    have hworked : Hauls new True l.outbox (l.step env (.tick now moves)).outbox := by
      refine work_keeps env (P := fun f => Hauls new True _ f.outbox)
        (fun step h => h.act (happends step)) ?_ ?_ hserved
      · intro m h
        unfold drainBurst
        split
        · exact (h.trans (hauls_drain env _ _ _ m)).imp fun _ => ⟨trivial, trivial⟩
        · exact h
      · intro hmode
        exact absurd hmode hrests
    exact hworked.imp fun _ => trivial

theorem hauls_step {action : Action} (happends : action.OnlyAppends new) (l : Link σ) :
    Hauls new (¬ Rests env action l) l.outbox (l.step env action).outbox := by
  cases action with
  | post command =>
    have hposted : (l.step env (.post command)).outbox = l.outbox := by
      show Outbox.mk (l.shared.postCommand command).1.tx _ = _
      unfold SharedState.postCommand
      split <;> rfl
    rw [hposted]
    exact .refl _
  | host move => exact (hauls_act happends l.shared _).imp fun _ => trivial
  | tick now moves => exact hauls_tick env happends l
  | receive octets rssi now seized =>
    have hheard : (l.step env (.receive octets rssi now seized)).outbox = l.outbox := by
      rcases freight_receiveAmid env seized octets rssi now l with ⟨packet, -, hfreight⟩ |
        ⟨-, hfreight⟩
      · exact congrArg Freight.outbox hfreight
      · exact congrArg Freight.outbox hfreight
    rw [hheard]
    exact .refl _

/-! ### All runs -/

/-- Records leave the ring in the order in which they came, and in a run without a rest each of them
is sent. -/
theorem hauls_run {actions : List Action} (happends : ∀ a ∈ actions, a.OnlyAppends new)
    (l : Link σ) : Hauls new (Busy env actions l) l.outbox (run env actions l).outbox := by
  induction actions generalizing l with
  | nil => exact .refl _
  | cons action rest ih =>
    have hfirst := hauls_step env (happends action (List.mem_cons_self ..)) l
    exact hfirst.trans (ih (fun a ha => happends a (List.mem_cons_of_mem _ ha))
      (l.step env action))

/-- What becomes of the records of the host in the course of some actions, if the host puts only
`new` ones into the ring. -/
structure Despatches (new : List UInt8 → Prop) (actions : List Action) (l : Link σ) : Prop where
  /-- Records leave the ring in the order in which they came, and in a run without a rest each of
  them is sent. -/
  hauls : Hauls new (Busy env actions l) l.outbox (run env actions l).outbox
  /-- After a rest only new records are sent. -/
  rested : ∀ before action after, actions = before ++ action :: after →
    Rests env action (run env before l) → ∀ records, l.shared.tx.Holds records →
      ∃ sent, recordsTaken (run env actions l).log = recordsTaken (run env before l).log ++ sent ∧
        ∀ record ∈ sent, new record
  /-- The tick that takes the command to connect leaves the ring as it is. -/
  connected : ∀ before now moves after, actions = before ++ .tick now moves :: after →
    ∀ version target,
      (run env before l).shared.commands.take.2 = some (version, .connect target) →
      (run env before l).machine.mode ≠ .disabled →
      (run env (before ++ [.tick now moves]) l).outbox = (run env before l).outbox

/-- A tick without a task sends nothing, and leaves nothing that could be sent later. -/
theorem holds_of_rests {action : Action} (hrests : Rests env action l)
    {records : List (List UInt8)} (h : l.shared.tx.Holds records) :
    (l.step env action).shared.tx.Holds [] ∧
      recordsTaken (l.step env action).log = recordsTaken l.log := by
  cases action with
  | tick now moves =>
    have houtbox := outbox_of_rests env hrests
    constructor
    · rw [show (l.step env (.tick now moves)).shared.tx = l.shared.tx.discardAll from
        congrArg Outbox.tx houtbox]
      exact h.discardAll
    · exact congrArg Outbox.taken houtbox
  | post | host | receive => exact hrests.elim

/-- The tick that takes the command to connect leaves the ring as it is. -/
theorem outbox_of_connect (henabled : l.machine.mode ≠ .disabled) {version : UInt32}
    {target : ConnectTarget} (hcommand : l.shared.commands.take.2 = some (version, .connect target))
    (now : Nat) (moves : Nat → HostMove) :
    (l.step env (.tick now moves)).outbox = l.outbox := by
  let meanwhile : Meanwhile := fun step => (moves step).act
  have hserved := serveCommand_of_some env meanwhile (l := l.atTime now) hcommand
  have hobeyed : ((l.atTime now).taken version (.connect target)).obey env meanwhile
      (.connect target) =
        (((l.atTime now).taken version (.connect target)).leaveMode env).startConnecting env
          target := by
    unfold obey
    exact if_neg henabled
  have hmode : ((l.atTime now).serveCommand env meanwhile).machine.mode = .connecting := by
    rw [hserved, hobeyed]
    exact congrArg Stage.mode (stage_startConnecting env target _)
  have hworked : (l.step env (.tick now moves)) =
      ((l.atTime now).serveCommand env meanwhile).connectingTick env := by
    show ((l.atTime now).serveCommand env meanwhile).work env _ = _
    unfold work
    rw [hmode]
  have hkept : ((l.atTime now).serveCommand env meanwhile).freight = l.freight :=
    freight_serveCommand env (l := l.atTime now) (by rw [hmode]; decide)
  rw [hworked]
  exact congrArg Freight.outbox ((freight_connectingTick env _).trans hkept)

theorem run_append (before after : List Action) (l : Link σ) :
    run env (before ++ after) l = run env after (run env before l) :=
  List.foldl_append ..

/-- In every run the records of the host leave the ring in their order.  They are all sent, be it to
another network than they were meant for, unless there is a rest, after which none of them is. -/
theorem despatches_run {actions : List Action} (happends : ∀ a ∈ actions, a.OnlyAppends new)
    (l : Link σ) : Despatches env new actions l where
  hauls := hauls_run env happends l
  rested := by
    rintro before action after rfl hrests records h
    have hbefore : ∀ a ∈ before, a.OnlyAppends new := fun a ha => happends a (by simp [ha])
    have hafter : ∀ a ∈ after, a.OnlyAppends new := fun a ha => happends a (by simp [ha])
    obtain ⟨-, -, left, -, -, -, hleft, -⟩ := hauls_run env hbefore l records h
    obtain ⟨hnone, htaken⟩ := holds_of_rests env hrests hleft
    obtain ⟨added, gone, rest, sent, hadded, hsplit, -, hsent, hsub, -⟩ :=
      hauls_run env hafter ((run env before l).step env action) [] hnone
    refine ⟨sent, ?_, ?_⟩
    · rw [run_append]
      exact hsent.trans (congrArg (· ++ sent) htaken)
    · intro record hrecord
      refine hadded record ?_
      rw [show added = gone ++ rest from hsplit]
      exact List.mem_append_left _ (hsub.subset hrecord)
  connected := by
    rintro before now moves after - version target hcommand henabled
    rw [run_append]
    exact outbox_of_connect env henabled hcommand now moves

/-! ### A record for another network -/

/-- A record of the host that asks for nothing but to be sent. -/
def strayPacket : Packet := ⟨⟨2, 0, 0, 0, 0, 9⟩, stationAddress, 0x0800, [0x45]⟩

theorem onlyAppends_pushing (packet : Packet) :
    (pushing packet).OnlyAppends (· = packet.octets) := by
  intro s payloads h
  cases hattached : s.tx.producerAttached with
  | true =>
    have hact : (pushing packet).act s = s := by
      simp [pushing, Ring.attachProducer, hattached]
    exact ⟨[], by simp, by rw [hact, List.append_nil]; exact h⟩
  | false =>
    have hact : ((pushing packet).act s).tx =
        (({ s.tx with producerAttached := true } : Ring ringSize).push packet.octets ⟨0⟩).1 := by
      simp [pushing, Ring.attachProducer, hattached]
    have hholds : ({ s.tx with producerAttached := true } : Ring ringSize).Holds payloads := h
    rw [hact]
    rcases hholds.push_cases ⟨by decide, by decide⟩ packet.octets ⟨0⟩ with hpushed | hdropped
    · exact ⟨[packet.octets], by simp, hpushed⟩
    · exact ⟨[], by simp, by rw [List.append_nil]; exact hdropped⟩

theorem onlyAppends_idle : HostMove.idle.OnlyAppends new := by
  intro s payloads h
  exact ⟨[], by simp, by rw [List.append_nil]; exact h⟩

/-- The host puts a record into the ring of a radio without a task, which rests before it is told to
connect. -/
def restingActions : List Action :=
  .host (pushing strayPacket) :: undisturbed :: .post (.connect (network .plain)) :: undisturbed ::
    admittingActions ++ [undisturbed]

/-- The radio is enabled, and rests once. -/
def enabledStation : Link Unit :=
  run (.answering .refused) [.post .enable, undisturbed] (fresh stationAddress)

theorem despatches_run_restingActions :
    (∀ a ∈ restingActions, a.OnlyAppends (· = strayPacket.octets)) ∧
      (run (.answering .refused) restingActions enabledStation).machine.mode = .connected ∧
      recordsTaken (run (.answering .refused) restingActions enabledStation).log = [] ∧
      Despatches (.answering .refused) (· = strayPacket.octets) restingActions enabledStation := by
  have happends : ∀ a ∈ restingActions, a.OnlyAppends (· = strayPacket.octets) := by
    simp [restingActions, admittingActions, undisturbed, heard, Action.OnlyAppends,
      onlyAppends_pushing, onlyAppends_idle]
  exact ⟨happends, by decide +kernel, by decide +kernel, despatches_run _ happends enabledStation⟩

/-- The same, but that the radio does not rest before it takes the command. -/
def strayingActions : List Action :=
  .post (.connect (network .plain)) :: .host (pushing strayPacket) :: undisturbed ::
    admittingActions ++ [undisturbed]

/-- A record waits in the ring while the radio has no task.  It is still there when the command to
connect is taken, and then goes out to the network that the command is for. -/
theorem sent_to_next_network :
    let commanded := run (.answering .refused) (strayingActions.take 2) enabledStation
    let final := run (.answering .refused) (strayingActions.drop 2) commanded
    commanded.machine.mode = .normal ∧ commanded.shared.tx.Holds [strayPacket.octets] ∧
      commanded.shared.commands.take.2 = some (2, .connect (network .plain)) ∧
      final.machine.mode = .connected ∧
      (forwarded final.log).map (fun sent => (published? sent.2, wanted? sent.2)) =
        [(some (.connected, .associated), some (network .plain))] ∧
      (forwarded final.log).map (fun sent => Frame.Received.ofOctets sent.1) =
        [.ok (.data (Frame.dataHeader .toDs networkAddress strayPacket.destination stationAddress 2
          false) (Frame.llcSnap ++ bigEndian16 strayPacket.type ++ strayPacket.payload))] := by
  have hempty : (enabledStation.step (.answering .refused)
      (.post (.connect (network .plain)))).shared.tx.Unused :=
    ⟨by decide +kernel, by decide +kernel⟩
  have hroom : ∃ g, (enabledStation.step (.answering .refused)
      (.post (.connect (network .plain)))).shared.tx.reserve strayPacket.octets.length = .ok g :=
    hempty.room ⟨by decide, by decide⟩ (by decide)
  have hholds := holds_pushing (by decide +kernel) (hempty.holds ⟨by decide, by decide⟩) hroom
  exact ⟨by decide +kernel, hholds, by decide +kernel, by decide +kernel, by decide +kernel,
    by decide +kernel⟩

end WlanControl.Link
