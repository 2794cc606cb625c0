import WlanControl.Host.Poll
import WlanControl.Proofs.LinkAccount
import WlanControl.Proofs.TablePlacement

namespace WlanControl

open Discovery (Observation Table)
open WlanControl.Frame (BeaconInfo Header Received)

/-!
# The link layer — the entry of its access point

The host finds the access point of a link through the number of a slot of the table.  The link layer
publishes it when it starts to connect and whenever it hears the access point, but the table goes on
taking in observations of others.  One that finds no room evicts the oldest entry, which may be the
one of the link.

* `Discovery.Table.Shows` — a slot with an entry of an access point, with `shows_record` for what an
  observation does to it;
* `Link.Placed`, `Link.Anchored` — a target goes together with some modes, and the slot that is
  published has an entry of it;
* `Link.Kept`, `Link.Displaces` — what a step leaves as it was, and the only one that does not;
* `Link.anchored_run` — the slot that is published has an entry of the target after every run in
  which it was not displaced;
* `Link.mistaken_in_crowd` — a link whose entry was.

Main statements: `Link.connectedAccessPoint_of_target`, the host finds the access point that the
link is to, unless its entry was displaced since its slot was published, and `Link.exists_mistaken`,
as soon as it is displaced the host finds the other one.
-/

namespace Discovery

namespace Table

variable {t : Table} {i k : Nat} {b : MacAddress} {o : Observation} {seized : Nat → Bool}
  {r : Record}

/-! ### Slots with the entry of an access point -/

/-- Slot `i` has an entry of the access point, which is reported unless somebody uses the slot. -/
def Shows (b : MacAddress) (i : Nat) (t : Table) : Prop :=
  ∃ slot, t.slots[i]? = some slot ∧ slot.bssid? = some b ∧ slot.stale = false

theorem shows_of_get (h : t.get i = .ok r) : t.Shows r.bssid i := by
  obtain ⟨slot, hslot, hentry, -, hstale⟩ := get_eq_ok h
  refine ⟨slot, hslot, ?_, hstale⟩
  rw [Slot.bssid?, hentry, Option.map_some]

/-- What is read of the slot is of the access point. -/
theorem Shows.bssid_of_get (h : t.Shows b i) (hget : t.get i = .ok r) : r.bssid = b := by
  obtain ⟨slot, hslot, hbssid, -⟩ := h
  obtain ⟨read, hread, hentry, -⟩ := get_eq_ok hget
  obtain rfl : slot = read := Option.some.inj (hslot.symm.trans hread)
  rw [Slot.bssid?, hentry, Option.map_some] at hbssid
  exact Option.some.inj hbssid

theorem shows_of_findBssid? (h : t.findBssid? b = some (i, r)) : t.Shows b i := by
  have hget := get_of_mem_entries (List.mem_of_find?_eq_some h)
  have hbssid : r.bssid = b := by simpa using List.find?_some h
  rw [← hbssid]
  exact shows_of_get hget

/-- Looking at the slots leaves an entry alone that is reported. -/
theorem Shows.surveyed (h : t.Shows b i) (o : Observation) : (t.surveyed o).Shows b i := by
  -- Only slots that are not reported any more are freed on the way.
  obtain ⟨slot, hslot, hbssid, hstale⟩ := h
  rcases getElem?_surveyed (o := o) hslot with hsame | ⟨-, hpurged⟩
  · exact ⟨slot, hsame, hbssid, hstale⟩
  · rw [Slot.purge_of_fresh hstale] at hpurged
    exact ⟨slot, hpurged, hbssid, hstale⟩

theorem Shows.modify_of_ne (h : t.Shows b i) (hk : k ≠ i) (f : Slot → Slot) :
    (t.modify k f).Shows b i := by
  obtain ⟨slot, hslot, hentry⟩ := h
  refine ⟨slot, ?_, hentry⟩
  rw [modify, List.getElem?_modify, hslot]
  simp [hk]

/-- An observation leaves an entry that is reported in its slot, or evicts it. -/
theorem shows_record (h : t.Shows b i) (o : Observation) (seized : Nat → Bool) :
    (t.record o seized).1.Shows b i ∨ t.Evicts o i ∧ (t.record o seized).2 = .ok i := by
  have hseen := h.surveyed o
  have hrecorded := recorded_record o seized t
  generalize t.record o seized = result at hrecorded ⊢
  cases hrecorded with
  | refused e => exact .inl hseen
  | updated k hknown =>
    left
    by_cases hk : k = i
    · subst hk
      obtain ⟨slot, hslot, hbssid, hstale⟩ := hseen
      rw [bssid?, hslot, Option.bind_some, hbssid] at hknown
      cases hknown
      refine ⟨slot.write o true, ?_, Slot.bssid?_write_known hbssid, hstale⟩
      rw [modify, List.getElem?_modify, hslot]
      simp
    · exact hseen.modify_of_ne hk _
  | created k hpurged hnew =>
    by_cases hk : k = i
    · -- The slot is not free, so that it was the oldest.
      subst hk
      obtain ⟨slot, hslot, hbssid, hstale⟩ := h
      obtain ⟨r, hentry, -⟩ := Option.map_eq_some_iff.mp hbssid
      rw [← Slot.purge_of_fresh hstale] at hentry
      exact .inr ⟨evicts_of_newIn hnew hslot hentry, rfl⟩
    · exact .inl (hseen.modify_of_ne hk _)

end Table

end Discovery

namespace Link

variable {σ : Type} {l l' l₁ l₂ l₃ : Link σ} (env : Surroundings σ)

/-! ### The target and its slot -/

/-- A link layer has a target only in a mode that goes together with one. -/
def Placed (l : Link σ) : Prop := l.machine.target ≠ none → l.machine.mode.hasTarget = true

/-- The slot that is published has an entry of the target. -/
def Anchored (l : Link σ) : Prop := ∀ target i, l.machine.target = some target →
  l.shared.status.apSlot = some i → l.shared.accessPoints.Shows target.bssid i

/-- From one link to the other the target and its slot stayed, and so did an entry in the slot. -/
structure Kept (l l' : Link σ) : Prop where
  target_eq : l'.machine.target = l.machine.target
  apSlot_eq : l'.shared.status.apSlot = l.shared.status.apSlot
  shows : ∀ i b, l.shared.status.apSlot = some i → l.shared.accessPoints.Shows b i →
    l'.shared.accessPoints.Shows b i

namespace Kept

theorem refl (l : Link σ) : Kept l l := ⟨rfl, rfl, fun _ _ _ h => h⟩

theorem trans (h : Kept l₁ l₂) (h' : Kept l₂ l₃) : Kept l₁ l₃ where
  target_eq := h'.target_eq.trans h.target_eq
  apSlot_eq := h'.apSlot_eq.trans h.apSlot_eq
  shows := fun i b hi hb => h'.shows i b (h.apSlot_eq.trans hi) (h.shows i b hi hb)

theorem anchored (h : Kept l l') (ha : l.Anchored) : l'.Anchored := by
  intro target i htarget hi
  rw [h.target_eq] at htarget
  rw [h.apSlot_eq] at hi
  exact h.shows i _ hi (ha target i htarget hi)

end Kept

theorem kept_of_course_eq (h : l'.course = l.course) : Kept l l' where
  target_eq := congrArg Course.target h
  apSlot_eq := congrArg Course.apSlot h
  shows := fun i b _ hb => by
    have htable : l'.shared.accessPoints = l.shared.accessPoints := congrArg Course.accessPoints h
    rw [htable]
    exact hb

/-- Without a target there is no slot to speak of. -/
theorem anchored_of_none (h : l.machine.target = none) : l.Anchored := by
  intro target i htarget
  rw [h] at htarget
  cases htarget

theorem Placed.target_eq_none (h : l.Placed) (hmode : l.machine.mode.hasTarget = false) :
    l.machine.target = none := by
  by_contra hne
  rw [h hne] at hmode
  cases hmode

theorem placed_of_none (h : l.machine.target = none) : l.Placed := fun hne => absurd h hne

theorem Quiet.target_eq (h : Quiet l l') : l'.machine.target = l.machine.target := by
  rw [h.machine_eq]

/-- A turn of an attempt does not leave the modes that go together with a target. -/
theorem Stage.Turns.hasTarget {s s' : Stage} (h : Stage.Turns s s') :
    s'.mode = s.mode ∨ s'.mode.hasTarget = true := by
  cases h with
  | stays | retried | challenged | authenticated | associated => exact .inl rfl
  | admitted | secured | deassociated | restarted | failed => exact .inr rfl

theorem Placed.of_turns (h : l.Placed) (hturns : Stage.Turns l.stage l'.stage)
    (htarget : l'.machine.target = l.machine.target) : l'.Placed := by
  intro hne
  rw [htarget] at hne
  rcases hturns.hasTarget with hsame | hmode
  · exact (congrArg Mode.hasTarget hsame).trans (h hne)
  · exact hmode

/-! ### Commands -/

/-- The slot in which the host finds the access point is the one that is published. -/
theorem anchored_startConnecting (target : ConnectTarget) (l : Link σ) :
    (l.startConnecting env target).Anchored := by
  intro other i htarget hi
  have hcourse := course_startConnecting env target l
  obtain rfl : target = other :=
    Option.some.inj ((congrArg Course.target hcourse).symm.trans htarget)
  have htable : (l.startConnecting env target).shared.accessPoints = l.shared.accessPoints :=
    congrArg Course.accessPoints hcourse
  have hfound : (l.shared.accessPoints.findBssid? target.bssid).map Prod.fst = some i :=
    (congrArg Course.apSlot hcourse).symm.trans hi
  obtain ⟨⟨k, r⟩, hentry, rfl⟩ := Option.map_eq_some_iff.mp hfound
  rw [htable]
  exact Table.shows_of_findBssid? hentry

/-- A mode that was left has no target. -/
theorem target_leaveMode (h : l.Placed) : (l.leaveMode env).machine.target = none := by
  show (l.leaveMode env).course.target = none
  unfold leaveMode
  rw [course_setMode]
  split
  · rfl
  · rfl
  · rfl
  · rename_i hmode
    obtain ⟨ended, hquiet, hended⟩ := quiet_endSession env l
    rw [hended]
    show ended.machine.target = none
    rw [hquiet.target_eq]
    exact h.target_eq_none (by rw [hmode]; rfl)
  · rename_i hmode
    exact h.target_eq_none (by rw [hmode]; rfl)
  · rename_i hmode
    exact h.target_eq_none (by rw [hmode]; rfl)
  · rename_i hmode
    exact h.target_eq_none (by rw [hmode]; rfl)

theorem target_startHosting (parameters : HostParameters) (l : Link σ) :
    (l.startHosting env parameters).machine.target = l.machine.target := by
  unfold startHosting
  rw [machine_setMode]
  simp only
  split <;> rfl

/-- A command leaves a link layer without a target, or with a new one, or it changes nothing. -/
theorem placed_obey (h : l.Placed) (meanwhile : Meanwhile) (command : Command) :
    (l.obey env meanwhile command).Placed ∧
      ((l.obey env meanwhile command).Anchored ∨ Kept l (l.obey env meanwhile command)) := by
  have hleft := target_leaveMode env h
  have hnone {m : Link σ} (htarget : m.machine.target = none) :
      m.Placed ∧ (m.Anchored ∨ Kept l m) :=
    ⟨placed_of_none htarget, .inl (anchored_of_none htarget)⟩
  have hsame : l.Placed ∧ (l.Anchored ∨ Kept l l) := ⟨h, .inr (.refl l)⟩
  unfold obey
  split
  · rename_i hmode
    have htarget := h.target_eq_none (by rw [hmode]; rfl)
    cases command with
    | enable => exact hnone (by rw [machine_setMode]; exact htarget)
    | powerOff | stop | scan | connect | host => exact hsame
  · cases command with
    | enable => exact hsame
    | powerOff => exact hnone (by rw [machine_setMode]; exact hleft)
    | stop => exact hnone hleft
    | scan => exact (hnone ((advances_startScan env _).target_eq.trans hleft) :)
    | connect target =>
      refine ⟨fun _ => ?_, .inl (anchored_startConnecting env target _)⟩
      show ((l.leaveMode env).startConnecting env target).stage.mode.hasTarget = true
      rw [stage_startConnecting]
      rfl
    | host parameters =>
      have hpaused : ((l.leaveMode env).pause meanwhile 0).machine.target = none := hleft
      exact (hnone ((target_startHosting env parameters _).trans hpaused) :)

theorem placed_serveCommand (h : l.Placed) (meanwhile : Meanwhile) :
    (l.serveCommand env meanwhile).Placed ∧
      ((l.serveCommand env meanwhile).Anchored ∨ Kept l (l.serveCommand env meanwhile)) := by
  cases htake : l.shared.commands.take.2 with
  | none =>
    rw [serveCommand_of_none env meanwhile htake]
    exact ⟨h, .inr (.refl l)⟩
  | some posted =>
    obtain ⟨version, command⟩ := posted
    have htaken : (l.taken version command).Placed := h
    have hfirst : Kept l (l.taken version command) := ⟨rfl, rfl, fun _ _ _ hb => hb⟩
    obtain ⟨hplaced, hanchored⟩ := placed_obey env htaken meanwhile command
    rw [serveCommand_of_some env meanwhile htake]
    refine ⟨hplaced, hanchored.imp_right fun hkept => hfirst.trans ?_⟩
    exact ⟨hkept.target_eq, hkept.apSlot_eq, hkept.shows⟩

/-! ### Ticks -/

/-- The entries only age in modes without a target. -/
theorem anchored_work (h : l.Placed) {meanwhile : Meanwhile} (hspares : meanwhile.SparesStatus) :
    (l.work env meanwhile).Anchored ∨ Kept l (l.work env meanwhile) := by
  by_cases htarget : l.machine.target = none
  · exact .inl (anchored_of_none ((advances_work env hspares l).target_eq.trans htarget))
  · right
    have hmode := h htarget
    refine kept_of_course_eq ?_
    unfold work
    split
    · rename_i hscanning
      rw [hscanning] at hmode
      cases hmode
    · exact course_connectingTick env l
    · exact course_connectedTick env l
    · rename_i hhosting
      rw [hhosting] at hmode
      cases hmode
    · rfl
    · rfl
    · rfl

theorem placed_tickAmid (h : l.Placed) {meanwhile : Meanwhile} (hspares : meanwhile.SparesStatus)
    (now : Nat) :
    (l.tickAmid env meanwhile now).Placed ∧
      ((l.tickAmid env meanwhile now).Anchored ∨ Kept l (l.tickAmid env meanwhile now)) := by
  have hlater : (l.atTime now).Placed := h
  have hfirst : Kept l (l.atTime now) := ⟨rfl, rfl, fun _ _ _ hb => hb⟩
  obtain ⟨hserved, hanchored⟩ := placed_serveCommand env hlater meanwhile
  rw [tickAmid_eq_work]
  generalize (l.atTime now).serveCommand env meanwhile = served at hserved hanchored ⊢
  refine ⟨hserved.of_turns (turns_work env meanwhile served)
    (advances_work env hspares served).target_eq, ?_⟩
  rcases anchored_work env hserved hspares with hworked | hworked
  · exact .inl hworked
  · rcases hanchored with hanchored | hkept
    · exact .inl (hworked.anchored hanchored)
    · exact .inr ((hfirst.trans hkept).trans hworked)

/-! ### Frames -/

/-- An observation of another access point than the target takes the slot from whose entry is in
it. -/
def Displaces (i : Nat) (l : Link σ) : Action → Prop
  | .receive octets rssi _ seized => ∃ frame info o, Received.ofOctets octets = .ok frame ∧
    observed? frame = some info ∧ ¬ l.machine.target.any (·.bssid = info.bssid) = true ∧
    Observation.ofBeacon? info rssi l.machine.channel = some o ∧
    l.shared.accessPoints.Evicts o i ∧ (l.shared.accessPoints.record o seized).2 = .ok i
  | .post _ | .host _ | .tick _ _ => False

theorem bssid_of_ofBeacon? {info : BeaconInfo} {rssi tuned : UInt8} {o : Observation}
    (h : Observation.ofBeacon? info rssi tuned = some o) : o.bssid = info.bssid := by
  unfold Observation.ofBeacon? at h
  split at h
  · cases h
  · cases h
    rfl

/-- An observation goes into the table, and the slot of the target is published. -/
theorem course_receiveBeacon {info : BeaconInfo} {rssi : UInt8} {o : Observation}
    (hobserved : Observation.ofBeacon? info rssi l.machine.channel = some o)
    (seized : Nat → Bool) : (l.receiveBeacon seized info rssi).course = { l.course with
      accessPoints := (l.shared.accessPoints.record o seized).1
      apSlot := if l.machine.target.any (·.bssid = info.bssid) then
          (l.shared.accessPoints.record o seized).2.toOption.or l.shared.status.apSlot
        else l.shared.status.apSlot } := by
  -- Without a slot the one that was published last goes on.
  have hnoted (m : Link σ) (slot : Option Nat) : (m.noteTargetObserved o slot).course =
      { m.course with apSlot := slot.or m.shared.status.apSlot } := by
    unfold noteTargetObserved
    cases slot <;> cases o.rssi <;> rfl
  unfold receiveBeacon
  rw [hobserved]
  by_cases hours : l.machine.target.any (·.bssid = info.bssid) = true
  · rw [if_pos hours]
    simp only
    cases (l.shared.accessPoints.record o seized).2 with
    | ok k => exact (congrArg course (if_pos hours)).trans (hnoted _ _)
    | error e => exact (congrArg course (if_pos hours)).trans (hnoted _ _)
  · rw [if_neg hours]
    simp only
    cases (l.shared.accessPoints.record o seized).2 with
    | ok k => exact congrArg course (if_neg hours)
    | error e => exact congrArg course (if_neg hours)

/-- A beacon of the target leads to its slot.  One of another access point leaves the slot alone
that is published, or evicts what is in there. -/
theorem anchored_receiveBeacon {info : BeaconInfo} {rssi : UInt8} {o : Observation}
    (hobserved : Observation.ofBeacon? info rssi l.machine.channel = some o)
    (seized : Nat → Bool) :
    (l.receiveBeacon seized info rssi).Anchored ∨ Kept l (l.receiveBeacon seized info rssi) ∨
      (l.receiveBeacon seized info rssi).shared.status.apSlot = l.shared.status.apSlot ∧
        ¬ l.machine.target.any (·.bssid = info.bssid) = true ∧
        ∃ i, l.shared.status.apSlot = some i ∧ l.shared.accessPoints.Evicts o i ∧
          (l.shared.accessPoints.record o seized).2 = .ok i := by
  have hcourse := course_receiveBeacon hobserved seized
  generalize l.receiveBeacon seized info rssi = heard at hcourse ⊢
  have htarget : heard.machine.target = l.machine.target := congrArg Course.target hcourse
  have htable : heard.shared.accessPoints = (l.shared.accessPoints.record o seized).1 :=
    congrArg Course.accessPoints hcourse
  have hslot : heard.shared.status.apSlot = if l.machine.target.any (·.bssid = info.bssid) then
      (l.shared.accessPoints.record o seized).2.toOption.or l.shared.status.apSlot
    else l.shared.status.apSlot := congrArg Course.apSlot hcourse
  have hkept (hsame : heard.shared.status.apSlot = l.shared.status.apSlot)
      (hspared : ∀ i, l.shared.status.apSlot = some i → ¬ (l.shared.accessPoints.Evicts o i ∧
        (l.shared.accessPoints.record o seized).2 = .ok i)) : Kept l heard := by
    refine ⟨htarget, hsame, ?_⟩
    intro i b hi hb
    rw [htable]
    exact (Table.shows_record hb o seized).resolve_right (hspared i hi)
  -- What was written of the target is published, and read back from the same slot.
  by_cases hours : l.machine.target.any (·.bssid = info.bssid) = true
  · rw [if_pos hours] at hslot
    cases hwritten : (l.shared.accessPoints.record o seized).2 with
    | ok k =>
      left
      rw [hwritten] at hslot
      intro target i htarget' hi
      obtain ⟨r, hget, hr⟩ := Table.get_of_record hwritten
      obtain rfl : k = i := Option.some.inj (hslot.symm.trans hi)
      have hbssid : target.bssid = info.bssid := by
        rw [← htarget, htarget'] at hours
        simpa using hours
      rw [htable, hbssid, ← bssid_of_ofBeacon? hobserved, ← hr]
      exact Table.shows_of_get hget
    | error e =>
      right
      left
      rw [hwritten] at hslot hkept
      exact hkept hslot fun i _ h => nomatch h.2
  · right
    rw [if_neg hours] at hslot
    by_cases hevicted : ∃ i, l.shared.status.apSlot = some i ∧ l.shared.accessPoints.Evicts o i ∧
        (l.shared.accessPoints.record o seized).2 = .ok i
    · exact .inr ⟨hslot, hours, hevicted⟩
    · exact .inl (hkept hslot fun i hi h => hevicted ⟨i, hi, h⟩)

/-- The action displaced the entry of the target, and its slot is still the one that is
published. -/
def Ousts (action : Action) (l l' : Link σ) : Prop :=
  l'.machine.target = l.machine.target ∧ l'.shared.status.apSlot = l.shared.status.apSlot ∧
    ∃ i, l.shared.status.apSlot = some i ∧ l.Displaces i action

theorem anchored_handle {octets : List UInt8} {frame : Received}
    (hread : Received.ofOctets octets = .ok frame) (seized : Nat → Bool) (rssi : UInt8)
    (now : Nat) :
    (l.handle env seized frame rssi).Anchored ∨ Kept l (l.handle env seized frame rssi) ∨
      Ousts (.receive octets rssi now seized) l (l.handle env seized frame rssi) := by
  have htarget := (advances_handle env seized frame rssi l).target_eq
  -- Only what tells of access points gets to the table.
  cases hframe : observed? frame with
  | none => exact .inr (.inl (kept_of_course_eq (course_handle env hframe seized rssi l)))
  | some info =>
    rw [handle_of_observed env hframe] at htarget ⊢
    cases hobserved : Observation.ofBeacon? info rssi l.machine.channel with
    | none =>
      have hunheard : l.receiveBeacon seized info rssi = l := by
        unfold receiveBeacon
        rw [hobserved]
      rw [hunheard]
      exact .inr (.inl (.refl l))
    | some o =>
      rcases anchored_receiveBeacon hobserved seized with
        hanchored | hkept | ⟨hslot, hother, i, hi, hevicts, hwritten⟩
      · exact .inl hanchored
      · exact .inr (.inl hkept)
      · exact .inr (.inr ⟨htarget, hslot, i, hi, frame, info, o, hread, hframe, hother,
          hobserved, hevicts, hwritten⟩)

theorem placed_receiveAmid (h : l.Placed) (seized : Nat → Bool) (octets : List UInt8)
    (rssi : UInt8) (now : Nat) :
    (l.receiveAmid env seized octets rssi now).Placed ∧
      ((l.receiveAmid env seized octets rssi now).Anchored ∨
        Kept l (l.receiveAmid env seized octets rssi now) ∨
        Ousts (.receive octets rssi now seized) l
          (l.receiveAmid env seized octets rssi now)) := by
  have hlater : (l.atTime now).Placed := h
  have hsame : Kept l (l.atTime now) := ⟨rfl, rfl, fun _ _ _ hb => hb⟩
  have hturns := turns_receiveAmid env seized octets rssi now l
  rcases receiveAmid_cases env seized octets rssi now l with hidle | ⟨-, frame, hread, hheard⟩
  · rw [hidle]
    exact ⟨hlater, .inr (.inl hsame)⟩
  · rw [hheard] at hturns ⊢
    refine ⟨h.of_turns hturns (advances_handle env seized frame rssi (l.atTime now)).target_eq, ?_⟩
    rcases anchored_handle env hread seized rssi now with hanchored | hkept | housts
    · exact .inl hanchored
    · exact .inr (.inl (hsame.trans hkept))
    · exact .inr (.inr housts)

/-! ### Runs -/

/-- Whatever the host does, an entry that is reported stays in its slot. -/
def HostMove.SparesEntries (move : HostMove) : Prop :=
  ∀ s i b, s.accessPoints.Shows b i → (move.act s).accessPoints.Shows b i

/-- What the host does in between the ticks leaves the entries alone. -/
def Action.SparesEntries : Action → Prop
  | .host move => move.SparesEntries
  | .post _ | .tick _ _ | .receive _ _ _ _ => True

/-- No call of the host changes an entry. -/
theorem sparesEntries_calling (controller : Host.Controller) (call : Host.Call) :
    (calling controller call).SparesEntries := by
  intro s i b h
  show (Host.perform call ⟨controller, s⟩).1.shared.accessPoints.Shows b i
  rw [(Host.asks_perform call ⟨controller, s⟩).shared_eq]
  exact h

/-- An action leaves the entry of the target in its slot, or the next slot has one, or it
displaces it. -/
theorem placed_step (h : l.Placed) {action : Action} (hspares : action.SparesEntries) :
    (l.step env action).Placed ∧ ((l.step env action).Anchored ∨ Kept l (l.step env action) ∨
      Ousts action l (l.step env action)) := by
  cases action with
  | post command =>
    refine ⟨h, .inr (.inl ⟨rfl, ?_, ?_⟩)⟩
    · exact congrArg Status.apSlot (SharedState.status_postCommand command l.shared)
    · intro i b _ hb
      show (l.shared.postCommand command).1.accessPoints.Shows b i
      unfold SharedState.postCommand
      split <;> exact hb
  | host move =>
    refine ⟨h, .inr (.inl ⟨rfl, ?_, fun i b _ hb => hspares l.shared i b hb⟩)⟩
    exact congrArg Status.apSlot (move.status_act l.shared)
  | tick now moves =>
    obtain ⟨hplaced, hticked⟩ := placed_tickAmid env h
      (fun step s => (moves step).status_act s) now
    exact ⟨hplaced, hticked.imp_right .inl⟩
  | receive octets rssi now seized => exact placed_receiveAmid env h seized octets rssi now

/-- In the run the entry of the target was displaced, and its slot is still the one that is
published. -/
def Ousted (actions : List Action) (l : Link σ) : Prop :=
  ∃ before action after i, actions = before ++ action :: after ∧
    (run env before l).Displaces i action ∧
    (run env before l).machine.target = (run env actions l).machine.target ∧
    (run env before l).shared.status.apSlot = some i ∧
    (run env actions l).shared.status.apSlot = some i

variable {env}

/-- The entry of the target is in its slot at the end of a run, unless it was displaced. -/
theorem anchored_run (hplaced : l.Placed) (hanchored : l.Anchored) {actions : List Action}
    (hspares : ∀ action ∈ actions, action.SparesEntries) :
    (run env actions l).Placed ∧ ((run env actions l).Anchored ∨ Ousted env actions l) := by
  -- By induction on the actions from the last one on.
  induction actions using List.reverseRecOn with
  | nil => exact ⟨hplaced, .inl hanchored⟩
  | append_singleton before action ih =>
    obtain ⟨hplaced', hbefore⟩ := ih fun a ha => hspares a (List.mem_append_left _ ha)
    have hspare := hspares action (List.mem_append_right _ (List.mem_singleton.mpr rfl))
    have hlast : run env (before ++ [action]) l = (run env before l).step env action := by
      simp [run]
    obtain ⟨hstep, hafter⟩ := placed_step env hplaced' hspare
    rw [← hlast] at hstep hafter
    refine ⟨hstep, ?_⟩
    rcases hafter with hanchored' | hkept | ⟨htarget, hslot, i, hi, hdisplaces⟩
    · exact .inl hanchored'
    · rcases hbefore with hanchored' | ⟨first, displacing, rest, i, rfl, hd, htarget, hi, hi'⟩
      · exact .inl (hkept.anchored hanchored')
      · refine .inr ⟨first, displacing, rest ++ [action], i, by simp, hd, ?_, hi, ?_⟩
        · exact htarget.trans hkept.target_eq.symm
        · exact hkept.apSlot_eq.trans hi'
    · exact .inr ⟨before, action, [], i, rfl, hdisplaces, htarget.symm, hi, hslot.trans hi⟩

theorem anchored_attach {settings : Settings} {address : MacAddress} {outside : σ}
    {s s' : SharedState} (h : attach settings address outside s = (s', .ok l)) :
    l.Placed ∧ l.Anchored := by
  obtain ⟨producer, rx, tx, rfl⟩ := attach_eq_ok h
  exact ⟨placed_of_none rfl, anchored_of_none rfl⟩

/-- The host finds an access point for a link that is up: the one that the link is to, unless its
entry was displaced since its slot was published. -/
theorem connectedAccessPoint_of_target {settings : Settings} {address : MacAddress} {outside : σ}
    {s s' : SharedState} (hattach : attach settings address outside s = (s', .ok l))
    {actions : List Action} (hspares : ∀ action ∈ actions, action.SparesEntries)
    {controller : Host.Controller} {record : Discovery.Record}
    (hrecord : Host.connectedAccessPoint? ⟨controller, (run env actions l).shared⟩ =
      some record) :
    (run env actions l).machine.mode = .connected ∧
      ∃ target, (run env actions l).machine.target = some target ∧
        (record.bssid = target.bssid ∨ Ousted env actions l) := by
  obtain ⟨hplaced, hattached⟩ := anchored_attach hattach
  obtain ⟨-, hanchored⟩ := anchored_run hplaced hattached hspares
  have hsound := sound_run env (sound_attach hattach) actions
  generalize run env actions l = final at *
  unfold Host.connectedAccessPoint? at hrecord
  split at hrecord
  · rename_i hconnected
    have hmode : final.machine.mode = .connected := hsound.mode_eq.symm.trans hconnected
    split at hrecord
    · rename_i i hi
      obtain ⟨target, htarget, -⟩ := hsound.wanted (congrArg Mode.hasLink hmode)
      refine ⟨hmode, target, htarget, hanchored.imp_left fun hanchored => ?_⟩
      simp only [Host.accessPoint] at hrecord
      cases hget : final.shared.accessPoints.get i with
      | ok read =>
        rw [hget] at hrecord
        cases hrecord
        exact (hanchored target i htarget hi).bssid_of_get hget
      | error e =>
        rw [hget] at hrecord
        cases hrecord
    · cases hrecord
  · cases hrecord

/-- Once its entry was displaced, another access point is taken for the one that the link is to. -/
theorem exists_mistaken {i : Nat} {action : Action} (hmode : l.machine.mode = .connected)
    (hpublished : l.shared.status.mode = .connected) (hi : l.shared.status.apSlot = some i)
    (hdisplaces : l.Displaces i action) (controller : Host.Controller) :
    ∃ record, Host.connectedAccessPoint? ⟨controller, (l.step env action).shared⟩ = some record ∧
      ¬ l.machine.target.any (·.bssid = record.bssid) = true := by
  cases action with
  | post | host | tick => exact hdisplaces.elim
  | receive octets rssi now seized =>
    obtain ⟨frame, info, o, hread, hframe, hother, hobserved, -, hwritten⟩ := hdisplaces
    have hheard : l.step env (.receive octets rssi now seized) =
        (l.atTime now).receiveBeacon seized info rssi := by
      have henabled : l.machine.mode ≠ .disabled := by
        rw [hmode]
        decide
      exact (receiveAmid_of_ok env henabled hread seized rssi now).trans
        (handle_of_observed env hframe seized rssi (l.atTime now))
    have hcourse := course_receiveBeacon (l := l.atTime now) hobserved seized
    have hquiet := quiet_receiveBeacon seized info rssi (l.atTime now)
    rw [hheard]
    generalize (l.atTime now).receiveBeacon seized info rssi = heard at hcourse hquiet
    have hconnected : heard.shared.status.mode = .connected := by
      rw [hquiet.status_eq]
      exact hpublished
    have htable : heard.shared.accessPoints = (l.shared.accessPoints.record o seized).1 :=
      congrArg Course.accessPoints hcourse
    have hslot : heard.shared.status.apSlot = some i :=
      ((congrArg Course.apSlot hcourse).trans (if_neg hother)).trans hi
    obtain ⟨record, hget, hbssid⟩ := Table.get_of_record hwritten
    rw [bssid_of_ofBeacon? hobserved] at hbssid
    refine ⟨record, ?_, by rw [hbssid]; exact hother⟩
    unfold Host.connectedAccessPoint? Host.accessPoint
    simp only [hconnected, if_true, hslot]
    rw [htable, hget]
    rfl

/-- An access point is heard. -/
def hearingBeacon (bssid : MacAddress) : Action :=
  heard (Frame.beacon ⟨bssid, 100, .none, .empty, 1, [0x82], none, []⟩ 0)

/-- The station gets into a network, and then hears its access point. -/
def settledActions : List Action := joiningActions ++ [hearingBeacon networkAddress]

/-- As many other access points are heard as there are slots. -/
def crowdActions : List Action :=
  (List.range Discovery.tableSize).map fun k => hearingBeacon ⟨0x02, 0, 0, 0, 0x01, UInt8.ofNat k⟩

theorem connectedAccessPoint_of_target_settled :
    ∃ s l, attach .standard stationAddress () .fresh = (s, .ok l) ∧
      let final := run (.answering .refused) settledActions l
      ∃ record, Host.connectedAccessPoint? ⟨.afterPost [] 0, final.shared⟩ = some record ∧
        final.machine.mode = .connected ∧ ∃ target, final.machine.target = some target ∧
          (record.bssid = target.bssid ∨ Ousted (.answering .refused) settledActions l) := by
  have hattach : attach .standard stationAddress () .fresh =
      ((attach .standard stationAddress () .fresh).1, .ok (fresh stationAddress)) :=
    Prod.ext rfl (attach_fresh stationAddress)
  refine ⟨_, fresh stationAddress, hattach, ?_⟩
  obtain ⟨record, hrecord⟩ := Option.isSome_iff_exists.mp
    (show (Host.connectedAccessPoint? ⟨.afterPost [] 0, (run (.answering .refused) settledActions
      (fresh stationAddress)).shared⟩).isSome = true by decide +kernel)
  have hspares : ∀ action ∈ settledActions, action.SparesEntries := by
    simp [settledActions, joiningActions, requestActions, undisturbed, admittingActions,
      hearingBeacon, heard, Action.SparesEntries]
  exact ⟨record, hrecord, connectedAccessPoint_of_target hattach hspares hrecord⟩

/-- The last one of so many other access points is taken for the one that the link is to. -/
theorem mistaken_in_crowd :
    let final := run (.answering .refused) (settledActions ++ crowdActions) (fresh stationAddress)
    final.machine.mode = .connected ∧
      final.machine.target.map ConnectTarget.bssid = some networkAddress ∧
      (Host.connectedAccessPoint? ⟨.afterPost [] 0, final.shared⟩).map Discovery.Record.bssid =
        some ⟨0x02, 0, 0, 0, 0x01, 31⟩ := by
  decide +kernel

end Link

end WlanControl
