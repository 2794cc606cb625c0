import WlanControl.Proofs.LinkAccount
import WlanControl.Proofs.LinkEntry
import WlanControl.Proofs.LinkHandlers
import WlanControl.Proofs.LinkSessions

namespace WlanControl.Link

open WlanControl.Frame (Draft)

/-!
# The link layer — what it leaves behind

A link can be left by five commands, and an attempt can fail.  Whatever happened, in a mode without
a target there is no key, no mark for encryption, no slot and no identifier left of it.

* `Tidy` — what holds in between two calls, with `tidy_step`;
* `Parts` — a command ends the link with a frame for its access point, before all else;
* `LeavesNothing` — what that means in a run.

Main statement: `leavesNothing_run`, nothing is left of a link that was ended, and its access point
was told.
-/

variable {σ : Type} {l l' : Link σ} (env : Surroundings σ)

/-- What holds in between two calls. -/
structure Tidy (l : Link σ) : Prop where
  placed : l.Placed
  clear : l.machine.target = none → l.Clear
  host_iff : l.machine.host.isSome = true ↔ l.machine.mode = .accessPoint

/-- No turn of an attempt opens a session or ends one. -/
theorem Stage.Turns.accessPoint_iff {s s' : Stage} (h : Stage.Turns s s') :
    s'.mode = .accessPoint ↔ s.mode = .accessPoint := by
  have hnone {mode : Mode} (hlink : mode.hasLink = true) : mode ≠ .accessPoint := by
    rintro rfl
    cases hlink
  cases h with
  | stays | retried | challenged | authenticated | associated => exact .rfl
  | admitted hmode => simp [hmode]
  | secured hlink | deassociated hlink | restarted hlink | failed hlink => simp [hnone hlink]

namespace Tidy

/-- In a mode without a session there are no parameters of one. -/
theorem host_eq_none (h : l.Tidy) (hmode : l.machine.mode ≠ .accessPoint) :
    l.machine.host = none := by
  cases hhost : l.machine.host with
  | none => rfl
  | some parameters => exact absurd (h.host_iff.mp (by rw [hhost]; rfl)) hmode

/-- A mode other than that of a session. -/
theorem of_host_eq_none (hplaced : l.Placed) (hclear : l.machine.target = none → l.Clear)
    (hhost : l.machine.host = none) (hmode : l.machine.mode ≠ .accessPoint) : l.Tidy where
  placed := hplaced
  clear := hclear
  host_iff := by simp [hhost, hmode]

/-- What ticks and frames make of an attempt. -/
theorem of_advances (h : l.Tidy) (hadvances : Advances l l')
    (hturns : Stage.Turns l.stage l'.stage) : l'.Tidy where
  placed := h.placed.of_turns hturns hadvances.target_eq
  clear := fun hnone =>
    have hnone' : l.machine.target = none := hadvances.target_eq.symm.trans hnone
    hadvances.clear hnone' (h.clear hnone')
  host_iff := by
    rw [hadvances.host_eq]
    exact h.host_iff.trans hturns.accessPoint_iff.symm

end Tidy

/-! ### Commands -/

theorem clear_endLink (l : Link σ) : (l.endLink env).Clear where
  encrypting_eq := rfl
  apSlot_eq := rfl
  aid_eq := rfl
  key_eq := by
    intro key hkey
    cases hkey
    rfl

theorem clear_leaveMode (h : l.Tidy) : (l.leaveMode env).Clear := by
  have hidle (hmode : l.machine.mode.hasTarget = false) : l.Clear :=
    h.clear (h.placed.target_eq_none hmode)
  unfold leaveMode
  refine clear_setMode .normal (clear_setAuthLevel .disconnected ?_)
  split
  · exact clear_endLink env _
  · exact clear_endLink env _
  · exact clear_endLink env _
  · rename_i hmode
    obtain ⟨ended, htends, hended⟩ := tends_endSession env l
    have hclear := htends.clear (hidle (by rw [hmode]; rfl))
    rw [hended]
    exact ⟨hclear.encrypting_eq, hclear.apSlot_eq, hclear.aid_eq, hclear.key_eq⟩
  · rename_i hmode
    exact hidle (by rw [hmode]; rfl)
  · rename_i hmode
    exact hidle (by rw [hmode]; rfl)
  · rename_i hmode
    exact hidle (by rw [hmode]; rfl)

theorem host_leaveMode (h : l.Tidy) : (l.leaveMode env).machine.host = none := by
  have hnone (hmode : l.machine.mode ≠ .accessPoint) : l.machine.host = none :=
    h.host_eq_none hmode
  have hleft : (l.leaveAp env).machine.host = l.machine.host := by
    rw [(transmits_leaveAp env l).machine_eq]
  unfold leaveMode
  rw [machine_setMode]
  simp only [setAuthLevel, notePublished]
  split
  · rename_i hmode
    exact hleft.trans (hnone (by rw [hmode]; decide))
  · rename_i hmode
    exact hleft.trans (hnone (by rw [hmode]; decide))
  · rename_i hmode
    exact hnone (by rw [hmode]; decide)
  · obtain ⟨ended, -, hended⟩ := tends_endSession env l
    rw [hended]
  · rename_i hmode
    exact hnone (by rw [hmode]; decide)
  · rename_i hmode
    exact hnone (by rw [hmode]; decide)
  · rename_i hmode
    exact hnone (by rw [hmode]; decide)

/-- Nothing is left of a mode that was left. -/
theorem tidy_leaveMode (h : l.Tidy) : (l.leaveMode env).Tidy := by
  refine .of_host_eq_none (placed_of_none (target_leaveMode env h.placed))
    (fun _ => clear_leaveMode env h) (host_leaveMode env h) ?_
  rw [(mode_leaveMode env l).1]
  decide

/-- Another mode without a session, for the same target if there is one. -/
theorem Tidy.of_mode (h : l.Tidy) (hadvances : Advances l l') (hnone : l.machine.target = none)
    (hmode : l.machine.mode ≠ .accessPoint) (hmode' : l'.machine.mode ≠ .accessPoint) :
    l'.Tidy := by
  have hnone' : l'.machine.target = none := hadvances.target_eq.trans hnone
  exact .of_host_eq_none (placed_of_none hnone') (fun _ => hadvances.clear hnone (h.clear hnone))
    (hadvances.host_eq.trans (h.host_eq_none hmode)) hmode'

theorem mode_setMode (mode : Mode) (l : Link σ) : (l.setMode mode).machine.mode = mode := by
  rw [machine_setMode]

theorem mode_startScan (l : Link σ) : (l.startScan env).machine.mode = .scanning := by
  unfold startScan
  rw [(transmits_sendProbeRequest env _).machine_eq, machine_setMode]

theorem tidy_startConnecting (hhost : l.machine.host = none) (target : ConnectTarget) :
    (l.startConnecting env target).Tidy := by
  have hmode : (l.startConnecting env target).machine.mode = .connecting :=
    congrArg Stage.mode (stage_startConnecting env target l)
  have htarget : (l.startConnecting env target).machine.target = some target :=
    congrArg Course.target (course_startConnecting env target l)
  refine .of_host_eq_none (fun _ => by rw [hmode]; rfl) (fun hnone => ?_) ?_ (by rw [hmode]; decide)
  · cases htarget.symm.trans hnone
  · unfold startConnecting
    rw [(transmits_sendHandshakeFrame env _).machine_eq, machine_setMode]
    simp only [setAuthLevel, notePublished]
    split <;> exact hhost

theorem tidy_startHosting (h : l.Clear) (hnone : l.machine.target = none)
    (parameters : HostParameters) : (l.startHosting env parameters).Tidy := by
  obtain ⟨hmode, hhost⟩ := host_startHosting env parameters l
  refine ⟨placed_of_none ((target_startHosting env parameters l).trans hnone), fun _ => ?_, ?_⟩
  · unfold startHosting
    refine clear_setMode .accessPoint (clear_setAuthLevel .disconnected ?_)
    simp only
    split <;> exact ⟨h.encrypting_eq, h.apSlot_eq, h.aid_eq, h.key_eq⟩
  · simp [hmode, hhost]

theorem tidy_obey (h : l.Tidy) {meanwhile : Meanwhile} (hspares : meanwhile.SparesStatus)
    (command : Command) : (l.obey env meanwhile command).Tidy := by
  have hleft := tidy_leaveMode env h
  have hnone := target_leaveMode env h.placed
  have hnormal : (l.leaveMode env).machine.mode ≠ .accessPoint := by
    rw [(mode_leaveMode env l).1]
    decide
  unfold obey
  split
  · rename_i hdisabled
    cases command with
    | enable =>
      refine h.of_mode (advances_setMode .normal l) ?_ (by rw [hdisabled]; decide)
        (by rw [mode_setMode]; decide)
      exact h.placed.target_eq_none (by rw [hdisabled]; rfl)
    | powerOff | stop | scan | connect | host => exact h
  · cases command with
    | enable => exact h
    | powerOff =>
      exact hleft.of_mode (advances_setMode .disabled _) hnone hnormal
        (by rw [mode_setMode]; decide)
    | stop => exact hleft
    | scan =>
      exact hleft.of_mode (advances_startScan env _) hnone hnormal
        (by rw [mode_startScan]; decide)
    | connect target => exact tidy_startConnecting env (host_leaveMode env h) target
    | host parameters =>
      have hpaused := hleft.of_advances (advances_pause hspares 0 _) (.stays _)
      exact tidy_startHosting env (hpaused.clear hnone) hnone parameters

theorem tidy_serveCommand (h : l.Tidy) {meanwhile : Meanwhile} (hspares : meanwhile.SparesStatus) :
    (l.serveCommand env meanwhile).Tidy := by
  cases htake : l.shared.commands.take.2 with
  | none =>
    rw [serveCommand_of_none env meanwhile htake]
    exact h
  | some posted =>
    obtain ⟨version, command⟩ := posted
    have htaken : (l.taken version command).Tidy := by
      refine ⟨h.placed, fun hnone => ?_, h.host_iff⟩
      have hclear := h.clear hnone
      exact ⟨hclear.encrypting_eq, hclear.apSlot_eq, hclear.aid_eq, hclear.key_eq⟩
    have hobeyed := tidy_obey env htaken hspares command
    rw [serveCommand_of_some env meanwhile htake]
    refine ⟨hobeyed.placed, fun hnone => ?_, hobeyed.host_iff⟩
    have hclear := hobeyed.clear hnone
    exact ⟨hclear.encrypting_eq, hclear.apSlot_eq, hclear.aid_eq, hclear.key_eq⟩

/-! ### Saying goodbye -/

/-- A station that the access point knows tells it that it leaves. -/
theorem log_leaveAp {target : ConnectTarget} (hlevel : l.machine.authLevel ≠ .disconnected)
    (htarget : l.machine.target = some target) : ∃ frame accepted,
      Draft.Reads (.deauthentication target.bssid l.machine.address target.bssid .leaving) frame ∧
        (l.leaveAp env).log = .sent frame accepted :: l.log := by
  have hsendable := Draft.isSendable_deauthentication target.bssid l.machine.address target.bssid
    (by rfl : _ = Frame.ReasonCode.leaving)
  unfold leaveAp
  rw [if_neg hlevel, htarget]
  exact log_send_of_isSendable env hsendable l

theorem log_suffix_leaveMode (hlink : l.machine.mode.hasLink = true) :
    (l.leaveAp env).log <:+ (l.leaveMode env).log := by
  have hended : (l.leaveAp env).log <:+ ((l.leaveAp env).endLink env).log := ⟨[_, _], rfl⟩
  unfold leaveMode
  refine List.IsSuffix.trans ?_ (advances_setMode .normal _).log_suffix
  refine List.IsSuffix.trans ?_ (advances_setAuthLevel .disconnected _).log_suffix
  split
  · exact hended
  · exact hended
  all_goals
    rename_i hmode
    rw [hmode] at hlink
    cases hlink

/-- Whatever handlers do, the log only grows. -/
theorem keptByHandlers_log_suffix : KeptByHandlers env fun l l' : Link σ => l.log <:+ l'.log where
  refl l := List.suffix_refl l.log
  trans := List.IsSuffix.trans
  arranges h := by
    obtain ⟨events, hlog, -⟩ := h.log_eq
    exact ⟨events, hlog.symm⟩
  send _ l := by
    obtain ⟨events, hlog, -⟩ := (transmits_send env _ l).log_eq
    exact ⟨events, hlog.symm⟩

/-- Whatever a command is for, the current mode is left before. -/
theorem log_suffix_obey (meanwhile : Meanwhile) (henabled : l.machine.mode ≠ .disabled)
    {command : Command} (hcommand : command ≠ .enable) :
    (l.leaveMode env).log <:+ (l.obey env meanwhile command).log := by
  unfold obey
  rw [if_neg henabled]
  cases command with
  | enable => exact absurd rfl hcommand
  | powerOff => exact (advances_setMode .disabled _).log_suffix
  | stop => exact List.suffix_refl _
  | scan => exact (keptByHandlers_log_suffix env).startScan _
  | connect target => exact (keptByHandlers_log_suffix env).startConnecting target _
  | host parameters =>
    exact (keptByHandlers_log_suffix env).startHosting parameters
      ((l.leaveMode env).pause meanwhile 0)

/-- The access point is told before a command ends the link to it, and before all else. -/
def TellsFirst (env : Surroundings σ) (l : Link σ) : Prop :=
  ∀ version command now moves, l.machine.mode.hasLink = true →
    l.machine.authLevel ≠ .disconnected →
    l.shared.commands.take.2 = some (version, command) → command ≠ .enable →
    ∃ target frame accepted later, l.machine.target = some target ∧
      Draft.Reads (.deauthentication target.bssid l.machine.address target.bssid .leaving) frame ∧
      (l.step env (.tick now moves)).log =
        later ++ .sent frame accepted :: .commanded version command :: l.log

theorem tellsFirst_of_sound (h : l.keying.Sound) : l.TellsFirst env := by
  intro version command now moves hlink hlevel htake hcommand
  obtain ⟨target, htarget, -⟩ := h.wanted hlink
  let meanwhile : Meanwhile := fun step => (moves step).act
  have hspares : meanwhile.SparesStatus := fun step s => (moves step).status_act s
  have henabled : l.machine.mode ≠ .disabled := by
    intro hmode
    rw [hmode] at hlink
    cases hlink
  -- The log only grows, from the frame to the end of the tick.
  have htold (m : Link σ) (hmachine : m.machine = (l.atTime now).machine) :
      ∃ frame accepted,
        Draft.Reads (.deauthentication target.bssid l.machine.address target.bssid .leaving)
          frame ∧ .sent frame accepted :: m.log <:+ (m.obey env meanwhile command).log := by
    have hmode : m.machine.mode = l.machine.mode := by rw [hmachine]; rfl
    have haddress : m.machine.address = l.machine.address := by rw [hmachine]; rfl
    obtain ⟨frame, accepted, hreads, hlog⟩ := log_leaveAp env (l := m)
      (by rw [hmachine]; exact hlevel) (by rw [hmachine]; exact htarget)
    rw [haddress] at hreads
    refine ⟨frame, accepted, hreads, ?_⟩
    rw [← hlog]
    exact (log_suffix_leaveMode env (by rw [hmode]; exact hlink)).trans
      (log_suffix_obey env meanwhile (by rw [hmode]; exact henabled) hcommand)
  obtain ⟨frame, accepted, hreads, hobeyed⟩ := htold ((l.atTime now).taken version command) rfl
  have hticked : (l.step env (.tick now moves)).log =
      (((l.atTime now).serveCommand env meanwhile).work env meanwhile).log := rfl
  rw [serveCommand_of_some env meanwhile (l := l.atTime now) htake] at hticked
  obtain ⟨later, hlater⟩ := hobeyed.trans (advances_work env hspares (acknowledge version
    (((l.atTime now).taken version command).obey env meanwhile command))).log_suffix
  exact ⟨target, frame, accepted, later, htarget, hreads, hticked.trans hlater.symm⟩

/-! ### All runs -/

theorem tidy_step (h : l.Tidy) (action : Action) : (l.step env action).Tidy := by
  have hnow {now : Nat} : (l.atTime now).Tidy :=
    h.of_advances (advances_atTime now l) (.stays _)
  cases action with
  | post command =>
    refine ⟨h.placed, fun hnone => ?_, h.host_iff⟩
    have hclear := h.clear hnone
    refine ⟨hclear.encrypting_eq, ?_, ?_, hclear.key_eq⟩
    · exact (congrArg Status.apSlot (SharedState.status_postCommand _ _)).trans hclear.apSlot_eq
    · exact (congrArg Status.aid (SharedState.status_postCommand _ _)).trans hclear.aid_eq
  | host move =>
    refine ⟨h.placed, fun hnone => ?_, h.host_iff⟩
    have hclear := h.clear hnone
    refine ⟨hclear.encrypting_eq, ?_, ?_, hclear.key_eq⟩
    · exact (congrArg Status.apSlot (move.status_act _)).trans hclear.apSlot_eq
    · exact (congrArg Status.aid (move.status_act _)).trans hclear.aid_eq
  | tick now moves =>
    have hspares : Meanwhile.SparesStatus fun step => (moves step).act :=
      fun step s => (moves step).status_act s
    show (l.tickAmid env (fun step => (moves step).act) now).Tidy
    rw [tickAmid_eq_work]
    exact (tidy_serveCommand env hnow hspares).of_advances (advances_work env hspares _)
      (turns_work env _ _)
  | receive octets rssi now seized =>
    exact h.of_advances (advances_receiveAmid env seized octets rssi now l)
      (turns_receiveAmid env seized octets rssi now l)

theorem tidy_run (h : l.Tidy) (actions : List Action) : (run env actions l).Tidy :=
  run_of_step env (P := Tidy) h (fun hl => tidy_step env hl) actions

theorem tidy_attach {settings : Settings} {address : MacAddress} {outside : σ} {s : SharedState}
    (h : attach settings address outside .fresh = (s, .ok l)) : l.Tidy := by
  obtain ⟨producer, rx, tx, rfl⟩ := attach_eq_ok h
  refine .of_host_eq_none (placed_of_none rfl) (fun _ => ⟨rfl, rfl, rfl, ?_⟩) rfl ?_
  · intro key hkey
    cases hkey
  · intro hmode
    cases hmode

/-- Nothing is left of a link or a session that was ended. -/
structure LeavesNothing (env : Surroundings σ) (l : Link σ) : Prop where
  target_eq : l.machine.mode ∈ [.disabled, .normal, .scanning, .accessPoint] →
    l.machine.target = none
  clear : l.machine.mode ∈ [.disabled, .normal, .scanning, .accessPoint] → l.Clear
  host_iff : l.machine.host.isSome = true ↔ l.machine.mode = .accessPoint
  tellsFirst : l.TellsFirst env

/-- In every run of a link layer nothing is left of a link that was ended: no target, no key, no
mark for encryption, no slot and no identifier.  There are parameters of a session just as long as
it lasts.  A command that ends a link first tells the access point. -/
theorem leavesNothing_run {settings : Settings} {address : MacAddress} {outside : σ}
    {s : SharedState} (hattach : attach settings address outside .fresh = (s, .ok l))
    (actions : List Action) : (run env actions l).LeavesNothing env := by
  have htidy := tidy_run env (tidy_attach hattach) actions
  have hnone {mode : Mode} (h : mode ∈ [.disabled, .normal, .scanning, .accessPoint]) :
      mode.hasTarget = false := by
    cases mode <;> simp_all [Mode.hasTarget]
  exact {
    target_eq := fun hmode => htidy.placed.target_eq_none (hnone hmode)
    clear := fun hmode => htidy.clear (htidy.placed.target_eq_none (hnone hmode))
    host_iff := htidy.host_iff
    tellsFirst := tellsFirst_of_sound env (sound_run env (sound_attach hattach) actions) }

/-- A link gets up and is ended by a command. -/
def stoppingActions : List Action := joiningActions ++ [.post .stop, undisturbed]

theorem leavesNothing_run_stoppingActions : ∃ s,
    attach .standard stationAddress () .fresh = (s, .ok (fresh stationAddress)) ∧
      let final := run (.answering .refused) stoppingActions (fresh stationAddress)
      final.machine.mode = .normal ∧ final.LeavesNothing (.answering .refused) := by
  have hattach : attach .standard stationAddress () .fresh =
      ((attach .standard stationAddress () .fresh).1, .ok (fresh stationAddress)) :=
    Prod.ext rfl (attach_fresh stationAddress)
  exact ⟨_, hattach, by decide +kernel, leavesNothing_run _ hattach stoppingActions⟩

end WlanControl.Link
