import WlanControl.Proofs.LinkHandlers

namespace WlanControl.Link

/-!
# The link layer — what goes through its rings

Three operations touch the rings: packets that are handed to the host, and records of the host that
are sent or thrown away.  Whatever else the link layer does leaves them alone.

* `recordsTaken` — the records of the host that were taken, to be sent;
* `Inbox`, `Outbox` — the ring to the host and the one from the host, each with the link layer's
  side of it;
* `Freight` — both of them;
* `keptByHandlers_freight` — the operations that leave the rings alone.

Main statements: `serving_keeps`, for all that commands do, and `work_keeps`, for the rest of a
tick, up to what the host does in the meantime and to the records that are sent or thrown away.
-/

variable {σ : Type} {l l' : Link σ} (env : Surroundings σ)

/-! ### Rings -/

/-- The record of the host that was taken, if that is what is logged. -/
def Event.record? : Event → Option (List UInt8)
  | .taken record => some record
  | _ => none

/-- The records of the host that were taken, oldest first. -/
def recordsTaken (log : List Event) : List (List UInt8) := (log.filterMap Event.record?).reverse

theorem recordsTaken_cons (e : Event) (log : List Event) :
    recordsTaken (e :: log) = recordsTaken log ++ e.record?.toList := by
  unfold recordsTaken
  rw [List.filterMap_cons]
  cases e.record? <;> simp

/-- Nothing else that is logged is a record. -/
theorem recordsTaken_append {events : List Event} (h : ∀ e ∈ events, e.record? = none)
    (log : List Event) : recordsTaken (events ++ log) = recordsTaken log := by
  rw [recordsTaken, List.filterMap_append, List.filterMap_eq_nil_iff.mpr h, List.nil_append]
  rfl

/-- The ring with received data and its producer. -/
structure Inbox where
  rx : Ring ringSize
  producer : Producer

/-- A record is put into the ring, if there is space for it. -/
def Inbox.push (i : Inbox) (record : List UInt8) : Inbox where
  rx := (i.rx.push record i.producer).1
  producer := (i.rx.push record i.producer).2.1

/-- The ring with records of the host, and those that were taken out of it to be sent. -/
structure Outbox where
  tx : Ring ringSize
  taken : List (List UInt8)

/-- All that goes through the rings. -/
structure Freight where
  inbox : Inbox
  outbox : Outbox

/-- The ring with received data and its producer, as a link layer has them. -/
def inbox (l : Link σ) : Inbox := ⟨l.shared.rx, l.machine.producer⟩

/-- The ring with records of the host, and those that a link layer took. -/
def outbox (l : Link σ) : Outbox := ⟨l.shared.tx, recordsTaken l.log⟩

/-- What goes through the rings of a link layer. -/
def freight (l : Link σ) : Freight := ⟨l.inbox, l.outbox⟩

/-! ### Stores and frames -/

theorem Transmits.freight_eq (h : Transmits l l') : l'.freight = l.freight := by
  obtain ⟨events, hlog, hevents⟩ := h.log_eq
  have htaken : recordsTaken l'.log = recordsTaken l.log := by
    rw [hlog, recordsTaken_append]
    intro e he
    have := hevents e he
    cases e <;> simp_all [Event.isTransmission, Event.record?]
  simp only [freight, inbox, outbox, htaken]
  rw [h.machine_eq, h.shared_eq]

theorem Arranges.freight_eq (h : Arranges l l') : l'.freight = l.freight := by
  obtain ⟨events, hlog, hevents⟩ := h.log_eq
  have htaken : recordsTaken l'.log = recordsTaken l.log := by
    rw [hlog, recordsTaken_append]
    intro e he
    have := hevents e he
    cases e <;> simp_all [Event.isArrangement, Event.record?]
  simp only [freight, inbox, outbox, htaken]
  rw [h.producer_eq, h.shared_eq]

theorem keptByHandlers_freight :
    KeptByHandlers env fun l l' : Link σ => l'.freight = l.freight :=
  keptByHandlers_of_eq env Arranges.freight_eq Transmits.freight_eq

theorem freight_connectingTick (l : Link σ) : (l.connectingTick env).freight = l.freight :=
  (keptByHandlers_freight env).keptByAttempts.connectingTick l

/-! ### Ticks -/

/-- In these modes there is a task.  In the others a tick throws the records of the host away. -/
def Mode.hasTask : Mode → Bool
  | .scanning | .connecting | .connected | .accessPoint => true
  | .disabled | .normal | .cannotConnect => false

section Session

variable {meanwhile : Meanwhile} {P : Freight → Prop}

/-- What the host keeps of the rings, acting upon a command keeps, be it for another network. -/
theorem serving_keeps (hpause : ∀ {l : Link σ} step, P l.freight →
    P (l.pause meanwhile step).freight) (h : P l.freight) :
    P (l.serveCommand env meanwhile).freight :=
  (keptByHandlers_freight env).serveCommand_keeps (P := fun m => P m.freight)
    (fun hsame hm => (congrArg P hsame).mpr hm) hpause h

/-- A command that leads to no session leaves the rings alone. -/
theorem freight_serveCommand (hmode : (l.serveCommand env meanwhile).machine.mode ≠ .accessPoint) :
    (l.serveCommand env meanwhile).freight = l.freight := by
  rw [serveCommand_eq_idle env hmode]
  exact serving_keeps env (P := (· = l.freight)) (fun _ h => h) rfl

/-- What the host keeps of the rings, all that a tick does for a session before it sends keeps. -/
theorem hosting_keeps (hpause : ∀ {l : Link σ} step, P l.freight →
    P (l.pause meanwhile step).freight) (h : P l.freight) :
    P ((((l.serveKicks env meanwhile).pause meanwhile (maxPeers + 4)).countPeers).beaconTick
      env).freight :=
  (keptByHandlers_freight env).hosting_keeps (P := fun m => P m.freight)
    (fun hsame hm => (congrArg P hsame).mpr hm) hpause (fun _ _ hm => hm) h

/-- What the host keeps of the rings, and the sending of its records too, all that a tick does after
the command keeps.  Without a task the records are thrown away. -/
theorem work_keeps (hpause : ∀ {l : Link σ} step, P l.freight → P (l.pause meanwhile step).freight)
    (hdrain : ∀ {l : Link σ}, P l.freight → P (l.drainBurst env).freight)
    (hdiscard : l.machine.mode.hasTask = false → P l.discard.freight) (h : P l.freight) :
    P (l.work env meanwhile).freight := by
  have hkept := keptByHandlers_freight env (σ := σ)
  unfold work
  split
  · rw [hkept.scanTick l]
    exact h
  · rw [freight_connectingTick]
    exact h
  · unfold connectedTick
    split
    · rw [hkept.keptByAttempts.restart l]
      exact h
    · simp only
      split
      · rw [hkept.sendNullData]
        exact hdrain h
      · exact hdrain h
  · unfold accessPointTick
    exact hdrain (hosting_keeps env hpause h)
  · rename_i hmode
    exact hdiscard (by rw [hmode]; rfl)
  · rename_i hmode
    exact hdiscard (by rw [hmode]; rfl)
  · rename_i hmode
    exact hdiscard (by rw [hmode]; rfl)

end Session

end WlanControl.Link
