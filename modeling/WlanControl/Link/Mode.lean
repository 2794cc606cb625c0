namespace WlanControl.Link

/-!
# The state of the link, as the host sees it

* `Mode` — what the radio does;
* `AuthLevel` — how far the handshake with an access point has come;
* `LinkError` — why a connection attempt failed.

In shared memory each is a number.  `number` and `ofNumber?` lead there and back
(`ofNumber?_number`).
-/

/-- What the radio does. -/
inductive Mode
  | disabled
  /-- Enabled, without a task. -/
  | normal
  | scanning
  | connecting
  | connected
  /-- The last connection attempt has failed. -/
  | cannotConnect
  /-- Hosting a session. -/
  | accessPoint
deriving DecidableEq, Repr

namespace Mode

instance : Inhabited Mode := ⟨.disabled⟩

/-- The number of a mode. -/
def number : Mode → UInt8
  | .disabled => 0
  | .normal => 1
  | .scanning => 2
  | .connecting => 3
  | .connected => 4
  | .cannotConnect => 5
  | .accessPoint => 6

/-- The mode with a number. -/
def ofNumber? : UInt8 → Option Mode
  | 0 => some .disabled
  | 1 => some .normal
  | 2 => some .scanning
  | 3 => some .connecting
  | 4 => some .connected
  | 5 => some .cannotConnect
  | 6 => some .accessPoint
  | _ => none

/-- Whether the mode goes together with an association to an access point. -/
def hasLink : Mode → Bool
  | .connecting | .connected => true
  | _ => false

@[simp] theorem ofNumber?_number (m : Mode) : ofNumber? m.number = some m := by cases m <;> rfl

end Mode

/-- How far the handshake with an access point has come. -/
inductive AuthLevel
  | disconnected
  | authenticated
  | associated
  /-- The access point ended the association.  The handshake starts over on the next tick. -/
  | deassociated
  /-- The handshake was given up. -/
  | error
deriving DecidableEq, Repr

namespace AuthLevel

instance : Inhabited AuthLevel := ⟨.disconnected⟩

/-- The number of a level. -/
def number : AuthLevel → UInt8
  | .disconnected => 0
  | .authenticated => 1
  | .associated => 2
  | .deassociated => 3
  | .error => 4

/-- The level with a number. -/
def ofNumber? : UInt8 → Option AuthLevel
  | 0 => some .disconnected
  | 1 => some .authenticated
  | 2 => some .associated
  | 3 => some .deassociated
  | 4 => some .error
  | _ => none

@[simp] theorem ofNumber?_number (l : AuthLevel) : ofNumber? l.number = some l := by
  cases l <;> rfl

end AuthLevel

/-- Why a connection attempt failed. -/
inductive LinkError
  /-- No answer came, however often a frame was sent. -/
  | retryBudgetExhausted
  | authenticationRejected
  | associationRejected
  | keyExchangeFailed
deriving DecidableEq, Repr

namespace LinkError

instance : Inhabited LinkError := ⟨.retryBudgetExhausted⟩

/-- The number of an error.  Zero is none of them. -/
def number : LinkError → UInt8
  | .retryBudgetExhausted => 1
  | .authenticationRejected => 2
  | .associationRejected => 3
  | .keyExchangeFailed => 4

/-- The error with a number. -/
def ofNumber? : UInt8 → Option LinkError
  | 1 => some .retryBudgetExhausted
  | 2 => some .authenticationRejected
  | 3 => some .associationRejected
  | 4 => some .keyExchangeFailed
  | _ => none

@[simp] theorem ofNumber?_number (e : LinkError) : ofNumber? e.number = some e := by
  cases e <;> rfl

end LinkError

end WlanControl.Link
