import WlanControl.Link.Transmission

namespace WlanControl.Link

/-!
# The budget of a connection attempt

Sending again, being turned down and starting over each cost one retry, and an attempt that spends
more than its budget fails.

* `Link.fail` — the attempt is given up;
* `Link.spendRetry` — one more retry, if there is one left;
* `Link.restart` — the handshake starts over;
* `Link.retryRejected` — the refused step is tried once more.

Main statement: `Link.retries_spendRetry`, no retry is free unless all 255 are spent.
-/

/-- The count of retries after one more. -/
def spent (retries : UInt8) : UInt8 := if retries = 255 then 255 else retries + 1

variable {σ : Type} (env : Surroundings σ)

/-- Gives the attempt up. -/
def fail (failure : LinkError) (l : Link σ) : Link σ :=
  let l := (l.leaveAp env).resetExchange env
  let l := { l with machine.encrypting := false }
  ((l.setAuthLevel .error).setMode .cannotConnect).setFailure (some failure)

/-- Spends a retry, and tells whether there was one left.  The attempt fails if there was none. -/
def spendRetry (failure : LinkError) (l : Link σ) : Link σ × Bool :=
  let l := l.setRetries (spent l.machine.retries)
  if l.machine.settings.retryBudget < l.machine.retries then (l.fail env failure, false)
  else (l, true)

/-- Starts over with authentication, if there is a retry left. -/
def restart (l : Link σ) : Link σ :=
  match l.spendRetry env .retryBudgetExhausted with
  | (l, false) => l
  | (l, true) =>
    let l := l.resetExchange env
    let l := { l with
      machine.encrypting := false
      machine.handshake.step := .authenticate
      machine.handshake.sentAt := l.machine.now
      machine.lastHeard := l.machine.now }
    let l := ((l.setAid 0).setAuthLevel .disconnected).setMode .connecting
    l.sendHandshakeFrame env

/-- Sends the frame of a refused step once more, if there is a retry left. -/
def retryRejected (failure : LinkError) (l : Link σ) : Link σ :=
  match l.spendRetry env failure with
  | (l, false) => l
  | (l, true) => l.sendHandshakeFrame env

/-- A retry that is left is counted, and it was one of the budget. -/
theorem retries_spendRetry {failure : LinkError} {l : Link σ}
    (left : (l.spendRetry env failure).2 = true) :
    (l.spendRetry env failure).1.machine.retries = spent l.machine.retries ∧
      spent l.machine.retries ≤ l.machine.settings.retryBudget := by
  unfold spendRetry at left ⊢
  simp only at left ⊢
  split at left
  · cases left
  · rename_i within
    rw [if_neg within]
    exact ⟨rfl, UInt8.not_lt.mp within⟩

end WlanControl.Link
