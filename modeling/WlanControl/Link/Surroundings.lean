import WlanControl.Frame.Security
import WlanControl.Address
import WlanControl.Request.Key

namespace WlanControl.Link

open WlanControl.Frame (SecurityInfo)

/-!
# What the link layer works with

The link layer hands frames to a radio and leaves the handshake of WPA networks to a key exchange.
Neither is part of it: both are functions on a state `σ` that the link layer never looks into.

* `Surroundings` — the radio and the key exchange;
* `ExchangeStep` — what the key exchange makes of a message;
* `ExchangeStep.reply` — the answer that is sent back.

Main statement: `ExchangeStep.length_reply_le`, an answer never exceeds the buffer for it.
-/

/-- How far a key exchange has come. -/
inductive ExchangeState
  | inProgress
  /-- The keys are installed. -/
  | complete
  | failed
deriving DecidableEq, Repr

/-- What the key exchange makes of a message. -/
structure ExchangeStep where
  state : ExchangeState
  /-- The octets put into the buffer for the answer.  The rest of the buffer is zero. -/
  written : List UInt8
  /-- How long the answer is said to be. -/
  replyLength : Nat
deriving DecidableEq, Repr

/-- The number of octets in the buffer for an answer. -/
def replyCapacity : Nat := 512

namespace ExchangeStep

/-- What a station without a key exchange makes of a message. -/
def refused : ExchangeStep := ⟨.failed, [], 0⟩

/-- The answer.  There is none if it is said to be longer than the buffer. -/
def reply (s : ExchangeStep) : List UInt8 :=
  if s.replyLength ≤ replyCapacity then
    let buffer := s.written.take replyCapacity
    (buffer ++ List.replicate (replyCapacity - buffer.length) 0).take s.replyLength
  else []

/-- An answer never exceeds the buffer. -/
theorem length_reply_le (s : ExchangeStep) : s.reply.length ≤ replyCapacity := by
  unfold reply
  split
  · simp only [List.length_take]
    omega
  · simp

end ExchangeStep

/-- The radio and the key exchange. -/
structure Surroundings (σ : Type) where
  /-- Hands a frame to the radio, and tells whether it had room for it. -/
  send : List UInt8 → σ → σ × Bool
  /-- Tunes the radio to a channel. -/
  tune : UInt8 → σ → σ
  /-- Installs the key for encrypted frames, or removes it. -/
  installKey : Option Key → σ → σ
  /-- Starts a key exchange with an access point. -/
  beginExchange : MacAddress → SecurityInfo → Key → σ → σ
  /-- Hands a message of the access point to the key exchange. -/
  exchange : List UInt8 → σ → σ × ExchangeStep
  /-- Makes the key exchange forget all. -/
  resetExchange : σ → σ

end WlanControl.Link
