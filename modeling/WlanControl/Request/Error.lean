namespace WlanControl

/-!
# Why a request is refused
-/

/-- Why a request of the application is refused. -/
inductive RequestError
  /-- The name of the network is too long, or there is nothing to find the network by. -/
  | invalidSsid
  /-- The radio has no such channel. -/
  | invalidChannel
  /-- A session cannot have that many peers, or has none with that number. -/
  | invalidPeerCount
  /-- A packet of the session would be too large. -/
  | packetTooLarge
  /-- The key has too many octets. -/
  | keyTooLong
  /-- There is no profile to connect by. -/
  | noProfiles
  /-- The radio has not acted upon the last request yet, or something shared is in use. -/
  | busy
  /-- The request makes no sense in the current state. -/
  | invalidState
deriving DecidableEq, Repr

end WlanControl
