namespace WlanControl.Host

/-!
# The state of the connection, as the application sees it
-/

/-- What became of the last request of the application. -/
inductive ConnectionStatus
  | disconnected
  /-- A scan is running that looks for nothing in particular. -/
  | scanning
  /-- The wanted access point was not found yet. -/
  | searching
  | authenticating
  /-- Authenticated, but not associated yet or without keys. -/
  | associating
  /-- The link is up, but the network stack has no address yet. -/
  | acquiringAddress
  | associated
  /-- The connection attempt has failed. -/
  | cannotConnect
  | hosting
deriving DecidableEq, Repr

end WlanControl.Host
