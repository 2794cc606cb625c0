namespace WlanControl.Frame

/-!
# What can go wrong with a frame
-/

/-- Why a frame could not be read or written. -/
inductive Error
  /-- The frame ends before a field that it has to have. -/
  | truncated
  /-- The frame does not fit into the space that there is for it. -/
  | bufferTooSmall
deriving DecidableEq, Repr

end WlanControl.Frame
