import WlanControl.Address
import WlanControl.Frame.Field

namespace WlanControl.Radio

open WlanControl.Frame (maxFrameLength)

/-!
# Queues of frames

A bounded queue between the link layer, which never waits, and a radio driver that sends one frame
after the other.  It also carries the channel that the driver should tune to.

* `FrameQueue` — the queue;
* `FrameQueue.send` — what the link layer does;
* `FrameQueue.receive?`, `FrameQueue.poll` — what the driver does.

Main statement: `FrameQueue.receive?_send`, an accepted frame comes out of an empty queue.
-/

/-- A queue of frames that are to be sent. -/
structure FrameQueue where
  /-- How many frames there is room for. -/
  depth : Nat
  /-- The frames, oldest first. -/
  frames : List (List UInt8)
  /-- The channel to tune to. -/
  channel : UInt8
  /-- The address of the station. -/
  address : MacAddress
  /-- The task that waits for a frame. -/
  waiting : Option Nat
  /-- The tasks that were woken so far, latest first. -/
  woken : List Nat
deriving DecidableEq, Repr

namespace FrameQueue

/-- A queue without frames.  The channel is the first one. -/
def empty (depth : Nat) (address : MacAddress) : FrameQueue where
  depth
  frames := []
  channel := 1
  address
  waiting := none
  woken := []

/-- Appends a frame and wakes who waits for it, or refuses it if it is too long or there is no room.
The second part tells whether it was accepted. -/
def send (frame : List UInt8) (q : FrameQueue) : FrameQueue × Bool :=
  if frame.length ≤ maxFrameLength ∧ q.frames.length < q.depth then
    ({ q with
        frames := q.frames ++ [frame]
        waiting := none
        woken := q.waiting.toList ++ q.woken },
      true)
  else (q, false)

/-- Asks for another channel. -/
def tune (channel : UInt8) (q : FrameQueue) : FrameQueue := { q with channel }

/-- Takes the oldest frame, if there is one. -/
def receive? (q : FrameQueue) : FrameQueue × Option (List UInt8) :=
  match q.frames with
  | frame :: frames => ({ q with frames }, some frame)
  | [] => (q, none)

/-- One attempt of a task to take the oldest frame.  Without one the task waits, and if another task
waited before, that one is woken to see that it lost its place. -/
def poll (task : Nat) (q : FrameQueue) : FrameQueue × Option (List UInt8) :=
  match q.receive? with
  | (q, some frame) => (q, some frame)
  | (q, none) =>
    ({ q with
        waiting := some task
        woken := (q.waiting.filter (· ≠ task)).toList ++ q.woken },
      none)

/-- An accepted frame comes out of an empty queue. -/
theorem receive?_send {frame : List UInt8} {q : FrameQueue} (empty : q.frames = [])
    (accepted : (q.send frame).2 = true) : (q.send frame).1.receive?.2 = some frame := by
  unfold send at accepted ⊢
  split
  · simp [receive?, empty]
  · rename_i refused
    simp [refused] at accepted

end FrameQueue

end WlanControl.Radio
