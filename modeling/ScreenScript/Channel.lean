import ScreenScript.Command
import ScreenScript.Router

/-! # The command channel

Commands wait in a queue until the one consumer of the channel applies them, in the order in
which they came. Each travels in an envelope with the router it is meant for. A stop entry in
the queue ends a serving consumer. Commands that are sent from elsewhere are scheduled first and
enter the queue when the loop runs; that takes a channel which is bound to a loop.
-/

namespace ScreenScript

/-- A command with the router that it is meant for, if any. -/
structure Envelope where
  command : Command
  router : Option RouterId
deriving Inhabited, Repr

inductive Entry where
  | command (envelope : Envelope)
  | stop
deriving Inhabited, Repr

/-- The channel between actions and the host. -/
structure Channel where
  queue : List Entry
  /-- The envelopes that enter the queue when the loop runs. -/
  scheduled : List Envelope
  bound : Bool
  serving : Bool
deriving Inhabited, Repr

namespace Channel

def empty : Channel := ⟨[], [], false, false⟩

def pending (channel : Channel) : Nat :=
  channel.queue.length

def enqueue (channel : Channel) (entry : Entry) : Channel :=
  { channel with queue := channel.queue ++ [entry] }

/-- The channel after the loop has run: what was scheduled is in the queue. -/
def collect (channel : Channel) : Channel :=
  { channel with
    queue := channel.queue ++ channel.scheduled.map .command
    scheduled := [] }

@[simp]
theorem queue_enqueue (channel : Channel) (entry : Entry) :
    (channel.enqueue entry).queue = channel.queue ++ [entry] := rfl

@[simp]
theorem pending_enqueue (channel : Channel) (entry : Entry) :
    (channel.enqueue entry).pending = channel.pending + 1 := by
  simp [pending]

end Channel

end ScreenScript
