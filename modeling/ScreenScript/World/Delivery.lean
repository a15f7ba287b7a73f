import ScreenScript.World.Navigation

/-! # Sending and applying commands

Commands are put on the channel by anyone and applied by its one consumer: either `drain`, which
applies all that wait and stops at the first failure, or a serving consumer, which applies them
as they come, logs failures, and goes on until it takes a stop entry. An entry is taken from the
queue before it is applied, so it is never applied again.

While commands are being applied, listeners can only have further commands scheduled; nothing
enters the queue. So the number of entries at the start bounds the work.
-/

namespace ScreenScript.Eff

variable {H : Type}

/-- Puts a command on the channel and binds the channel. -/
def send (command : Command) (router : Option RouterId) : Eff H Unit :=
  modify fun world =>
    world.mapChannel fun channel =>
      { channel.enqueue (.command ⟨command, router⟩) with bound := true }

/-- Has a command put on the channel when the loop runs next. -/
def sendFromElsewhere (command : Command) (router : Option RouterId) : Eff H Unit := do
  if (← get).channel.bound then
    modify fun world =>
      world.mapChannel fun channel =>
        { channel with scheduled := channel.scheduled ++ [⟨command, router⟩] }
  else throw .channelUnbound

def bindChannel : Eff H Unit :=
  modify fun world => world.mapChannel fun channel => { channel with bound := true }

def close : Eff H Unit :=
  modify fun world => world.mapChannel fun channel => channel.enqueue .stop

def present (host : Host H) (title message : Value) : Eff H Unit :=
  match host.presenter with
  | .logging => log (.alert title message)
  | .showing refuses =>
    if refuses title message then throw .hostGone
    else modify fun world => { world with alerts := world.alerts ++ [(title, message)] }

/-- Makes the move that a command asks for on the router it came with, if there is one. -/
def applyMove (host : Host H) (router : Option RouterId) (step : Move) (refused : List Notice) :
    Eff H Unit := do
  match router with
  | none => return ()
  | some router =>
    if ← move host router step then return ()
    else modify fun world => world.record refused

/-- The attribute of a message by its name, which must be there. -/
def demand (attributes : Fields) (name : String) : Eff H Value :=
  match Keyed.get? attributes name with
  | some value => return value
  | none => throw (.noAttribute name)

/-- A value as a key to look something up by, which a list or a mapping cannot be. -/
def key (value : Value) : Eff H Value :=
  match value with
  | .list _ | .mapping _ => throw (.notKey value.typeName)
  | _ => return value

/-- Makes the move to the screen that a message asks for. -/
def applyMoveTo (host : Host H) (router : Option RouterId) (attributes : Fields)
    (step : Value → Move) (refused : Value → List Notice) : Eff H Unit := do
  -- Without a router the message is not even asked which screen it means.
  if router.isNone then return ()
  let asked ← key (← demand attributes "screen_id")
  applyMove host router (step asked) (refused asked)

/-- Applies a message by its attributes. -/
def applyForeign (host : Host H) (router : Option RouterId) (attributes : Fields) :
    Eff H Unit := do
  match ← key (← demand attributes "kind") with
  | .text "navigate" =>
    applyMoveTo host router attributes .navigate fun asked => [.navigateUncached asked]
  | .text "navigate_back" => applyMove host router .goBack []
  | .text "reset" => applyMoveTo host router attributes .reset fun _ => []
  | .text "present_modal" =>
    applyMoveTo host router attributes .presentModal fun asked => [.presentUncached asked]
  | .text "dismiss_modal" => applyMove host router .dismissModal []
  | .text "show_alert" =>
    present host (← demand attributes "title") (← demand attributes "message")
  | kind => log (.noHandler kind)

def apply (host : Host H) (envelope : Envelope) : Eff H Unit :=
  match envelope.command with
  | .navigate screen =>
    applyMove host envelope.router (.navigate (.text screen)) [.navigateUncached (.text screen)]
  | .navigateBack => applyMove host envelope.router .goBack []
  | .reset screen => applyMove host envelope.router (.reset (.text screen)) []
  | .presentModal screen =>
    applyMove host envelope.router (.presentModal (.text screen)) [.presentUncached (.text screen)]
  | .dismissModal => applyMove host envelope.router .dismissModal []
  | .showAlert title message => present host (.text title) (.text message)
  | .foreign attributes => applyForeign host envelope.router attributes

def take : Eff H (Option Entry) := do
  match (← get).channel.queue with
  | [] => return none
  | entry :: rest =>
    modify fun world => world.mapChannel fun channel => { channel with queue := rest }
    return some entry

/-- Applies at most so many entries and says how many commands were among them. -/
def drainUpTo (host : Host H) : Nat → Eff H Nat
  | 0 => return 0
  | count + 1 => do
    match ← take with
    | none => return 0
    | some .stop => drainUpTo host count
    | some (.command envelope) =>
      apply host envelope
      return (← drainUpTo host count) + 1

/-- Applies all entries that wait and says how many commands were among them. -/
def drain (host : Host H) : Eff H Nat := do
  let channel := (← get).channel
  if channel.serving then throw .consumerServing
  drainUpTo host channel.pending

/-- Lets the serving consumer apply at most so many entries. -/
def serveUpTo (host : Host H) : Nat → Eff H Unit
  | 0 => return ()
  | count + 1 => do
    match ← take with
    | none => return ()
    | some .stop =>
      modify fun world => world.mapChannel fun channel => { channel with serving := false }
    | some (.command envelope) =>
      -- A failure ends the command and not the consumer.
      tryCatch (apply host envelope) fun _ => log (.applyFailed envelope.command)
      serveUpTo host count

def startServing : Eff H Unit := do
  if (← get).channel.serving then throw .consumerServing
  modify fun world =>
    world.mapChannel fun channel => { channel with serving := true, bound := true }

/-- Lets the loop run: scheduled commands enter the queue, and a serving consumer applies all
that waits. -/
def runLoop (host : Host H) : Eff H Unit := do
  modify fun world => world.mapChannel Channel.collect
  let channel := (← get).channel
  if channel.serving then serveUpTo host channel.pending

/-- Lets the loop run until nothing is scheduled, for so many rounds at most. -/
def settle (host : Host H) : Nat → Eff H Unit
  | 0 => runLoop host
  | rounds + 1 => do
    runLoop host
    if (← get).channel.scheduled.isEmpty then return () else settle host rounds

end ScreenScript.Eff
