import TunnelOptions.Event
import TunnelOptions.OptionMap
import TunnelOptions.Socket.Keyed
import TunnelOptions.Tunnel.Keyed

/-!
# Towers: a socket under tunnels

A tower is one real socket, layer 0, under any number of tunnels, layers 1, 2 and so on. A tunnel
holds its own attributes and nothing of the socket's: it hands every typed socket write, and every
question about the socket, to the channel below it. A value written by name is offered to the
channel below first, and only a key that is unknown there is looked up among the tunnel's own.

A tower is the socket and the list of the tunnels over it, and a layer is a number. A channel that
has the next one inside it would say the same, but then a call on a layer would have to rebuild
everything above it; here it is a change of one place. The calls themselves still go down layer by
layer, by recursion on the number: that a typed write on any layer is one on layer 0 is not built in
but proved, by `writeSocket_eq`.

Whether a write succeeds or not, everything that it does is in its `Step`: its answer, the tower
after it, and what it said. A call that fails still answers with a tower, and it is the one that the
entries in front of the failure have led to; nothing is rolled back but a tunnel that was never
finished.

* `Tower.socketAt`, `Tower.tunnelAt?`: what a layer shows.
* `Tower.writeSocket`, `Tower.writeTunnel`: the typed writes on a layer.
* `Tower.setOption`: one write by name on a layer.
* `Tower.applyOptions`, `Tower.setOptions`: an option map written entry by entry.
* `Tower.withOptions`: one more tunnel, with options to start from.
* `Tower.recognizedKeys`: the keys a layer knows.
-/

set_option autoImplicit false

namespace TunnelOptions

/-- One socket under tunnels, the lowest tunnel first. A new tunnel goes to the end of the list, and
its layer is its place there, counted from 1. -/
structure Tower where
  socket : Socket := {}
  tunnels : List Tunnel := []
  deriving DecidableEq

/-- What a call leaves behind. There is a tower after every call, also after one that failed, since
a call that fails can have changed something by then. -/
structure Step (α : Type) where
  /-- The answer of the call. -/
  answer : α
  /-- The tower after the call. -/
  tower : Tower
  /-- What the call said, in order. -/
  events : List Event
  deriving DecidableEq

namespace Tower

/-- A new socket under `depth` new tunnels. -/
def new (depth : Nat) : Tower :=
  { tunnels := List.replicate depth {} }

/-- The number of the top layer, which is how many tunnels there are. Calls on layers above it are
not excluded: such a layer has no tunnel of its own, but all that is below it. -/
def depth (tower : Tower) : Nat :=
  tower.tunnels.length

/-! ## Typed access

A tunnel has no socket attributes, so it asks the channel below. The recursion ends at the one
socket; `socketAt_eq` and `writeSocket_eq` say so once, and nothing else goes through it. -/

/-- The socket as a layer shows it: a tunnel asks the channel below. -/
def socketAt (tower : Tower) : Nat → Socket
  | 0 => tower.socket
  | layer + 1 => tower.socketAt layer

/-- The tunnel of a layer. Unlike the socket it is not asked of the channel below, so every tunnel
shows its own attributes. -/
def tunnelAt? (tower : Tower) : Nat → Option Tunnel
  | 0 => none
  | layer + 1 => tower.tunnels[layer]?

/-- A typed socket write on a layer: a tunnel hands it to the channel below, checks nothing itself,
and hands back the fault if there is one. -/
def writeSocket (tower : Tower) : Nat → Socket.Write → Except OptionFault Tower
  | 0, write => (tower.socket.write write).map ({ tower with socket := · })
  | layer + 1, write => tower.writeSocket layer write

/-- A typed tunnel write on a layer. It goes no further down and has no fault. Layer 0 and layers
that are not there have no tunnel to write. -/
def writeTunnel (tower : Tower) : Nat → Tunnel.Write → Tower
  | 0, _ => tower
  | layer + 1, write => { tower with tunnels := tower.tunnels.modify layer (·.write write) }

/-- Every layer shows the one socket, so what holds of the socket need not be said of layers. -/
theorem socketAt_eq (tower : Tower) (layer : Nat) : tower.socketAt layer = tower.socket := by
  induction layer with
  | zero => rfl
  | succ layer ih => exact ih

/-- A typed socket write on any layer is one on layer 0. -/
theorem writeSocket_eq (tower : Tower) (layer : Nat) (write : Socket.Write) :
    tower.writeSocket layer write = tower.writeSocket 0 write := by
  induction layer with
  | zero => rfl
  | succ layer ih => exact ih

/-! ## Writes by name

The channel below is asked first, also for keys that are the tunnel's own. It answers that it does
not know them, or, if it is a tunnel itself, takes them: the lowest tunnel gets what is written by
name on any above it. -/

/-- The keys a layer knows: a tunnel lists its own, then those of the channel below that it has
not listed yet. -/
def recognizedKeys : Nat → List String
  | 0 => Socket.Key.names
  | layer + 1 =>
    (recognizedKeys layer).foldl (fun keys key => if key ∈ keys then keys else keys ++ [key])
      Tunnel.Key.names

/-- Writes a value by name on the socket. An unknown key is left to others and is no failure; it is
not even mentioned, since the tunnel above may know it. -/
def setSocketOption (key : String) (value : Value) (tower : Tower) :
    Step (Except OptionFault Bool) :=
  match Socket.Key.ofName? key with
  | none => ⟨.ok false, tower, []⟩
  | some option =>
    match tower.socket.writeKeyed option value with
    | .error fault => ⟨.error fault, tower, []⟩
    | .ok socket => ⟨.ok true, { tower with socket }, [.socketApplied key]⟩

/-- Writes a value by name on the tunnel of a layer, without asking the channel below. A key that
this tunnel does not know either is mentioned, and is still no failure. -/
def setTunnelOption (layer : Nat) (key : String) (value : Value) (tower : Tower) :
    Step (Except OptionFault Bool) :=
  match Tunnel.Key.ofName? key with
  | none => ⟨.ok false, tower, [.unrecognized key]⟩
  | some option =>
    match option.read value with
    | .error fault => ⟨.error fault, tower, []⟩
    | .ok write => ⟨.ok true, tower.writeTunnel layer write, [.tunnelApplied key option]⟩

/-- Writes a value by name on a layer; the answer says whether the key was recognized. The channel
below is always asked first, and a failure there is the failure of the call. -/
def setOption : Nat → String → Value → Tower → Step (Except OptionFault Bool)
  | 0, key, value, tower => tower.setSocketOption key value
  | layer + 1, key, value, tower =>
    let below := setOption layer key value tower
    match below.answer with
    | .error _ => below
    | .ok true => { below with events := below.events ++ [.handledBelow key] }
    | .ok false =>
      let own := below.tower.setTunnelOption (layer + 1) key value
      { own with events := below.events ++ own.events }

/-! ## Option maps

There are two ways through the entries of a map. `applyEntries` reports what became of each and goes
on after a failure if the policy says so; `setEntries` stops at the first and answers with its fault
alone. A socket goes the second way and a tunnel the first. -/

/-- Writes entries in order on a layer under a policy, and reports what became of each. Every entry
meets the tower that those in front of it have led to. -/
def applyEntries (layer : Nat) (policy : Policy) :
    List (String × Value) → Tower → Step Report
  | [], tower => ⟨{}, tower, []⟩
  | (key, value) :: entries, tower =>
    let first := setOption layer key value tower
    let goOn (cons : Report → Report) : Step Report :=
      let rest := applyEntries layer policy entries first.tower
      ⟨cons rest.answer, rest.tower, first.events ++ rest.events⟩
    match first.answer, policy with
    | .ok true, _ => goOn (.consApplied key)
    | .ok false, _ => goOn (.consUnrecognized key)
    | .error fault, .bestEffort => goOn (.consFailed key fault)
    | .error fault, .failFast => ⟨Report.consFailed key fault {}, first.tower, first.events⟩

/-- Writes an option map on the tunnel of a layer under a policy. The last thing said is a summary
of the report. -/
def applyOptions (layer : Nat) (options : OptionMap) (policy : Policy) (tower : Tower) :
    Step Report :=
  let step := applyEntries layer policy options.entries tower
  { step with events := step.events ++ [step.answer.summary policy] }

/-- Writes entries in order on a layer, up to the first that fails. Unknown keys are passed over and
leave no mark in the answer. -/
def setEntries (layer : Nat) :
    List (String × Value) → Tower → Step (Except OptionFault Unit)
  | [], tower => ⟨.ok (), tower, []⟩
  | (key, value) :: entries, tower =>
    let first := setOption layer key value tower
    match first.answer with
    | .error fault => ⟨.error fault, first.tower, first.events⟩
    | .ok _ =>
      let rest := setEntries layer entries first.tower
      { rest with events := first.events ++ rest.events }

/-- Writes an option map on a layer, up to the first entry that fails. The socket goes through the
entries; a tunnel makes a report of them and answers with its result. -/
def setOptions (layer : Nat) (options : OptionMap) (tower : Tower) :
    Step (Except OptionFault Unit) :=
  match layer with
  | 0 => setEntries 0 options.entries tower
  | layer + 1 =>
    let step := applyOptions (layer + 1) options .failFast tower
    { step with answer := step.answer.result.map fun _ => () }

/-- The tower under one more new tunnel. The layers that were there keep their numbers. -/
def push (tower : Tower) : Tower :=
  { tower with tunnels := tower.tunnels ++ [{}] }

/-- The tower without its top tunnel; a socket alone stays what it is. -/
def pop (tower : Tower) : Tower :=
  { tower with tunnels := tower.tunnels.dropLast }

/-- The tower under one more tunnel that is written an option map to start from. When an entry
fails there is no new tunnel, and the layers below are left as they are by then. -/
def withOptions (options : OptionMap) (tower : Tower) : Step (Except OptionFault Unit) :=
  let step := setOptions (tower.depth + 1) options tower.push
  match step.answer with
  | .ok () => step
  | .error _ => { step with tower := step.tower.pop }

end Tower

end TunnelOptions
