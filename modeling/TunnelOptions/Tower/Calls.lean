import TunnelOptions.Tower

/-!
# Runs of calls on a tower

What is promised of a channel is promised whatever has been called on it before. So the calls are
made values here, and a run is a list of them, each with the layer that it is made on. There are
five kinds: two typed writes, a write by name, and two bulk writes. Questions are no calls, since
they leave no trace.

A run keeps every answer and everything that was said. What is proved of runs is proved by induction
on the list from what is known of one call.

* `Call`, `Reply`: a write that can be asked of a layer, typed, by name, or in bulk, and its answer.
* `Tower.perform`: one call on a layer.
* `Tower.run`: calls one after the other, with all their answers and everything said.
-/

set_option autoImplicit false

namespace TunnelOptions

/-- A write that can be asked of a layer, with everything it is given but the layer itself. New
tunnels are not among them: a run goes on on the tower it began with. -/
inductive Call where
  | writeSocket (write : Socket.Write)
  | writeTunnel (write : Tunnel.Write)
  | setOption (key : String) (value : Value)
  | setOptions (options : OptionMap)
  | applyOptions (options : OptionMap) (policy : Policy)

/-- The answer to a call, of one of three sorts according to the kind of the call. -/
inductive Reply where
  /-- Whether the write was accepted. -/
  | written (result : Except OptionFault Unit)
  /-- Whether the key was recognized. -/
  | recognized (result : Except OptionFault Bool)
  /-- What became of each entry. -/
  | reported (report : Report)

namespace Tower

/-- One call on a layer, with its answer put among those of all kinds of calls. Typed writes say
nothing, whether they are accepted or not. -/
def perform (layer : Nat) (call : Call) (tower : Tower) : Step Reply :=
  match call with
  | .writeSocket write =>
    match tower.writeSocket layer write with
    | .error fault => ⟨.written (.error fault), tower, []⟩
    | .ok tower => ⟨.written (.ok ()), tower, []⟩
  | .writeTunnel write => ⟨.written (.ok ()), tower.writeTunnel layer write, []⟩
  | .setOption key value =>
    let step := setOption layer key value tower
    { step with answer := .recognized step.answer }
  | .setOptions options =>
    let step := setOptions layer options tower
    { step with answer := .written step.answer }
  | .applyOptions options policy =>
    let step := applyOptions layer options policy tower
    { step with answer := .reported step.answer }

/-- Calls one after the other, each on its layer. A call that fails does not end the run: its answer
is the fault, and the next one meets the tower it has left. -/
def run : List (Nat × Call) → Tower → Step (List Reply)
  | [], tower => ⟨[], tower, []⟩
  | (layer, call) :: calls, tower =>
    let first := perform layer call tower
    let rest := run calls first.tower
    ⟨first.answer :: rest.answer, rest.tower, first.events ++ rest.events⟩

end Tower

end TunnelOptions
