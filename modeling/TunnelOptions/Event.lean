import TunnelOptions.Report
import TunnelOptions.Tunnel

/-!
# Events

Writing options says what it does, and a log may take it down. The channel says it whether there is
a log or not, so events are part of what a call leaves behind and not something that the log
computes: each call answers with the events that it raised, in order.

An event names keys, options and counts, and never a value. That is so by its type, in which no
constructor has room for one: what is said of a write depends on its value only through what becomes
of it. How an event becomes a line is the log's business; here it is told by what it says.

* `Event`: what was said.
* `Report.summary`: the last thing that a bulk write says, from its report.
-/

set_option autoImplicit false

namespace TunnelOptions

/-- What writing options says of itself. All but the last concern one key, and come from the layer
that had to do with it; the last comes from a bulk write as a whole. -/
inductive Event where
  /-- A socket wrote an option. -/
  | socketApplied (key : String)
  /-- A tunnel saw the channel below it take an option. -/
  | handledBelow (key : String)
  /-- A tunnel wrote an option of its own, under the key it was given. -/
  | tunnelApplied (key : String) (option : Tunnel.Key)
  /-- A tunnel and the channel below it do not know a key. -/
  | unrecognized (key : String)
  /-- A bulk write is over: how many keys of each sort there were. -/
  | bulkApplied (applied unrecognized failed : Nat) (policy : Policy)
  deriving DecidableEq

/-- The summary of a report: how long each of its three lists is, and the policy under which it was
made. Which keys they were has been said before, entry by entry. -/
def Report.summary (report : Report) (policy : Policy) : Event :=
  .bulkApplied report.applied.length report.unrecognized.length report.failed.length policy

end TunnelOptions
