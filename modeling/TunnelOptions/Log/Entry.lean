import TunnelOptions.Event
import TunnelOptions.Log.Filter

/-!
# Log entries

An entry is what a log makes of an event: a level, the part of the program that speaks, a message
and named fields. It stands between the two halves of the log. A filter looks at the level, the
target and the names of the fields, and at nothing else; a format writes all of it.

The words of the messages and the names of the fields are fixed for each kind of event, so they are
said once, by `Entry.ofEvent`. What the single write of an option says is for tracing, and only what
a bulk write has come to, or that nobody knows a key, is for whoever is debugging settings.

* `Field`, `Entry`: a level, the part of the program that speaks, a message and named fields.
* `Entry.ofEvent`: the entry of an event.
* `Filter.admits`: whether a filter lets an entry through.
-/

set_option autoImplicit false

namespace TunnelOptions.Log

/-- The value of a field. Whether a text is quoted for a reader is settled when the entry is made,
and matters to the formats for a reader only. -/
inductive Field where
  /-- A text, which a reader sees in quotes. -/
  | quoted (text : String)
  /-- A text, which a reader sees as it is. -/
  | shown (text : String)
  | count (n : Nat)
  deriving DecidableEq, Repr

/-- What is logged of an event. The time is no part of it: it is what the clock says when the entry
is written. -/
structure Entry where
  level : Level
  target : String
  message : String
  fields : List (String × Field)
  deriving DecidableEq, Repr

/-- The part of the program that speaks for the socket. -/
def socketTarget : String := "http_tunnel::channel::socket"

/-- The part of the program that speaks for tunnels. -/
def tunnelTarget : String := "http_tunnel::tunnel::config"

namespace Entry

/-- The entry of an event: its level, who speaks, and the words, which depend on the kind of event
alone. What is particular to the event is in the fields. -/
def ofEvent : Event → Entry
  | .socketApplied key => ⟨.trace, socketTarget, "socket option applied", [("key", .quoted key)]⟩
  | .handledBelow key =>
    ⟨.trace, tunnelTarget, "option handled by real channel", [("key", .quoted key)]⟩
  | .tunnelApplied key option =>
    ⟨.trace, tunnelTarget, "tunnel option applied",
      [("key", .quoted key), ("option", .shown option.name)]⟩
  | .unrecognized key =>
    ⟨.debug, tunnelTarget, "unrecognized channel option", [("key", .quoted key)]⟩
  | .bulkApplied applied unrecognized failed policy =>
    ⟨.debug, tunnelTarget, "tunnel options applied",
      [("applied", .count applied), ("unrecognized", .count unrecognized),
        ("failed", .count failed), ("policy", .shown policy.name)]⟩

/-- The names of the fields, the message being one of them. -/
def fieldNames (entry : Entry) : List String :=
  "message" :: entry.fields.map Prod.fst

end Entry

/-- Whether a filter lets an entry through. -/
def Filter.admits (filter : Filter) (entry : Entry) : Bool :=
  filter.enabled entry.target entry.fieldNames entry.level

end TunnelOptions.Log
