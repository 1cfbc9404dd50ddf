import TunnelOptions.Entries
import TunnelOptions.Number.Binary64
import TunnelOptions.Toml.Datetime
import TunnelOptions.Toml.Kind

/-!
# TOML values

The values that a settings file can hold, whether or not an option can have them. They are kept as
they were read: integers and floats are different values, date-times are not text, and the entries
of a table are in the order of the file.

That order is kept for the one who saves the settings again and for the one who applies them, but it
is no part of what a table is: two tables are equal when they have equal values under the same keys.
So equality is a function of its own here and not that of the type, and it has to go down into
arrays and tables because a table may be anywhere in a value. Floats are equal as numbers.

A value is a tree whose nodes have lists of nodes, so what goes through values is a recursion over
values, items and entries together, here and wherever values are read or written.

* `Value`, `Table`: values, and tables as entries in order.
* `Value.kind`: what a value is.
* `Value.sameAs`: equality of values, for which the order of a table's entries is nothing.
-/

set_option autoImplicit false

namespace TunnelOptions.Toml

/-- A TOML value. How it was written is not kept: a string has no form any more and an integer no
base, and a table does not know whether it had a header. -/
inductive Value where
  | string (s : String)
  | integer (n : Int64)
  | float (x : Number.Binary64)
  | boolean (b : Bool)
  | datetime (d : Datetime)
  | array (items : List Value)
  /-- Entries under distinct keys, in order. -/
  | table (entries : List (String × Value))

/-- Entries under distinct keys, in order. -/
abbrev Table := List (String × Value)

namespace Value

/-- What a value is. -/
def kind : Value → Kind
  | .string _ => .string
  | .integer _ => .integer
  | .float _ => .float
  | .boolean _ => .boolean
  | .datetime _ => .datetime
  | .array _ => .array
  | .table _ => .table

/-- Whether a value is a table. -/
def isTable (value : Value) : Bool :=
  value.kind = .table

/-- The text of a string. -/
def string? : Value → Option String
  | .string s => some s
  | _ => none

end Value

mutual

/-- Equality of values: floats as numbers, arrays item by item, tables key by key. So a value that
holds what is no number is not equal to itself. -/
def Value.sameAs : Value → Value → Bool
  | .string a, .string b => a == b
  | .integer a, .integer b => a == b
  | .float a, .float b => a.sameNumber b
  | .boolean a, .boolean b => a == b
  | .datetime a, .datetime b => a == b
  | .array as, .array bs => sameItems as bs
  | .table as, .table bs => as.length == bs.length && sameEntries as bs
  | _, _ => false

/-- Whether two lists of items are equal one by one. -/
def sameItems : List Value → List Value → Bool
  | [], [] => true
  | a :: as, b :: bs => a.sameAs b && sameItems as bs
  | _, _ => false

/-- Whether every entry has an equal one under its key. For tables of the same size and with
distinct keys this goes both ways. -/
def sameEntries : List (String × Value) → Table → Bool
  | [], _ => true
  | (key, a) :: as, bs =>
    (match Entries.get? key bs with
      | some b => a.sameAs b
      | none => false) && sameEntries as bs

end

/-- Equality of tables, for which the order of the entries is nothing. -/
def Table.sameAs (as bs : Table) : Bool :=
  as.length == bs.length && sameEntries as bs

end TunnelOptions.Toml
