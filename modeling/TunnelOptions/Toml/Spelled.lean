import TunnelOptions.Toml.Value

/-!
# Date-times spelled as tables

Whoever reads a value as fields does not know date-times. Where such a reader wants a table, a
date-time is one: a table with its text under a reserved key. And where a reader takes any value, a
table whose first key is the reserved one is a date-time.

Both happen when settings are read. So a document in which someone has written the reserved key
himself is read differently from what it says, and it is not enough to read the document: what is
under the options of a channel has to be settled afterwards. A table of plain values is left as it
is.

* `Value.entries?`: the entries of a value that is, or stands for, a table.
* `Value.settle?`: a value in which each table that spells a date-time has become one.
-/

set_option autoImplicit false

namespace TunnelOptions.Toml

/-- The key that spells a date-time. Whoever uses it for something else gets a date-time or nothing.
-/
def datetimeKey : String := "$__toml_private_datetime"

/-- The entries of a table, or of the table that a date-time stands for. -/
def Value.entries? : Value → Option Table
  | .table entries => some entries
  | .datetime d => some [(datetimeKey, .string (String.ofList d.text))]
  | _ => none

/-- The date-time that the value under the reserved key spells. It must be a string, and all of it a
date-time. -/
def spelled? : Value → Option Value
  | .string s => (Datetime.ofText? s).map .datetime
  | _ => none

mutual

/-- A value in which each table that spells a date-time has become one. There is none when what is
under the reserved key is no date-time. -/
def Value.settle? : Value → Option Value
  | .array items => (settleItems? items).map .array
  | .table [] => some (.table [])
  | .table ((key, value) :: entries) =>
    if key = datetimeKey then spelled? value
    else do
      let value ← value.settle?
      some (.table ((key, value) :: (← settleEntries? entries)))
  | value => some value

/-- The items of an array, settled. -/
def settleItems? : List Value → Option (List Value)
  | [] => some []
  | value :: values => do some ((← value.settle?) :: (← settleItems? values))

/-- The entries of a table, settled one by one. -/
def settleEntries? : List (String × Value) → Option Table
  | [] => some []
  | (key, value) :: entries => do some ((key, ← value.settle?) :: (← settleEntries? entries))

end

end TunnelOptions.Toml
