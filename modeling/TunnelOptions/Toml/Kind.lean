/-!
# The kinds of TOML values

What a reader is told of a value that cannot be used is its kind and not what it is. The kinds stand
apart from the values, so that a fault of an option can name one without knowing what a settings
file may hold.

* `Kind`: one for each kind of value, with the name a reader is told.
-/

set_option autoImplicit false

namespace TunnelOptions.Toml

/-- The kind of a TOML value. An inline table and one with a header are the same kind, and so are
the four forms of a string and all sorts of date-times. -/
inductive Kind where
  | string
  | integer
  | float
  | boolean
  | datetime
  | array
  | table
  deriving DecidableEq, Repr

/-- The name of a kind. -/
def Kind.name : Kind → String
  | .string => "string"
  | .integer => "integer"
  | .float => "float"
  | .boolean => "boolean"
  | .datetime => "datetime"
  | .array => "array"
  | .table => "table"

end TunnelOptions.Toml
