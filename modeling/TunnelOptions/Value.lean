import TunnelOptions.Factory
import TunnelOptions.Tls.Context

/-!
# Option values

The value of an option is loosely typed. Options come from code, as truth values, integers and
handles, and from settings files and command lines, where everything may be text. So a value is one
of a few kinds, and it is not known from the value which option it is meant for: each setting
decides by itself how it reads a value, and `TunnelOptions.Value.Reading` has these readings.

The explicit nothing is a value and not the absence of one. It is how an option that may be absent
is cleared, and an option that may not be refuses it with a reason of its own.

Handles are values too. They make equality a matter of two notions: a handle is the same value as
another when it is the same object, whatever the two hold, and all other values are the same when
their contents are.

* `Value`, `Value.kind`: a value and what it is, with `Kind.name` for the wording of faults.
* `Value.sameAs`: handles compare by identity, everything else by content.
* `Value.outline`: the outline of a value.
-/

set_option autoImplicit false

namespace TunnelOptions

/-- The value of an option, as it is given and before any setting has read it. Texts may turn out to
be truth values, integers or lists, but nothing is decided about that here. -/
inductive Value where
  /-- Nothing, said explicitly. -/
  | null
  | bool (b : Bool)
  | int (n : Int64)
  | text (s : String)
  | texts (items : List String)
  | tlsContext (context : Tls.Context)
  | bufferFactory (factory : BufferFactory)
  | pipelineFactory (factory : PipelineFactory)
  deriving DecidableEq

namespace Value

/-- What a value is, whichever value of that kind it may be. Faults say it of values that are not
what a setting wants. -/
inductive Kind where
  | null
  | boolean
  | integer
  | string
  | stringList
  | tlsContext
  | bufferFactory
  | pipelineFactory
  deriving DecidableEq, Repr

/-- The name of a kind. -/
def Kind.name : Kind → String
  | .null => "null"
  | .boolean => "boolean"
  | .integer => "integer"
  | .string => "string"
  | .stringList => "string list"
  | .tlsContext => "TLS context"
  | .bufferFactory => "buffer factory"
  | .pipelineFactory => "pipeline factory"

/-- What a value is, by its constructor alone: a text is a text even when it holds an integer. -/
def kind : Value → Kind
  | .null => .null
  | .bool _ => .boolean
  | .int _ => .integer
  | .text _ => .string
  | .texts _ => .stringList
  | .tlsContext _ => .tlsContext
  | .bufferFactory _ => .bufferFactory
  | .pipelineFactory _ => .pipelineFactory

/-- Whether a value is the explicit nothing, which clears an option that may be absent. -/
def isNull (value : Value) : Bool :=
  value.kind = .null

/-- Equality of values: handles by identity, everything else by content. Values of different kinds
are never equal, so an integer is not the text that spells it. -/
def sameAs : Value → Value → Bool
  | .tlsContext a, .tlsContext b => a.sameAs b
  | .bufferFactory a, .bufferFactory b => a.sameAs b
  | .pipelineFactory a, .pipelineFactory b => a.sameAs b
  | a, b => a = b

/-- The outline of a value: its kind with what it holds in parentheses, so that values of different
kinds are shown differently even where their contents look alike. -/
def outline : Value → Outline
  | .null => .atom "Null"
  | .bool b => .group "Bool" [.bool b]
  | .int n => .group "Int" [.int n.toInt]
  | .text s => .group "Str" [.text s]
  | .texts items => .group "StrList" [.texts items]
  | .tlsContext context => .group "TlsContext" [context.outline]
  | .bufferFactory factory => .group "BufferFactory" [.atom factory.shown]
  | .pipelineFactory factory => .group "PipelineFactory" [.text factory.name]

end Value

end TunnelOptions
