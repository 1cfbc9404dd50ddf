import TunnelOptions.OptionFault
import TunnelOptions.Text.Blank
import TunnelOptions.Text.Runs

/-!
# How settings read values

A setting keeps something typed, and is given a value of whatever kind was at hand. Reading is where
the two meet: a value as what a setting keeps, or the reason why not. There is one reading for each
type that a setting can have, and every setting of the type reads alike; which reading a setting
uses is said where its keys are.

Text is read most liberally, because it is all that a settings file or a command line has. An
integer or a truth value may be given as text and is read as the scalar would be, white space around
it left out; a list may be given as one text with its items apart. In the other direction a truth
value or an integer is text when text is wanted. A reading never makes up a value: what it cannot
read is refused for a reason that says what was wanted and what was there.

The readings of texts are functions of their own (`readBool`, `readInt32`, `readTexts`), because
what a text says is the difficult part, and the proofs about it do not want to know of values.

* `readBool`, `readInt32`, `readTexts`: the readings of text, over lists of characters or strings.
* `isListSeparator`: what stands between the items of a list given as one text.
* `Value.asText`, `Value.asBool`, `Value.asInt32`, `Value.asTexts`, `Value.asTlsContext`,
  `Value.asBufferFactory`, `Value.asPipelineFactory`: a value as what a setting keeps. The ones that
  may be absent read the explicit nothing as absent.
-/

set_option autoImplicit false

namespace TunnelOptions

/-- A text without white space around it, read as a truth value. Nothing is false, an integer
literal is true when it is not zero, and otherwise the first letter decides. A literal that is too
large for 64 bits is no integer, so its first character is asked like that of any other text, and it
is no letter. -/
def readBool (cs : List Char) : Except Reason Bool :=
  match cs with
  | [] => .ok false
  | c :: _ =>
    match Number.readInt64 cs with
    | .ok n => .ok (n.toInt != 0)
    | .error _ =>
      match c.toLower with
      | 't' | 'y' => .ok true
      | 'f' | 'n' => .ok false
      | _ => .error (.noBoolean (String.ofList cs))

/-- A literal is true when it is not zero. -/
theorem readBool_of_readInt64 {cs : List Char} {n : Int64} (h : Number.readInt64 cs = .ok n) :
    readBool cs = .ok (n.toInt != 0) := by
  cases cs with
  | nil => cases h
  | cons c cs => rw [readBool, h]

/-- A 64-bit integer as one of 32 bits. It is refused when it does not fit, and never cut down to
one that does. -/
def fitInt32 (n : Int64) : Except Reason Int32 :=
  match Number.narrow n with
  | some m => .ok m
  | none => .error (.outOfRange n)

/-- A text read as an integer, white space around it left out. -/
def readInt32 (text : String) : Except Reason Int32 :=
  match Number.readInt64 (Text.trim text.toList) with
  | .ok n => fitInt32 n
  | .error fault => .error (.noInteger text fault)

/-- Whether a character stands between the items of a list given as one text: a comma, or one of
space, tab, line feed, carriage return, form feed, escape and bell. White space of other kinds
belongs to an item. -/
def isListSeparator (c : Char) : Bool :=
  c ∈ [',', ' ', '\t', '\n', '\r', '\x0c', '\x1b', '\x07']

/-- A text read as a list of its items. Separators in a row are one gap, so no item is empty. -/
def readTexts (text : String) : List String :=
  (Text.runs isListSeparator text.toList).map String.ofList

namespace Value

/-- The reason for a value of the wrong kind: what was wanted, and the kind that was met. What the
value holds is not part of it. -/
def mismatch {α : Type} (value : Value) (wanted : Wanted) : Except Reason α :=
  .error (.mismatch wanted value.kind)

/-- A value as text; truth values and integers are written out. -/
def asText : Value → Except Reason String
  | .text s => .ok s
  | .bool b => .ok (if b then "true" else "false")
  | .int n => .ok (toString n.toInt)
  | value => value.mismatch .text

/-- A value as text that may be absent. -/
def asOptionalText : Value → Except Reason (Option String)
  | .null => .ok none
  | value => value.asText.map some

/-- A value as a truth value; an integer is true when it is not zero. -/
def asBool : Value → Except Reason Bool
  | .bool b => .ok b
  | .int n => .ok (n.toInt != 0)
  | .text s => readBool (Text.trim s.toList)
  | value => value.mismatch .bool

/-- A value as a 32-bit integer: an integer itself, or a text that is a literal of one. A truth
value is no integer here, although an integer is a truth value. -/
def asInt32 : Value → Except Reason Int32
  | .int n => fitInt32 n
  | .text s => readInt32 s
  | value => value.mismatch .int

/-- A value as a list of texts that may be absent. One text is a list too, of as many items as it
has; only a list of texts can hold an empty item or one with separators. -/
def asTexts : Value → Except Reason (Option (List String))
  | .null => .ok none
  | .texts items => .ok (some items)
  | .text s => .ok (some (readTexts s))
  | value => value.mismatch .texts

/-- A value as a TLS context that may be absent. Nothing but a handle is read as one, since no text
could name it. -/
def asTlsContext : Value → Except Reason (Option Tls.Context)
  | .null => .ok none
  | .tlsContext context => .ok (some context)
  | value => value.mismatch .tlsContext

/-- A value as a buffer factory. -/
def asBufferFactory : Value → Except Reason BufferFactory
  | .bufferFactory factory => .ok factory
  | value => value.mismatch .bufferFactory

/-- A value as a pipeline factory. -/
def asPipelineFactory : Value → Except Reason PipelineFactory
  | .pipelineFactory factory => .ok factory
  | value => value.mismatch .pipelineFactory

end Value

end TunnelOptions
