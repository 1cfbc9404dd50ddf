import TunnelOptions.Log.Level
import TunnelOptions.Log.Pattern
import TunnelOptions.Number.Decimal
import TunnelOptions.Text.Cut

/-!
# Directives of a log filter

A directive is a level, a target, or a target with a level, as in `debug`, `net::http` or
`net::http=debug`. In brackets after the target it may also ask for a span and for fields, as in
`net[request{id}]=trace`. A field may be asked for with a value, which is a pattern unless it is a
truth value or a number.

A directive is read by a machine that takes one character at a time and always knows which part it
is in. The parts are the constructors of `Reading`, what one character does is `Directive.step`, and
what the end of the text makes of it is `Directive.finish`; reading is nothing but going through the
text with these two. The machine is kept as it is, instead of a grammar, because it is what decides
about texts that no grammar would allow: it never goes back, so the first character that cannot
stand where it is makes the whole directive bad, and a part that has begun takes everything up to
the character that ends it.

The machine notes the places where parts begin in bytes, and it counts from the first character that
is not white space, but the parts are cut out of the text with that white space still in front. So
white space in front of a directive shifts its parts. Nothing is done about this: it is how such
filters are read, and a settings file may hold one.

A word that stands alone is a level if there is one of that name, and a target otherwise. It can
only be told at the end, so until then the machine does not know which it is reading.

* `DirectiveFault`: why a directive cannot be read, with its wording.
* `FieldMatch`, `Directive`: what a directive asks for.
* `Directive.Reading`, `Directive.step`, `Directive.finish`: the machine.
* `Directive.read`: reads one directive.
-/

set_option autoImplicit false

namespace TunnelOptions.Log

/-- Why a directive cannot be read: it has not the form of one, its level is none, or the value of a
field cannot be matched. -/
inductive DirectiveFault where
  | badForm
  | badLevel
  | badField (fault : Pattern.Fault)
  deriving DecidableEq, Repr

/-- The wording of a fault. -/
def DirectiveFault.message : DirectiveFault → String
  | .badForm => "invalid filter directive"
  | .badLevel =>
    String.join ["error parsing level filter: expected one of \"off\", \"error\", \"warn\", ",
      "\"info\", \"debug\", \"trace\", or a number 0-5"]
  | .badField fault => String.join ["invalid field filter: ", fault.message]

/-- A field that a directive asks for. Of its value no more is kept than whether there is one,
because a directive with a value never matches outside of spans. -/
structure FieldMatch where
  name : String
  /-- Whether a value is asked for as well. -/
  hasValue : Bool
  deriving DecidableEq, Repr

/-- Whether the value of a field is something else than a pattern. -/
def isPlainValue (cs : List Char) : Bool :=
  String.ofList cs ∈ ["true", "false"] || Number.isDecimal cs

/-- Whether the value of a field can be matched. -/
def checkValue (cs : List Char) : Except Pattern.Fault Unit :=
  if isPlainValue cs then .ok () else Pattern.check cs

/-- A field and the value asked for, which ends at a second equals sign. -/
def FieldMatch.read (cs : List Char) : Except Pattern.Fault FieldMatch :=
  let name := String.ofList (cs.takeWhile (· ≠ '='))
  match cs.dropWhile (· ≠ '=') with
  | [] => .ok { name, hasValue := false }
  | _ :: cs => do
    checkValue (cs.takeWhile (· ≠ '='))
    .ok { name, hasValue := true }

/-- What a directive asks for, and what it then lets through. What it does not mention it does not
ask for, and without a level it lets everything through. -/
structure Directive where
  /-- What the target starts with. -/
  target : Option String := none
  /-- The span the event is in. -/
  span : Option String := none
  /-- The fields the event has. -/
  fields : List FieldMatch := []
  threshold : Threshold := .upTo .trace
  deriving DecidableEq, Repr

namespace Directive

/-- What is being read. Each start is the place behind the character that opened it, in bytes. -/
inductive Reading where
  | start
  | levelOrTarget
  | span (start : Nat)
  | field (start : Nat)
  | fieldsDone
  | bracketDone
  | level (start : Nat)

/-- The text between two places. -/
def cut (text : List Char) (start stop : Nat) : String :=
  String.ofList (Text.slice text start stop)

/-- Ends a field, which must not be empty, and adds it behind those that have been read. -/
def addField (directive : Directive) (cs : List Char) : Except DirectiveFault Directive :=
  if cs.isEmpty then .error .badForm
  else
    match FieldMatch.read cs with
    | .ok field => .ok { directive with fields := directive.fields ++ [field] }
    | .error fault => .error (.badField fault)

/-- One character, at byte `i` of the text without the blanks around it. What has been read is cut
out of `text` itself, so blanks in front of a directive shift what is cut out. -/
def step (text : List Char) (i : Nat) (c : Char) (reading : Reading) (directive : Directive) :
    Except DirectiveFault (Reading × Directive) :=
  match reading, c with
  | .start, '[' => .ok (.span (i + 1), directive)
  | .start, c =>
    if c ∈ ['-', ':', '_'] || Text.isAlphanumeric c then .ok (.levelOrTarget, directive)
    else .error .badForm
  | .levelOrTarget, '=' =>
    .ok (.level (i + 1), { directive with target := some (cut text 0 i) })
  | .levelOrTarget, '[' =>
    .ok (.span (i + 1), { directive with target := some (cut text 0 i) })
  | .levelOrTarget, _ => .ok (.levelOrTarget, directive)
  | .bracketDone, '=' => .ok (.level (i + 1), directive)
  | .bracketDone, _ => .error .badForm
  | .span start, ']' =>
    .ok (.bracketDone, { directive with span := some (cut text start i) })
  | .span start, '\x7b' =>
    let name := cut text start i
    .ok (.field (i + 1), { directive with span := if name.isEmpty then none else some name })
  | .span start, _ => .ok (.span start, directive)
  | .field start, '\x7d' => do
    .ok (.fieldsDone, ← directive.addField (Text.slice text start i))
  | .field start, _ => .ok (.field start, directive)
  | .fieldsDone, ']' => .ok (.bracketDone, directive)
  | .fieldsDone, _ => .error .badForm
  | .level start, _ => .ok (.level start, directive)

/-- What the end of the text makes of what is being read. A word that stands alone is a level if it
can be; brackets that are still open, or no text at all, are bad. -/
def finish (text : List Char) (reading : Reading) (directive : Directive) :
    Except DirectiveFault Directive :=
  match reading with
  | .levelOrTarget =>
    match Threshold.ofText? text with
    | some threshold => .ok { directive with threshold }
    | none => .ok { directive with target := some (String.ofList text) }
  | .level start =>
    match Text.dropBytes start text with
    | [] => .ok directive
    | level =>
      match Threshold.ofText? level with
      | some threshold => .ok { directive with threshold }
      | none => .error .badLevel
  | .bracketDone => .ok directive
  | _ => .error .badForm

/-- Reads on from byte `i`. -/
def readFrom (text : List Char) : Nat → Reading → Directive → List Char →
    Except DirectiveFault Directive
  | _, reading, directive, [] => finish text reading directive
  | i, reading, directive, c :: cs => do
    let (reading, directive) ← step text i c reading directive
    readFrom text (i + c.utf8Size) reading directive cs

/-- Reads one directive. Without a level it lets everything through. -/
def read (text : List Char) : Except DirectiveFault Directive :=
  readFrom text 0 .start {} (Text.trim text)

end Directive

end TunnelOptions.Log
