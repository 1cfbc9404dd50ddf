import TunnelOptions.Log.Directive
import TunnelOptions.Text.Order

/-!
# Log filters

A filter is a list of directives with commas between them. The most specific directive that matches
an event decides about it: the one with the longest target, and of those the one that asks for the
most fields. Since one directive decides, another one that would let the event through is of no
avail, and an event that no directive matches is not let through.

The directives are kept in the order in which they were written. Sorting them first and taking the
first that matches would say the same, but then the order of equally specific ones would have to be
looked for in the sorting; here it is a clause of `mostSpecific`.

A directive may ask for a span or for the value of a field. No event of this library is in a span,
and values are only compared in one, so such a directive is read, can be found faulty, and never
matches.

* `Directive.isMatch`, `Directive.specificityLe`: which directives match, and which matter more.
* `Filter.read`: reads a filter; one without any directive lets errors through.
* `Filter.enabled`: whether an event of a target, with some fields and a level, is let through.
-/

set_option autoImplicit false

namespace TunnelOptions.Log

/-- The directives of a filter, in the order they were written. The order matters only between
directives that are equally specific. -/
structure Filter where
  directives : List Directive
  deriving DecidableEq, Repr

namespace Directive

/-- Whether a directive can match an event outside of all spans: it names no span and asks for no
value of a field. -/
def isStatic (directive : Directive) : Bool :=
  directive.span.isNone && !directive.fields.any FieldMatch.hasValue

/-- Whether a directive matches events of a target that have some fields. -/
def isMatch (directive : Directive) (target : String) (fields : List String) : Bool :=
  directive.isStatic
    && (directive.target.all fun start => start.toList.isPrefixOf target.toList)
    && directive.fields.all fun field => field.name ∈ fields

/-- The names of the fields asked for. -/
def fieldNames (directive : Directive) : List String :=
  directive.fields.map FieldMatch.name

/-- How long a target is asked for; no target is shorter than any. -/
def targetLength (directive : Directive) : Nat :=
  match directive.target with
  | none => 0
  | some target => target.utf8ByteSize + 1

/-- Whether `b` is at least as specific as `a`: by the length of the target, then by the number of
fields, and at last by the names of the fields, so that any two can be compared. -/
def specificityLe (a b : Directive) : Bool :=
  if a.targetLength = b.targetLength then
    if a.fields.length = b.fields.length then Text.allBytesLe a.fieldNames b.fieldNames
    else a.fields.length < b.fields.length
  else a.targetLength < b.targetLength

end Directive

namespace Filter

/-- The text between commas, piece by piece. -/
def pieces : List Char → List (List Char)
  | [] => [[]]
  | c :: cs =>
    if c = ',' then [] :: pieces cs
    else
      match pieces cs with
      | [] => [[c]]
      | piece :: rest => (c :: piece) :: rest

/-- Reads directives in order; the first that cannot be read is the fault. -/
def readAll : List (List Char) → Except DirectiveFault (List Directive)
  | [] => .ok []
  | text :: texts => do
    let directive ← Directive.read text
    let directives ← readAll texts
    .ok (directive :: directives)

/-- Reads a filter, leaving out what is empty between commas. A filter that has nothing else lets
errors through, and nothing less. -/
def read (text : String) : Except DirectiveFault Filter := do
  let directives ← readAll ((pieces text.toList).filter (! ·.isEmpty))
  if directives.isEmpty then .ok ⟨[{ threshold := .upTo .error }]⟩ else .ok ⟨directives⟩

/-- The most specific of some directives; of equally specific ones the last. -/
def mostSpecific : List Directive → Option Directive
  | [] => none
  | directive :: directives =>
    match mostSpecific directives with
    | none => some directive
    | some other => if directive.specificityLe other then some other else some directive

/-- Whether an event of a target, with some fields and a level, is let through. One directive
decides, and where none matches it is not. -/
def enabled (filter : Filter) (target : String) (fields : List String) (level : Level) : Bool :=
  match mostSpecific (filter.directives.filter (·.isMatch target fields)) with
  | none => false
  | some directive => directive.threshold.admits level

end Filter

end TunnelOptions.Log
