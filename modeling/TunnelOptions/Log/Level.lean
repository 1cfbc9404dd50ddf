/-!
# Levels of log events

An event matters more or less to a reader, and a log lets through what matters enough. There are
five levels and six thresholds, because a log can also be told to let nothing through; so a
threshold is not a level, although it is written like one.

Thresholds are written in a filter and read here: by name in any case, by number, or not at all.
That nothing written lets errors through is the rule for a level that is left out behind its equals
sign.

* `Level`: how much an event matters to a reader.
* `Threshold`: the least important level that is let through, or nothing at all.
* `Threshold.admits`: whether a level is let through.
* `Threshold.ofText?`: a threshold by name, in any case, or by number.
-/

set_option autoImplicit false

namespace TunnelOptions.Log

/-- How much an event matters to a reader, the most important first. Options that are written are at
the bottom of the scale. -/
inductive Level where
  | error
  | warn
  | info
  | debug
  | trace
  deriving DecidableEq, Repr

namespace Level

/-- The place of a level, from 1. -/
def rank : Level → Nat
  | .error => 1
  | .warn => 2
  | .info => 3
  | .debug => 4
  | .trace => 5

/-- The name of a level. -/
def name : Level → String
  | .error => "ERROR"
  | .warn => "WARN"
  | .info => "INFO"
  | .debug => "DEBUG"
  | .trace => "TRACE"

/-- Every level, the most important first. -/
def all : List Level := [.error, .warn, .info, .debug, .trace]

end Level

/-- The least important level that is let through, or nothing at all. A threshold of a level lets
that level through itself. -/
inductive Threshold where
  | off
  | upTo (level : Level)
  deriving DecidableEq, Repr

namespace Threshold

/-- Whether a level is let through. -/
def admits : Threshold → Level → Bool
  | .off, _ => false
  | .upTo least, level => level.rank ≤ least.rank

/-- Every threshold by its number. -/
def ofNumber? : Nat → Option Threshold
  | 0 => some .off
  | 1 => some (.upTo .error)
  | 2 => some (.upTo .warn)
  | 3 => some (.upTo .info)
  | 4 => some (.upTo .debug)
  | 5 => some (.upTo .trace)
  | _ => none

/-- A text as a natural number: digits, after a plus sign or not. It may have zeros in front and be
as large as it likes; few numbers stand for a threshold. -/
def readNumber? (cs : List Char) : Option Nat :=
  let digits := match cs with
    | '+' :: cs => cs
    | cs => cs
  if !digits.isEmpty && digits.all Char.isDigit then some (Nat.ofDigitChars 10 digits 0) else none

/-- The threshold of a name in upper-case letters. -/
def ofName? (name : String) : Option Threshold :=
  if name == "OFF" then some .off
  else (Level.all.find? fun level => level.name == name).map .upTo

/-- A threshold by its number or, in any case, its name. Nothing written lets errors through. -/
def ofText? (cs : List Char) : Option Threshold :=
  (readNumber? cs).bind ofNumber? <|>
    if cs.isEmpty then some (.upTo .error)
    else ofName? (String.ofList (cs.map Char.toUpper))

end Threshold

end TunnelOptions.Log
