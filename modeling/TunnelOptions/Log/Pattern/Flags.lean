import TunnelOptions.Text.Blank

/-!
# Flags of a pattern

Flags say how the rest of a group is read. They are set by letters, after a minus sign they are
cleared. Of the seven letters only three change what is well formed; the others are read like them
and forgotten.

One flag changes the reading itself. Where it is set, blanks and comments are left out, and they are
left out in many places, so there is one function for it that looks at the flag and does nothing
when it is not set.

* `Flags`: the flags that decide whether a pattern is well formed.
* `Flags.read`: reads the letters of a group up to the mark behind them.
* `Flags.skip`: leaves out blanks and comments where the flags allow them.
-/

set_option autoImplicit false

namespace TunnelOptions.Log.Pattern

/-- The flags in force at a place of a pattern: those three of seven that can make it good or bad. A
group takes them from the one around it, with its own changes. -/
structure Flags where
  /-- Letters stand for both cases. -/
  caseless : Bool := false
  /-- Characters are meant, not bytes. -/
  unicode : Bool := true
  /-- Blanks and comments are left out. -/
  spaced : Bool := false
  deriving DecidableEq, Repr

namespace Flags

/-- The letters of all flags. Those for lines, greed and the point change no form. -/
def letters : List Char :=
  ['i', 'm', 's', 'U', 'u', 'R', 'x']

/-- Sets or clears the flag of a letter. -/
def set (flags : Flags) (letter : Char) (value : Bool) : Flags :=
  if letter = 'i' then { flags with caseless := value }
  else if letter = 'u' then { flags with unicode := value }
  else if letter = 'x' then { flags with spaced := value }
  else flags

/-- Reads letters behind those `seen`, up to the parenthesis or colon behind them, which is given
as well. A letter or a minus sign stands once, and the sign does not stand last. -/
def readMore (flags : Flags) (seen : List Char) : List Char → Option (Flags × Char × List Char)
  | [] => none
  | c :: cs =>
    if c = ':' ∨ c = ')' then
      if seen.head? = some '-' then none else some (flags, c, cs)
    else if c ∈ seen then none
    else if c = '-' then readMore flags (c :: seen) cs
    else if c ∈ letters then readMore (flags.set c ('-' ∉ seen)) (c :: seen) cs
    else none

/-- Reads the letters of a group. A group that is closed without any sets nothing and is refused. -/
def read (flags : Flags) (cs : List Char) : Option (Flags × Char × List Char) :=
  if cs.head? = some ')' then none else readMore flags [] cs

/-- The text behind blanks and comments. A comment goes from a number sign to the end of the
line. -/
def skipFrom (comment : Bool) : List Char → List Char
  | [] => []
  | c :: cs =>
    if comment then skipFrom (c ≠ '\n') cs
    else if c = '#' then skipFrom true cs
    else if Text.isBlank c then skipFrom false cs
    else c :: cs

/-- The text behind what the flags leave out. -/
def skip (flags : Flags) (cs : List Char) : List Char :=
  if flags.spaced then skipFrom false cs else cs

end Flags

end TunnelOptions.Log.Pattern
