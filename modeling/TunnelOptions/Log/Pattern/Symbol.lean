import TunnelOptions.Log.Pattern.Flags
import TunnelOptions.Text.Digit

/-!
# Symbols of a pattern

A symbol is what one character or one escape stands for. There are no tables of Unicode's classes or
of its pairs of cases, so a symbol that would need one is refused, as is one that would match bytes
which are no text.

Whether a symbol may stand somewhere depends on two things, the flags in force and whether it is in
brackets. Reading it does not: an escape is read into a symbol first, and then asked whether it
fits. Of what a symbol matches only that much is kept as these questions need; that there are three
kinds of characters with an escape is nothing to them, and that a literal was written as two digits
is.

* `Symbol`: what can stand for itself, in a text or in brackets.
* `Symbol.fitsText`, `Symbol.fitsBrackets`: where a symbol may stand under some flags.
* `Symbol.readEscape`: reads an escape behind its backslash.
-/

set_option autoImplicit false

namespace TunnelOptions.Log.Pattern

/-- What one character or one escape stands for, as far as it decides whether the pattern is well
formed. -/
inductive Symbol where
  /-- A character; `byte` when it was written as two hexadecimal digits. -/
  | literal (c : Char) (byte : Bool)
  /-- Any character but a line feed. -/
  | any
  /-- Digits, blanks or word characters, or all the others. -/
  | kind (negated : Bool)
  /-- An end of the text or of a line. -/
  | anchor
  /-- An edge of a word, or a place that is none. -/
  | wordEdge
  deriving DecidableEq, Repr

namespace Symbol

/-- The character that a symbol stands for, if there is only one. -/
def char? : Symbol → Option Char
  | literal c _ => some c
  | _ => none

/-- Whether a symbol may stand outside of brackets. What would need tables of Unicode, or could
match half a character, may not. -/
def fitsText (flags : Flags) : Symbol → Bool
  | literal c byte => if flags.unicode then !flags.caseless else !byte || c.toNat < 0x80
  | any => flags.unicode
  | kind negated => !flags.unicode && !negated
  | anchor => true
  | wordEdge => true

/-- Whether a symbol may stand in brackets. They hold characters, so what stands for a place in the
text is nothing to them. -/
def fitsBrackets (flags : Flags) : Symbol → Bool
  | literal c _ => if flags.unicode then !flags.caseless else c.toNat < 0x80
  | kind negated => !flags.unicode && !negated
  | _ => false

/-! ## Escapes

An escape is a number in hexadecimal digits, or one character. The digits may be apart where the
flags leave out blanks. -/

/-- The letters of the control characters that have one. -/
def controls : List (Char × Char) :=
  [('a', '\x07'), ('f', '\x0c'), ('t', '\t'), ('n', '\n'), ('r', '\r'), ('v', '\x0b')]

/-- How many hexadecimal digits stand behind a letter. -/
def hexLength? (letter : Char) : Option Nat :=
  if letter = 'x' then some 2
  else if letter = 'u' then some 4
  else if letter = 'U' then some 8
  else none

/-- Reads as many hexadecimal digits as are asked for, behind those worth `value`. -/
def readHex (flags : Flags) : Nat → Nat → List Char → Option (Nat × List Char)
  | 0, value, cs => some (value, cs)
  | count + 1, value, cs =>
    match flags.skip cs with
    | [] => none
    | c :: cs => do
      let digit ← Text.digitValue? c
      readHex flags count (value * 16 + digit) cs

/-- Reads a character by its number, behind the letter for the length of the number. -/
def readNumbered (flags : Flags) (count : Nat) (cs : List Char) :
    Option (Symbol × List Char) := do
  let (value, cs) ← readHex flags count 0 cs
  if value.isValidChar then some (literal (Char.ofNat value) (count = 2), cs) else none

/-- What an escape of one character stands for. Any ASCII character stands for itself that is no
letter and no digit; of a property nothing is known. -/
def ofEscaped? (c : Char) : Option Symbol :=
  if c ∈ ['d', 's', 'w'] then some (kind false)
  else if c ∈ ['D', 'S', 'W'] then some (kind true)
  else if c ∈ ['A', 'z'] then some anchor
  else if c ∈ ['b', 'B', '<', '>'] then some wordEdge
  else if c.isAlphanum then (controls.lookup c).map fun control => literal control false
  else if c.toNat < 0x80 then some (literal c false)
  else none

/-- Reads an escape behind its backslash. -/
def readEscape (flags : Flags) : List Char → Option (Symbol × List Char)
  | [] => none
  | c :: cs =>
    match hexLength? c with
    | some count => readNumbered flags count cs
    | none => (ofEscaped? c).map fun symbol => (symbol, cs)

end Symbol

end TunnelOptions.Log.Pattern
