import TunnelOptions.Toml.Quoted.Form

/-!
# Keys

A part of a key is bare or quoted; a dotted key is parts with dots between them, and leads through
tables. A part is quoted when it has a character that may not stand bare, or when it is empty; it is
always on one line, so of the four forms of a string only two are used.

The number of parts is bounded, as is the nesting of values, and for the same reason: what a
document leads into must be of bounded depth. The bound is the fuel of the reader, so there is no
other.

* `Key.readPath`: reads a dotted key, with the blanks around it.
* `Key.write`, `Key.writePath`: a part in its simplest form, and a dotted key.
-/

set_option autoImplicit false

namespace TunnelOptions.Toml.Key

/-- Whether a character may stand in a bare key. Digits are among them, so a bare key may look like
a number. -/
def isBare (c : Char) : Bool :=
  c.isAlphanum || c = '_' || c = '-'

/-! ## Reading -/

/-- Reads one part of a key. A part that is not bare is a string of one of the forms on one line,
which may be empty. -/
def readPart (cs : List Char) : Option (String × List Char) :=
  match cs.takeWhile isBare with
  | [] => Quoted.readOneLine cs
  | bare => some (String.ofList bare, cs.dropWhile isBare)

/-- Reads at most `fuel` parts, and the blanks around each. -/
def readParts : Nat → List Char → Option (List String × List Char)
  | 0, _ => none
  | fuel + 1, cs => do
    let (part, cs) ← readPart (skipBlanks cs)
    match skipBlanks cs with
    | '.' :: cs => do
      let (parts, cs) ← readParts fuel cs
      some (part :: parts, cs)
    | cs => some ([part], cs)

/-- The greatest number of parts that a dotted key may have. It is a bound of the reader and not of
the language. -/
def maxParts : Nat := 79

/-- Reads a dotted key, with the blanks around it. -/
def readPath (cs : List Char) : Option (List String × List Char) :=
  readParts maxParts cs

/-! ## Writing -/

/-- A part of a key: bare where that will do, else quoted on one line. -/
def write (key : String) : List Char :=
  let cs := key.toList
  if cs ≠ [] ∧ cs.all isBare then cs
  else if Quoted.Form.basic.fits cs then Quoted.Form.basic.write cs
  else if Quoted.Form.literal.fits cs then Quoted.Form.literal.write cs
  else Quoted.Form.basic.write cs

/-- A dotted key, its parts written one by one, without blanks around the dots. -/
def writePath : List String → List Char
  | [] => []
  | [key] => write key
  | key :: path => write key ++ '.' :: writePath path

end TunnelOptions.Toml.Key
