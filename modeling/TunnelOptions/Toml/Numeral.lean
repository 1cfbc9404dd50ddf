import TunnelOptions.Number.Binary64
import TunnelOptions.Number.Literal
import TunnelOptions.Text.Digit

/-!
# Numbers

An integer is decimal with an optional sign, or hexadecimal, octal or binary after a mark. A number
with a point or an exponent is a float. Single underscores may stand between digits.

A decimal integer and a float begin alike, so their first digits are read together and the next
character decides. The digits are collected as characters, without the underscores, and only then
become a number: an integer through the reader of literals, which knows the range, and a float
through the one place where decimals are rounded.

The words for what has no digits are read in front of everything else behind a sign, since no number
begins with a letter.

* `Numeral`: an integer or a float.
* `Numeral.readRun`, `Numeral.readWhole`: runs of digits.
* `Numeral.read`: reads a number and says what follows it.
-/

set_option autoImplicit false

namespace TunnelOptions.Toml

/-- A number as TOML tells them apart. What has a point or an exponent is a float, also where it
stands for an integer. -/
inductive Numeral where
  | integer (n : Int64)
  | float (x : Number.Binary64)
  deriving DecidableEq, Repr

namespace Numeral

/-! ## Digits

An underscore must have a digit on both sides. The one in front has been read when it is met, so a
look at the next character is enough. -/

/-- Reads more digits of a run, in which each underscore must stand between two digits. The run is
left without its underscores. -/
def readMore (base : Nat) : List Char → Option (List Char × List Char)
  | [] => some ([], [])
  | c :: cs =>
    if (Text.digitBelow? base c).isSome then (readMore base cs).map fun (ds, cs) => (c :: ds, cs)
    else if c = '_' then
      match cs with
      | [] => none
      | d :: _ => if (Text.digitBelow? base d).isSome then readMore base cs else none
    else some ([], c :: cs)

/-- Reads a run of digits, of which there must be one. -/
def readRun (base : Nat) : List Char → Option (List Char × List Char)
  | [] => none
  | c :: cs => if (Text.digitBelow? base c).isSome then readMore base (c :: cs) else none

/-- Reads a run of decimal digits that does not start with a needless zero. -/
def readWhole : List Char → Option (List Char × List Char)
  | '0' :: cs => some (['0'], cs)
  | cs => readRun 10 cs

/-- The value of a run of digits, which is as large as it comes to. Whether it fits anywhere is
asked by who wanted it. -/
def valueOf (base : Nat) (digits : List Char) : Nat :=
  digits.foldl (fun value c => value * base + (Text.digitBelow? base c).getD 0) 0

/-! ## Integers -/

/-- The integer of a sign and its digits, within 64 bits. -/
def decimal? (sign digits : List Char) : Option Numeral :=
  match Number.readInt64 (sign ++ digits) with
  | .ok n => some (.integer n)
  | .error _ => none

/-- Reads the digits of an integer to another base than ten. -/
def readBased (base : Nat) (cs : List Char) : Option (Numeral × List Char) := do
  let (digits, cs) ← readRun base cs
  let n : Int := valueOf base digits
  if n ≤ Number.greatestInt64 then some (.integer (Int64.ofInt n), cs) else none

/-! ## Floats

Both sides of the point are digits of one number, and the point only moves the exponent. -/

/-- Reads a sign, if there is one. -/
def readSign : List Char → List Char × List Char
  | [] => ([], [])
  | c :: cs => if c = '+' ∨ c = '-' then ([c], cs) else ([], c :: cs)

/-- Reads the point and the digits of a fraction, if there is a point. -/
def readPoint : List Char → Option (List Char × List Char)
  | '.' :: cs => readRun 10 cs
  | cs => some ([], cs)

/-- Reads an exponent, if there is one. -/
def readExponent : List Char → Option (Int × List Char)
  | [] => some (0, [])
  | c :: cs =>
    if c = 'e' ∨ c = 'E' then do
      let (sign, cs) := readSign cs
      let (digits, cs) ← readRun 10 cs
      let n : Int := valueOf 10 digits
      some (if sign = ['-'] then -n else n, cs)
    else some (0, c :: cs)

/-- The float of a sign, the digits on both sides of the point, and an exponent. What is above the
greatest float is refused; what is below the least is minus infinity. -/
def float? (sign whole point : List Char) (exponent : Int) : Option Numeral :=
  let x := Number.Binary64.ofDecimal (sign = ['-']) (valueOf 10 (whole ++ point))
    (exponent - point.length)
  if x = Number.Binary64.infinity false then none else some (.float x)

/-- Whether a number goes on as a float after its first digits. -/
def isFloatMark : List Char → Bool
  | [] => false
  | c :: _ => c ∈ ['.', 'e', 'E']

/-- Reads a decimal number behind its sign. -/
def readDecimal (sign cs : List Char) : Option (Numeral × List Char) := do
  let (whole, cs) ← readWhole cs
  if isFloatMark cs then
    let (point, cs) ← readPoint cs
    let (exponent, cs) ← readExponent cs
    some (← float? sign whole point exponent, cs)
  else some (← decimal? sign whole, cs)

/-- Reads the word of a float that has no digits, behind its sign. -/
def readWord (sign : List Char) : List Char → Option (Numeral × List Char)
  | 'i' :: 'n' :: 'f' :: cs => some (.float (Number.Binary64.infinity (sign = ['-'])), cs)
  | 'n' :: 'a' :: 'n' :: cs => some (.float (Number.Binary64.notANumber (sign = ['-'])), cs)
  | _ => none

/-- Reads a number behind its sign: one of the two words for floats without digits, or a decimal
number. -/
def readSigned (sign cs : List Char) : Option (Numeral × List Char) :=
  match readWord sign cs with
  | some read => some read
  | none => readDecimal sign cs

/-- Reads a number and says what follows it. A number to another base than ten has no sign. -/
def read : List Char → Option (Numeral × List Char)
  | '0' :: 'x' :: cs => readBased 16 cs
  | '0' :: 'o' :: cs => readBased 8 cs
  | '0' :: 'b' :: cs => readBased 2 cs
  | cs =>
    let (sign, cs) := readSign cs
    readSigned sign cs

end Numeral

end TunnelOptions.Toml
