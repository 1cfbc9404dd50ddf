/-!
# Decimal integer literals of 64 bits

A literal is an optional sign and one or more ASCII digits. It is read from left to right over exact
integers, and the first thing wrong with it decides: a character that is no digit, or a value that
has just left the range of 64 bits. So a text that is wrong in both ways is refused for the one that
comes first in it.

The integers of the reader are exact, and the range is checked after each digit. That is the same as
checking every multiplication and addition of bounded integers, because a value that has left the
range on the way can never come back into it; and it leaves the reader a plain recursion with the
value so far, about which an induction is easy. The negative numbers are read with digits that weigh
minus one and not by negating at the end, since the least integer has no positive counterpart.

An attribute of 32 bits takes the 64-bit value and asks whether it fits, so there are two different
faults: a literal that is too large for 64 bits is no integer, and one that is too large for 32 is
an integer out of range.

* `LiteralFault`: what keeps a text from being a literal, with its wording.
* `readLiteral`, `readInt64`: the value of a literal, or what is wrong with the text.
* `narrow`, `widen`: the same value in 32 bits, where it fits, and back.
-/

set_option autoImplicit false

namespace TunnelOptions.Number

/-- What keeps a text from being a 64-bit integer literal. Of several things the first from the left
counts, so a literal can be too large although a later character is no digit. -/
inductive LiteralFault where
  /-- There is nothing to read. -/
  | empty
  /-- A character is no digit, or a sign stands alone. -/
  | badDigit
  /-- The value is above the greatest 64-bit integer. -/
  | tooLarge
  /-- The value is below the least 64-bit integer. -/
  | tooSmall
  deriving DecidableEq, Repr

/-- The wording of a fault. -/
def LiteralFault.message : LiteralFault → String
  | .empty => "cannot parse integer from empty string"
  | .badDigit => "invalid digit found in string"
  | .tooLarge => "number too large to fit in target type"
  | .tooSmall => "number too small to fit in target type"

/-- The least 64-bit integer. -/
def leastInt64 : Int := -0x8000000000000000

/-- The greatest 64-bit integer. -/
def greatestInt64 : Int := 0x7fffffffffffffff

/-- The value of a digit. -/
def digitValue (c : Char) : Int :=
  c.toNat - '0'.toNat

/-- Reads digits after those worth `value`; every digit weighs `sign`. -/
def readDigits (sign : Int) : Int → List Char → Except LiteralFault Int
  | value, [] => .ok value
  | value, c :: cs =>
    if c.isDigit then
      let next := value * 10 + sign * digitValue c
      if greatestInt64 < next then .error .tooLarge
      else if next < leastInt64 then .error .tooSmall
      else readDigits sign next cs
    else .error .badDigit

/-- Reads the digits after a sign, of which there must be one. -/
def readSigned (sign : Int) : List Char → Except LiteralFault Int
  | [] => .error .badDigit
  | cs => readDigits sign 0 cs

/-- The exact value of a 64-bit literal: digits with or without one sign in front, and nothing
around them. There may be needless zeros. -/
def readLiteral : List Char → Except LiteralFault Int
  | [] => .error .empty
  | '+' :: cs => readSigned 1 cs
  | '-' :: cs => readSigned (-1) cs
  | cs => readDigits 1 0 cs

/-- The value of a literal as a 64-bit integer. -/
def readInt64 (cs : List Char) : Except LiteralFault Int64 :=
  (readLiteral cs).map Int64.ofInt

/-- The same value in 32 bits, where it fits. Nothing stands for one that does not, least of all the
bits that would. -/
def narrow (n : Int64) : Option Int32 :=
  if -0x80000000 ≤ n.toInt ∧ n.toInt < 0x80000000 then some (Int32.ofInt n.toInt) else none

/-- The 32-bit integer as one of 64 bits. -/
def widen (n : Int32) : Int64 :=
  Int64.ofInt n.toInt

theorem toInt_widen (n : Int32) : (widen n).toInt = n.toInt := by
  have hlow := n.le_toInt
  have hhigh := n.toInt_lt
  exact Int64.toInt_ofInt_of_le (by omega) (by omega)

end TunnelOptions.Number
