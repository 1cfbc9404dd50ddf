/-!
# Digits

Digits are read at several places and in four bases: in numerals of a document, and in the escapes
of quoted strings there and of patterns in a log filter. All of them are the digits up to some base
of the one hexadecimal alphabet, in either case.

* `digitValue?`: the value of a hexadecimal digit.
* `digitBelow?`: the value of a digit of a base up to sixteen.
-/

set_option autoImplicit false

namespace TunnelOptions.Text

/-- The value of a hexadecimal digit, in either case. -/
def digitValue? (c : Char) : Option Nat :=
  if c.isDigit then some (c.toNat - '0'.toNat)
  else if 'a' ≤ c ∧ c ≤ 'f' then some (c.toNat - 'a'.toNat + 10)
  else if 'A' ≤ c ∧ c ≤ 'F' then some (c.toNat - 'A'.toNat + 10)
  else none

/-- The value of a digit of a base. -/
def digitBelow? (base : Nat) (c : Char) : Option Nat :=
  (digitValue? c).filter (· < base)

end TunnelOptions.Text
