/-!
# Decimal numbers as texts

A decimal number is an optional sign, digits with a point anywhere among them or none, and an
optional exponent; or, in any case, a word for what no digits express.

A log filter may ask for a value of a field, and the value is taken for a number when its text is
one. Here it is only said whether it is. What number it is matters to nobody: a directive that asks
for a value can match no event of this library, so all that its value can do is to be well formed.

* `dropSign`, `isDigits`, `isExponent`, `isFraction`: the parts, each on what the one before left.
* `isDecimal`: whether a text is a decimal number.
-/

set_option autoImplicit false

namespace TunnelOptions.Number

/-- The text behind a sign, if there is one. -/
def dropSign : List Char → List Char
  | '+' :: cs => cs
  | '-' :: cs => cs
  | cs => cs

/-- Whether a text is digits and at least one. -/
def isDigits (cs : List Char) : Bool :=
  !cs.isEmpty && cs.all Char.isDigit

/-- Whether a text is an exponent or nothing. -/
def isExponent : List Char → Bool
  | [] => true
  | c :: cs => (c = 'e' || c = 'E') && isDigits (dropSign cs)

/-- Whether a text is a point, digits and an exponent, of which any may be missing. -/
def isFraction : List Char → Bool
  | '.' :: cs => isExponent (cs.dropWhile Char.isDigit)
  | cs => isExponent cs

/-- Whether a text starts with a digit, or with a point and a digit. -/
def startsDigits : List Char → Bool
  | '.' :: cs => cs.head?.any Char.isDigit
  | cs => cs.head?.any Char.isDigit

/-- The words for infinity and for what is no number. -/
def words : List String :=
  ["inf", "infinity", "nan"]

/-- Whether a text is a decimal number: a word or digits, with or without a sign. Which number it is
does not matter here. -/
def isDecimal (cs : List Char) : Bool :=
  let cs := dropSign cs
  String.ofList (cs.map Char.toLower) ∈ words
    || (startsDigits cs && isFraction (cs.dropWhile Char.isDigit))

end TunnelOptions.Number
