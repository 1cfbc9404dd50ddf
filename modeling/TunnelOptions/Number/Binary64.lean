/-!
# Binary floating-point numbers of 64 bits

No option takes a number with a fraction, but a settings file may hold one. It has to be read, so
that the file can be; it has to be written back when the settings are saved; and it has to be
compared when two settings are.

A number is its bits. Reading a decimal rounds the exact quotient to the nearest number, a tie going
to the even mantissa; writing takes the fewest digits that read back as the same bits, and no
exponent. Both are done with exact fractions of natural numbers: rounding happens in one place,
`roundQuotient`, and the search for the fewest digits simply reads each candidate back.

The bits of two neighbouring magnitudes are neighbouring numbers, across powers of two and up to
infinity. That is why a mantissa that rounds up needs no case of its own.

* `Binary64.ofDecimal`: the number nearest to `digits * 10 ^ exponent`.
* `Binary64.sameNumber`: equality of numbers.
* `Binary64.text`: its positional decimal text.
-/

set_option autoImplicit false

namespace TunnelOptions.Number

/-- A number by its bits: a sign, eleven bits of exponent and fifty-two of mantissa. All that is
asked of a number is worked out from them in integers, so nothing is rounded but where it is said.
-/
structure Binary64 where
  bits : UInt64
  deriving DecidableEq, Repr

namespace Binary64

/-- The bit of the sign. -/
def signBit : Nat := 0x8000000000000000

/-- The bit in front of a mantissa, which is the lowest bit of the exponent. -/
def leadingBit : Nat := 0x10000000000000

/-- Puts a sign before the bits of a magnitude. -/
def withSign (negative : Bool) (magnitude : Nat) : Binary64 :=
  ⟨UInt64.ofNat (if negative then signBit + magnitude else magnitude)⟩

/-- The bits of infinity, which are those of the greatest exponent and no mantissa. -/
def infinityBits : Nat := 0x7ff * leadingBit

/-- Infinity with a sign. -/
def infinity (negative : Bool) : Binary64 :=
  withSign negative infinityBits

/-- The quiet value that is no number, with a sign. -/
def notANumber (negative : Bool) : Binary64 :=
  withSign negative (infinityBits + leadingBit / 2)

/-- Whether the sign is minus. -/
def isNegative (x : Binary64) : Bool :=
  signBit ≤ x.bits.toNat

/-- The bits without the sign. -/
def magnitude (x : Binary64) : Nat :=
  x.bits.toNat % signBit

/-- Whether the bits stand for no number. -/
def isNaN (x : Binary64) : Bool :=
  infinityBits < x.magnitude

/-- Whether the number is infinite. -/
def isInfinite (x : Binary64) : Bool :=
  x.magnitude == infinityBits

/-- Equality of numbers: nothing equals what is no number, and the two zeros are equal. This is not
equality of bits in either direction. -/
def sameNumber (x y : Binary64) : Bool :=
  !x.isNaN && !y.isNaN && (x == y || (x.magnitude == 0 && y.magnitude == 0))

/-! ## Reading a decimal

A decimal is a fraction, and what is looked for is the mantissa and the exponent of the number
nearest to it. The exponent is found first, from the logarithm of the fraction; it is held above
that of the least number, where mantissas get shorter. -/

/-- The quotient rounded to the nearest integer, a tie to the even one. What a decimal loses in
being read it loses here, unless it is out of range altogether. -/
def roundQuotient (num den : Nat) : Nat :=
  let q := num / den
  let twice := 2 * (num % den)
  if twice < den then q
  else if den < twice then q + 1
  else if q % 2 = 0 then q else q + 1

/-- The fraction `num / den` multiplied by `base ^ e`. -/
def scale (base : Nat) (e : Int) (num den : Nat) : Nat × Nat :=
  match e with
  | .ofNat k => (num * base.pow k, den)
  | .negSucc k => (num, den * base.pow (k + 1))

/-- The greatest `e` with `2 ^ e ≤ num / den`, for a positive fraction. -/
def floorLog2 (num den : Nat) : Int :=
  let e : Int := num.log2 - den.log2
  let (n, d) := scale 2 (-e) num den
  if d ≤ n then e else e - 1

/-- The magnitude nearest to a positive fraction. A mantissa that rounds up to the next power of
two carries into the exponent by itself. -/
def roundFraction (num den : Nat) : Nat :=
  let e := max (-1074) (floorLog2 num den - 52)
  let (n, d) := scale 2 (-e) num den
  let mantissa := roundQuotient n d
  min infinityBits (if mantissa < leadingBit then mantissa
    else mantissa + (e + 1074).toNat * leadingBit)

/-- The number nearest to `digits * 10 ^ exponent`. A decimal far outside the range is not worked
out: it is infinite or zero by the place of its first digit. -/
def ofDecimal (negative : Bool) (digits : Nat) (exponent : Int) : Binary64 :=
  let place : Int := (Nat.toDigits 10 digits).length + exponent
  if digits = 0 then withSign negative 0
  else if 400 < place then infinity negative
  else if place < -400 then withSign negative 0
  else
    let (n, d) := scale 10 exponent digits 1
    withSign negative (roundFraction n d)

/-! ## Writing

For each count of digits there is a grid of decimals around the number, and at most two points of it
can be the ones that read back. The counts are tried in turn. -/

/-- The exact value of a finite magnitude, as a fraction. -/
def fraction (magnitude : Nat) : Nat × Nat :=
  let exponent : Nat := magnitude / leadingBit
  let mantissa : Nat := magnitude % leadingBit
  if exponent = 0 then scale 2 (-1074) mantissa 1
  else scale 2 ((exponent : Int) - 1075) (mantissa + leadingBit) 1

/-- The greatest `e` with `10 ^ e ≤ num / den`, for a positive fraction. -/
def floorLog10 (num den : Nat) : Int :=
  let e : Int := (Nat.toDigits 10 num).length - (Nat.toDigits 10 den).length
  let (n, d) := scale 10 (-e) num den
  if d ≤ n then e else e - 1

/-- Leaves a last zero to the place. A value just below a power of ten has one, when it is rounded
up to that power. -/
def dropZero (digits : Nat) (place : Int) : Nat × Int :=
  if digits % 10 = 0 then (digits / 10, place + 1) else (digits, place)

/-- The decimal on the grid of `count` digits that reads back as `magnitude`, if there is one: its
digits and the place of the last one. Of two such neighbours the nearer is taken, and of two
equally near ones the greater. -/
def onGrid? (magnitude count : Nat) : Option (Nat × Int) :=
  let (num, den) := fraction magnitude
  let place := floorLog10 num den - (count : Int) + 1
  let (n, d) := scale 10 (-place) num den
  let reads (digits : Nat) : Bool := (ofDecimal false digits place).magnitude == magnitude
  let below := n / d
  let nearest := (2 * n + d) / (2 * d)
  let other := if nearest = below then below + 1 else below
  if reads nearest then some (dropZero nearest place)
  else if reads other then some (dropZero other place)
  else none

/-- The decimal of fewest digits that reads back as a positive finite magnitude. Seventeen digits
always do. -/
def shortest (magnitude : Nat) : Nat × Int :=
  ((List.range 17).findSome? fun i => onGrid? magnitude (i + 1)).getD (0, 0)

/-- `digits * 10 ^ place` in positional notation, with a point and a digit on each side of it. -/
def positional (digits : Nat) (place : Int) : List Char :=
  let ds := Nat.toDigits 10 digits
  match place with
  | .ofNat k => ds ++ List.replicate k '0' ++ ['.', '0']
  | .negSucc k =>
    let padded := List.replicate (k + 2 - ds.length) '0' ++ ds
    let whole := padded.length - (k + 1)
    padded.take whole ++ '.' :: padded.drop whole

/-- The text of a number: the fewest digits that read back, in positional notation. What is no
number has one text, whatever its sign. -/
def text (x : Binary64) : List Char :=
  if x.isNaN then ['n', 'a', 'n']
  else
    (if x.isNegative then ['-'] else []) ++
      if x.isInfinite then ['i', 'n', 'f']
      else if x.magnitude = 0 then ['0', '.', '0']
      else
        let (digits, place) := shortest x.magnitude
        positional digits place

end Binary64

end TunnelOptions.Number
