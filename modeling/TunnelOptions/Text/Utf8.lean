/-!
# Reading any bytes as UTF-8

Bytes that are meant as text and are none still have to be shown. Bytes are read one at a time.
Between characters nothing is owed; inside one, `Pending` says how many continuation bytes are still
owed and between which bounds the next one must lie, which rules out overlong forms, surrogates and
numbers above the last code point as early as possible.

How early matters, because it decides how many replacement characters there are: one for every
maximal piece that begins a character and does not finish it, and one for every byte that begins
none. A byte that does not continue the character under way is therefore looked at twice, as its
continuation and then as the beginning of another.

* `firstByte`, `nextByte`: what a byte does, between characters and inside one.
* `decodeLossy`: any bytes as a text.
-/

set_option autoImplicit false

namespace TunnelOptions.Text

/-- A character under way: what has been read of it, and what may come next. The bounds of the next
byte say everything that rules a sequence out before it is complete. -/
structure Pending where
  /-- The bits read so far. -/
  bits : Nat
  /-- How many continuation bytes follow the next one. -/
  more : Nat
  /-- The least value of the next byte. -/
  low : Nat := 0x80
  /-- The greatest value of the next byte. -/
  high : Nat := 0xbf

/-- What one byte does, as the first of a character or as the next. -/
inductive Utf8Step where
  /-- It ends a character. -/
  | done (c : Char)
  /-- It leaves a character under way. -/
  | go (pending : Pending)
  /-- It cannot stand here. -/
  | refused

/-- The byte that begins a character. -/
def firstByte (byte : Nat) : Utf8Step :=
  if byte < 0x80 then .done (Char.ofNat byte)
  else if byte < 0xc2 then .refused
  else if byte < 0xe0 then .go { bits := byte - 0xc0, more := 0 }
  else if byte = 0xe0 then .go { bits := 0, more := 1, low := 0xa0 }
  else if byte = 0xed then .go { bits := 0xd, more := 1, high := 0x9f }
  else if byte < 0xf0 then .go { bits := byte - 0xe0, more := 1 }
  else if byte = 0xf0 then .go { bits := 0, more := 2, low := 0x90 }
  else if byte < 0xf4 then .go { bits := byte - 0xf0, more := 2 }
  else if byte = 0xf4 then .go { bits := 4, more := 2, high := 0x8f }
  else .refused

/-- The next byte of a character under way. -/
def nextByte (p : Pending) (byte : Nat) : Utf8Step :=
  if p.low ≤ byte ∧ byte ≤ p.high then
    let bits := p.bits * 64 + (byte - 0x80)
    match p.more with
    | 0 => .done (Char.ofNat bits)
    | more + 1 => .go { bits, more }
  else .refused

/-- What stands for bytes that are no character. -/
def replacement : Char := '\ufffd'

/-- Reads the rest of any bytes, the character `pending` being under way. A byte that cannot go on
with the character under way ends it unfinished and is read again as a first byte. -/
def decodeLossyFrom : Option Pending → List UInt8 → List Char
  | none, [] => []
  | some _, [] => [replacement]
  | pending, byte :: bytes =>
    let fresh (step : Utf8Step) : List Char := match step with
      | .done c => c :: decodeLossyFrom none bytes
      | .go p => decodeLossyFrom (some p) bytes
      | .refused => replacement :: decodeLossyFrom none bytes
    match pending with
    | none => fresh (firstByte byte.toNat)
    | some p =>
      match nextByte p byte.toNat with
      | .done c => c :: decodeLossyFrom none bytes
      | .go p => decodeLossyFrom (some p) bytes
      | .refused => replacement :: fresh (firstByte byte.toNat)

/-- Any bytes as a text, with replacement characters for what is not UTF-8. -/
def decodeLossy (bytes : List UInt8) : String :=
  String.ofList (decodeLossyFrom none bytes)

end TunnelOptions.Text
