import TunnelOptions.Toml.Quoted

/-!
# How a string is written

A string could always be written on one line with escapes. It is written for a reader, so of the
four forms the simplest that needs no escapes is taken; if none will do, one with escapes, over
several lines when the string has some.

What a form can hold as it is depends on the characters, and for blocks on the quotes in a row,
since three of them would end the block. That is a question of its own, `Form.fits`, and the choice
only asks it. Writing in a form does not depend on why it was chosen: both forms with escapes can
hold any text, so that reading back has to be shown for any text too.

* `Form.fits`, `Form.of`: what a form can hold, and the form of a string.
* `escape`, `escapeBlock`: characters with escapes, on a line and in a block.
* `write`: a string in its form.
-/

set_option autoImplicit false

namespace TunnelOptions.Toml.Quoted

/-- The forms of a string. Two of them stand on one line and two may go over several; in one of each
two there are escapes. -/
inductive Form where
  /-- Between double quotes. -/
  | basic
  /-- Between single quotes. -/
  | literal
  /-- Between triple double quotes. -/
  | basicBlock
  /-- Between triple single quotes. -/
  | literalBlock
  deriving DecidableEq, Repr

/-! ## The choice -/

/-- The length of the longest run of `quote`, `run` of them having come just before. -/
def longestRun (quote : Char) (run : Nat) : List Char → Nat
  | [] => run
  | c :: cs =>
    if c = quote then longestRun quote (run + 1) cs else max run (longestRun quote 0 cs)

/-- Whether a form can hold a text as it is, that is without a single escape, also where escapes
would be allowed. -/
def Form.fits (text : List Char) : Form → Bool
  | .basic => text.all fun c => isVisible c && c ≠ '"' && c ≠ '\\'
  | .literal => text.all fun c => isVisible c && c ≠ '\''
  | .basicBlock =>
    (text.all fun c => (isVisible c || c = '\n') && c ≠ '\\') && longestRun '"' 0 text ≤ 2
  | .literalBlock =>
    (text.all fun c => isVisible c || c = '\n') && longestRun '\'' 0 text ≤ 2

/-- The form of a text: the first that can hold it as it is, or one with escapes. -/
def Form.of (text : List Char) : Form :=
  if basic.fits text then .basic
  else if literal.fits text then .literal
  else if basicBlock.fits text then .basicBlock
  else if literalBlock.fits text then .literalBlock
  else if '\n' ∈ text then .basicBlock
  else .basic

/-! ## Escapes

In a block with escapes quotes stand for themselves as long as there are no three in a row, so what
is written of a quote depends on how many came just before. -/

/-- A hexadecimal digit, in upper case. -/
def hexDigit (n : Nat) : Char :=
  (Nat.digitChar n).toUpper

/-- A control character of ASCII by its number, on four places. -/
def escapeByNumber (c : Char) : List Char :=
  ['\\', 'u', '0', '0', hexDigit (c.toNat / 16), hexDigit (c.toNat % 16)]

/-- How a character is written where escapes are allowed. A tab needs no escape but gets one. -/
def escape (c : Char) : List Char :=
  match c with
  | '\x08' => ['\\', 'b']
  | '\t' => ['\\', 't']
  | '\n' => ['\\', 'n']
  | '\x0c' => ['\\', 'f']
  | '\r' => ['\\', 'r']
  | '"' => ['\\', '"']
  | '\\' => ['\\', '\\']
  | c => if isVisible c then [c] else escapeByNumber c

/-- A text inside a block with escapes, after a run of quotes that stand for themselves: a third
quote in a row is escaped. -/
def escapeBlock (run : Nat) : List Char → List Char
  | [] => []
  | c :: cs =>
    if c = '"' then
      if run < 2 then '"' :: escapeBlock (run + 1) cs else '\\' :: '"' :: escapeBlock 0 cs
    else if c = '\n' then '\n' :: escapeBlock 0 cs
    else escape c ++ escapeBlock 0 cs

/-! ## Writing -/

/-- The line break after the opening quotes of a block, for a text that has line breaks itself. -/
def opening (text : List Char) : List Char :=
  if '\n' ∈ text then ['\n'] else []

/-- A text in a form. In one without escapes it must fit; the two others take every text. -/
def Form.write (text : List Char) : Form → List Char
  | .basic => '"' :: text.flatMap escape ++ ['"']
  | .literal => '\'' :: text ++ ['\'']
  | .basicBlock => ['"', '"', '"'] ++ opening text ++ escapeBlock 0 text ++ ['"', '"', '"']
  | .literalBlock => ['\'', '\'', '\''] ++ opening text ++ text ++ ['\'', '\'', '\'']

/-- A string in its form, with the quotes. What is written is read back as the string, whatever is
in it. -/
def write (s : String) : List Char :=
  (Form.of s.toList).write s.toList

end TunnelOptions.Toml.Quoted
