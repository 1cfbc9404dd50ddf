/-!
# Blanks, comments and line ends

Everything that may stand between the parts of a document, and means nothing. What may stand there
depends on the place. Inside a line there are spaces and tabs. At the end of a line there may be a
comment as well, and then the line must end. Inside an array lines do not count, and all of it may
stand between two items, in any number.

A line break has one character or two, and the first of the two is nothing alone. In a comment and
in a string the same characters are visible, which is why that is said here.

The functions that pass over something and always can answer with the rest of the text; those that
can find something that must not be there answer with an `Option`.

* `readChar`: reads one character that must come.
* `isBlank`, `isVisible`: the characters that mean nothing, and those that may stand for themselves.
* `skipBlanks`: passes over spaces and tabs on one line.
* `readNewline`, `readLineEnd`: a line break, and the end of a line, perhaps after blanks and a
  comment.
* `skipGap`: passes over blanks, comments and line ends between the items of an array.
-/

set_option autoImplicit false

namespace TunnelOptions.Toml

/-- Reads one character that must come. -/
def readChar (c : Char) : List Char → Option (List Char)
  | [] => none
  | d :: cs => if d = c then some cs else none

/-- Whether a character is a space or a tab. -/
def isBlank (c : Char) : Bool :=
  c = ' ' || c = '\t'

/-- Whether a character may stand for itself on a line: it is a tab or no control character of
ASCII. -/
def isVisible (c : Char) : Bool :=
  c = '\t' || (0x20 ≤ c.toNat && c.toNat ≠ 0x7f)

/-- The text without the blanks in front of it. -/
def skipBlanks (cs : List Char) : List Char :=
  cs.dropWhile isBlank

/-- Whether a character is the first of a line break of two, given what follows it. -/
def isReturnBefore (c : Char) (cs : List Char) : Bool :=
  c = '\r' && cs.head? = some '\n'

/-- Reads a line break, of either sort. A carriage return alone is none. -/
def readNewline : List Char → Option (List Char)
  | '\n' :: cs => some cs
  | '\r' :: '\n' :: cs => some cs
  | _ => none

/-- The text without a comment in front of it. -/
def skipComment : List Char → List Char
  | '#' :: cs => cs.dropWhile isVisible
  | cs => cs

/-- Reads the end of a line: perhaps blanks, perhaps a comment, and a line break or nothing more. -/
def readLineEnd (cs : List Char) : Option (List Char) :=
  match skipComment (skipBlanks cs) with
  | [] => some []
  | cs => readNewline cs

/-- Passes over blanks, comments and line breaks. A comment must end with a line break. -/
def skipGap (inComment : Bool) : List Char → Option (List Char)
  | [] => if inComment then none else some []
  | c :: cs =>
    if c = '\n' then skipGap false cs
    else if isReturnBefore c cs then skipGap inComment cs
    else if inComment then if isVisible c then skipGap true cs else none
    else if isBlank c then skipGap false cs
    else if c = '#' then skipGap true cs
    else some (c :: cs)

end TunnelOptions.Toml
