import TunnelOptions.Text.Hidden

/-!
# Quoted texts

A text that is shown to a reader stands between double quotes, and the reader must be able to tell
where it ends. So it holds no raw quote and no raw line break: the quote, the backslash and the
common control characters are escaped by name, and the other characters of `isHidden` by their
number between braces.

What is written for a character does not depend on what is next to it. So the text of a string is
the texts of its characters in a row, and what is proved of quoting is proved character by
character.

* `escape`: how one character is written inside the quotes.
* `quoteChars`, `quote`: a text in quotes.
-/

set_option autoImplicit false

namespace TunnelOptions.Text

/-- How one character is written inside the quotes: by a letter, by its number, or as it is. The
space and the letters of any script are among those that are written as they are. -/
def escape (c : Char) : List Char :=
  match c with
  | '"' => ['\\', '"']
  | '\\' => ['\\', '\\']
  | '\n' => ['\\', 'n']
  | '\r' => ['\\', 'r']
  | '\t' => ['\\', 't']
  | '\x00' => ['\\', '0']
  | c =>
    if isHidden c then ['\\', 'u', '\x7b'] ++ Nat.toDigits 16 c.toNat ++ ['\x7d'] else [c]

/-- The characters of a quoted text. -/
def quoteChars (cs : List Char) : List Char :=
  '"' :: cs.flatMap escape ++ ['"']

/-- A text in quotes, as it is shown wherever it must be seen where the text ends. -/
def quote (s : String) : String :=
  String.ofList (quoteChars s.toList)

end TunnelOptions.Text
