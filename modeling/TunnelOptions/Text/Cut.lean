/-!
# Texts cut at places given in bytes

The reader of log filters notes where the pieces of a directive begin and end, and it notes them in
bytes, while everything else here takes texts character by character. These functions are where the
two meet: they cut a list of characters at a place that is counted in the bytes of its encoding.

A place can lie inside a character. Then the character belongs to neither side of it: what is behind
the place starts with the next one, and what is in front ends with the one before. Whoever notes a
place at the start of a character never sees that.

* `dropBytes`, `takeBytes`: the text behind and in front of a place.
* `slice`: the text between two places.
-/

set_option autoImplicit false

namespace TunnelOptions.Text

/-- The text behind its first `n` bytes. A character that begins before the place is left out whole,
wherever it ends. -/
def dropBytes : Nat → List Char → List Char
  | _, [] => []
  | n, c :: cs => if n = 0 then c :: cs else dropBytes (n - c.utf8Size) cs

/-- The characters that lie within the first `n` bytes, each of them as a whole. -/
def takeBytes : Nat → List Char → List Char
  | _, [] => []
  | n, c :: cs => if c.utf8Size ≤ n then c :: takeBytes (n - c.utf8Size) cs else []

/-- The text from byte `start` up to byte `stop`. -/
def slice (cs : List Char) (start stop : Nat) : List Char :=
  takeBytes (stop - start) (dropBytes start cs)

end TunnelOptions.Text
