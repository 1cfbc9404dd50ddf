/-!
# Sets of characters as tables of ranges

Some classes of characters follow no rule and have to be listed. They are listed as tables of ranges
of code points with both ends in them, in ascending order, and each class is split into three tables
by the length of the numbers, so that a table can be read with some hope of finding a mistake in it.

Nothing is proved of what is in a table. A proof that needs to know of a character has it decided by
evaluating the class at that character, or needs only that visible ASCII is no matter for a table.

* `inRanges`: whether a code point lies in one of a table's closed ranges.
-/

set_option autoImplicit false

namespace TunnelOptions.Text

/-- Whether `n` lies in one of the closed ranges of `table`. -/
def inRanges (table : List (Nat × Nat)) (n : Nat) : Bool :=
  table.any fun range => range.1 ≤ n && n ≤ range.2

end TunnelOptions.Text
