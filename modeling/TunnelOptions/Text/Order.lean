/-!
# The order of texts

Where texts are sorted, they are sorted by the bytes of their encoding. That is an order of the
texts too, since two texts with the same bytes are the same; it is not the order of any alphabet. A
sorted collection of options has its keys in it, and a log filter falls back on it when nothing else
says which of two directives is the more specific.

* `bytesLe`: whether a text comes no later than another.
* `allBytesLe`: the same for lists of texts, of which the first that differ decide.
-/

set_option autoImplicit false

namespace TunnelOptions.Text

/-- The bytes of a text. -/
def bytes (s : String) : List UInt8 :=
  s.toUTF8.data.toList

/-- Whether `a` comes no later than `b` by their bytes. Capital letters come before small ones, and
both before all letters that are not ASCII. -/
def bytesLe (a b : String) : Bool :=
  bytes a ≤ bytes b

/-- Whether a list of texts comes no later than another: the first texts that differ decide, and
of two lists that start alike the shorter comes first. -/
def allBytesLe : List String → List String → Bool
  | [], _ => true
  | _ :: _, [] => false
  | a :: as, b :: bs => if a = b then allBytesLe as bs else bytesLe a b

end TunnelOptions.Text
