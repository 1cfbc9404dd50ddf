import TunnelOptions.Entries
import TunnelOptions.Text.Order
import TunnelOptions.Value

/-!
# Option maps

An option map holds option values under distinct keys, in the order in which the keys first came.
Writing a key again gives it the new value and leaves it in its place.

The order is kept because it is the order in which options are applied, and applying may stop half
way. Distinctness is a field of the structure: whatever is proved about a map may use that no key
comes twice, and nothing that is done to a map has to show it again.

There are two ways to make a map of a collection, and they differ in the order only. A collection
that comes in an order keeps it. One that has sorted its keys already, and has thrown away all but
the last value of each, is read in the order of the keys' bytes.

* `OptionMap.insert`: writes one entry and hands back the value that was there.
* `OptionMap.ofList`: the map of some pairs, written one after the other.
* `OptionMap.ofSorted`: the map of a collection that keeps its keys in the order of their bytes.
* `OptionMap.sameAs`: equality of maps, order included.
-/

set_option autoImplicit false

namespace TunnelOptions

/-- Option values under distinct keys, in the order in which the keys were first written. That the
keys are distinct is part of the map, and every way to make one proves it. -/
structure OptionMap where
  /-- The entries, the oldest key first. -/
  entries : List (String × Value)
  nodup : (Entries.keys entries).Nodup := by decide
  deriving DecidableEq

namespace OptionMap

/-- No entries. -/
def empty : OptionMap := { entries := [] }

/-- The keys, the oldest first. -/
def keys (map : OptionMap) : List String :=
  Entries.keys map.entries

/-- The value of a key. -/
def get? (map : OptionMap) (key : String) : Option Value :=
  Entries.get? key map.entries

/-- How many entries there are. -/
def size (map : OptionMap) : Nat :=
  map.entries.length

/-- Whether there are no entries. -/
def isEmpty (map : OptionMap) : Bool :=
  map.entries.isEmpty

/-- The map after writing one entry: a key that is there keeps its place and gets the new value, and
a new key goes behind all others. -/
def put (map : OptionMap) (key : String) (value : Value) : OptionMap :=
  { entries := Entries.put key value map.entries
    nodup := Entries.nodup_keys_put map.nodup key value }

/-- Writes one entry; also the value the key had before. -/
def insert (map : OptionMap) (key : String) (value : Value) : Option Value × OptionMap :=
  (map.get? key, map.put key value)

/-- The map of some pairs, written one after the other. Of the pairs under one key the place is that
of the first and the value that of the last. -/
def ofList (pairs : List (String × Value)) : OptionMap :=
  pairs.foldl (fun map pair => map.put pair.1 pair.2) empty

/-- The map of a sorted collection of some pairs: of equal keys the last value, and the keys in the
order of their bytes. -/
def ofSorted (pairs : List (String × Value)) : OptionMap :=
  ofList ((ofList pairs).entries.mergeSort fun a b => Text.bytesLe a.1 b.1)

/-- Equality of maps: the same keys in the same order with the same values. -/
def sameAs (a b : OptionMap) : Bool :=
  a.entries.length == b.entries.length
    && (a.entries.zip b.entries).all fun (x, y) => x.1 == y.1 && x.2.sameAs y.2

/-- The outline of a map: its entries as a list of pairs, in order. Handles show as they do
anywhere, so the outline tells less than the map holds. -/
def outline (map : OptionMap) : Outline :=
  .record "OptionMap"
    [("entries", .list (map.entries.map fun (key, value) =>
      .group "" [.text key, value.outline]))] false

end OptionMap

end TunnelOptions
