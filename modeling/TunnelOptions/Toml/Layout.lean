import TunnelOptions.Toml.Key
import TunnelOptions.Toml.Value

/-!
# How a document is laid out

A document is blocks with an empty line between two of them. A block is a header and a line for each
value that is not given a block of its own, which tables and arrays of tables are. So in the table
of a block the lines come first and the tables inside it after them, and saving can change the order
of a table's entries; what a table says is not changed by that.

Writing goes over a table once and keeps the lines and the blocks of each entry apart. Only when the
entries are put together is it known whether the header has anything to stand over, and it is left
out when it has not, unless the table would be lost then.

Inside a line there are no blocks: a table in an array that is not one of tables is written inline.
So values have a writer of their own, which knows nothing of headers.

* `Value.write`: a value as it stands behind an equals sign.
* `blocksOf`: the blocks of a table under its header.
* `tableBlocks`: the blocks of a table at some path.
* `document`: the text of some blocks.
-/

set_option autoImplicit false

namespace TunnelOptions.Toml

/-- Whether an array is one of tables, and has any. Such an array is written as rows under headers
and not behind an equals sign. -/
def allTables (items : List Value) : Bool :=
  !items.isEmpty && items.all Value.isTable

/-! ## Values

The items of an array and the pairs of an inline table are written first and then put together, so
that how they are put together is said of texts and not of values. -/

/-- An array of written items: at most one stands on the line, more have a line each. -/
def writeArray : List (List Char) → List Char
  | [] => "[]".toList
  | [item] => '[' :: item ++ [']']
  | items =>
    "[\n".toList ++ (items.flatMap fun item => "    ".toList ++ item ++ ",\n".toList) ++ [']']

/-- An inline table of written pairs. -/
def writeInline (pairs : List (List Char)) : List Char :=
  match pairs with
  | [] => "\x7b\x7d".toList
  | pairs => "\x7b ".toList ++ ", ".toList.intercalate pairs ++ " \x7d".toList

/-- A key and a written value. -/
def writePair (key : String) (value : List Char) : List Char :=
  Key.write key ++ " = ".toList ++ value

mutual

/-- A value as it stands behind an equals sign. A table has braces there, and an array of several
items stands on several lines. -/
def Value.write : Value → List Char
  | .string s => Quoted.write s
  | .integer n => (toString n.toInt).toList
  | .float x => x.text
  | .boolean b => (if b then "true" else "false").toList
  | .datetime d => d.text
  | .array items => writeArray (writeItems items)
  | .table entries => writeInline (writeEntries entries)

/-- The items of an array. -/
def writeItems : List Value → List (List Char)
  | [] => []
  | item :: items => item.write :: writeItems items

/-- The pairs of an inline table. -/
def writeEntries : List (String × Value) → List (List Char)
  | [] => []
  | (key, value) :: entries => writePair key value.write :: writeEntries entries

end

/-! ## Blocks

A row is one table of an array of tables, and has a header of its own kind; behind that it is
written like a table. -/

/-- What is written of an entry: a line, or blocks of its own. The lines of all entries come before
the blocks of any, since a line behind a header would belong to that header. -/
structure Part where
  /-- The lines that stand under the header of the table. -/
  lines : List (List Char) := []
  /-- The blocks that come behind those lines. -/
  blocks : List (List Char) := []

/-- A line with the line break at its end. -/
def line (cs : List Char) : List Char :=
  cs ++ ['\n']

/-- The header of a table. -/
def tableHeader (path : List String) : List Char :=
  '[' :: Key.writePath path ++ [']']

/-- The header of a row. -/
def rowHeader (path : List String) : List Char :=
  '[' :: '[' :: Key.writePath path ++ [']', ']']

/-- The blocks of some parts. The first has the header and every line, the others follow. With
nothing to stand under it, the header is left out unless it must be there. -/
def blocksOf (header : List Char) (must : Bool) (parts : List Part) : List (List Char) :=
  let lines := parts.flatMap Part.lines
  let own := if must || !lines.isEmpty then [(header :: lines).flatMap line] else []
  own ++ parts.flatMap Part.blocks

mutual

/-- What is written of an entry of the table at `path`. Tables and arrays of tables have blocks,
whose headers name the whole path, and all else has a line. -/
def partOf (path : List String) (key : String) : Value → Part
  | .table entries =>
    { blocks := blocksOf (tableHeader (path ++ [key])) entries.isEmpty
        (partsOf (path ++ [key]) entries) }
  | .array items =>
    if allTables items then { blocks := rowBlocks (path ++ [key]) items }
    else { lines := [writePair key (Value.array items).write] }
  | value => { lines := [writePair key value.write] }

/-- What is written of the entries of the table at `path`. -/
def partsOf (path : List String) : List (String × Value) → List Part
  | [] => []
  | (key, value) :: entries => partOf path key value :: partsOf path entries

/-- The blocks of rows. -/
def rowBlocks (path : List String) : List Value → List (List Char)
  | [] => []
  | .table entries :: rows =>
    blocksOf (rowHeader path) true (partsOf path entries) ++ rowBlocks path rows
  | _ :: rows => rowBlocks path rows

end

/-- The blocks of a table at `path`. -/
def tableBlocks (path : List String) (table : Table) : List (List Char) :=
  blocksOf (tableHeader path) table.isEmpty (partsOf path table)

/-- The text of some blocks, an empty line between two of them. Every block ends with a line break
itself. -/
def document (blocks : List (List Char)) : List Char :=
  ['\n'].intercalate blocks

end TunnelOptions.Toml
