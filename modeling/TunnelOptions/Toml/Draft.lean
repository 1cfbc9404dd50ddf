import TunnelOptions.Toml.Value

/-!
# Tables in the making

While a document is read, a table remembers how it came about, because that decides what may still
be added to it. A header may open a table that was only on the way to another one, but not one that
a header has opened before; a dotted key may go through a table that dotted keys have made, but not
into one that a header has opened.

None of that is left once the document is read, so it is not part of the values. A draft is a table
with these memories, and closing it forgets them.

There are two ways into a draft. A key in a block leads from the table of the block to a value, and
a header leads from the top to a table. They have different rules about the tables on the way, so
they are two functions, `Draft.assign` and `Draft.change`; a key in a block is an `assign` inside a
`change`. Every step that is not allowed is `none`, since it is not said what is wrong with a
document.

* `Origin`: by a header, on the way to one, or on the way of a dotted key.
* `Node`, `Draft`: entries in the making.
* `Draft.assign`: a key, which may be dotted, and its value in a table.
* `Draft.openTable`, `Draft.openRow`: headers of tables and of rows.
* `Draft.close`: the table that a draft has come to.
-/

set_option autoImplicit false

namespace TunnelOptions.Toml

/-- How a table came about. It decides what may be added to the table later, and by whom, and it is
forgotten when the document ends. -/
inductive Origin where
  /-- A header names it. -/
  | header
  /-- A header names a table inside it. -/
  | implied
  /-- A dotted key leads through it. -/
  | dotted
  deriving DecidableEq, Repr

/-- What a key of a table in the making holds. A table that was given as a value is a leaf like any
other value, so that nothing can be added to it. -/
inductive Node where
  /-- A value, to which nothing can be added. -/
  | leaf (value : Value)
  | table (origin : Origin) (entries : List (String × Node))
  /-- Tables that headers of rows name, one after the other. -/
  | rows (rows : List (List (String × Node)))

/-- A table in the making: its keys in the order in which they will stay, each with what it holds so
far. -/
abbrev Draft := List (String × Node)

namespace Draft

/-- The draft with one more entry, under a new key. -/
def append (draft : Draft) (key : String) (node : Node) : Draft :=
  draft ++ [(key, node)]

/-- The draft without an entry. -/
def erase (draft : Draft) (key : String) : Draft :=
  draft.filter fun entry => entry.1 ≠ key

/-- Changes the last of some rows. -/
def changeLast (change : Draft → Option Draft) : List Draft → Option (List Draft)
  | [] => none
  | [row] => (change row).map ([·])
  | row :: rows => (changeLast change rows).map (row :: ·)

/-! ## Keys and values

No key is given twice, and no table is reached by a way on which it was not begun. -/

/-- Puts a value under a new key. On the way of a dotted key, tables are made where there are none;
of those that are there it may only pass through tables that other dotted keys made, and through
tables of headers on the way to one. -/
def assign (value : Node) : List String → Draft → Option Draft
  | [], _ => none
  | [key], draft =>
    match Entries.get? key draft with
    | none => some (draft.append key value)
    | some _ => none
  | key :: next :: path, draft =>
    match Entries.get? key draft with
    | none => do some (draft.append key (.table .dotted (← assign value (next :: path) [])))
    | some (.table .dotted entries) => do
      some (Entries.put key (.table .dotted (← assign value (next :: path) entries)) draft)
    | some (.table .implied entries) =>
      if path.isEmpty then none
      else do
        some (Entries.put key (.table .implied (← assign value (next :: path) entries)) draft)
    | some (.rows rows) =>
      if path.isEmpty then none
      else do some (Entries.put key (.rows (← changeLast (assign value (next :: path)) rows)) draft)
    | some (.table .header _) | some (.leaf _) => none

/-! ## Headers

On the way of a header any table will do. Of rows, which is the last one depends on how far the
document has been read, so the draft is read in the order of the document. -/

/-- Changes the table that the parts of a header lead to. Tables are made where there are none, and
of rows the last one is meant. -/
def change (f : Draft → Option Draft) : List String → Draft → Option Draft
  | [], draft => f draft
  | key :: path, draft =>
    match Entries.get? key draft with
    | none => do some (draft.append key (.table .implied (← change f path [])))
    | some (.table origin entries) => do
      some (Entries.put key (.table origin (← change f path entries)) draft)
    | some (.rows rows) => do
      some (Entries.put key (.rows (← changeLast (change f path) rows)) draft)
    | some (.leaf _) => none

/-- Opens the table of a header. A table that was only on the way to another is taken over, and
comes after the others then. -/
def openTable (key : String) (draft : Draft) : Option Draft :=
  match Entries.get? key draft with
  | none => some (draft.append key (.table .header []))
  | some (.table .implied entries) => some ((draft.erase key).append key (.table .header entries))
  | some _ => none

/-- Opens one more row of a header. Rows are only ever added behind one another, so what is no row
yet must be nothing. -/
def openRow (key : String) (draft : Draft) : Option Draft :=
  match Entries.get? key draft with
  | none => some (draft.append key (.rows [[]]))
  | some (.rows rows) => some (Entries.put key (.rows (rows ++ [[]])) draft)
  | some _ => none

end Draft

/-! ## The end

Closing keeps the order of the entries and of the rows. -/

mutual

/-- The value that a node has come to. -/
def Node.close : Node → Value
  | .leaf value => value
  | .table _ entries => .table (closeEntries entries)
  | .rows rows => .array (closeRows rows)

/-- The entries that a draft has come to. -/
def closeEntries : List (String × Node) → List (String × Value)
  | [] => []
  | (key, node) :: entries => (key, node.close) :: closeEntries entries

/-- The tables that rows have come to. -/
def closeRows : List (List (String × Node)) → List Value
  | [] => []
  | row :: rows => .table (closeEntries row) :: closeRows rows

end

/-- The table that a draft has come to. Nothing is refused any more: all that could be wrong with
the document has been found on the way. -/
def Draft.close (draft : Draft) : Table :=
  closeEntries draft

end TunnelOptions.Toml
