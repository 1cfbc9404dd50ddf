import TunnelOptions.Text.Quoted

/-!
# Outlines: values shown as nested names, fields and items

Settings and values are printed for a reader, on one line or over several. An outline is the shape
of what is printed: named records, named groups of items, lists, and atoms that are already text.
Each type says in one place what its outline is, and both layouts are made from that, so they cannot
show different things.

It has two layouts. They differ in more than white space: over several lines there is a comma after
the last item too, and an empty list is written together. So each is a recursion of its own, over
the outlines and over the lists of items and of fields in them. What the two have in common is only
needed for reasoning about them and is not described here.

* `Outline.text`, `Outline.int`, `Outline.bool`, `Outline.option`, `Outline.texts`: the outlines of
  the values that fields have.
* `Outline.inline`: everything on one line, as in `Point { x: 1, y: [2, 3] }`.
* `Outline.indented`: one item a line, four spaces a level, a comma after each item.
-/

set_option autoImplicit false

namespace TunnelOptions

/-- The shape of a value for a reader, before it is laid out. What is shown as it is, such as a
number or a quoted text, is an atom; the rest is built of outlines with a name, brackets or field
names around them. -/
inductive Outline where
  /-- A text that is shown as it is. -/
  | atom (text : String)
  /-- Items in parentheses after a name, which may be empty. -/
  | group (name : String) (items : List Outline)
  /-- Items in brackets. -/
  | list (items : List Outline)
  /-- Named fields in braces after a name. With `more`, two dots stand for fields left out. -/
  | record (name : String) (fields : List (String × Outline)) (more : Bool)

namespace Outline

/-- A text in quotes, with everything escaped that would not be seen or could be taken for the end.
-/
def text (s : String) : Outline :=
  .atom (Text.quote s)

/-- An integer in decimal. -/
def int (n : Int) : Outline :=
  .atom (toString n)

/-- A truth value. -/
def bool (b : Bool) : Outline :=
  .atom (if b then "true" else "false")

/-- A value that may be absent. What is there is shown in a group of one item, so that it can be
told from an atom of the same text. -/
def option : Option Outline → Outline
  | none => .atom "None"
  | some value => .group "Some" [value]

/-- Texts in order, each in quotes, so that a comma inside one of them is no comma between two. -/
def texts (items : List String) : Outline :=
  .list (items.map text)

/-! ## On one line

Items are separated here and not ended, so the recursion over items has a case of its own for the
last one. -/

mutual

/-- The outline on one line, with a space behind each comma and inside braces. A record without
fields has no braces. -/
def inline : Outline → List Char
  | .atom text => text.toList
  | .group name items => name.toList ++ '(' :: (inlineItems items ++ [')'])
  | .list items => '[' :: (inlineItems items ++ [']'])
  | .record name fields more =>
    match fields, more with
    | [], false => name.toList
    | [], true => name.toList ++ " \x7b .. \x7d".toList
    | fields, false => name.toList ++ " \x7b ".toList ++ inlineFields fields ++ " \x7d".toList
    | fields, true => name.toList ++ " \x7b ".toList ++ inlineFields fields ++ ", .. \x7d".toList

/-- Items on one line, a comma and a space between them. -/
def inlineItems : List Outline → List Char
  | [] => []
  | [item] => item.inline
  | item :: items => item.inline ++ ", ".toList ++ inlineItems items

/-- Fields on one line, each after its name and a colon. -/
def inlineFields : List (String × Outline) → List Char
  | [] => []
  | [(name, value)] => name.toList ++ ": ".toList ++ value.inline
  | (name, value) :: fields =>
    name.toList ++ ": ".toList ++ value.inline ++ ", ".toList ++ inlineFields fields

end

/-! ## One item a line

An outline is written where its reader stands, so only the lines behind the first one have a margin,
and the level is that of the line it begins on. -/

/-- The spaces in front of a line at a level, four for each level that it is nested. -/
def margin (level : Nat) : List Char :=
  List.replicate (4 * level) ' '

mutual

/-- The outline over several lines. Its first line goes on where the reader is; the later ones
stand at `level`. -/
def indentedAt (level : Nat) : Outline → List Char
  | .atom text => text.toList
  | .group name items =>
    name.toList ++ "(\n".toList ++ indentedItems level items ++ margin level ++ [')']
  | .list [] => "[]".toList
  | .list items => "[\n".toList ++ indentedItems level items ++ margin level ++ [']']
  | .record name fields more =>
    match fields, more with
    | [], false => name.toList
    | [], true => name.toList ++ " \x7b .. \x7d".toList
    | fields, more =>
      name.toList ++ " \x7b\n".toList ++ indentedFields level fields
        ++ (if more then margin (level + 1) ++ "..\n".toList else [])
        ++ margin level ++ ['\x7d']

/-- Items one level further in, each on lines of its own. -/
def indentedItems (level : Nat) : List Outline → List Char
  | [] => []
  | item :: items =>
    margin (level + 1) ++ item.indentedAt (level + 1) ++ ",\n".toList
      ++ indentedItems level items

/-- Fields one level further in, each on lines of its own. -/
def indentedFields (level : Nat) : List (String × Outline) → List Char
  | [] => []
  | (name, value) :: fields =>
    margin (level + 1) ++ name.toList ++ ": ".toList ++ value.indentedAt (level + 1)
      ++ ",\n".toList ++ indentedFields level fields

end

/-- The outline over several lines. -/
def indented (outline : Outline) : List Char :=
  outline.indentedAt 0

end Outline

end TunnelOptions
