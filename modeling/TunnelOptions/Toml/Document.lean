import TunnelOptions.Toml.Draft
import TunnelOptions.Toml.Key
import TunnelOptions.Toml.Numeral

/-!
# Documents

A document is lines: headers, and keys with values. It is read in two steps. First its statements
are read, one for each line that says something, and that is a matter of characters; then they are
made into one table, and that is a matter of tables. So the reader of lines never looks at a table,
and what a statement may add to a table is decided by `TunnelOptions.Toml.Draft` without a character
in sight. The two steps also fail for different reasons, although a document is only good or bad in
the end.

A value may go over several lines, so a statement is read up to the end of the line on which its
value ends. Values are nested, and the depth is bounded; the bound is counted down from the outside,
and what reads the items of an array or the pairs of an inline table is given the reader of what is
inside. So `readItems` and `readPairs` are about commas and brackets only, and the recursion on the
depth is in one place, `readNested`.

An inline table is made of its pairs by the same rules as a document of its lines, so it is a draft
as well, and one that is closed at once: nothing can be added to it later.

Lists of items, pairs and lines have no bound of their own. Each takes some of the text, so the
length of the text is fuel enough, and running out of it is not a case that comes up.

* `readScalar`, `readNested`, `readValue`: reads a value; arrays and inline tables may be nested so
  deep and no deeper.
* `Statement`, `readStatements`: what the lines of a document say.
* `Document.State.add`: what one statement adds to the table.
* `Document.read`: the table of a document.
-/

set_option autoImplicit false

namespace TunnelOptions.Toml

/-! ## Values

The first character of a value says what it is, but for numbers and date-times, which may both start
with a digit. A date-time is tried first: if there is one, the number would end in its middle. -/

/-- Reads a word and what it stands for. What follows is not looked at: a word that goes on is bad
because nothing can follow it. -/
def readWord {α : Type} (word : List Char) (a : α) (cs : List Char) : Option (α × List Char) :=
  if word.isPrefixOf cs then some (a, cs.drop word.length) else none

/-- Reads a number or a date-time, which may start alike. -/
def readFigure (cs : List Char) : Option (Value × List Char) :=
  match Datetime.read cs with
  | some (d, cs) => some (.datetime d, cs)
  | none =>
    match Numeral.read cs with
    | some (.integer n, cs) => some (.integer n, cs)
    | some (.float x, cs) => some (.float x, cs)
    | none => none

/-- Reads a value that has no values inside. Its first character decides which reader goes on, and
none of them hands back to another. -/
def readScalar : List Char → Option (Value × List Char)
  | [] => none
  | c :: cs =>
    if c = '"' ∨ c = '\'' then do
      let (s, cs) ← Quoted.read (c :: cs)
      some (.string s, cs)
    else if c = 't' then readWord ['t', 'r', 'u', 'e'] (.boolean true) (c :: cs)
    else if c = 'f' then readWord ['f', 'a', 'l', 's', 'e'] (.boolean false) (c :: cs)
    else readFigure (c :: cs)

/-- Reads the items of an array up to its closing bracket, at most `fuel` of them. A comma may
stand after the last. -/
def readItems (item : List Char → Option (Value × List Char)) :
    Nat → List Char → Option (List Value × List Char)
  | 0, _ => none
  | fuel + 1, cs => do
    match ← skipGap false cs with
    | ']' :: cs => some ([], cs)
    | cs => do
      let (value, cs) ← item cs
      match ← skipGap false cs with
      | ',' :: cs => do
        let (values, cs) ← readItems item fuel cs
        some (value :: values, cs)
      | ']' :: cs => some ([value], cs)
      | _ => none

/-- Reads a key, an equals sign and a value, which may stand apart from each other by blanks and not
by more. -/
def readPair (item : List Char → Option (Value × List Char)) (cs : List Char) :
    Option ((List String × Value) × List Char) := do
  let (path, cs) ← Key.readPath cs
  let (value, cs) ← item (skipBlanks (← readChar '=' cs))
  some ((path, value), cs)

/-- Reads the pairs of an inline table up to its closing brace, at most `fuel` of them and at least
one. -/
def readPairs (item : List Char → Option (Value × List Char)) :
    Nat → List Char → Option (List (List String × Value) × List Char)
  | 0, _ => none
  | fuel + 1, cs => do
    let (pair, cs) ← readPair item cs
    match skipBlanks cs with
    | ',' :: cs => do
      let (pairs, cs) ← readPairs item fuel cs
      some (pair :: pairs, cs)
    | '\x7d' :: cs => some ([pair], cs)
    | _ => none

/-- The table of some pairs, assigned one after the other. An inline table is complete when it is
closed, so a draft is made for it alone. -/
def tableOf (pairs : List (List String × Value)) : Option Table := do
  let draft ← pairs.foldlM (fun draft (path, value) => Draft.assign (.leaf value) path draft) []
  some (Draft.close draft)

/-- Reads an inline table behind its opening brace. -/
def readInline (item : List Char → Option (Value × List Char)) (cs : List Char) :
    Option (Value × List Char) := do
  match skipBlanks cs with
  | '\x7d' :: cs => some (.table [], cs)
  | cs => do
    let (pairs, cs) ← readPairs item cs.length cs
    some (.table (← tableOf pairs), cs)

/-- Reads a value, in which arrays and inline tables are nested at most `room` deep. -/
def readNested : Nat → List Char → Option (Value × List Char)
  | _, [] => none
  | 0, c :: cs => if c = '[' ∨ c = '\x7b' then none else readScalar (c :: cs)
  | room + 1, c :: cs =>
    if c = '[' then do
      let (values, cs) ← readItems (readNested room) cs.length cs
      some (.array values, cs)
    else if c = '\x7b' then readInline (readNested room) cs
    else readScalar (c :: cs)

/-- How deep arrays and inline tables may be nested. A document that goes deeper is refused, however
harmless it is. -/
def maxNesting : Nat := 79

/-- Reads a value. -/
def readValue (cs : List Char) : Option (Value × List Char) :=
  readNested maxNesting cs

/-! ## Statements

A header says where the keys behind it belong, which is no matter for the reader of lines: here a
statement is a line and nothing else. -/

/-- What a line says: a pair, the header of a table, or the header of one more row. A line with
nothing but blanks or a comment says none of these. -/
inductive Statement where
  | pair (path : List String) (value : Value)
  | table (path : List String)
  | row (path : List String)

/-- Reads a statement up to the end of its line. -/
def readStatement (cs : List Char) : Option (Statement × List Char) :=
  match cs with
  | '[' :: '[' :: cs => do
    let (path, cs) ← Key.readPath cs
    some (.row path, ← readLineEnd (← readChar ']' (← readChar ']' cs)))
  | '[' :: cs => do
    let (path, cs) ← Key.readPath cs
    some (.table path, ← readLineEnd (← readChar ']' cs))
  | cs => do
    let ((path, value), cs) ← readPair readValue cs
    some (.pair path value, ← readLineEnd cs)

/-- Whether a line says nothing. -/
def isSilent (c : Char) : Bool :=
  c = '#' || c = '\n' || c = '\r'

/-- Reads the statements of at most `fuel` lines. -/
def readStatements : Nat → List Char → Option (List Statement)
  | 0, _ => none
  | fuel + 1, cs =>
    match skipBlanks cs with
    | [] => some []
    | c :: cs =>
      if isSilent c then do readStatements fuel (← readLineEnd (c :: cs))
      else do
        let (statement, cs) ← readStatement (c :: cs)
        some (statement :: (← readStatements fuel cs))

/-! ## The table of a document

A key belongs to the table of the last header. The state is therefore that header and the draft, and
each key goes the whole way from the top. -/

namespace Document

/-- The parts of the last header, and what has been said so far. Before the first header there are
no parts, and keys go to the outermost table. -/
structure State where
  current : List String := []
  draft : Draft := []

/-- What one more statement makes of it, if it may be said at all: a key that is given twice or a
table that is opened twice ends the reading. -/
def State.add (state : State) : Statement → Option State
  | .pair path value => do
    let assign := Draft.assign (.leaf value) path
    some ⟨state.current, ← Draft.change assign state.current state.draft⟩
  | .table path => do
    some ⟨path, ← Draft.change (Draft.openTable (path.getLastD "")) path.dropLast state.draft⟩
  | .row path => do
    some ⟨path, ← Draft.change (Draft.openRow (path.getLastD "")) path.dropLast state.draft⟩

/-- The table that statements make, one after the other. -/
def ofStatements (statements : List Statement) : Option Table := do
  let state ← statements.foldlM State.add {}
  some state.draft.close

/-- The text without the mark of byte order in front of it. -/
def dropMark : List Char → List Char
  | '\ufeff' :: cs => cs
  | cs => cs

/-- The table of a document, which is there only when all of the text can be read. It is not said
what is wrong with a text that has none. -/
def read (text : String) : Option Table := do
  let cs := dropMark text.toList
  ofStatements (← readStatements (cs.length + 1) cs)

end Document

end TunnelOptions.Toml
