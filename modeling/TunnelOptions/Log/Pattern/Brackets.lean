import TunnelOptions.Log.Pattern.Symbol

/-!
# Brackets of a pattern

Brackets hold a set of characters: symbols, ranges, named classes and further brackets, and between
them operators on sets. All operators bind alike, to the left, so what has been read up to an
operator is its left side, and one number says how deep that is nested.

As with groups, the open brackets are kept on a stack, and a closed one becomes an item of the one
around it. Brackets inside brackets are therefore no recursion of the reader, which takes items one
after the other and uses up at least one character for each.

Two characters stand for themselves only in certain places. A closing bracket does when it would
close an empty set, and minus signs do in front of everything else; `Open.fresh` remembers which of
these places the reader is in.

* `nested`: how deep a sequence is nested.
* `Brackets.Open`: what has been read of brackets that are still open.
* `Brackets.read`: reads brackets and says how deep they are nested.
-/

set_option autoImplicit false

namespace TunnelOptions.Log.Pattern

/-- How deep a sequence is nested whose parts are nested so deep. A part alone makes no sequence. -/
def nested : List Nat → Nat
  | [] => 0
  | [depth] => depth
  | depths => depths.foldl max 0 + 1

namespace Brackets

/-- What has been read of brackets that are still open. As with groups, only depths are kept, and
which of two places the reader may be in. -/
structure Open where
  /-- How deep the part on the left of the last operator is nested. -/
  left : Option Nat := none
  /-- How deep each item behind it is nested. -/
  items : List Nat := []
  /-- Whether nothing but minus signs has been read, so that another stands for itself. -/
  fresh : Bool := true
  deriving DecidableEq, Repr

namespace Open

/-- One more item. -/
def add (brackets : Open) (depth : Nat) : Open :=
  { brackets with items := depth :: brackets.items, fresh := false }

/-- How deep the set is nested. -/
def depth (brackets : Open) : Nat :=
  match brackets.left with
  | none => nested brackets.items
  | some left => max left (nested brackets.items) + 1

/-- An operator takes what has been read as its left side. -/
def operate (brackets : Open) : Open :=
  { left := some brackets.depth, items := [], fresh := false }

end Open

/-! ## Named classes

A bracket and a colon that begin no named class are brackets of their own, so reading one may fail
without harm. -/

/-- The names of the classes of ASCII characters. -/
def classNames : List String :=
  ["alnum", "alpha", "ascii", "blank", "cntrl", "digit", "graph", "lower", "print", "punct",
    "space", "upper", "word", "xdigit"]

/-- Reads the name of a class and the colon and bracket behind it. -/
def readName (negated : Bool) (cs : List Char) : Option (Bool × List Char) :=
  match cs.dropWhile (· ≠ ':') with
  | ':' :: ']' :: rest =>
    if String.ofList (cs.takeWhile (· ≠ ':')) ∈ classNames then some (negated, rest) else none
  | _ => none

/-- Reads a named class behind its bracket, and says whether its complement is meant. -/
def readClass : List Char → Option (Bool × List Char)
  | ':' :: '^' :: cs => readName true cs
  | ':' :: cs => readName false cs
  | _ => none

/-- Whether a named class may stand under some flags. -/
def classFits (flags : Flags) (negated : Bool) : Bool :=
  if flags.unicode then !flags.caseless else !negated

/-! ## Symbols and ranges

A minus sign makes a range of the symbols around it unless it stands last, or begins an operator.
That has to be found out before the second symbol is read. -/

/-- Reads a symbol; a character that is no backslash stands for itself. -/
def readSymbol (flags : Flags) : List Char → Option (Symbol × List Char)
  | [] => none
  | c :: cs => if c = '\\' then Symbol.readEscape flags cs else some (.literal c false, cs)

/-- The text behind blanks, of which one may be a number sign. -/
def peek (flags : Flags) (cs : List Char) : List Char :=
  if flags.spaced then
    match cs.dropWhile Text.isBlank with
    | '#' :: cs => cs.dropWhile Text.isBlank
    | cs => cs
  else cs

/-- Whether a minus sign makes a range with what follows it: behind the sign there is neither the
end of the brackets nor a second sign. -/
def joins (flags : Flags) (cs : List Char) : Bool :=
  (peek flags cs).head? ∉ [some ']', some '-']

/-- Whether two symbols make a range. -/
def isRange (flags : Flags) (first last : Symbol) : Bool :=
  match first.char?, last.char? with
  | some low, some high =>
    low.toNat ≤ high.toNat && first.fitsBrackets flags && last.fitsBrackets flags
  | _, _ => false

/-- Reads the end of a range behind its minus sign. -/
def readRange (flags : Flags) (first : Symbol) (cs : List Char) : Option (List Char) := do
  let (last, cs) ← readSymbol flags (flags.skip cs)
  if isRange flags first last then some cs else none

/-- Reads a symbol or a range of two, the ends of which must be in order. That a minus sign makes a
range is decided before what follows it is read. -/
def readMember (flags : Flags) (cs : List Char) : Option (List Char) := do
  let (first, cs) ← readSymbol flags cs
  let alone := if first.fitsBrackets flags then some (flags.skip cs) else none
  match flags.skip cs with
  | '-' :: rest => if joins flags rest then readRange flags first rest else alone
  | _ => alone

/-! ## Brackets -/

/-- Reads on behind an opening bracket. A circumflex asks for the complement, which of bytes is
refused. -/
def enter (flags : Flags) (cs : List Char) : Option (List Char) :=
  match flags.skip cs with
  | '^' :: cs => if flags.unicode then some cs else none
  | cs => some cs

/-- The text behind an operator on sets. -/
def operator? : List Char → Option (List Char)
  | '&' :: '&' :: cs => some cs
  | '-' :: '-' :: cs => some cs
  | '~' :: '~' :: cs => some cs
  | _ => none

/-- Reads at most `fuel` items up to the end of the outermost brackets. A bracket that is closed is
an item of the one around it. -/
def readItems (flags : Flags) : Nat → Open → List Open → List Char → Option (Nat × List Char)
  | 0, _, _, _ => none
  | fuel + 1, brackets, outer, cs =>
    match flags.skip cs with
    | [] => none
    | c :: cs =>
      if brackets.fresh ∧ (c = '-' ∨ (c = ']' ∧ brackets.items = [])) then
        if Symbol.fitsBrackets flags (.literal c false) then
          readItems flags fuel { brackets.add 0 with fresh := c = '-' } outer cs
        else none
      else if c = ']' then
        match outer with
        | [] => some (brackets.depth + 1, cs)
        | around :: outer => readItems flags fuel (around.add (brackets.depth + 1)) outer cs
      else if c = '[' then
        match readClass cs with
        | some (negated, cs) =>
          if classFits flags negated then readItems flags fuel (brackets.add 0) outer cs else none
        | none => do readItems flags fuel {} (brackets :: outer) (← enter flags cs)
      else
        match operator? (c :: cs) with
        | some cs => readItems flags fuel brackets.operate outer cs
        | none => do
          readItems flags fuel (brackets.add 0) outer (← readMember flags (c :: cs))

/-- Reads brackets behind the first of them, and says how deep they are nested. -/
def read (flags : Flags) (cs : List Char) : Option (Nat × List Char) := do
  readItems flags (cs.length + 1) {} [] (← enter flags cs)

end Brackets

end TunnelOptions.Log.Pattern
