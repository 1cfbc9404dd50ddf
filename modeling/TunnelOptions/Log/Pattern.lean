import TunnelOptions.Log.Pattern.Brackets
import TunnelOptions.Text.Alphanumeric

/-!
# Patterns

The value that a directive asks of a field may be a pattern: alternatives of symbols, brackets,
groups and repetitions. A pattern is never matched here, because a directive that asks for a value
can match no event of this library; but one that is not well formed is a fault of the filter, and
the log is not installed. So all that is said of a pattern is whether it is one.

That is not a matter of the form alone. How deep a pattern may be nested is bounded, so the reader
keeps the depth of what it has read and not what it has read; and it has to know the flags in force
at each place, because they decide which characters may stand there.

The reader keeps the open groups on a stack and takes one part after another, so that groups need no
recursion of their own. Each part takes at least one character, and the length of the text is fuel
enough. A pattern has no closing brace in it, since the brace would have ended the field; so a count
of repetitions, which stands in braces, is never closed, and every opening brace is refused.

* `Pattern.Fault`: why a text is no pattern.
* `Pattern.Group`, `Pattern.State`: what has been read of the open groups, from the inside out.
* `Pattern.step`: reads one part.
* `Pattern.check`: whether a text is a pattern.
-/

set_option autoImplicit false

namespace TunnelOptions.Log.Pattern

/-- Why a text is no pattern that can be matched. The form comes first: where the edge of a word was
asked for in a text that is not well formed, it is the form that is bad. -/
inductive Fault where
  | badForm
  /-- It is well formed and asks for an edge of a word of Unicode. -/
  | wordEdge
  deriving DecidableEq, Repr

/-- The wording of a fault. -/
def Fault.message : Fault → String
  | .badForm => "error building NFA"
  | .wordEdge =>
    String.join ["unsupported regex feature for DFAs: cannot build DFAs for regexes with Unicode ",
      "word boundaries; switch to ASCII word boundaries, or heuristically enable Unicode word ",
      "boundaries or use a different regex engine"]

/-! ## Groups

A group is a list of alternatives, and an alternative is a list of parts. Of both only the depths
are kept, with the last part first, since that is the one a repetition is about. -/

/-- What has been read of a group that is still open. Nothing of its content is kept but how deep it
is nested, since nothing else can make the pattern bad later. -/
structure Group where
  flags : Flags
  /-- How deep each finished alternative is nested. -/
  alternatives : List Nat := []
  /-- How deep each part of the alternative being read is nested, the last part first. -/
  parts : List Nat := []
  /-- Whether the last part can be repeated. -/
  repeatable : Bool := false
  deriving DecidableEq, Repr

namespace Group

/-- One more part. -/
def add (group : Group) (depth : Nat) : Group :=
  { group with parts := depth :: group.parts, repeatable := true }

/-- Sets flags for the rest of the group, a part that cannot be repeated. -/
def setFlags (group : Group) (flags : Flags) : Group :=
  { group with flags, parts := 0 :: group.parts, repeatable := false }

/-- Begins the next alternative. -/
def alternate (group : Group) : Group :=
  { group with alternatives := nested group.parts :: group.alternatives, parts := [],
               repeatable := false }

/-- Repeats the last part, if it can be repeated. -/
def repeatLast (group : Group) : Option Group :=
  match group.repeatable, group.parts with
  | true, depth :: parts => some { group with parts := (depth + 1) :: parts }
  | _, _ => none

/-- How deep the content is nested. -/
def depth (group : Group) : Nat :=
  nested (nested group.parts :: group.alternatives)

end Group

/-- What has been read of a pattern: the innermost open group and those around it. The names of
groups and the edge of a word concern the whole pattern and survive the groups they were met in. -/
structure State where
  group : Group := { flags := {} }
  outer : List Group := []
  /-- The names of groups. -/
  names : List (List Char) := []
  /-- Whether an edge of a word of Unicode was asked for. -/
  wordEdge : Bool := false
  deriving DecidableEq, Repr

namespace State

/-- The flags in force. -/
def flags (state : State) : Flags :=
  state.group.flags

/-- One more part. -/
def add (state : State) (depth : Nat) : State :=
  { state with group := state.group.add depth }

/-- One more symbol, if it may stand here. -/
def addSymbol (state : State) (symbol : Symbol) : Option State :=
  if symbol.fitsText state.flags then
    some { state.add 0 with
      wordEdge := state.wordEdge || (symbol = .wordEdge && state.flags.unicode) }
  else none

/-- Opens a group. -/
def openGroup (state : State) (flags : Flags) : State :=
  { state with group := { flags }, outer := state.group :: state.outer }

/-- Closes the innermost group, which is a part of the one around it and can be repeated there.
Flags that were set inside end with it. -/
def closeGroup (state : State) : Option State :=
  match state.outer with
  | [] => none
  | group :: outer => some { state with group := group.add (state.group.depth + 1), outer }

end State

/-! ## Reading

What stands in front of a group's content decides what the group is for: it is named, it sets flags,
or it has nothing in front of it. -/

/-- Whether a character may start the name of a group. -/
def startsName (c : Char) : Bool :=
  c = '_' || Text.isAlphabetic c

/-- Whether a character may stand in the name of a group. -/
def inName (c : Char) : Bool :=
  c ∈ ['_', '.', '[', ']'] || Text.isAlphanumeric c

/-- Reads the name of a group and opens the group. No two groups have one name. -/
def readNamed (state : State) (cs : List Char) : Option (State × List Char) :=
  let name := cs.takeWhile inName
  match cs.dropWhile inName with
  | '>' :: cs =>
    if name.head?.any startsName ∧ name ∉ state.names then
      some ({ state.openGroup state.flags with names := name :: state.names }, cs)
    else none
  | _ => none

/-- Reads flags and what they are for: a group of their own, or the rest of this one. -/
def readFlags (state : State) (cs : List Char) : Option (State × List Char) := do
  let (flags, mark, cs) ← state.flags.read cs
  if mark = ')' then some ({ state with group := state.group.setFlags flags }, cs)
  else some (state.openGroup flags, cs)

/-- Reads the start of a group behind its parenthesis. -/
def readGroup (state : State) (cs : List Char) : Option (State × List Char) :=
  match state.flags.skip cs with
  | '?' :: 'P' :: '<' :: cs => readNamed state cs
  | '?' :: '<' :: cs => readNamed state cs
  | '?' :: cs => readFlags state cs
  | cs => some (state.openGroup state.flags, cs)

/-- The text without a question mark in front, which makes a repetition reluctant. -/
def dropReluctance : List Char → List Char
  | '?' :: cs => cs
  | cs => cs

/-- Reads what starts with `c`. -/
def step (state : State) (c : Char) (cs : List Char) : Option (State × List Char) :=
  if c = '(' then readGroup state cs
  else if c = ')' then do some (← state.closeGroup, cs)
  else if c = '|' then some ({ state with group := state.group.alternate }, cs)
  else if c = '[' then do
    let (depth, cs) ← Brackets.read state.flags cs
    some (state.add depth, cs)
  else if c = '?' ∨ c = '*' ∨ c = '+' then do
    some ({ state with group := ← state.group.repeatLast }, dropReluctance cs)
  else if c = '\x7b' then none
  else if c = '\\' then do
    let (symbol, cs) ← Symbol.readEscape state.flags cs
    some (← state.addSymbol symbol, cs)
  else if c = '.' then do some (← state.addSymbol .any, cs)
  else if c = '^' ∨ c = '$' then do some (← state.addSymbol .anchor, cs)
  else do some (← state.addSymbol (.literal c false), cs)

/-- Reads at most `fuel` parts, up to the end of the text. What the flags leave out is passed over
in front of each part. -/
def readParts : Nat → State → List Char → Option State
  | 0, _, _ => none
  | fuel + 1, state, cs =>
    match state.flags.skip cs with
    | [] => some state
    | c :: cs => do
      let (state, cs) ← step state c cs
      readParts fuel state cs

/-- How deep a pattern may be nested. A repetition counts as a level, and so do brackets, groups and
any sequence of more than one part. -/
def maxDepth : Nat := 250

/-- Whether a text is a pattern: all its groups are closed, and it is not nested too deep. -/
def check (cs : List Char) : Except Fault Unit :=
  match readParts (cs.length + 1) {} cs with
  | none => .error .badForm
  | some state =>
    if state.outer ≠ [] ∨ maxDepth < state.group.depth then .error .badForm
    else if state.wordEdge then .error .wordEdge
    else .ok ()

end TunnelOptions.Log.Pattern
