import TunnelOptions.Text.Digit
import TunnelOptions.Toml.Space

/-!
# Quoted strings

A string stands between double quotes, with escapes, or between single quotes, without any. Either
form is on one line, or it is a block between triple quotes that may go over several. So there are
four forms and two readers: what differs between a line and a block is little, and `block` says
which it is.

The reader with escapes goes through the text one character at a time and has a mode, which says
what the characters before this one have begun. The reader without escapes needs none. Both answer
with what was read and with the rest of the text, and neither has a bound: each step takes a
character.

The end of a block needs a look ahead. Three quotes end it, but up to two more behind these belong
to the string, since a string may end with quotes. Whether a quote is one that ends the block is
found by looking at what follows it, by `close?`, for both readers alike.

* `close?`: what a quote ends.
* `Quoted.readBasic`: the rest of a string with escapes.
* `Quoted.readLiteral`: the rest of a string without.
* `Quoted.readOneLine`, `Quoted.read`: a string of the one-line forms, and of any form.
-/

set_option autoImplicit false

namespace TunnelOptions.Toml.Quoted

/-- Puts one character in front of what was read. -/
def push (c : Char) (read : List Char × List Char) : List Char × List Char :=
  (c :: read.1, read.2)

/-! ## The end of a string -/

/-- What a quote ends. A block ends with three quotes, and as many as two more before them belong
to it: here two quotes are to come, and then the ones that make it longer. -/
def close? (block : Bool) (quote : Char) (cs : List Char) : Option (List Char × List Char) :=
  if block then
    match cs with
    | a :: b :: cs =>
      if a = quote ∧ b = quote then
        let more := ((cs.take 2).takeWhile (· = quote)).length
        some (cs.take more, cs.drop more)
      else none
    | _ => none
  else some ([], cs)

/-! ## Line breaks

A line break is a character of a block and must not stand on a line. The break of two characters is
read as the one of one. -/

/-- Whether a character is a line break, which only a block may have. -/
def isFeed (block : Bool) (c : Char) : Bool :=
  block && c = '\n'

/-- Whether a character is one that is passed over in a line break of two. -/
def isReturn (block : Bool) (c : Char) (cs : List Char) : Bool :=
  block && isReturnBefore c cs

/-- Whether a character may stand between a backslash and the end of its line. -/
def isPadding (block : Bool) (c : Char) : Bool :=
  block && isBlank c

/-! ## Escapes

A backslash begins a letter that stands for a character, a number, or, at the end of a line in a
block, nothing at all: then everything up to the next visible character goes. -/

/-- The character that a letter after a backslash stands for. -/
def escaped? (c : Char) : Option Char :=
  match c with
  | 'b' => some '\x08'
  | 't' => some '\t'
  | 'n' => some '\n'
  | 'f' => some '\x0c'
  | 'r' => some '\r'
  | '"' => some '"'
  | '\\' => some '\\'
  | _ => none

/-- The character of a number, if it has one: numbers above the last one, and those in the gap that
is left for pairs, have none. -/
def scalar? (n : Nat) : Option Char :=
  if n.isValidChar then some (Char.ofNat n) else none

/-- What is being read of a string with escapes. The reader takes one character at a time, and what
the next one may be depends on this alone. -/
inductive Mode where
  | plain
  /-- A backslash came just before. -/
  | escaped
  /-- One and `left` more digits of a number are to come, after those worth `code`. -/
  | hex (left code : Nat)
  /-- A backslash at the end of a line came before; with `broken`, its line break did too. -/
  | gap (broken : Bool)

/-- How a block goes on behind a line break that a backslash takes away. -/
def afterBreak (cs : List Char) : Mode :=
  if cs.head?.any fun c => isBlank c || c = '\n' || c = '\r' then .gap true else .plain

/-- Reads the rest of a string with escapes, up to its closing quotes, and says what follows them. A
string that does not end is none. -/
def readBasic (block : Bool) : Mode → List Char → Option (List Char × List Char)
  | _, [] => none
  | .plain, c :: cs =>
    if c = '"' then
      match close? block '"' cs with
      | some closed => some closed
      | none => (readBasic block .plain cs).map (push '"')
    else if c = '\\' then readBasic block .escaped cs
    else if isVisible c || isFeed block c then (readBasic block .plain cs).map (push c)
    else if isReturn block c cs then readBasic block .plain cs
    else none
  | .escaped, c :: cs =>
    match escaped? c with
    | some d => (readBasic block .plain cs).map (push d)
    | none =>
      if c = 'u' then readBasic block (.hex 3 0) cs
      else if c = 'U' then readBasic block (.hex 7 0) cs
      else if isFeed block c then readBasic block (afterBreak cs) cs
      else if isPadding block c || isReturn block c cs then readBasic block (.gap false) cs
      else none
  | .hex left code, c :: cs =>
    match Text.digitValue? c with
    | none => none
    | some d =>
      let code := code * 16 + d
      match left with
      | 0 =>
        match scalar? code with
        | some e => (readBasic block .plain cs).map (push e)
        | none => none
      | left + 1 => readBasic block (.hex left code) cs
  | .gap broken, c :: cs =>
    if isFeed block c then readBasic block (afterBreak cs) cs
    else if isPadding block c then readBasic block (if broken then afterBreak cs else .gap false) cs
    else if isReturn block c cs then readBasic block (.gap broken) cs
    else none

/-! ## No escapes -/

/-- Reads the rest of a string without escapes, up to its closing quotes. There is no way to write
the quote in one, but for a block, where up to two of them may stand in a row. -/
def readLiteral (block : Bool) : List Char → Option (List Char × List Char)
  | [] => none
  | c :: cs =>
    if c = '\'' then
      match close? block '\'' cs with
      | some closed => some closed
      | none => (readLiteral block cs).map (push '\'')
    else if isVisible c || isFeed block c then (readLiteral block cs).map (push c)
    else if isReturn block c cs then readLiteral block cs
    else none

/-! ## Whole strings

The opening quotes say which of the four forms it is, the longer ones being tried first. -/

/-- The text without a line break in front of it. -/
def dropNewline (cs : List Char) : List Char :=
  (readNewline cs).getD cs

/-- A string, and what follows it. -/
def ofChars (read : List Char × List Char) : String × List Char :=
  (String.ofList read.1, read.2)

/-- Reads a string of one of the one-line forms. -/
def readOneLine : List Char → Option (String × List Char)
  | '"' :: cs => (readBasic false .plain cs).map ofChars
  | '\'' :: cs => (readLiteral false cs).map ofChars
  | _ => none

/-- Reads a string of any form. A line break right after the opening quotes of a block is not part
of it. -/
def read : List Char → Option (String × List Char)
  | '"' :: '"' :: '"' :: cs => (readBasic true .plain (dropNewline cs)).map ofChars
  | '\'' :: '\'' :: '\'' :: cs => (readLiteral true (dropNewline cs)).map ofChars
  | cs => readOneLine cs

end TunnelOptions.Toml.Quoted
