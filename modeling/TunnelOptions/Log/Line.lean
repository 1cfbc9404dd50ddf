import TunnelOptions.Log.Entry
import TunnelOptions.Text.Quoted

/-!
# Log lines

An entry is written with the time it is logged at, in one of three formats. Two of them are for a
reader, on one line or with room around it, and the third is for a program. All three write the same
parts of an entry, and each ends with a line break; what is written never depends on the entries
before it.

The time comes in as a text. A log has a clock and this module has none, so a stamp is whatever the
clock said.

One thing is left out. The format for a reader with room around it also says, on a line below the
entry, in which file of the program and on which line of it the event is raised. An entry does not
know that, so `Entry.pretty` has no such line: what it gives is the text of the entry up to there
and the empty line behind it. The two other formats do not say where an event comes from, and are
given whole.

* `Format`: the formats, by name.
* `Entry.json`, `Entry.compact`, `Entry.pretty`: an entry in each of them.
* `Entry.written`: an entry in a format, with the line break at its end.
-/

set_option autoImplicit false

namespace TunnelOptions.Log

/-- How entries are written: with room around them or on one line for a reader, or as an object for
a program. -/
inductive Format where
  | pretty
  | compact
  | json
  deriving DecidableEq, Repr

namespace Format

/-- Every format. -/
def all : List Format := [.pretty, .compact, .json]

/-- The name of a format. -/
def name : Format → String
  | .pretty => "pretty"
  | .compact => "compact"
  | .json => "json"

/-- The format of a name, exactly as it is written. -/
def ofName? (name : String) : Option Format :=
  all.find? fun format => format.name == name

end Format

/-! ## JSON

Strings are escaped as little as JSON allows. An object has its members in the order in which the
entry has them, the message in front of the fields. -/

/-- How one character is written inside a JSON string. Only quotes, backslashes and control
characters are escaped, and some of the latter have a letter. -/
def jsonEscape (c : Char) : List Char :=
  match c with
  | '"' => ['\\', '"']
  | '\\' => ['\\', '\\']
  | '\n' => ['\\', 'n']
  | '\r' => ['\\', 'r']
  | '\t' => ['\\', 't']
  | '\x08' => ['\\', 'b']
  | '\x0c' => ['\\', 'f']
  | c =>
    if c.toNat < 0x20 then
      ['\\', 'u', '0', '0'] ++ List.replicate (if c.toNat < 0x10 then 1 else 0) '0'
        ++ Nat.toDigits 16 c.toNat
    else [c]

/-- A JSON string. -/
def jsonString (s : String) : String :=
  String.ofList ('"' :: s.toList.flatMap jsonEscape ++ ['"'])

/-- The value of a field in JSON. -/
def Field.json : Field → String
  | .quoted text | .shown text => jsonString text
  | .count n => toString n

/-- A member of a JSON object. -/
def jsonMember (name value : String) : String :=
  jsonString name ++ ":" ++ value

/-- A JSON object. -/
def jsonObject (members : List String) : String :=
  "\x7b" ++ ",".intercalate members ++ "\x7d"

namespace Entry

/-- An entry as a JSON object, with the message and the fields in an object of their own. -/
def json (stamp : String) (entry : Entry) : String :=
  jsonObject
    [jsonMember "timestamp" (jsonString stamp),
      jsonMember "level" (jsonString entry.level.name),
      jsonMember "fields" (jsonObject (jsonMember "message" (jsonString entry.message)
        :: entry.fields.map fun (name, field) => jsonMember name field.json)),
      jsonMember "target" (jsonString entry.target)]

end Entry

/-! ## Text

For a reader a text is shown as it is or in quotes; which of the two is said by the entry. -/

/-- The value of a field for a reader. -/
def Field.text : Field → String
  | .quoted text => Text.quote text
  | .shown text => text
  | .count n => toString n

/-- The name of a level on five places. -/
def Level.padded (level : Level) : String :=
  (if level.name.length < 5 then " " else "") ++ level.name

namespace Entry

/-- An entry on one line, the fields after the message. -/
def compact (stamp : String) (entry : Entry) : String :=
  " ".intercalate ([stamp, entry.level.padded, entry.target ++ ":", entry.message]
    ++ entry.fields.map fun (name, field) => name ++ "=" ++ field.text)

/-- An entry for a reader, followed by an empty line. The line that says which place in the program
it comes from is left out. -/
def pretty (stamp : String) (entry : Entry) : String :=
  "  " ++ ", ".intercalate
    (" ".intercalate [stamp, entry.level.padded, entry.target ++ ":", entry.message]
      :: entry.fields.map fun (name, field) => name ++ ": " ++ field.text) ++ "\n"

/-- An entry in a format, with the line break at its end. -/
def written (format : Format) (stamp : String) (entry : Entry) : String :=
  (match format with
    | .pretty => entry.pretty stamp
    | .compact => entry.compact stamp
    | .json => entry.json stamp) ++ "\n"

end Entry

end TunnelOptions.Log
