import TunnelOptions.Settings
import TunnelOptions.Toml.Document
import TunnelOptions.Toml.Spelled

/-!
# Reading settings

Settings are the tables `channel` and `logging` of a document; what else it holds is passed over, so
that a file can be shared with other programs. What is absent has a value that stands for it, and so
has either table.

The document is read whole before anything is looked up in it, and there are only two faults: the
file cannot be read, or its text is no settings file. It is not said what is wrong with a text. So
all of this is in `Option`, and the fault is put to it at the end, by `Settings.parse`.

A table of known fields may also be given as an array of its values in the order of the fields;
`fieldsOf?` is where the two become one. The options of a channel are not such a table, because
their names are free.

* `fieldsOf?`, `readField`: the fields of a value, and one of them or what stands for it.
* `Settings.ofTable?`: the settings of a document's table.
* `Settings.parse`, `Settings.load`: the settings of a text and of a file.
-/

set_option autoImplicit false

namespace TunnelOptions

/-- The fields of a value: the entries of a table, or the items of an array in the order of the
fields. What is too much in an array is passed over. -/
def fieldsOf? (names : List String) : Toml.Value → Option Toml.Table
  | .array items => some (names.zip items)
  | value => value.entries?

/-- What a field holds, or else what stands for an absent one. A field that is there and cannot be
read is not absent, and nothing stands for it. -/
def readField {α : Type} (fields : Toml.Table) (name : String) (absent : α)
    (read : Toml.Value → Option α) : Option α :=
  match Entries.get? name fields with
  | none => some absent
  | some value => read value

/-- The log settings of a value. All three fields must be texts where they are given; what the texts
say is not asked here. -/
def LogSettings.ofValue? (value : Toml.Value) : Option LogSettings := do
  let fields ← fieldsOf? ["level", "format", "file"] value
  let absent : LogSettings := {}
  let level ← readField fields "level" absent.level Toml.Value.string?
  let format ← readField fields "format" absent.format Toml.Value.string?
  let file ← readField fields "file" absent.file fun value => value.string?.map some
  some { level, format, file }

namespace Settings

/-- The channel options of a table: its entries, whatever they are, once each date-time that is
spelled as a table has become one. -/
def options? (value : Toml.Value) : Option Toml.Table := do
  Toml.settleEntries? (← value.entries?)

/-- The channel options of the value of a channel. -/
def channelOptions? (value : Toml.Value) : Option Toml.Table := do
  readField (← fieldsOf? ["options"] value) "options" [] options?

/-- The settings of a document's table. Both of its tables may be absent, and other keys are passed
over. -/
def ofTable? (table : Toml.Table) : Option Settings := do
  let options ← readField table "channel" [] channelOptions?
  let logging ← readField table "logging" {} LogSettings.ofValue?
  some { options, logging }

/-- The settings of a text. A text that is no document and a document that holds no settings are the
same fault. -/
def parse (text : String) : Except SettingsFault Settings :=
  match Toml.Document.read text >>= ofTable? with
  | some settings => .ok settings
  | none => .error .malformed

/-- The settings of a file. -/
def load (disk : Disk) (path : String) : Except SettingsFault Settings :=
  match disk.readText path with
  | .ok text => parse text
  | .error fault => .error (.unreadable fault)

end Settings

end TunnelOptions
