import TunnelOptions.Settings
import TunnelOptions.Toml.Layout

/-!
# Writing settings

Settings are written as a document of two parts, the options of the channel and the log settings,
each with the headers of the tables that it needs. How a table is laid out in a document is said in
`TunnelOptions.Toml.Layout`; here it is only said which tables there are and what is in them.

A field that is absent is left out: there is no value in a document that says nothing. So a log
without a file has a table of two entries.

* `LogSettings.table`: log settings as a table.
* `Settings.text`: the document of settings.
* `Settings.save`: the same in a file.
-/

set_option autoImplicit false

namespace TunnelOptions

/-- Log settings as a table; without a file there is no entry for one. -/
def LogSettings.table (logging : LogSettings) : Toml.Table :=
  [("level", .string logging.level), ("format", .string logging.format)]
    ++ (logging.file.map fun file => ("file", .string file)).toList

namespace Settings

/-- The document of settings: the options under a header of two parts, and what the log is asked to
be under one of its own. There is no header for the outer table of the options. -/
def text (settings : Settings) : String :=
  String.ofList (Toml.document (Toml.tableBlocks ["channel", "options"] settings.options
    ++ Toml.tableBlocks ["logging"] settings.logging.table))

/-- The disk after settings have been written to a file, which is replaced as a whole. All settings
can be written, so the only fault is that of the file. -/
def save (settings : Settings) (disk : Disk) (path : String) : Except SettingsFault Disk :=
  match disk.write path settings.text with
  | .ok disk => .ok disk
  | .error fault => .error (.unwritable fault)

end Settings

end TunnelOptions
