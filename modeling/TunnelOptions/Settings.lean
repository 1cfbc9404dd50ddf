import TunnelOptions.Failure
import TunnelOptions.Log.Settings
import TunnelOptions.Toml.Value
import TunnelOptions.Tower

/-!
# Settings of a program

Settings are a table of channel options and what the log is asked to be. They are what a settings
file holds; the reading and the writing of the file are in `TunnelOptions.Settings.Reading` and
`TunnelOptions.Settings.Writing`, and this module is about what settings are for.

The options are kept as the table they were read as and not as an option map. A table can hold
values that are no option values, and settings with such a value are settings all the same: they can
be compared and saved. Only where the options are used are they made option values, and that happens
for the whole table before anything is written. So a bad value in a settings file costs nothing but
the call, while a value that an option refuses is found when the entries in front of it are written
already.

* `Settings`: the two together, with `Settings.sample` to start from.
* `Settings.optionMap`: the option values of the table.
* `Settings.openTunnel`: a new tunnel over a tower, with the options.
-/

set_option autoImplicit false

namespace TunnelOptions

/-- The version of the library. -/
def version : String := "0.1.0"

/-- Channel options and log settings, with what an empty settings file comes to. The options may be
anything that a table can hold. -/
structure Settings where
  options : Toml.Table := []
  logging : LogSettings := {}

namespace Settings

/-- Settings to start from, as an example of what a settings file may hold. They are not the ones
that an empty file stands for. -/
def sample : Settings where
  options :=
    [("serverName", .string "tunnel.example.com"), ("serverPath", .string defaultServerPath),
      ("enableSslSessionCreation", .boolean true),
      ("enabledSslProtocols", .array [.string Tls.Version.tls13.name]),
      ("connectTimeoutMillis", .integer 10000)]

/-- Whether two settings have equal options, whatever their order. -/
def sameOptions (a b : Settings) : Bool :=
  Toml.Table.sameAs a.options b.options

/-! ## Option values

A settings file has more kinds of values than options have. Strings, truth values, integers and
arrays of strings have a counterpart; of the others the first one met is the fault. -/

/-- The texts of an array, which must hold nothing else. -/
def texts : List Toml.Value → Except Reason (List String)
  | [] => .ok []
  | .string s :: items => (texts items).map (s :: ·)
  | item :: _ => .error (.noStringItem item.kind)

/-- The option value of a value in the table. -/
def optionValue : Toml.Value → Except Reason Value
  | .string s => .ok (.text s)
  | .boolean b => .ok (.bool b)
  | .integer n => .ok (.int n)
  | .array items => (texts items).map .texts
  | value => .error (.unsupported value.kind)

/-- The option values of some entries, in their order; the first that has none is the fault. Nothing
is written while this is done. -/
def optionValues : Toml.Table → Except OptionFault (List (String × Value))
  | [] => .ok []
  | (key, value) :: entries => do
    let value ← Reason.about key (optionValue value)
    let values ← optionValues entries
    .ok ((key, value) :: values)

/-- The option values of the table, in its order, as the map that can be written to a channel. -/
def optionMap (settings : Settings) : Except OptionFault OptionMap :=
  (optionValues settings.options).map .ofList

/-- Puts one more tunnel on a tower and writes the options to it. Nothing is written unless every
value of the table is an option value. -/
def openTunnel (settings : Settings) (tower : Tower) : Step (Except Failure Unit) :=
  match settings.optionMap with
  | .error fault => ⟨.error (.option fault), tower, []⟩
  | .ok options =>
    let step := tower.withOptions options
    { step with answer := step.answer.mapError .option }

end Settings

end TunnelOptions
