import TunnelOptions.Disk
import TunnelOptions.Proofs.OptionValues
import TunnelOptions.Proofs.Toml.Drafts
import TunnelOptions.Settings.Reading
import TunnelOptions.Settings.Writing

/-!
# Settings that have been saved

Settings whose options are all option values come back from their file as they were: the options
under the same keys and in the same order, and what the log is asked to be.

Three things stand between settings and their file: the document that they are written as, the table
that is read from a document, and the places of a disk. The document is dealt with where TOML is,
for any two tables of plain values, so here only the shape that settings have is left: an outer
table around the options, and the table of the log. A plain value holds no table, so none of them
could spell a date-time, and what has been read is what the fields are taken from.

* `Toml.settle?_plain`: no plain value spells a date-time.
* `LogSettings.ofValue?_table`: what the log is asked to be is read from its table.
* `Settings.ofTable?_tables`: the settings of the two tables.
* `Settings.parse_text`: the document of settings is read as the settings.
* `Settings.load_save`: settings are saved and loaded without loss.
-/

set_option autoImplicit false

namespace TunnelOptions

/-! ## Reading the document

Every field of the file may be missing, and then it has a default. A document that was written has
all of them, but for the file of the log, which is there when there is one. -/

/-- No plain value spells a date-time. -/
theorem Toml.settle?_plain {value : Toml.Value} (hvalue : value.Plain) :
    value.settle? = some value := by
  cases hvalue with
  | string s => rfl
  | integer n => rfl
  | boolean b => rfl
  | strings items =>
    have hitems : Toml.settleItems? (items.map .string) = some (items.map .string) := by
      induction items with
      | nil => rfl
      | cons s items ih =>
        rw [List.map_cons, Toml.settleItems?, ih]
        rfl
    rw [Toml.Value.settle?, hitems, Option.map_some]

theorem Toml.settleEntries?_plain {table : Toml.Table} (htable : ∀ entry ∈ table, entry.2.Plain) :
    Toml.settleEntries? table = some table := by
  induction table with
  | nil => rfl
  | cons entry table ih =>
    have hentry := Toml.settle?_plain (htable entry List.mem_cons_self)
    have hrest := ih fun other hother => htable other (List.mem_cons_of_mem entry hother)
    rw [Toml.settleEntries?, hentry, hrest]
    rfl

namespace LogSettings

/-- Log settings are read from the table they are written as. -/
theorem ofValue?_table (logging : LogSettings) :
    LogSettings.ofValue? (.table logging.table) = some logging := by
  obtain ⟨level, format, file⟩ := logging
  cases file with
  | none => rfl
  | some file => rfl

theorem plain_of_mem_table {logging : LogSettings} :
    ∀ entry ∈ logging.table, entry.2.Plain := by
  intro entry hentry
  rcases List.mem_append.1 hentry with hnamed | hfile
  · rcases List.mem_cons.1 hnamed with rfl | hformat
    · exact .string logging.level
    · rw [List.mem_singleton.1 hformat]
      exact .string logging.format
  · rw [Option.mem_toList, Option.map_eq_some_iff] at hfile
    obtain ⟨file, -, rfl⟩ := hfile
    exact .string file

theorem nodup_keys_table (logging : LogSettings) : (Entries.keys logging.table).Nodup := by
  obtain ⟨level, format, file⟩ := logging
  cases file with
  | none => exact (by decide : ["level", "format"].Nodup)
  | some file => exact (by decide : ["level", "format", "file"].Nodup)

end LogSettings

namespace Settings

/-- **The settings of a document of two tables.** -/
theorem ofTable?_tables {settings : Settings}
    (hoptions : ∀ entry ∈ settings.options, entry.2.Plain) :
    ofTable? [("channel", .table [("options", .table settings.options)]),
        ("logging", .table settings.logging.table)]
      = some settings := by
  have hsettle := Toml.settleEntries?_plain hoptions
  have hlogging := settings.logging.ofValue?_table
  have hchannel : channelOptions? (.table [("options", .table settings.options)])
      = some settings.options := by
    rw [← hsettle]
    rfl
  have hread : readField [("channel", .table [("options", .table settings.options)]),
        ("logging", .table settings.logging.table)] "channel" [] channelOptions?
      = some settings.options := hchannel
  have hlog : readField [("channel", .table [("options", .table settings.options)]),
        ("logging", .table settings.logging.table)] "logging" {} LogSettings.ofValue?
      = some settings.logging := hlogging
  simp only [ofTable?, hread, hlog, Option.bind_eq_bind, Option.bind_some]

/-- **The document of settings is read as the settings.** -/
theorem parse_text {settings : Settings} (hoptions : ∀ entry ∈ settings.options, entry.2.Plain)
    (hkeys : (Entries.keys settings.options).Nodup) : parse settings.text = .ok settings := by
  have hread := @Toml.Document.read_tables "channel" "options" "logging" (by decide) _ _ hoptions
    hkeys LogSettings.plain_of_mem_table settings.logging.nodup_keys_table
  rw [parse, text, hread]
  simp only [Option.bind_eq_bind, Option.bind_some, ofTable?_tables hoptions]

/-! ## Saving and loading

What has been written to a place is read from it, so the disk adds nothing but the condition that a
file can be there. -/

/-- **Settings are saved and loaded without loss.** Where a file can be written, the document of the
settings goes to it and is read back as the same settings, whose options are the same option map. -/
theorem load_save (settings : Settings) (hoptions : ∀ entry ∈ settings.options, entry.2.Plain)
    (hkeys : (Entries.keys settings.options).Nodup) (disk : Disk) (path : String)
    (hpath : disk.place path ≠ .unreachable ∧ disk.place path ≠ .directory) :
    ∃ after loaded map, settings.save disk path = .ok after ∧ load after path = .ok loaded
      ∧ loaded.options = settings.options ∧ loaded.logging = settings.logging
      ∧ settings.optionMap = .ok map ∧ loaded.optionMap = .ok map
      ∧ map.keys = Entries.keys settings.options := by
  have hwrite : ∃ after, disk.write path settings.text = .ok after := by
    cases hplace : disk.place path with
    | unreachable => exact absurd hplace hpath.1
    | absent => exact ⟨_, by rw [Disk.write, hplace]⟩
    | directory => exact absurd hplace hpath.2
    | file content => exact ⟨_, by rw [Disk.write, hplace]⟩
  obtain ⟨after, hafter⟩ := hwrite
  obtain ⟨map, hmap, hmapKeys⟩ := exists_optionMap hoptions hkeys
  have hsave : settings.save disk path = .ok after := by rw [save, hafter]
  have hload : load after path = .ok settings := by
    rw [load, Disk.readText_of_write hafter]
    exact parse_text hoptions hkeys
  exact ⟨after, settings, map, hsave, hload, rfl, rfl, hmap, hmap, hmapKeys⟩

/-- Settings whose keys and strings need quotes and escapes: an empty key, one with a dot and a line
break, strings with all kinds of quotes, and control characters. -/
def awkward : Settings where
  options :=
    [("", .string "'''\n\"\"\"\\"), ("a.b\n'", .array [.string "\r", .string "\t'"]),
      ("n", .integer (-5)), ("é", .array []), ("\"", .boolean false)]
  logging := { level := "", format := "\x00", file := some "#" }

theorem load_save_awkward :
    (∀ entry ∈ awkward.options, entry.2.Plain) ∧ (Entries.keys awkward.options).Nodup
    ∧ ∃ after loaded map, awkward.save ⟨fun _ => .absent⟩ "settings.toml" = .ok after
      ∧ load after "settings.toml" = .ok loaded
      ∧ loaded.options = awkward.options ∧ loaded.logging = awkward.logging
      ∧ awkward.optionMap = .ok map ∧ loaded.optionMap = .ok map
      ∧ map.keys = ["", "a.b\n'", "n", "é", "\""] := by
  have hoptions : ∀ entry ∈ awkward.options, entry.2.Plain := by
    simp only [awkward, List.forall_mem_cons]
    exact ⟨.string _, .strings ["\r", "\t'"], .integer _, .strings [], .boolean _,
      fun _ hmem => nomatch hmem⟩
  have hkeys : (Entries.keys awkward.options).Nodup := by decide
  exact ⟨hoptions, hkeys,
    load_save awkward hoptions hkeys ⟨fun _ => .absent⟩ "settings.toml" ⟨nofun, nofun⟩⟩

end Settings

end TunnelOptions
