import Mathlib.Data.List.Forall2
import TunnelOptions.Proofs.Toml.Values
import TunnelOptions.Settings

/-!
# The option values of settings

Strings, truth values, integers and arrays of nothing but strings are option values, and each of
them stands for one. Everything else is refused, an array because of its first item that is no
string, and a table because of its first value that is refused.

Both readers go on as long as nothing is refused and stop at the first thing that is. What they do
is stated by relations that do not mention them: `Converts` and `Refuses` for a value, and
`ConvertsEntry` and `FirstRefused` for a table. Every value is on exactly one side, so that reading
a value is the same as being on its side, and everything about tables is shown from that, without
looking into values again.

* `OptionMap.entries_ofList`: pairs under distinct keys are the entries of their map.
* `Settings.Converts`, `Settings.Refuses`: the option value of a value, and why it has none.
* `Settings.optionValue_eq_ok_iff`, `Settings.optionValue_eq_error_iff`: reading one value. All that
  follows goes by these two.
* `Settings.exists_converts_iff`: what has an option value is what a file of settings can hold as
  one, `Toml.Value.Plain`.
* `Settings.FirstRefused`, `Settings.optionMap_eq_error_iff`: when a table has no option map.
* `Settings.forall₂_optionMap`, `Settings.exists_optionMap`: the option map of a table.
-/

set_option autoImplicit false

namespace TunnelOptions

/-! ## The option map

Writing the values one after the other keeps their order, because no key comes twice. -/

namespace OptionMap

/-- Pairs under new keys go behind the others, in their order. -/
theorem entries_foldl_put (pairs : List (String × Value)) (map : OptionMap)
    (hnodup : (map.keys ++ Entries.keys pairs).Nodup) :
    (pairs.foldl (fun map pair => map.put pair.1 pair.2) map).entries = map.entries ++ pairs := by
  induction pairs generalizing map with
  | nil => rw [List.foldl_nil, List.append_nil]
  | cons pair pairs ih =>
    obtain ⟨key, value⟩ := pair
    have hkey : key ∉ Entries.keys map.entries := by
      intro hmem
      exact (List.nodup_append.1 hnodup).2.2 key hmem key List.mem_cons_self rfl
    have hput : (map.put key value).entries = map.entries ++ [(key, value)] :=
      Entries.put_of_not_mem hkey value
    have hkeys : (map.put key value).keys ++ Entries.keys pairs
        = map.keys ++ Entries.keys ((key, value) :: pairs) := by
      rw [keys, keys, hput]
      simp [Entries.keys]
    rw [List.foldl_cons, ih (map.put key value) (by rw [hkeys]; exact hnodup), hput,
      List.append_assoc, List.singleton_append]

/-- **Pairs under distinct keys are the entries of their map.** -/
theorem entries_ofList {pairs : List (String × Value)} (hnodup : (Entries.keys pairs).Nodup) :
    (ofList pairs).entries = pairs :=
  entries_foldl_put pairs empty hnodup

end OptionMap

namespace Settings

/-! ## One value

An array is split where its strings end. The reader has collected the strings in front by then, so
what it does with the rest is said for any strings in front of it. -/

/-- The option value that a value stands for. A value stands for one at most, as each kind of value
has one kind of option value. -/
inductive Converts : Toml.Value → Value → Prop where
  | string (s : String) : Converts (.string s) (.text s)
  | boolean (b : Bool) : Converts (.boolean b) (.bool b)
  | integer (n : Int64) : Converts (.integer n) (.int n)
  | strings (items : List String) : Converts (.array (items.map .string)) (.texts items)

/-- Why a value stands for none. What kind of value it is decides, but for an array, of which the
first item decides that is no string. -/
inductive Refuses : Toml.Value → Reason → Prop where
  /-- `item` is the first of an array that is no string. -/
  | item (strings : List String) (item : Toml.Value) (rest : List Toml.Value)
    (h : item.kind ≠ .string) :
    Refuses (.array (strings.map .string ++ item :: rest)) (.noStringItem item.kind)
  | float (x : Number.Binary64) : Refuses (.float x) (.unsupported .float)
  | datetime (d : Toml.Datetime) : Refuses (.datetime d) (.unsupported .datetime)
  | table (entries : Toml.Table) : Refuses (.table entries) (.unsupported .table)

theorem texts_strings_append (strings : List String) (items : List Toml.Value) :
    texts (strings.map .string ++ items) = (texts items).map (strings ++ ·) := by
  induction strings with
  | nil => cases h : texts items <;> simp [h, Except.map]
  | cons s strings ih =>
    rw [List.map_cons, List.cons_append, texts, ih]
    cases texts items <;> rfl

theorem texts_cons_of_ne {item : Toml.Value} (h : item.kind ≠ .string) (rest : List Toml.Value) :
    texts (item :: rest) = .error (.noStringItem item.kind) := by
  cases item with
  | string s => exact absurd rfl h
  | integer | float | boolean | datetime | array | table => rfl

/-- Items are strings, or there is a first that is none. -/
theorem strings_or_split (items : List Toml.Value) :
    (∃ strings : List String, items = strings.map .string)
    ∨ ∃ (strings : List String) (item : Toml.Value) (rest : List Toml.Value),
      items = strings.map .string ++ item :: rest ∧ item.kind ≠ .string := by
  induction items with
  | nil => exact .inl ⟨[], rfl⟩
  | cons item items ih =>
    by_cases h : item.kind = .string
    · obtain ⟨s, rfl⟩ : ∃ s, item = .string s := by
        cases item with
        | string s => exact ⟨s, rfl⟩
        | integer | float | boolean | datetime | array | table => exact nomatch h
      rcases ih with ⟨strings, rfl⟩ | ⟨strings, other, rest, rfl, hother⟩
      · exact .inl ⟨s :: strings, rfl⟩
      · exact .inr ⟨s :: strings, other, rest, rfl, hother⟩
    · exact .inr ⟨[], item, items, rfl, h⟩

/-- Every value stands for an option value or is refused. -/
theorem converts_or_refuses (value : Toml.Value) :
    (∃ v, Converts value v) ∨ ∃ reason, Refuses value reason := by
  cases value with
  | string s => exact .inl ⟨_, .string s⟩
  | boolean b => exact .inl ⟨_, .boolean b⟩
  | integer n => exact .inl ⟨_, .integer n⟩
  | array items =>
    rcases strings_or_split items with ⟨strings, rfl⟩ | ⟨strings, item, rest, rfl, hitem⟩
    · exact .inl ⟨_, .strings strings⟩
    · exact .inr ⟨_, .item strings item rest hitem⟩
  | float x => exact .inr ⟨_, .float x⟩
  | datetime d => exact .inr ⟨_, .datetime d⟩
  | table entries => exact .inr ⟨_, .table entries⟩

theorem optionValue_of_converts {value : Toml.Value} {v : Value} (h : Converts value v) :
    optionValue value = .ok v := by
  cases h with
  | string s => rfl
  | boolean b => rfl
  | integer n => rfl
  | strings items =>
    have hitems := texts_strings_append items []
    rw [List.append_nil] at hitems
    rw [optionValue, hitems]
    simp [texts, Except.map]

theorem optionValue_of_refuses {value : Toml.Value} {reason : Reason} (h : Refuses value reason) :
    optionValue value = .error reason := by
  cases h with
  | item strings item rest hitem =>
    rw [optionValue, texts_strings_append, texts_cons_of_ne hitem]
    rfl
  | float x => rfl
  | datetime d => rfl
  | table entries => rfl

/-- **A value is read as the option value that it stands for.** -/
theorem optionValue_eq_ok_iff {value : Toml.Value} {v : Value} :
    optionValue value = .ok v ↔ Converts value v := by
  refine ⟨fun h => ?_, optionValue_of_converts⟩
  rcases converts_or_refuses value with ⟨w, hw⟩ | ⟨reason, hreason⟩
  · rw [optionValue_of_converts hw] at h
    exact Except.ok.inj h ▸ hw
  · rw [optionValue_of_refuses hreason] at h
    exact nomatch h

/-- **A value that is refused is not read**, for the reason for which it is refused. -/
theorem optionValue_eq_error_iff {value : Toml.Value} {reason : Reason} :
    optionValue value = .error reason ↔ Refuses value reason := by
  refine ⟨fun h => ?_, optionValue_of_refuses⟩
  rcases converts_or_refuses value with ⟨v, hv⟩ | ⟨other, hother⟩
  · rw [optionValue_of_converts hv] at h
    exact nomatch h
  · rw [optionValue_of_refuses hother] at h
    exact Except.error.inj h ▸ hother

/-- The values that stand for option values are the plain ones. -/
theorem exists_converts_iff {value : Toml.Value} : (∃ v, Converts value v) ↔ value.Plain := by
  constructor
  · rintro ⟨v, hv⟩
    cases hv with
    | string s => exact .string s
    | boolean b => exact .boolean b
    | integer n => exact .integer n
    | strings items => exact .strings items
  · intro h
    cases h with
    | string s => exact ⟨_, .string s⟩
    | integer n => exact ⟨_, .integer n⟩
    | boolean b => exact ⟨_, .boolean b⟩
    | strings items => exact ⟨_, .strings items⟩

theorem Refuses.not_plain {value : Toml.Value} {reason : Reason} (h : Refuses value reason) :
    ¬ value.Plain := by
  intro hplain
  obtain ⟨v, hv⟩ := exists_converts_iff.2 hplain
  have hread : optionValue value = .error reason := optionValue_eq_error_iff.2 h
  rw [optionValue_eq_ok_iff.2 hv] at hread
  exact nomatch hread

/-! ## A table of values

The values are read in the order of the table, and one that is refused hides all behind it. -/

/-- An entry of a table and the option it stands for. -/
def ConvertsEntry (entry : String × Toml.Value) (option : String × Value) : Prop :=
  entry.1 = option.1 ∧ Converts entry.2 option.2

/-- The first value of a table that is refused stands under `key`. -/
def FirstRefused (table : Toml.Table) (key : String) (reason : Reason) : Prop :=
  ∃ before value after, table = before ++ (key, value) :: after
    ∧ (∀ entry ∈ before, entry.2.Plain) ∧ Refuses value reason

theorem optionValues_cons_of_refuses {value : Toml.Value} {reason : Reason}
    (h : Refuses value reason) (key : String) (table : Toml.Table) :
    optionValues ((key, value) :: table) = .error (.invalid key reason) := by
  rw [optionValues, optionValue_eq_error_iff.2 h]
  rfl

theorem optionValues_cons_of_converts {value : Toml.Value} {v : Value} (h : Converts value v)
    (key : String) (table : Toml.Table) :
    optionValues ((key, value) :: table) = (optionValues table).map ((key, v) :: ·) := by
  rw [optionValues, optionValue_eq_ok_iff.2 h]
  cases optionValues table <;> rfl

/-- Entries have their options in the same order. -/
theorem forall₂_optionValues {table : Toml.Table} {values : List (String × Value)}
    (h : optionValues table = .ok values) : List.Forall₂ ConvertsEntry table values := by
  induction table generalizing values with
  | nil =>
    cases h
    exact .nil
  | cons entry table ih =>
    obtain ⟨key, value⟩ := entry
    cases hvalue : optionValue value with
    | ok v =>
      have hv : Converts value v := optionValue_eq_ok_iff.1 hvalue
      rw [optionValues_cons_of_converts hv] at h
      obtain ⟨rest, hrest, rfl⟩ := exists_of_map_eq_ok h
      exact .cons ⟨rfl, hv⟩ (ih hrest)
    | error reason =>
      rw [optionValues_cons_of_refuses (optionValue_eq_error_iff.1 hvalue)] at h
      exact nomatch h

theorem keys_eq_of_forall₂ {table : Toml.Table} {values : List (String × Value)}
    (h : List.Forall₂ ConvertsEntry table values) : Entries.keys values = Entries.keys table := by
  induction h with
  | nil => rfl
  | cons hentry hrest ih =>
    rw [Entries.keys, Entries.keys, List.map_cons, List.map_cons, hentry.1]
    exact congrArg _ ih

theorem exists_optionValues {table : Toml.Table} (h : ∀ entry ∈ table, entry.2.Plain) :
    ∃ values, optionValues table = .ok values := by
  induction table with
  | nil => exact ⟨[], rfl⟩
  | cons entry table ih =>
    obtain ⟨key, value⟩ := entry
    obtain ⟨hentry, hrest⟩ := List.forall_mem_cons.1 h
    obtain ⟨v, hv⟩ := exists_converts_iff.2 hentry
    obtain ⟨values, hvalues⟩ := ih hrest
    refine ⟨(key, v) :: values, ?_⟩
    rw [optionValues_cons_of_converts hv, hvalues]
    rfl

theorem optionValues_of_firstRefused {table : Toml.Table} {key : String} {reason : Reason}
    (h : FirstRefused table key reason) : optionValues table = .error (.invalid key reason) := by
  obtain ⟨before, value, after, rfl, hbefore, hrefuses⟩ := h
  induction before with
  | nil => exact optionValues_cons_of_refuses hrefuses key after
  | cons entry before ih =>
    obtain ⟨hentry, hbefore⟩ := List.forall_mem_cons.1 hbefore
    obtain ⟨v, hv⟩ := exists_converts_iff.2 hentry
    rw [List.cons_append, optionValues_cons_of_converts hv, ih hbefore]
    rfl

theorem plain_or_firstRefused (table : Toml.Table) :
    (∀ entry ∈ table, entry.2.Plain) ∨ ∃ key reason, FirstRefused table key reason := by
  rcases Entries.forall_or_first (fun entry => entry.2.Plain) table with
    hall | ⟨before, ⟨key, value⟩, after, hsplit, hbefore, hvalue⟩
  · exact .inl hall
  · cases hread : optionValue value with
    | ok v => exact absurd (exists_converts_iff.1 ⟨v, optionValue_eq_ok_iff.1 hread⟩) hvalue
    | error reason =>
      exact .inr ⟨key, reason, before, value, after, hsplit, hbefore,
        optionValue_eq_error_iff.1 hread⟩

/-! ## The map of a table

A file gives every key once, so the options keep their order in the map. -/

/-- **A table has no option map because of its first value that is refused.** -/
theorem optionMap_eq_error_iff {settings : Settings} {fault : OptionFault} :
    settings.optionMap = .error fault
      ↔ ∃ key reason, fault = .invalid key reason ∧ FirstRefused settings.options key reason := by
  constructor
  · intro h
    rcases plain_or_firstRefused settings.options with hplain | ⟨key, reason, hfirst⟩
    · obtain ⟨values, hvalues⟩ := exists_optionValues hplain
      rw [optionMap, hvalues] at h
      exact nomatch h
    · rw [optionMap, optionValues_of_firstRefused hfirst] at h
      exact ⟨key, reason, (Except.error.inj h).symm, hfirst⟩
  · rintro ⟨key, reason, rfl, hfirst⟩
    rw [optionMap, optionValues_of_firstRefused hfirst]
    rfl

/-- **The option map of a table holds the options of its entries in their order.** -/
theorem forall₂_optionMap {settings : Settings} {map : OptionMap}
    (hkeys : (Entries.keys settings.options).Nodup) (h : settings.optionMap = .ok map) :
    List.Forall₂ ConvertsEntry settings.options map.entries := by
  rw [optionMap] at h
  obtain ⟨values, hvalues, rfl⟩ := exists_of_map_eq_ok h
  have hentries := forall₂_optionValues hvalues
  have hnodup : (Entries.keys values).Nodup := by
    rw [keys_eq_of_forall₂ hentries]
    exact hkeys
  rw [OptionMap.entries_ofList hnodup]
  exact hentries

/-- A table of plain values has an option map, under the same keys. -/
theorem exists_optionMap {settings : Settings}
    (hoptions : ∀ entry ∈ settings.options, entry.2.Plain)
    (hkeys : (Entries.keys settings.options).Nodup) :
    ∃ map, settings.optionMap = .ok map ∧ map.keys = Entries.keys settings.options := by
  obtain ⟨values, hvalues⟩ := exists_optionValues hoptions
  have hmap : settings.optionMap = .ok (.ofList values) := by
    rw [optionMap, hvalues]
    rfl
  exact ⟨_, hmap, keys_eq_of_forall₂ (forall₂_optionMap hkeys hmap)⟩

end Settings

end TunnelOptions
