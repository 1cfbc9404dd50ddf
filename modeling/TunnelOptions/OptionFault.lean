import TunnelOptions.Number.Literal
import TunnelOptions.Text.Quoted
import TunnelOptions.Toml.Kind
import TunnelOptions.Value

/-!
# Faults of options

Reading a value as what a setting wants can fail for a reason, and the reason knows nothing of the
setting: the same text is no integer for whichever option it was meant. The fault is the reason
together with the key that it is said of. So the readings of values answer with a `Reason`, and
`Reason.about` puts the key to it in one place, where an option is read under its canonical name.
This is why a fault names the canonical key even when an alias was given.

`Reason` covers what any setting can object to, from the wrong kind of value to an integer out of
bounds; a key that nobody knows is no objection to a value, so it is a fault of its own.

The module also holds the few facts about results with a fault on which the proofs about reading
rest: a result of several steps comes from results of each of them.

* `Wanted`, `Reason`: what a setting wants, and why a value cannot be taken, with its wording in
  `Reason.message`.
* `OptionFault`: a key with such a reason, or a key nobody knows.
* `Reason.about`: a reading with its reason said of a key.
-/

set_option autoImplicit false

namespace TunnelOptions

/-- What a setting wants a value to be. These are not the kinds that values have: a setting that
wants an integer takes some texts too, and says that it wanted an integer of all it does not take.
-/
inductive Wanted where
  | text
  | bool
  | int
  | texts
  | tlsContext
  | bufferFactory
  | pipelineFactory
  deriving DecidableEq, Repr

/-- A wanted value in words. -/
def Wanted.phrase : Wanted → String
  | .text => "a string"
  | .bool => "a boolean"
  | .int => "an integer"
  | .texts => "a list of strings"
  | .tlsContext => "a TLS context"
  | .bufferFactory => "a buffer factory"
  | .pipelineFactory => "a pipeline factory"

/-- Why a value cannot be taken. A reason holds what it takes to word it, such as the number that is
out of bounds, and never the key. -/
inductive Reason where
  /-- The value is of another kind. -/
  | mismatch (wanted : Wanted) (got : Value.Kind)
  /-- The text, without the white space around it, is no truth value. -/
  | noBoolean (text : String)
  /-- The text is no 64-bit integer literal. -/
  | noInteger (text : String) (fault : Number.LiteralFault)
  /-- The integer does not fit in 32 bits. -/
  | outOfRange (n : Int64)
  | notPositive (n : Int32)
  /-- The integer is no value of one byte. -/
  | noByte (n : Int32)
  | negative (n : Int32)
  /-- The value is the explicit nothing. -/
  | null
  /-- No option value has this kind of a settings file. -/
  | unsupported (kind : Toml.Kind)
  /-- An item of a list is no string. -/
  | noStringItem (kind : Toml.Kind)
  /-- A reason given in words. -/
  | stated (words : String)
  deriving DecidableEq

/-- The wording of a reason. -/
def Reason.message : Reason → String
  | .mismatch wanted got => String.join ["expected ", wanted.phrase, ", got ", got.name]
  | .noBoolean text => String.join ["cannot interpret ", Text.quote text, " as a boolean"]
  | .noInteger text fault =>
    String.join ["cannot parse ", Text.quote text, " as an integer: ", fault.message]
  | .outOfRange n => String.join [toString n.toInt, " is out of range"]
  | .notPositive n => String.join ["must be positive, got ", toString n.toInt]
  | .noByte n => String.join ["must be within 0..=255, got ", toString n.toInt]
  | .negative n => String.join ["must not be negative, got ", toString n.toInt]
  | .null => "must not be null"
  | .unsupported kind => String.join ["unsupported value type ", kind.name]
  | .noStringItem kind => String.join ["list items must be strings, got ", kind.name]
  | .stated words => words

/-- What is wrong with an option. A caller that only wants to know whether the key is known can tell
the two apart without reading the wording. -/
inductive OptionFault where
  /-- The value of a known key cannot be taken. -/
  | invalid (key : String) (reason : Reason)
  /-- The key is not known. -/
  | unrecognized (key : String)
  deriving DecidableEq

namespace OptionFault

/-- The key a fault is about. -/
def key : OptionFault → String
  | .invalid key _ => key
  | .unrecognized key => key

/-- The wording of a fault. -/
def message : OptionFault → String
  | .invalid key reason => String.join ["Invalid value for ", key, ": ", reason.message]
  | .unrecognized key => String.join ["Unrecognized option: ", key]

end OptionFault

/-! ## Results

Readings are chained: a value is read, the reason is put to a key, and the result goes into a write.
These lemmas take such a chain apart from its result. -/

/-- A result that has been carried over comes from one. -/
theorem exists_of_map_eq_ok {ε α β : Type} {f : α → β} {result : Except ε α} {b : β}
    (h : result.map f = .ok b) : ∃ a, result = .ok a ∧ f a = b := by
  cases result with
  | error fault => exact nomatch h
  | ok a => exact ⟨a, rfl, Except.ok.inj h⟩

/-- A fault that has been carried over is one that was there. -/
theorem eq_error_of_map_eq_error {ε α β : Type} {f : α → β} {result : Except ε α} {fault : ε}
    (h : result.map f = .error fault) : result = .error fault := by
  cases result with
  | error first => exact congrArg Except.error (Except.error.inj h)
  | ok a => exact nomatch h

/-- A result of two steps comes from one of the first. -/
theorem exists_of_bind_eq_ok {ε α β : Type} {next : α → Except ε β} {result : Except ε α} {b : β}
    (h : result >>= next = .ok b) : ∃ a, result = .ok a ∧ next a = .ok b := by
  cases result with
  | error fault => exact nomatch h
  | ok a => exact ⟨a, rfl, h⟩

/-- The same result with the reason said of `key`. Readings do not know which option they are for;
this is the one place where they are told. -/
def Reason.about {α : Type} (key : String) : Except Reason α → Except OptionFault α
  | .ok a => .ok a
  | .error reason => .error (.invalid key reason)

theorem Reason.eq_ok_of_about {α : Type} {key : String} {read : Except Reason α} {a : α}
    (h : about key read = .ok a) : read = .ok a := by
  cases read with
  | error reason => exact nomatch h
  | ok b => exact congrArg Except.ok (Except.ok.inj h)

theorem Reason.about_eq_ok_iff {α : Type} {key : String} {read : Except Reason α} {a : α} :
    about key read = .ok a ↔ read = .ok a := by
  refine ⟨eq_ok_of_about, fun h => ?_⟩
  rw [h, about]

theorem Reason.toOption_about {α : Type} (key : String) (read : Except Reason α) :
    (about key read).toOption = read.toOption := by
  cases read <;> rfl

theorem Reason.exists_of_about_eq_error {α : Type} {key : String} {read : Except Reason α}
    {fault : OptionFault} (h : about key read = .error fault) :
    ∃ reason, fault = .invalid key reason := by
  cases read with
  | error reason => exact ⟨reason, (Except.error.inj h).symm⟩
  | ok a => exact nomatch h

end TunnelOptions
