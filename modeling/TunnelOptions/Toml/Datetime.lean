import TunnelOptions.Text.Digit
import TunnelOptions.Toml.Space

/-!
# Dates and times

A date-time is a date, a time of day, or both, and then perhaps with an offset from universal time.
No option takes one, but a settings file may have one, and it has to be read, compared and written
like any other value.

It is kept in its parts and never made one moment in time. So nothing is worked out about it but
whether the day exists; a minute may have a leap second, and an offset is only what was written, in
minutes.

There is one way to write a date-time and several to read one, with a small letter or a space in
place of the letter `T`, or with more digits of a second than are kept. A date is always tried
first, since a time of day cannot be taken for one.

* `Date`, `Time`, `Offset`, `Datetime`: the parts and the three forms.
* `Datetime.text`: the one way a date-time is written.
* `Datetime.read`: reads a date-time and says what follows it.
-/

set_option autoImplicit false

namespace TunnelOptions.Toml

/-- A day of the calendar. Whoever reads one makes sure that it exists; the type has room for days
that do not. -/
structure Date where
  year : Nat
  month : Nat
  day : Nat
  deriving DecidableEq, Repr

/-- A time of day, down to the billionth part of a second. The second may be a leap second, on any
minute. -/
structure Time where
  hour : Nat
  minute : Nat
  second : Nat
  nanosecond : Nat := 0
  deriving DecidableEq, Repr

/-- How far a clock is from universal time. The letter and an offset of no minutes say the same and
are still told apart, since they are written differently. -/
inductive Offset where
  /-- Not at all, written with a letter. -/
  | utc
  /-- Some minutes to the east. -/
  | east (minutes : Int)
  deriving DecidableEq, Repr

/-- A date, a time of day, or both. Only with both can there be an offset, since a day or a time of
day alone is no moment. -/
inductive Datetime where
  | date (day : Date)
  | time (hour : Time)
  | moment (day : Date) (hour : Time) (offset : Option Offset)
  deriving DecidableEq, Repr

/-! ## Writing

Each part has its number of places, and only the fraction of a second is as long as it needs to be.
-/

/-- A number on at least `count` places. -/
def padded (count n : Nat) : List Char :=
  let digits := Nat.toDigits 10 n
  List.replicate (count - digits.length) '0' ++ digits

/-- A date as year, month and day. -/
def Date.text (date : Date) : List Char :=
  padded 4 date.year ++ '-' :: padded 2 date.month ++ '-' :: padded 2 date.day

/-- A part of a second, on as many places as it needs. -/
def fractionText (nanosecond : Nat) : List Char :=
  if nanosecond = 0 then []
  else '.' :: ((padded 9 nanosecond).reverse.dropWhile (· = '0')).reverse

/-- A time of day, down to the second or further. -/
def Time.text (time : Time) : List Char :=
  padded 2 time.hour ++ ':' :: padded 2 time.minute ++ ':' :: padded 2 time.second
    ++ fractionText time.nanosecond

/-- An offset as a letter, or as a sign with hours and minutes. -/
def Offset.text : Offset → List Char
  | .utc => ['Z']
  | .east minutes =>
    (if minutes < 0 then '-' else '+') :: padded 2 (minutes.natAbs / 60)
      ++ ':' :: padded 2 (minutes.natAbs % 60)

/-- A date-time, the letter `T` between date and time. -/
def Datetime.text : Datetime → List Char
  | .date day => day.text
  | .time hour => hour.text
  | .moment day hour offset => day.text ++ 'T' :: hour.text ++ (offset.map Offset.text).getD []

/-! ## Reading

Every part but the fraction has a fixed number of digits, so reading one takes exactly that many,
and there is never a choice of where a part ends. -/

/-- Whether a year has a 29th of February. -/
def isLeapYear (year : Nat) : Bool :=
  year % 4 = 0 && (year % 100 ≠ 0 || year % 400 = 0)

/-- How many days a month has. -/
def daysOf (year month : Nat) : Nat :=
  if month = 2 then if isLeapYear year then 29 else 28
  else if month ∈ [4, 6, 9, 11] then 30
  else 31

/-- Reads exactly `count` digits after those worth `value`. -/
def readPlaces : Nat → Nat → List Char → Option (Nat × List Char)
  | 0, value, cs => some (value, cs)
  | _ + 1, _, [] => none
  | count + 1, value, c :: cs => do readPlaces count (value * 10 + (← Text.digitBelow? 10 c)) cs

/-- Reads a day that exists, with four places for the year and two for the month and the day. There
is a year zero. -/
def Date.read (cs : List Char) : Option (Date × List Char) := do
  let (year, cs) ← readPlaces 4 0 cs
  let (month, cs) ← readPlaces 2 0 (← readChar '-' cs)
  let (day, cs) ← readPlaces 2 0 (← readChar '-' cs)
  if 1 ≤ month ∧ month ≤ 12 ∧ 1 ≤ day ∧ day ≤ daysOf year month then
    some (⟨year, month, day⟩, cs)
  else none

/-- Reads the digits of a fraction into nanoseconds, `weight` being what the next one is worth.
Digits that are worth nothing are passed over. -/
def readFraction (weight nanosecond : Nat) : List Char → Nat × List Char
  | [] => (nanosecond, [])
  | c :: cs =>
    match Text.digitBelow? 10 c with
    | none => (nanosecond, c :: cs)
    | some d => readFraction (weight / 10) (nanosecond + d * weight) cs

/-- Reads a point with at least one digit behind it, if that is what comes. -/
def readNanosecond : List Char → Nat × List Char
  | '.' :: c :: cs => if c.isDigit then readFraction 100000000 0 (c :: cs) else (0, '.' :: c :: cs)
  | cs => (0, cs)

/-- Reads hours and minutes. -/
def readClock (cs : List Char) : Option (Nat × Nat × List Char) := do
  let (hour, cs) ← readPlaces 2 0 cs
  let (minute, cs) ← readPlaces 2 0 (← readChar ':' cs)
  if hour ≤ 23 ∧ minute ≤ 59 then some (hour, minute, cs) else none

/-- Reads a time of day, in which the seconds must be given. A minute may have a leap second. -/
def Time.read (cs : List Char) : Option (Time × List Char) := do
  let (hour, minute, cs) ← readClock cs
  let (second, cs) ← readPlaces 2 0 (← readChar ':' cs)
  let (nanosecond, cs) := readNanosecond cs
  if second ≤ 60 then some (⟨hour, minute, second, nanosecond⟩, cs) else none

/-- Reads an offset. -/
def Offset.read : List Char → Option (Offset × List Char)
  | [] => none
  | c :: cs =>
    if c ∈ ['Z', 'z'] then some (.utc, cs)
    else if c ∈ ['+', '-'] then do
      let (hours, minutes, cs) ← readClock cs
      let east : Int := hours * 60 + minutes
      some (.east (if c = '-' then -east else east), cs)
    else none

namespace Datetime

/-- Reads the time that follows a date, if one does: after the letter `T` or a space. -/
def readTimeAfterDate : List Char → Option (Time × List Char)
  | [] => none
  | c :: cs => if c ∈ ['T', 't', ' '] then Time.read cs else none

/-- Reads what may follow a date. -/
def readAfterDate (day : Date) (cs : List Char) : Datetime × List Char :=
  match readTimeAfterDate cs with
  | none => (.date day, cs)
  | some (hour, cs) =>
    match Offset.read cs with
    | none => (.moment day hour none, cs)
    | some (offset, cs) => (.moment day hour (some offset), cs)

/-- Reads a date-time and says what follows it. -/
def read (cs : List Char) : Option (Datetime × List Char) :=
  match Date.read cs with
  | some (day, cs) => some (readAfterDate day cs)
  | none => (Time.read cs).map fun (hour, cs) => (.time hour, cs)

/-- The date-time that a whole text is. -/
def ofText? (text : String) : Option Datetime :=
  match read text.toList with
  | some (datetime, []) => some datetime
  | _ => none

end Datetime

end TunnelOptions.Toml
