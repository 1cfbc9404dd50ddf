import TunnelOptions.Failure
import TunnelOptions.Log.Line
import TunnelOptions.Log.Settings

/-!
# The log of a program

A program has one log at most. It is installed once, with a filter, a format and a place to write
to; later attempts are refused, and a refused attempt installs nothing.

The log is shared by the whole program, so what it has come to is a state of the whole program: the
files, what was shown on the terminal, and the log once there is one. Attempts and events go through
that state one after the other. An attempt that is refused can still leave a trace in it, for the
file is opened before it is known whether there is a log already; that is why attempts are not
simply dropped from a run once they have failed.

A file is text and the terminal is not. What goes to a file is written out, with its stamp; what
goes to the terminal is kept as the entry, its format and its stamp, since there the text has
colours around its parts, of which nothing is said here.

The checks of an attempt come in an order, and with several things wrong the first decides: the
level, the file, the format, and that there is no log yet.

* `Sink`, `Journal`: the log, and what it has come to.
* `Journal.install`: one attempt to install a log.
* `Journal.record`: events written to the log.
* `Journal.run`: attempts and events in the order a program comes to them.
* `Journal.installAll`: attempts alone.
-/

set_option autoImplicit false

namespace TunnelOptions

namespace Log

/-- A log that is installed. It does not change any more: a program that wants another filter or
another file has to be started again. -/
structure Sink where
  /-- What is let through. -/
  filter : Filter
  format : Format
  /-- The file that is written to; without one it is the terminal. -/
  file : Option String
  deriving DecidableEq

/-- An entry on the terminal: how it was written, apart from its colours. The text itself is not
made, since on a terminal its parts are coloured one by one. -/
structure Shown where
  format : Format
  stamp : String
  entry : Entry
  deriving DecidableEq

/-- What a program's log has come to: the files there are, what has been shown, and the log itself
once one is installed. -/
structure Journal where
  disk : Disk
  /-- What was shown on the terminal, in order. -/
  terminal : List Shown := []
  sink : Option Sink := none

/-- What a program does with its log. Both kinds may come in any order, and events may come when
there is no log. -/
inductive Act where
  /-- An attempt to install a log. -/
  | install (settings : LogSettings)
  /-- Events to be logged, of which the one at place `i` is stamped `clock i`. -/
  | record (clock : Nat → String) (events : List Event)

namespace Journal

/-- Opens the file of a log, if it has one. All else that an attempt does leaves the disk alone. -/
def openFile (disk : Disk) : Option String → Except FileFault Disk
  | none => .ok disk
  | some path => disk.create path

/-- One attempt to install a log. The level is read first and touches no file; then the file is
opened, which may make it; then the format is looked up; and last there must be no log yet. -/
def install (settings : LogSettings) (journal : Journal) : Except Failure Unit × Journal :=
  match Filter.read settings.level with
  | .error fault => (.error (.settings (.badLogLevel fault)), journal)
  | .ok filter =>
    match openFile journal.disk settings.file with
    | .error fault => (.error (.file fault), journal)
    | .ok disk =>
      let opened := { journal with disk }
      match Format.ofName? settings.format, journal.sink with
      | none, _ => (.error (.settings (.unknownLogFormat settings.format)), opened)
      | some _, some _ => (.error (.settings .alreadyLogging), opened)
      | some format, none =>
        (.ok (), { opened with sink := some { filter, format, file := settings.file } })

/-- Writes one entry to a log. -/
def write (sink : Sink) (stamp : String) (entry : Entry) (journal : Journal) : Journal :=
  match sink.file with
  | none => { journal with terminal := journal.terminal ++ [⟨sink.format, stamp, entry⟩] }
  | some path =>
    { journal with disk := journal.disk.append path (entry.written sink.format stamp) }

/-- Writes the entries that the filter of a log lets through. The entry at place `i` is stamped
`clock i`. -/
def writeAll (sink : Sink) (clock : Nat → String) : Nat → List Entry → Journal → Journal
  | _, [], journal => journal
  | i, entry :: entries, journal =>
    writeAll sink clock (i + 1) entries
      (if sink.filter.admits entry then journal.write sink (clock i) entry else journal)

/-- Events written to the log, if there is one. Without a log they are lost, and a log that is
installed later does not get them. -/
def record (clock : Nat → String) (events : List Event) (journal : Journal) : Journal :=
  match journal.sink with
  | none => journal
  | some sink => writeAll sink clock 0 (events.map Entry.ofEvent) journal

/-- One act after the other, with the results of all attempts to install a log. Logging has no
result, since nothing that is logged can fail. -/
def run : List Act → Journal → List (Except Failure Unit) × Journal
  | [], journal => ([], journal)
  | .install settings :: acts, journal =>
    let (result, installed) := install settings journal
    let (results, last) := run acts installed
    (result :: results, last)
  | .record clock events :: acts, journal => run acts (journal.record clock events)

/-- Attempts to install a log one after the other, with all their results. -/
def installAll (attempts : List LogSettings) (journal : Journal) :
    List (Except Failure Unit) × Journal :=
  run (attempts.map .install) journal

end Journal

end Log

end TunnelOptions
