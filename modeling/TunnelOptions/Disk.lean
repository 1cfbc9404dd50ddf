/-!
# Files

Settings are loaded from a file and saved to one, and a log may go to a file. This module is all
that is known of files: what a program can find at a path, and what reading, writing and appending
do to it.

A disk is a function from paths to places and not a tree of directories. Nothing here ever makes,
removes or lists a directory, so all that a directory can do to a program is to be in its way: a
path is a directory itself, or it has none to put a file in. These are two of the four kinds of
place. For the same reason two paths that are written differently are two places; that one of them
may be a link to the other is left out.

Writing and appending are kept apart because they are asked for differently. A file is written in
one go, so `Disk.write` can fail. A log opens its file once, when `Disk.create` can fail, and is
appended to it line by line after that; so `Disk.append` has no fault.

* `Place`, `Disk`: what is at a path, for every path.
* `Disk.readText`, `Disk.write`, `Disk.create`, `Disk.append`: the operations, each with its fault.
* `Disk.place_of_write`, `Disk.readText_of_write`: what is read behind a write.
-/

set_option autoImplicit false

namespace TunnelOptions

/-- What is at a path, as far as a program that reads, writes and appends can tell: two kinds of
place where a file cannot be, one where it could be made, and one where it is. -/
inductive Place where
  /-- Nothing, and no directory to put a file in. -/
  | unreachable
  /-- Nothing yet. -/
  | absent
  | directory
  | file (content : ByteArray)

/-- Why a file cannot be used. Where there is no directory to put a file in, the fault is the same
as for a file that is not there. -/
inductive FileFault where
  | notFound
  | isDirectory
  | notUtf8
  deriving DecidableEq, Repr

/-- The wording of a fault. -/
def FileFault.message : FileFault → String
  | .notFound => "No such file or directory (os error 2)"
  | .isDirectory => "Is a directory (os error 21)"
  | .notUtf8 => "stream did not contain valid UTF-8"

/-- What is at every path. Paths that are written differently lead to different places, so a write
at one of them says nothing of the others. -/
structure Disk where
  place : String → Place

namespace Disk

/-- The disk with something else at one path. Every operation that changes a disk changes it in this
way, so all other paths lead where they did. -/
def set (disk : Disk) (path : String) (place : Place) : Disk :=
  { place := fun other => if other = path then place else disk.place other }

/-- The bytes of a file. What is no file has none, and the two ways of there being nothing have the
same fault. -/
def read (disk : Disk) (path : String) : Except FileFault ByteArray :=
  match disk.place path with
  | .unreachable | .absent => .error .notFound
  | .directory => .error .isDirectory
  | .file content => .ok content

/-- The text of a file. Its bytes must be UTF-8 from beginning to end; a file that is not is a
fault, and no byte of it is replaced. -/
def readText (disk : Disk) (path : String) : Except FileFault String := do
  match String.fromUTF8? (← disk.read path) with
  | some text => .ok text
  | none => .error .notUtf8

/-- The disk after a text has replaced what a file held, or has become a file where there was
nothing yet. It goes there whole: there is no disk with half of it. -/
def write (disk : Disk) (path : String) (text : String) : Except FileFault Disk :=
  match disk.place path with
  | .unreachable => .error .notFound
  | .directory => .error .isDirectory
  | .absent | .file _ => .ok (disk.set path (.file text.toUTF8))

/-- The disk after a file has been opened to append to it: an empty one is made where there was
nothing. -/
def create (disk : Disk) (path : String) : Except FileFault Disk :=
  match disk.place path with
  | .unreachable => .error .notFound
  | .directory => .error .isDirectory
  | .absent => .ok (disk.set path (.file ByteArray.empty))
  | .file _ => .ok disk

/-- The disk after a text has been appended to a file. Where there is no file nothing happens; a log
opens its file before it appends to it, so it never comes to that. -/
def append (disk : Disk) (path : String) (text : String) : Disk :=
  match disk.place path with
  | .file content => disk.set path (.file (content ++ text.toUTF8))
  | _ => disk

@[simp] theorem place_set_self (disk : Disk) (path : String) (place : Place) :
    (disk.set path place).place path = place := by
  simp [Disk.set]

/-- Writing leaves the text at its path, in the bytes of its encoding and with nothing of what was
there. -/
theorem place_of_write {disk after : Disk} {path text : String}
    (h : disk.write path text = .ok after) : after.place path = .file text.toUTF8 := by
  unfold write at h
  split at h
  · cases h
  · cases h
  · cases h; simp
  · cases h; simp

/-- **What was written is read.** -/
theorem readText_of_write {disk after : Disk} {path text : String}
    (h : disk.write path text = .ok after) : after.readText path = .ok text := by
  have hv : text.toByteArray.IsValidUTF8 := text.isValidUTF8
  simp [readText, read, place_of_write h, bind, Except.bind, String.fromUTF8?, String.toUTF8, hv,
    String.fromUTF8]

end Disk

end TunnelOptions
