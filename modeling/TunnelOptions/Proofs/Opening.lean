import TunnelOptions.Log.Journal

/-!
# Files that are opened to append to them

The file of a log is opened before it is known whether there will be a log, so an attempt that comes
to nothing can leave a file behind. But all that opening does is to make an empty file where there
was nothing. What was there stays as it was, opening again makes no difference, and it is all the
same whether text is appended before or after.

A program can open files at any time, in between what it logs. To say what its disk looks like in
the end without following it, all the opening is moved to the front. This is what the laws below are
for: `Disk.openAll` opens a list of files, as far as they can be opened, it takes two lists as one,
and it commutes with appending. It is defined by place and not by opening one file after the other,
so that most of these laws hold place by place.

* `Place.Openable`, `Place.opened`: whether a file can be opened, and what is there then.
* `Disk.openAll`: files opened one after the other, as far as they can be.
* `Disk.create_of_openable`, `Disk.exists_create_eq_error`: opening one file is a case of that.
* `Disk.openAll_openAll`, `Disk.openable_openAll_iff`: opening files after others.
* `Disk.append_append`, `Disk.openAll_append`: appending, and opening after it.
* `Log.Journal.openFile_of_openable`, `Log.Journal.exists_openFile_eq_error`: what becomes of the
  file of a log.

Appending needs a file to be there. Where there is none nothing is appended, and opening one later
would make a difference, so `Disk.openAll_append` asks for a file.
-/

set_option autoImplicit false

namespace TunnelOptions

namespace Place

/-- Whether there is a file to append to, or one can be made. A directory is no such place, and
neither is one without a directory around it. -/
inductive Openable : Place → Prop where
  | absent : Openable .absent
  | file (content : ByteArray) : Openable (.file content)

/-- What is at a place once a file there has been opened to append to it, if it can be. -/
def opened : Place → Place
  | .absent => .file ByteArray.empty
  | place => place

theorem opened_opened (place : Place) : place.opened.opened = place.opened := by
  cases place <;> rfl

theorem opened_of_not_openable {place : Place} (h : ¬ place.Openable) : place.opened = place := by
  cases place with
  | absent => exact absurd .absent h
  | unreachable | directory | file => rfl

theorem openable_opened_iff {place : Place} : place.opened.Openable ↔ place.Openable := by
  cases place with
  | absent => exact ⟨fun _ => .absent, fun _ => .file _⟩
  | unreachable | directory | file => exact Iff.rfl

/-- What could be opened is a file. -/
theorem Openable.exists_content {place : Place} (h : place.Openable) :
    ∃ content, place.opened = .file content := by
  cases h with
  | absent => exact ⟨ByteArray.empty, rfl⟩
  | file content => exact ⟨content, rfl⟩

end Place

namespace Disk

theorem ext_place {disk other : Disk} (h : ∀ path, disk.place path = other.place path) :
    disk = other := by
  cases disk
  cases other
  exact congrArg Disk.mk (funext h)

theorem place_set_of_ne (disk : Disk) {path other : String} (h : other ≠ path) (place : Place) :
    (disk.set path place).place other = disk.place other := by
  simp [Disk.set, h]

theorem set_set (disk : Disk) (path : String) (place last : Place) :
    (disk.set path place).set path last = disk.set path last := by
  refine ext_place fun other => ?_
  by_cases h : other = path <;> simp [Disk.set, h]

/-! ## Opening

Two disks are the same when every place is, and the laws are shown in this way. A file that is
opened twice is opened once, and what could not be opened cannot be opened later, since nothing but
opening itself happens in between. -/

/-- The disk after the files at some paths have been opened to append to them, as far as they can
be. -/
def openAll (disk : Disk) (paths : List String) : Disk where
  place path := if path ∈ paths then (disk.place path).opened else disk.place path

theorem place_openAll_of_mem {disk : Disk} {paths : List String} {path : String}
    (h : path ∈ paths) : (disk.openAll paths).place path = (disk.place path).opened := if_pos h

theorem place_openAll_of_not_mem {disk : Disk} {paths : List String} {path : String}
    (h : path ∉ paths) : (disk.openAll paths).place path = disk.place path := if_neg h

@[simp] theorem openAll_nil (disk : Disk) : disk.openAll [] = disk :=
  ext_place fun _ => place_openAll_of_not_mem List.not_mem_nil

/-- A file stays what it is. -/
theorem place_openAll_of_file {disk : Disk} {path : String} {content : ByteArray}
    (h : disk.place path = .file content) (paths : List String) :
    (disk.openAll paths).place path = .file content := by
  by_cases hmem : path ∈ paths
  · rw [place_openAll_of_mem hmem, h]
    rfl
  · rw [place_openAll_of_not_mem hmem, h]

theorem openAll_openAll (disk : Disk) (paths others : List String) :
    (disk.openAll paths).openAll others = disk.openAll (paths ++ others) := by
  refine ext_place fun path => ?_
  by_cases hpath : path ∈ paths <;> by_cases hother : path ∈ others <;>
    simp [openAll, hpath, hother, Place.opened_opened]

/-- Opening files makes no difference to which ones can be opened. -/
theorem openable_openAll_iff {disk : Disk} {paths : List String} {path : String} :
    ((disk.openAll paths).place path).Openable ↔ (disk.place path).Openable := by
  by_cases hmem : path ∈ paths
  · rw [place_openAll_of_mem hmem, Place.openable_opened_iff]
  · rw [place_openAll_of_not_mem hmem]

theorem openAll_singleton (disk : Disk) (path : String) :
    disk.openAll [path] = disk.set path (disk.place path).opened := by
  refine ext_place fun other => ?_
  by_cases h : other = path
  · rw [h, place_openAll_of_mem List.mem_cons_self, place_set_self]
  · rw [place_openAll_of_not_mem (fun hmem => h (List.mem_singleton.1 hmem)),
      place_set_of_ne disk h]

theorem set_of_place_eq {disk : Disk} {path : String} {place : Place}
    (h : disk.place path = place) : disk.set path place = disk := by
  refine ext_place fun other => ?_
  by_cases hother : other = path
  · rw [hother, place_set_self, h]
  · rw [place_set_of_ne disk hother]

theorem create_of_openable {disk : Disk} {path : String} (h : (disk.place path).Openable) :
    disk.create path = .ok (disk.openAll [path]) := by
  rw [openAll_singleton]
  unfold create
  cases hplace : disk.place path with
  | absent => rfl
  | file content => exact congrArg Except.ok (set_of_place_eq hplace).symm
  | unreachable | directory =>
    rw [hplace] at h
    cases h

theorem exists_create_eq_error {disk : Disk} {path : String} (h : ¬ (disk.place path).Openable) :
    ∃ fault, disk.create path = .error fault := by
  unfold create
  cases hplace : disk.place path with
  | unreachable => exact ⟨.notFound, rfl⟩
  | directory => exact ⟨.isDirectory, rfl⟩
  | absent => exact absurd (hplace ▸ .absent) h
  | file content => exact absurd (hplace ▸ .file content) h

/-! ## Appending

Text goes to one file, and all other places stay as they are. -/

theorem append_of_file {disk : Disk} {path : String} {content : ByteArray}
    (h : disk.place path = .file content) (text : String) :
    disk.append path text = disk.set path (.file (content ++ text.toUTF8)) := by
  rw [append, h]

theorem place_append_self {disk : Disk} {path : String} {content : ByteArray}
    (h : disk.place path = .file content) (text : String) :
    (disk.append path text).place path = .file (content ++ text.toUTF8) := by
  rw [append_of_file h, place_set_self]

theorem place_append_of_ne (disk : Disk) {path other : String} (h : other ≠ path) (text : String) :
    (disk.append path text).place other = disk.place other := by
  unfold append
  split
  · exact place_set_of_ne disk h _
  · rfl

theorem append_of_not_file {disk : Disk} {path : String}
    (h : ∀ content, disk.place path ≠ .file content) (text : String) :
    disk.append path text = disk := by
  unfold append
  split
  · rename_i content hplace
    exact absurd hplace (h content)
  · rfl

theorem append_empty (disk : Disk) (path : String) : disk.append path "" = disk := by
  by_cases h : ∃ content, disk.place path = .file content
  · obtain ⟨content, hplace⟩ := h
    rw [append_of_file hplace]
    exact set_of_place_eq (hplace.trans (by simp))
  · exact append_of_not_file (not_exists.1 h) ""

/-- Text is appended at once or in two pieces. -/
theorem append_append (disk : Disk) (path text more : String) :
    (disk.append path text).append path more = disk.append path (text ++ more) := by
  by_cases h : ∃ content, disk.place path = .file content
  · obtain ⟨content, hplace⟩ := h
    rw [append_of_file (place_append_self hplace text), append_of_file hplace,
      append_of_file hplace, set_set]
    simp [ByteArray.append_assoc]
  · have hclosed : ∀ text, disk.append path text = disk := append_of_not_file (not_exists.1 h)
    rw [hclosed, hclosed, hclosed]

/-- A file that text is appended to may be opened before or after. -/
theorem openAll_append {disk : Disk} {path : String} {content : ByteArray}
    (h : disk.place path = .file content) (text : String) (paths : List String) :
    (disk.append path text).openAll paths = (disk.openAll paths).append path text := by
  refine ext_place fun other => ?_
  by_cases hother : other = path
  · rw [hother, place_openAll_of_file (place_append_self h text),
      place_append_self (place_openAll_of_file h paths)]
  · rw [place_append_of_ne _ hother]
    by_cases hmem : other ∈ paths
    · rw [place_openAll_of_mem hmem, place_openAll_of_mem hmem, place_append_of_ne _ hother]
    · rw [place_openAll_of_not_mem hmem, place_openAll_of_not_mem hmem, place_append_of_ne _ hother]

end Disk

namespace Log.Journal

/-! ## The file of a log

A log need not have a file, and then there is nothing to open and nothing to go wrong. -/

theorem openFile_of_openable {disk : Disk} {file : Option String}
    (h : ∀ path, file = some path → (disk.place path).Openable) :
    openFile disk file = .ok (disk.openAll file.toList) := by
  cases file with
  | none => rw [openFile, Option.toList_none, Disk.openAll_nil]
  | some path => exact Disk.create_of_openable (h path rfl)

/-- A file that cannot be opened is left as it is. -/
theorem exists_openFile_eq_error {disk : Disk} {file : Option String}
    (h : ¬ ∀ path, file = some path → (disk.place path).Openable) :
    (∃ fault, openFile disk file = .error fault) ∧ disk.openAll file.toList = disk := by
  obtain ⟨path, hpath⟩ := Classical.not_forall.1 h
  obtain ⟨rfl, hclosed⟩ := Classical.not_imp.1 hpath
  refine ⟨Disk.exists_create_eq_error hclosed, ?_⟩
  rw [Option.toList_some, Disk.openAll_singleton, Place.opened_of_not_openable hclosed]
  exact Disk.set_of_place_eq rfl

/-- The journal after the files at some paths have been opened, as far as they can be. -/
def openAll (journal : Journal) (paths : List String) : Journal :=
  { journal with disk := journal.disk.openAll paths }

theorem openAll_nil (journal : Journal) : journal.openAll [] = journal := by
  rw [openAll, Disk.openAll_nil]

theorem openAll_openAll (journal : Journal) (paths others : List String) :
    (journal.openAll paths).openAll others = journal.openAll (paths ++ others) := by
  rw [openAll, openAll, openAll, Disk.openAll_openAll]

end Log.Journal

end TunnelOptions
