import TunnelOptions.Proofs.Opening

/-!
# What is written to a log

Events are written to a log one at a time, as a program comes to them. But what they come to can be
said at once: the entries that the filter lets through, each with its stamp, in the format of the
log, behind what was there.

Saying it at once is what makes runs comparable. Two runs that log the same entries with different
things done in between are the same once both are written as one list of lines
(`Journal.writeLines`), and lists of lines are put together by appending them. The stamp of an entry
depends on its place among the events of its session, whether those in front of it were let through
or not, so the stamps are given out before the filter is applied.

* `Filter.stamped`: the entries that a filter lets through, with their stamps.
* `Sink.shown`, `Sink.text`: what they come to on the terminal, and in a file.
* `Journal.writeLines`, `Journal.writeLines_append`: entries written at once, and one list of them
  behind another.
* `Journal.writeAll_eq`, `Journal.record_eq`: entries written one by one, and events, as a case of
  that.
* `Journal.Ready`: the file of the log is there, as it is from the moment the log is.
* `Journal.openAll_writeLines`: files that are opened later may as well be opened before.
-/

set_option autoImplicit false

namespace TunnelOptions.Log

/-- The entries that a filter lets through, each with its stamp: `clock i` for the one at place `i`,
where the first is at place `start`. -/
def Filter.stamped (filter : Filter) (clock : Nat → String) (start : Nat) (entries : List Entry) :
    List (String × Entry) :=
  ((entries.zipIdx start).filter (filter.admits ·.1)).map fun (entry, i) => (clock i, entry)

theorem Filter.stamped_cons (filter : Filter) (clock : Nat → String) (i : Nat) (entry : Entry)
    (entries : List Entry) :
    filter.stamped clock i (entry :: entries)
      = (if filter.admits entry then [(clock i, entry)] else [])
        ++ filter.stamped clock (i + 1) entries := by
  rw [stamped, List.zipIdx_cons, List.filter_cons]
  split <;> simp [stamped]

namespace Sink

/-- What entries come to on the terminal. -/
def shown (sink : Sink) (lines : List (String × Entry)) : List Shown :=
  lines.map fun (stamp, entry) => ⟨sink.format, stamp, entry⟩

/-- What entries come to in a file. -/
def text (sink : Sink) (lines : List (String × Entry)) : String :=
  String.join (lines.map fun (stamp, entry) => entry.written sink.format stamp)

theorem text_append (sink : Sink) (lines more : List (String × Entry)) :
    sink.text (lines ++ more) = sink.text lines ++ sink.text more := by
  rw [text, List.map_append, String.join_append, text, text]

end Sink

namespace Journal

/-- Entries written to a log at once. -/
def writeLines (sink : Sink) (lines : List (String × Entry)) (journal : Journal) : Journal :=
  match sink.file with
  | none => { journal with terminal := journal.terminal ++ sink.shown lines }
  | some path => { journal with disk := journal.disk.append path (sink.text lines) }

theorem writeLines_nil (sink : Sink) (journal : Journal) :
    writeLines sink [] journal = journal := by
  unfold writeLines
  split
  · simp [Sink.shown]
  · simp [Sink.text, Disk.append_empty]

theorem writeLines_append (sink : Sink) (lines more : List (String × Entry)) (journal : Journal) :
    writeLines sink (lines ++ more) journal
      = writeLines sink more (writeLines sink lines journal) := by
  unfold writeLines
  split
  · simp [Sink.shown]
  · simp [Sink.text_append, Disk.append_append]

theorem write_eq (sink : Sink) (stamp : String) (entry : Entry) (journal : Journal) :
    write sink stamp entry journal = writeLines sink [(stamp, entry)] journal := by
  unfold write writeLines
  cases sink.file <;> simp [Sink.shown, Sink.text]

theorem writeAll_eq (sink : Sink) (clock : Nat → String) (i : Nat) (entries : List Entry)
    (journal : Journal) :
    writeAll sink clock i entries journal
      = writeLines sink (sink.filter.stamped clock i entries) journal := by
  induction entries generalizing i journal with
  | nil => exact (writeLines_nil sink journal).symm
  | cons entry entries ih =>
    rw [writeAll, ih, Filter.stamped_cons, writeLines_append]
    split
    · rw [write_eq]
    · rw [writeLines_nil]

/-- Events are written to the log there is. -/
theorem record_eq {journal : Journal} {sink : Sink} (hsink : journal.sink = some sink)
    (clock : Nat → String) (events : List Event) :
    journal.record clock events
      = writeLines sink (sink.filter.stamped clock 0 (events.map Entry.ofEvent)) journal := by
  rw [record, hsink]
  exact writeAll_eq sink clock 0 _ journal

theorem writeLines_sink (sink : Sink) (lines : List (String × Entry)) (journal : Journal) :
    (writeLines sink lines journal).sink = journal.sink := by
  unfold writeLines
  split <;> rfl

/-- The file of a log, if it has one, is there to append to. -/
def Ready (disk : Disk) (sink : Sink) : Prop :=
  ∀ path, sink.file = some path → ∃ content, disk.place path = .file content

theorem Ready.openAll {disk : Disk} {sink : Sink} (h : Ready disk sink) (paths : List String) :
    Ready (disk.openAll paths) sink := by
  intro path hfile
  obtain ⟨content, hplace⟩ := h path hfile
  exact ⟨content, Disk.place_openAll_of_file hplace paths⟩

theorem Ready.writeLines {journal : Journal} {sink : Sink} (h : Ready journal.disk sink)
    (lines : List (String × Entry)) : Ready (writeLines sink lines journal).disk sink := by
  intro path hfile
  obtain ⟨content, hplace⟩ := h path hfile
  unfold Journal.writeLines
  rw [hfile]
  exact ⟨_, Disk.place_append_self hplace _⟩

/-- Files may be opened before or after what is logged is written. -/
theorem openAll_writeLines {journal : Journal} {sink : Sink} (h : Ready journal.disk sink)
    (lines : List (String × Entry)) (paths : List String) :
    (writeLines sink lines journal).openAll paths
      = writeLines sink lines (journal.openAll paths) := by
  unfold writeLines
  cases hfile : sink.file with
  | none => rfl
  | some path =>
    obtain ⟨content, hplace⟩ := h path hfile
    simp only [openAll, Disk.openAll_append hplace]

end Journal

end TunnelOptions.Log
