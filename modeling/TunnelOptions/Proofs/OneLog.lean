import Mathlib.Data.List.Forall2
import TunnelOptions.Proofs.LogLines

/-!
# A program has one log

An attempt to install a log fails when its level is no filter, when its file cannot be opened, when
there is no such format, and when there is a log already. Only the file leaves a trace of an attempt
that failed, for it is opened before the format is looked up. So of all attempts the first sound one
is the one that counts: what is logged later goes where it says, and is what it would have been
without the others.

The run of a program falls into three parts, and each is an induction or a single step. Up to the
first sound attempt there is no log: attempts are refused and events are lost. The attempt itself
makes the log. From then on every attempt is refused, sound or not, and events are written. What the
three have in common is that files are opened on the way, and as opening commutes with writing, all
of it is moved to the front. In the end a run is described by two lists that do not depend on how
the parts alternate: the files it tried (`triedBy`) and the lines it logged (`logged`).

* `Sound`, `Asked`: whether there can be a log as it is asked for, and which log that is. Soundness
  does not depend on the files that have been opened so far (`sound_openAll_iff`), so it can be
  asked of the disk at the start.
* `Journal.install_of_sound`, `Journal.exists_install_refused`, `Journal.install_disk`: what one
  attempt does.
* `attempts`, `sessions`, `triedBy`, `logged`: what a program asks for, does otherwise, tries to
  open, and logs.
* `Journal.run_of_unsound`, `Journal.run_of_installed`: runs without a log, and with one.
* `Journal.run_of_first_sound`: a run across the first sound attempt.
* `Journal.Keeps`, `Journal.SameLog`: what is left of a log, and when that is the same.
* `Journal.Course`, `Journal.course_run`: what comes of a run.
* `Journal.first_sound_attempt_counts`: all of it.
-/

set_option autoImplicit false

namespace TunnelOptions.Log

/-! ## One attempt

The checks are made in a fixed order, but whether an attempt succeeds does not depend on the order.
Only what a refused attempt leaves behind does: its file is opened if its level could be read. -/

/-- Whether there can be a log as it is asked for: its level is a filter, its file can be opened if
it is to have one, and its format is one of the three there are. -/
structure Sound (disk : Disk) (settings : LogSettings) : Prop where
  level : ∃ filter, Filter.read settings.level = .ok filter
  file : ∀ path, settings.file = some path → (disk.place path).Openable
  format : settings.format = "pretty" ∨ settings.format = "compact" ∨ settings.format = "json"

/-- A log is the one that settings ask for: with the filter that the level is, in the format of that
name, and to that file. There is no other such log. -/
structure Asked (settings : LogSettings) (sink : Sink) : Prop where
  filter : Filter.read settings.level = .ok sink.filter
  format : sink.format.name = settings.format
  file : sink.file = settings.file

theorem Format.ofName?_eq_some_iff {name : String} {format : Format} :
    Format.ofName? name = some format ↔ format.name = name := by
  constructor
  · intro h
    exact eq_of_beq (List.find?_some (p := fun other : Format => other.name == name) h)
  · rintro rfl
    cases format <;> rfl

theorem Format.exists_name_iff {name : String} :
    (∃ format : Format, format.name = name)
      ↔ name = "pretty" ∨ name = "compact" ∨ name = "json" := by
  constructor
  · rintro ⟨format, rfl⟩
    cases format with
    | pretty => exact .inl rfl
    | compact => exact .inr (.inl rfl)
    | json => exact .inr (.inr rfl)
  · rintro (rfl | rfl | rfl)
    exacts [⟨.pretty, rfl⟩, ⟨.compact, rfl⟩, ⟨.json, rfl⟩]

theorem Asked.unique {settings : LogSettings} {sink other : Sink} (h : Asked settings sink)
    (h' : Asked settings other) : sink = other := by
  obtain ⟨filter, format, file⟩ := sink
  obtain ⟨otherFilter, otherFormat, otherFile⟩ := other
  have hfilter : filter = otherFilter := Except.ok.inj (h.filter.symm.trans h'.filter)
  have hfile : file = otherFile := h.file.trans h'.file.symm
  have hformat : some format = some otherFormat :=
    (Format.ofName?_eq_some_iff.2 h.format).symm.trans (Format.ofName?_eq_some_iff.2 h'.format)
  rw [hfilter, hfile, Option.some.inj hformat]

/-- The file that an attempt tries to open: none while the level cannot be read. -/
def tried (settings : LogSettings) : List String :=
  match Filter.read settings.level with
  | .ok _ => settings.file.toList
  | .error _ => []

theorem tried_of_read {settings : LogSettings} {filter : Filter}
    (h : Filter.read settings.level = .ok filter) : tried settings = settings.file.toList := by
  rw [tried, h]

theorem Asked.mem_tried {settings : LogSettings} {sink : Sink} (h : Asked settings sink)
    {path : String} (hfile : sink.file = some path) : path ∈ tried settings := by
  rw [tried_of_read h.filter, ← h.file, hfile]
  exact List.mem_cons_self

theorem sound_openAll_iff {disk : Disk} {paths : List String} {settings : LogSettings} :
    Sound (disk.openAll paths) settings ↔ Sound disk settings := by
  constructor <;> rintro ⟨hlevel, hfile, hformat⟩
  · exact ⟨hlevel, fun path h => Disk.openable_openAll_iff.1 (hfile path h), hformat⟩
  · exact ⟨hlevel, fun path h => Disk.openable_openAll_iff.2 (hfile path h), hformat⟩

namespace Journal

/-- A sound attempt succeeds while there is no log. -/
theorem install_of_sound {settings : LogSettings} {journal : Journal}
    (h : Sound journal.disk settings) (hsink : journal.sink = none) :
    ∃ sink, Asked settings sink ∧ install settings journal
      = (.ok (), { journal.openAll (tried settings) with sink := some sink }) := by
  obtain ⟨filter, hread⟩ := h.level
  obtain ⟨format, hformat⟩ := Format.exists_name_iff.2 h.format
  refine ⟨{ filter, format, file := settings.file }, ⟨hread, hformat, rfl⟩, ?_⟩
  rw [tried_of_read hread]
  simp only [install, hread, openFile_of_openable h.file, Format.ofName?_eq_some_iff.2 hformat,
    hsink]
  rfl

/-- An attempt that is not sound is refused, and any is once there is a log. It opens its file at
most. -/
theorem exists_install_refused {settings : LogSettings} {journal : Journal}
    (h : Sound journal.disk settings → journal.sink ≠ none) :
    ∃ failure, install settings journal = (.error failure, journal.openAll (tried settings)) := by
  -- Cases in the order of the checks: the level, the file, the format, and a log that is there.
  cases hread : Filter.read settings.level with
  | error fault =>
    refine ⟨.settings (.badLogLevel fault), ?_⟩
    simp only [install, tried, hread, openAll_nil]
  | ok filter =>
    rw [tried_of_read hread]
    by_cases hfile : ∀ path, settings.file = some path → (journal.disk.place path).Openable
    · have hopen := openFile_of_openable hfile
      cases hformat : Format.ofName? settings.format with
      | none =>
        refine ⟨.settings (.unknownLogFormat settings.format), ?_⟩
        simp only [install, hread, hopen, hformat]
        rfl
      | some format =>
        have hname := Format.exists_name_iff.1 ⟨format, Format.ofName?_eq_some_iff.1 hformat⟩
        obtain ⟨sink, hsink⟩ := Option.ne_none_iff_exists'.1 (h ⟨⟨filter, hread⟩, hfile, hname⟩)
        refine ⟨.settings .alreadyLogging, ?_⟩
        simp only [install, hread, hopen, hformat, hsink]
        rw [← hsink]
        rfl
    · obtain ⟨⟨fault, hopen⟩, hkept⟩ := exists_openFile_eq_error hfile
      refine ⟨.file fault, ?_⟩
      simp only [install, hread, hopen, openAll, hkept]

/-- Whatever it comes to, an attempt opens its file at most. -/
theorem install_disk (settings : LogSettings) (journal : Journal) :
    (install settings journal).2.disk = journal.disk.openAll (tried settings) := by
  by_cases h : Sound journal.disk settings ∧ journal.sink = none
  · obtain ⟨sink, -, hinstall⟩ := install_of_sound h.1 h.2
    rw [hinstall]
    rfl
  · obtain ⟨failure, hinstall⟩ := exists_install_refused (not_and.1 h)
    rw [hinstall]
    rfl

end Journal

/-! ## Runs

A program alternates between attempts and sessions of logging. Its results are those of its
attempts, one for each. -/

/-- The attempts among what a program does, in order. The results of a run belong to them one by
one. -/
def attempts : List Act → List LogSettings
  | [] => []
  | .install settings :: acts => settings :: attempts acts
  | .record _ _ :: acts => attempts acts

/-- The files that the attempts of a program try to open, in order and as often as they do. Whether
they can be opened is another matter. -/
def triedBy (acts : List Act) : List String :=
  (attempts acts).flatMap tried

/-- What a program does without its attempts, which are its sessions of logging. -/
def sessions : List Act → List Act
  | [] => []
  | .install _ :: acts => sessions acts
  | .record clock events :: acts => .record clock events :: sessions acts

/-- What is logged under a filter while a program acts, in all its sessions. Each of these begins
counting its stamps anew. -/
def logged (filter : Filter) : List Act → List (String × Entry)
  | [] => []
  | .install _ :: acts => logged filter acts
  | .record clock events :: acts =>
    filter.stamped clock 0 (events.map Entry.ofEvent) ++ logged filter acts

/-- Attempts that are refused, one and all. -/
def Refused (asked : List LogSettings) (results : List (Except Failure Unit)) : Prop :=
  List.Forall₂ (fun _ result => ∃ failure, result = .error failure) asked results

@[simp] theorem attempts_sessions (acts : List Act) : attempts (sessions acts) = [] := by
  induction acts with
  | nil => rfl
  | cons act acts ih =>
    cases act with
    | install settings => exact ih
    | record clock events => exact ih

@[simp] theorem logged_sessions (filter : Filter) (acts : List Act) :
    logged filter (sessions acts) = logged filter acts := by
  induction acts with
  | nil => rfl
  | cons act acts ih =>
    cases act with
    | install settings => exact ih
    | record clock events => rw [sessions, logged, ih, logged]

theorem mem_attempts_iff {settings : LogSettings} {acts : List Act} :
    settings ∈ attempts acts ↔ .install settings ∈ acts := by
  induction acts with
  | nil => simp [attempts]
  | cons act acts ih =>
    cases act with
    | install other => simp [attempts, ih]
    | record clock events => simp [attempts, ih]

theorem attempts_append (acts others : List Act) :
    attempts (acts ++ others) = attempts acts ++ attempts others := by
  induction acts with
  | nil => rfl
  | cons act acts ih =>
    cases act with
    | install settings => exact congrArg _ ih
    | record clock events => exact ih

theorem triedBy_cons (settings : LogSettings) (acts : List Act) :
    triedBy (.install settings :: acts) = tried settings ++ triedBy acts := rfl

theorem triedBy_append (acts others : List Act) :
    triedBy (acts ++ others) = triedBy acts ++ triedBy others := by
  rw [triedBy, attempts_append, List.flatMap_append, triedBy, triedBy]

theorem mem_triedBy {settings : LogSettings} {path : String} (h : path ∈ tried settings)
    (before later : List Act) : path ∈ triedBy (before ++ .install settings :: later) := by
  rw [triedBy_append, triedBy_cons]
  exact List.mem_append_right _ (List.mem_append_left _ h)

namespace Journal

theorem run_append (acts others : List Act) (journal : Journal) :
    run (acts ++ others) journal
      = ((run acts journal).1 ++ (run others (run acts journal).2).1,
        (run others (run acts journal).2).2) := by
  induction acts generalizing journal with
  | nil => rfl
  | cons act acts ih =>
    cases act with
    | install settings => simp only [List.cons_append, run, ih]
    | record clock events => simp only [List.cons_append, run, ih]

theorem run_install {settings : LogSettings} {journal after : Journal}
    {result : Except Failure Unit} (h : install settings journal = (result, after))
    (acts : List Act) :
    run (.install settings :: acts) journal
      = (result :: (run acts after).1, (run acts after).2) := by
  rw [run, h]

/-- While there is no log, attempts that are not sound open their files at most, and events are
lost. -/
theorem run_of_unsound {acts : List Act} {journal : Journal} (hsink : journal.sink = none)
    (hunsound : ∀ settings ∈ attempts acts, ¬ Sound journal.disk settings) :
    Refused (attempts acts) (run acts journal).1
      ∧ (run acts journal).2 = journal.openAll (triedBy acts) := by
  induction acts generalizing journal with
  | nil => exact ⟨.nil, (openAll_nil journal).symm⟩
  | cons act acts ih =>
    cases act with
    | install settings =>
      obtain ⟨hthis, hrest⟩ := List.forall_mem_cons.1 hunsound
      obtain ⟨failure, hinstall⟩ := exists_install_refused fun h => absurd h hthis
      obtain ⟨hrefused, hlast⟩ := @ih (journal.openAll (tried settings)) hsink
        fun other hother h => hrest other hother (sound_openAll_iff.1 h)
      rw [run_install hinstall, hlast, openAll_openAll]
      exact ⟨.cons ⟨failure, rfl⟩ hrefused, rfl⟩
    | record clock events =>
      have hlost : journal.record clock events = journal := by rw [record, hsink]
      rw [run, hlost]
      exact ih hsink hunsound

/-- Once there is a log all attempts are refused, and what is logged is written to it. -/
theorem run_of_installed {acts : List Act} {journal : Journal} {sink : Sink}
    (hsink : journal.sink = some sink) (hready : Ready journal.disk sink) :
    Refused (attempts acts) (run acts journal).1
      ∧ (run acts journal).2 = writeLines sink (logged sink.filter acts)
        (journal.openAll (triedBy acts)) := by
  induction acts generalizing journal with
  | nil => exact ⟨.nil, by rw [logged, writeLines_nil]; exact (openAll_nil journal).symm⟩
  | cons act acts ih =>
    cases act with
    | install settings =>
      have hfull : journal.sink ≠ none := by rw [hsink]; exact Option.some_ne_none sink
      obtain ⟨failure, hinstall⟩ := @exists_install_refused settings journal fun _ => hfull
      obtain ⟨hrefused, hlast⟩ := @ih (journal.openAll (tried settings)) hsink (hready.openAll _)
      rw [run_install hinstall, hlast, openAll_openAll]
      exact ⟨.cons ⟨failure, rfl⟩ hrefused, rfl⟩
    | record clock events =>
      have hkept (lines : List (String × Entry)) :
          (writeLines sink lines journal).sink = some sink :=
        (writeLines_sink sink lines journal).trans hsink
      rw [run, record_eq hsink]
      obtain ⟨hrefused, hlast⟩ := ih (hkept _) (hready.writeLines _)
      rw [hlast, openAll_writeLines hready, ← writeLines_append]
      exact ⟨hrefused, rfl⟩

/-- The log of the first sound attempt, and what is logged after that, are all that is left of what
a program does, but for the files that its attempts made. -/
theorem run_of_first_sound {disk : Disk} {before : List Act} {settings : LogSettings}
    (hunsound : ∀ other ∈ attempts before, ¬ Sound disk other) (hsound : Sound disk settings)
    (later : List Act) :
    let opened := disk.openAll (triedBy (before ++ .install settings :: later))
    ∃ sink refused others, Asked settings sink ∧ Ready opened sink
      ∧ Refused (attempts before) refused ∧ Refused (attempts later) others
      ∧ run (before ++ .install settings :: later) { disk } = (refused ++ .ok () :: others,
        writeLines sink (logged sink.filter later) { disk := opened, sink := some sink }) := by
  intro opened
  -- Up to the attempt files have been opened and nothing else.
  let reached : Journal := openAll { disk } (triedBy before)
  obtain ⟨hrefused, hreached⟩ := @run_of_unsound before { disk } rfl hunsound
  obtain ⟨sink, hasked, hinstall⟩ :=
    @install_of_sound settings reached (sound_openAll_iff.2 hsound) rfl
  have hready : Ready (reached.disk.openAll (tried settings)) sink := by
    intro path hfile
    rw [Disk.place_openAll_of_mem (hasked.mem_tried hfile)]
    have hopenable := hsound.file path (hasked.file ▸ hfile)
    exact (Disk.openable_openAll_iff.2 hopenable).exists_content
  have hopened : (reached.disk.openAll (tried settings)).openAll (triedBy later) = opened := by
    show ((disk.openAll (triedBy before)).openAll (tried settings)).openAll (triedBy later) = opened
    rw [Disk.openAll_openAll, Disk.openAll_openAll, ← triedBy_cons, ← triedBy_append]
  obtain ⟨hothers, hlast⟩ := @run_of_installed later
    { reached.openAll (tried settings) with sink := some sink } sink rfl hready
  refine ⟨sink, _, _, hasked, hopened ▸ hready.openAll _, hrefused, hothers, ?_⟩
  rw [run_append, hreached, run_install hinstall, hlast, ← hopened]
  rfl

/-! ## What is left of a run

The journal in the end is compared with the disk at the start, place by place. Where the log has a
file, its lines are behind what was there; everywhere else a place is what opening has made of it.
-/

/-- On a disk a program keeps a log and has written `lines` to it: to its file, or to the terminal
if it has none. Nothing else has changed. -/
structure Keeps (disk : Disk) (sink : Sink) (lines : List (String × Entry)) (journal : Journal) :
    Prop where
  installed : journal.sink = some sink
  terminal : journal.terminal = if sink.file = none then sink.shown lines else []
  file : ∀ path, sink.file = some path → ∃ content, disk.place path = .file content
    ∧ journal.disk.place path = .file (content ++ (sink.text lines).toUTF8)
  elsewhere : ∀ path, sink.file ≠ some path → journal.disk.place path = disk.place path

theorem keeps_writeLines {disk : Disk} {sink : Sink} (h : Ready disk sink)
    (lines : List (String × Entry)) :
    Keeps disk sink lines (writeLines sink lines { disk, sink := some sink }) := by
  unfold writeLines
  cases hfile : sink.file with
  | none =>
    exact {
      installed := rfl
      terminal := (if_pos hfile).symm
      file := fun path hpath => absurd (hfile.symm.trans hpath) (Option.some_ne_none path).symm
      elsewhere := fun _ _ => rfl }
  | some name =>
    obtain ⟨content, hplace⟩ := h name hfile
    refine {
      installed := rfl
      terminal := (if_neg (hfile ▸ Option.some_ne_none name)).symm
      file := fun path hpath => ?_
      elsewhere := fun path hpath => ?_ }
    · obtain rfl : name = path := Option.some.inj (hfile.symm.trans hpath)
      exact ⟨content, hplace, Disk.place_append_self hplace _⟩
    · have hne : path ≠ name := fun h => hpath (hfile.trans (congrArg some h.symm))
      exact Disk.place_append_of_ne disk hne _

/-- Two journals are of the same log: the same is shown on the terminal, and the same is in its file
if it has one. -/
structure SameLog (file : Option String) (journal other : Journal) : Prop where
  installed : journal.sink = other.sink
  terminal : journal.terminal = other.terminal
  file : ∀ path, file = some path → journal.disk.place path = other.disk.place path

theorem Keeps.sameLog {disk otherDisk : Disk} {sink : Sink} {lines : List (String × Entry)}
    {journal other : Journal} (h : Keeps disk sink lines journal)
    (h' : Keeps otherDisk sink lines other)
    (hplace : ∀ path, sink.file = some path → disk.place path = otherDisk.place path) :
    SameLog sink.file journal other where
  installed := h.installed.trans h'.installed.symm
  terminal := h.terminal.trans h'.terminal.symm
  file := by
    intro path hfile
    obtain ⟨content, hcontent, hjournal⟩ := h.file path hfile
    obtain ⟨otherContent, hotherContent, hother⟩ := h'.file path hfile
    rw [hplace path hfile, hotherContent] at hcontent
    rw [hjournal, hother, Place.file.inj hcontent]

/-- What comes of what a program does when it starts on a disk: the results of its attempts, and the
journal at the end. -/
inductive Course (disk : Disk) : List Act → List (Except Failure Unit) → Journal → Prop where
  /-- No attempt is sound. All are refused, and nothing is logged. -/
  | unlogged {acts : List Act} {results : List (Except Failure Unit)}
      (hunsound : ∀ settings ∈ attempts acts, ¬ Sound disk settings)
      (hrefused : Refused (attempts acts) results) :
      Course disk acts results { disk := disk.openAll (triedBy acts) }
  /-- The first sound attempt succeeds and all others are refused. What is logged after it goes
  where it says, under its filter and in its format. -/
  | logged {before later : List Act} {settings : LogSettings} {sink : Sink}
      {refused others : List (Except Failure Unit)} {journal : Journal}
      (hunsound : ∀ other ∈ attempts before, ¬ Sound disk other) (hsound : Sound disk settings)
      (hasked : Asked settings sink) (hbefore : Refused (attempts before) refused)
      (hlater : Refused (attempts later) others)
      (hkeeps : Keeps (disk.openAll (triedBy (before ++ .install settings :: later))) sink
        (Log.logged sink.filter later) journal) :
      Course disk (before ++ .install settings :: later) (refused ++ .ok () :: others) journal

/-- There is a first sound attempt unless none is. -/
theorem unsound_or_split (disk : Disk) (acts : List Act) :
    (∀ settings ∈ attempts acts, ¬ Sound disk settings)
    ∨ ∃ before settings later, acts = before ++ .install settings :: later
      ∧ (∀ other ∈ attempts before, ¬ Sound disk other) ∧ Sound disk settings := by
  rcases Entries.forall_or_first (fun act => ∀ settings, act = .install settings →
      ¬ Sound disk settings) acts with hall | ⟨before, act, later, rfl, hbefore, hact⟩
  · exact .inl fun settings h => hall _ (mem_attempts_iff.1 h) settings rfl
  · obtain ⟨settings, hact⟩ := Classical.not_forall.1 hact
    obtain ⟨rfl, hsound⟩ := Classical.not_imp.1 hact
    refine .inr ⟨before, settings, later, rfl, fun other h => ?_, Classical.not_not.1 hsound⟩
    exact hbefore _ (mem_attempts_iff.1 h) other rfl

theorem course_run (disk : Disk) (acts : List Act) :
    Course disk acts (run acts { disk }).1 (run acts { disk }).2 := by
  obtain hunsound | ⟨before, settings, later, rfl, hunsound, hsound⟩ := unsound_or_split disk acts
  · obtain ⟨hrefused, hlast⟩ := @run_of_unsound acts { disk } rfl hunsound
    rw [hlast]
    exact .unlogged hunsound hrefused
  · obtain ⟨sink, refused, others, hasked, hready, hbefore, hlater, hrun⟩ :=
      run_of_first_sound hunsound hsound later
    rw [hrun]
    exact .logged hunsound hsound hasked hbefore hlater (keeps_writeLines hready _)

/-! ## The first sound attempt

To leave out the attempts that failed is to keep the sessions. The remaining run has the same first
sound attempt and the same lines, and the file of the log is opened in both, so it is the same log.
Other files can differ: those that failed attempts have made. -/

/-- What is logged of a program is what would have been without the attempts that failed. -/
theorem sameLog_of_first_sound {disk : Disk} {before later : List Act} {settings : LogSettings}
    (hunsound : ∀ other ∈ attempts before, ¬ Sound disk other) (hsound : Sound disk settings) :
    SameLog settings.file (run (before ++ .install settings :: later) { disk }).2
      (run (sessions before ++ .install settings :: sessions later) { disk }).2 := by
  have hnone : ∀ other ∈ attempts (sessions before), ¬ Sound disk other := by
    rw [attempts_sessions]
    exact fun _ h => absurd h List.not_mem_nil
  obtain ⟨sink, _, _, hasked, hready, -, -, hrun⟩ :=
    run_of_first_sound hunsound hsound later
  obtain ⟨other, _, _, hother, hready', -, -, hrun'⟩ :=
    run_of_first_sound hnone hsound (sessions later)
  obtain rfl := hasked.unique hother
  rw [hrun, hrun', logged_sessions, ← hasked.file]
  refine (keeps_writeLines hready _).sameLog (keeps_writeLines hready' _) fun path hfile => ?_
  -- The file of the log is opened with and without the other attempts.
  have hmem (before later : List Act) : path ∈ triedBy (before ++ .install settings :: later) :=
    mem_triedBy (hasked.mem_tried hfile) before later
  rw [Disk.place_openAll_of_mem (hmem _ _), Disk.place_openAll_of_mem (hmem _ _)]

/-- Files are only appended to. -/
theorem Course.exists_appended {disk : Disk} {acts : List Act}
    {results : List (Except Failure Unit)} {journal : Journal}
    (h : Course disk acts results journal) {path : String} {content : ByteArray}
    (hplace : disk.place path = .file content) :
    ∃ more, journal.disk.place path = .file (content ++ more) := by
  have hopened := Disk.place_openAll_of_file hplace
  cases h with
  | unlogged => exact ⟨ByteArray.empty, by rw [hopened, ByteArray.append_empty]⟩
  | @logged _ _ _ sink _ _ _ _ _ _ _ _ hkeeps =>
    by_cases hfile : sink.file = some path
    · obtain ⟨before, hbefore, hafter⟩ := hkeeps.file path hfile
      rw [hopened] at hbefore
      exact ⟨_, Place.file.inj hbefore ▸ hafter⟩
    · refine ⟨ByteArray.empty, ?_⟩
      rw [hkeeps.elsewhere path hfile, hopened, ByteArray.append_empty]

/-- A disk with a file to log to, and a directory. -/
def sharedDisk : Disk where
  place path :=
    if path = "log" then .file "kept\n".toUTF8
    else if path = "logs" then .directory
    else .absent

/-- An attempt that fails at its level. -/
def unreadable : LogSettings := { level := "net=loud", file := some "log" }

/-- Attempts that fail at the level, at the file, and at the format with a new file left behind. -/
def failingActs : List Act :=
  [.install unreadable, .install { file := some "logs" },
    .record (fun _ => "0") [.unrecognized "early"],
    .install { level := "trace", format := "xml", file := some "made" }]

/-- An attempt that fails at nothing. -/
def wellAsked : LogSettings := { level := "debug", format := "compact", file := some "log" }

/-- Two sessions, and between them an attempt that comes too late. -/
def laterActs : List Act :=
  [.record (fun _ => "1") [.socketApplied "tcpNoDelay", .unrecognized "bogus"],
    .install { level := "trace", format := "json" },
    .record (fun _ => "2") [.unrecognized "late"]]

/-- What the two sessions come to in the file: the first event is below the level. -/
example :
    Sink.text ⟨⟨[{ threshold := .upTo .debug }]⟩, .compact, some "log"⟩
        (logged ⟨[{ threshold := .upTo .debug }]⟩ laterActs)
      = "1 DEBUG http_tunnel::tunnel::config: unrecognized channel option key=\"bogus\"\n"
        ++ "2 DEBUG http_tunnel::tunnel::config: unrecognized channel option key=\"late\"\n" := by
  rfl

end Journal

end TunnelOptions.Log
