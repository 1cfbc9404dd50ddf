import TunnelOptions.OptionFault

/-!
# Reports of bulk writes

Writing an option map does not have to stop at an entry that fails, and even when it does, the
entries in front are written. So a bulk write answers with a report that says of each key what
became of it: written, not known, or refused with a fault. Each of the three lists is in the order
of the entries.

Most callers want a result and not a report, and they want one of two things: no failure, or no
failure and no unknown key. Both are functions of the report, so the bulk write itself is the same
for all of them.

A report is built from the back, one entry in front of what became of the later ones. That is the
direction in which the entries are gone through by recursion, and `consApplied`, `consUnrecognized`
and `consFailed` are its three steps.

* `Policy`: what a bulk write does about an entry that fails.
* `Report`: what became of each key, in the order of the entries.
* `Report.result`, `Report.requireRecognized`: a report as a result, the first failure or (for the
  second) else the first unrecognized key being the fault.
-/

set_option autoImplicit false

namespace TunnelOptions

/-- What a bulk write does about an entry that fails. A key that nobody knows is no failure under
either policy. -/
inductive Policy where
  /-- It stops; the entries before stay written. -/
  | failFast
  /-- It goes on and collects the failures. -/
  | bestEffort
  deriving DecidableEq, Repr

/-- Without a choice a bulk write stops at the first failure. -/
instance : Inhabited Policy := ⟨.failFast⟩

/-- The name of a policy. -/
def Policy.name : Policy → String
  | .failFast => "FailFast"
  | .bestEffort => "BestEffort"

/-- What became of each key of a bulk write, in the order of the entries. Every entry that the write
has come to is in one of the three lists; under a policy that stops, the entries behind the first
failure are in none. -/
structure Report where
  /-- The keys that were written. -/
  applied : List String := []
  /-- The keys that no layer knows. -/
  unrecognized : List String := []
  /-- The keys whose values were refused, as they were given, with the faults. -/
  failed : List (String × OptionFault) := []
  deriving DecidableEq

namespace Report

/-- Whether every entry was recognized and written. Under a policy that stops this cannot hide
entries that were not come to, since stopping takes a failure. -/
def isComplete (report : Report) : Bool :=
  report.unrecognized.isEmpty && report.failed.isEmpty

/-- The first failure, otherwise the report. Unrecognized keys do not count as failures here; they
are in the report for whoever wants to look. -/
def result (report : Report) : Except OptionFault Report :=
  match report.failed with
  | [] => .ok report
  | (_, fault) :: _ => .error fault

/-- The first failure, then the first unrecognized key, otherwise the report. A failure comes first
even where an unrecognized key stands in front of it. -/
def requireRecognized (report : Report) : Except OptionFault Report := do
  let report ← report.result
  match report.unrecognized with
  | [] => .ok report
  | key :: _ => .error (.unrecognized key)

/-- The report with one more key in front of those written. -/
def consApplied (key : String) (report : Report) : Report :=
  { report with applied := key :: report.applied }

/-- The report with one more key in front of those unrecognized. -/
def consUnrecognized (key : String) (report : Report) : Report :=
  { report with unrecognized := key :: report.unrecognized }

/-- The report with one more failure in front of the others. -/
def consFailed (key : String) (fault : OptionFault) (report : Report) : Report :=
  { report with failed := (key, fault) :: report.failed }

end Report

end TunnelOptions
