import TunnelOptions.Proofs.Refusal

/-!
# Bulk writes

An option map can be written in three ways: with a report of what became of each entry, which goes
on after a failure or stops there, and by a plain loop that hands back the first fault. All three
meet the same entries with the same outcomes, because what an entry comes to does not depend on
those in front of it. So they agree up to the first failure, and what is asked of a report, its
first fault, does not depend on what comes behind that.

The agreement is one of lists and not of towers. What entries come to is the list of their verdicts,
and a report and the writes are functions of that list; so the split at the first failure is made
once, in the list, by `faultless_or_split`, and both functions are followed over it. In front of the
split the policy is never asked, which is what `reportOf_append` and `writesOf_append` say, and at
the split one policy stops.

The statement for a reader speaks of the towers in between: the entry at some place is the first to
fail when it is written to the tower that the ones in front of it lead to. `FirstFailure` says that
in terms of the calls themselves, and its lemmas translate it into the split.

Reports can be appended, field by field. That is only needed for the proofs: the report of some
entries is put together from the reports of its parts.

* `Report.keys`, `Report.InOrder`: what a report says of some keys.
* `Tower.Faultless`, `Tower.faultless_or_split`: entries up to the first failure.
* `Tower.reportOf_append`, `Tower.writesOf_append`: what is in front of a failure does not depend on
  what a policy says about failures.
* `Tower.FirstFailure`: the first entry of a map to fail, said of calls.
* `Tower.policies_agree_up_to_failure`: the two policies.
* `Tower.bulk_writes_agree_with_loop`: the report that stops at a failure, and the plain loop.
-/

set_option autoImplicit false

namespace TunnelOptions

/-! ## Reports

The three lists of a report say together which keys it is about, and each says in which order. Both
are kept by the three steps that build a report, so an induction over the entries gives them. -/

namespace Report

/-- Every key that a report is about. -/
def keys (report : Report) : List String :=
  report.applied ++ report.unrecognized ++ report.failed.map Prod.fst

/-- A report lists its keys in the order of some names. -/
structure InOrder (report : Report) (names : List String) : Prop where
  applied : report.applied.Sublist names
  unrecognized : report.unrecognized.Sublist names
  failed : (report.failed.map Prod.fst).Sublist names

/-- One report behind another. -/
instance : Append Report where
  append first second :=
    { applied := first.applied ++ second.applied
      unrecognized := first.unrecognized ++ second.unrecognized
      failed := first.failed ++ second.failed }

theorem append_empty (report : Report) : report ++ ({} : Report) = report := by
  obtain ⟨applied, unrecognized, failed⟩ := report
  have happlied := List.append_nil applied
  have hunrecognized := List.append_nil unrecognized
  have hfailed := List.append_nil failed
  exact congr (congr (congrArg Report.mk happlied) hunrecognized) hfailed

theorem keys_consApplied (name : String) (report : Report) :
    (report.consApplied name).keys.Perm (name :: report.keys) := .rfl

theorem keys_consUnrecognized (name : String) (report : Report) :
    (report.consUnrecognized name).keys.Perm (name :: report.keys) := by
  rw [keys, keys, List.append_assoc, List.append_assoc]
  exact List.perm_middle

theorem keys_consFailed (name : String) (fault : OptionFault) (report : Report) :
    (report.consFailed name fault).keys.Perm (name :: report.keys) :=
  List.perm_middle

namespace InOrder

variable {report : Report} {names : List String}

theorem empty : InOrder {} names :=
  ⟨List.nil_sublist names, List.nil_sublist names, List.nil_sublist names⟩

theorem consApplied (h : report.InOrder names) (name : String) :
    (report.consApplied name).InOrder (name :: names) :=
  ⟨h.applied.cons_cons name, h.unrecognized.cons name, h.failed.cons name⟩

theorem consUnrecognized (h : report.InOrder names) (name : String) :
    (report.consUnrecognized name).InOrder (name :: names) :=
  ⟨h.applied.cons name, h.unrecognized.cons_cons name, h.failed.cons name⟩

theorem consFailed (h : report.InOrder names) (name : String) (fault : OptionFault) :
    (report.consFailed name fault).InOrder (name :: names) :=
  ⟨h.applied.cons name, h.unrecognized.cons name, h.failed.cons_cons name⟩

end InOrder

/-! ### Reports as results

Either result looks at the first failure and, if it looks further, at the first unknown key. So two
reports that begin alike give the same result. -/

theorem result_of_failed {report : Report} {name : String} {fault : OptionFault}
    (h : report.failed.head? = some (name, fault)) : report.result = .error fault := by
  obtain ⟨rest, hfailed⟩ := List.head?_eq_some_iff.1 h
  rw [result, hfailed]

theorem result_of_failed_eq_nil {report : Report} (h : report.failed = []) :
    report.result = .ok report := by
  rw [result, h]

theorem requireRecognized_of_failed {report : Report} {name : String} {fault : OptionFault}
    (h : report.failed.head? = some (name, fault)) : report.requireRecognized = .error fault := by
  rw [requireRecognized, result_of_failed h]
  rfl

theorem requireRecognized_of_unrecognized {report : Report} {name : String}
    (hfailed : report.failed = []) (h : report.unrecognized.head? = some name) :
    report.requireRecognized = .error (.unrecognized name) := by
  obtain ⟨rest, hunrecognized⟩ := List.head?_eq_some_iff.1 h
  rw [requireRecognized, result_of_failed_eq_nil hfailed]
  simp only [bind, Except.bind, hunrecognized]

/-- **A report passes as it is exactly when it is complete.** -/
theorem requireRecognized_eq_ok_iff {report : Report} :
    report.requireRecognized = .ok report ↔ report.isComplete = true := by
  rw [isComplete, Bool.and_eq_true, List.isEmpty_iff, List.isEmpty_iff]
  cases hfailed : report.failed with
  | cons failure rest =>
    have hfault : report.requireRecognized = .error failure.2 :=
      requireRecognized_of_failed (by rw [hfailed]; rfl)
    simp [hfault]
  | nil =>
    cases hunrecognized : report.unrecognized with
    | cons name rest =>
      have hfault : report.requireRecognized = .error (.unrecognized name) :=
        requireRecognized_of_unrecognized hfailed (by rw [hunrecognized]; rfl)
      simp [hfault]
    | nil =>
      simp [requireRecognized, result_of_failed_eq_nil hfailed, hunrecognized, bind, Except.bind]

end Report

/-! ## The oldest entries of a map -/

/-- The oldest entries of a map, as many as are asked for. -/
def OptionMap.take (options : OptionMap) (count : Nat) : OptionMap where
  entries := options.entries.take count
  nodup := options.nodup.sublist ((List.take_sublist count options.entries).map Prod.fst)

theorem OptionMap.entries_take (options : OptionMap) (count : Nat) :
    (options.take count).entries = options.entries.take count := rfl

namespace Tower

/-! ## What entries come to -/

/-- Entries none of which comes to a fault. -/
def Faultless (verdicts : List (String × Verdict)) : Prop :=
  ∀ entry ∈ verdicts, ∃ write, entry.2 = .ok write

/-- Entries are faultless, or there is a first that fails. -/
theorem faultless_or_split (layer : Nat) (entries : List (String × Value)) :
    Faultless (verdicts layer entries)
    ∨ ∃ before name value after fault, entries = before ++ (name, value) :: after
      ∧ Faultless (verdicts layer before) ∧ resolve layer name value = .error fault := by
  have of_forall {part : List (String × Value)}
      (h : ∀ entry ∈ part, ∃ write, resolve layer entry.1 entry.2 = .ok write) :
      Faultless (verdicts layer part) := List.forall_mem_map.2 h
  rcases Entries.forall_or_first
      (fun entry => ∃ write, resolve layer entry.1 entry.2 = .ok write) entries with
    hall | ⟨before, ⟨name, value⟩, after, hsplit, hbefore, hfails⟩
  · exact .inl (of_forall hall)
  · cases hv : resolve layer name value with
    | error fault => exact .inr ⟨before, name, value, after, fault, hsplit, of_forall hbefore, hv⟩
    | ok write => exact absurd ⟨write, hv⟩ hfails

/-- Entries in front of a failure are reported alike, whatever the policy is about failures. -/
theorem reportOf_append {before : List (String × Verdict)} (h : Faultless before) (policy : Policy)
    (rest : List (String × Verdict)) :
    reportOf policy (before ++ rest) = reportOf .bestEffort before ++ reportOf policy rest := by
  induction before with
  | nil => rfl
  | cons entry before ih =>
    obtain ⟨name, verdict⟩ := entry
    obtain ⟨⟨write, hwrite⟩, hbefore⟩ := List.forall_mem_cons.1 h
    cases hwrite
    cases write with
    | none => exact congrArg (Report.consUnrecognized name) (ih hbefore)
    | some write => exact congrArg (Report.consApplied name) (ih hbefore)

theorem writesOf_append {before : List (String × Verdict)} (h : Faultless before) (policy : Policy)
    (rest : List (String × Verdict)) :
    writesOf policy (before ++ rest) = writesOf .bestEffort before ++ writesOf policy rest := by
  induction before with
  | nil => rfl
  | cons entry before ih =>
    obtain ⟨name, verdict⟩ := entry
    obtain ⟨⟨write, hwrite⟩, hbefore⟩ := List.forall_mem_cons.1 h
    cases hwrite
    rw [List.cons_append, writesOf, writesOf, ih hbefore, List.append_assoc]

theorem failed_reportOf_eq_nil_iff {policy : Policy} {verdicts : List (String × Verdict)} :
    (reportOf policy verdicts).failed = [] ↔ Faultless verdicts := by
  induction verdicts with
  | nil => exact ⟨fun _ entry hm => (nomatch hm), fun _ => rfl⟩
  | cons entry verdicts ih =>
    obtain ⟨name, verdict⟩ := entry
    cases verdict with
    | error fault =>
      have hfailed : (reportOf policy ((name, .error fault) :: verdicts)).failed ≠ [] := by
        cases policy <;> exact List.cons_ne_nil _ _
      exact ⟨fun h => absurd h hfailed, fun h => nomatch h _ List.mem_cons_self⟩
    | ok write =>
      have hcons : Faultless ((name, .ok write) :: verdicts) ↔ Faultless verdicts :=
        ⟨fun h => (List.forall_mem_cons.1 h).2, fun h => List.forall_mem_cons.2 ⟨⟨write, rfl⟩, h⟩⟩
      rw [hcons, ← ih]
      cases write <;> rfl

/-- **Every entry has its place in a report that goes on after failures.** -/
theorem keys_reportOf_bestEffort (verdicts : List (String × Verdict)) :
    (reportOf .bestEffort verdicts).keys.Perm (verdicts.map Prod.fst) := by
  induction verdicts with
  | nil => exact .nil
  | cons entry verdicts ih =>
    obtain ⟨name, verdict⟩ := entry
    have hrest := List.Perm.cons name ih
    cases verdict with
    | error fault => exact (Report.keys_consFailed name fault _).trans hrest
    | ok write =>
      cases write with
      | none => exact (Report.keys_consUnrecognized name _).trans hrest
      | some write => exact (Report.keys_consApplied name _).trans hrest

theorem inOrder_reportOf_bestEffort (verdicts : List (String × Verdict)) :
    (reportOf .bestEffort verdicts).InOrder (verdicts.map Prod.fst) := by
  induction verdicts with
  | nil => exact .empty
  | cons entry verdicts ih =>
    obtain ⟨name, verdict⟩ := entry
    cases verdict with
    | error fault => exact ih.consFailed name fault
    | ok write =>
      cases write with
      | none => exact ih.consUnrecognized name
      | some write => exact ih.consApplied name

/-! ## The two policies

A first failure gives the list of verdicts in two parts, and every clause about the two policies is
read off these: the report that stops has the first part and the failure, and the one that goes on
has more behind them. -/

theorem reportOf_of_faultless {verdicts : List (String × Verdict)} (h : Faultless verdicts)
    (policy : Policy) : reportOf policy verdicts = reportOf .bestEffort verdicts := by
  calc reportOf policy verdicts
      = reportOf policy (verdicts ++ []) := by rw [List.append_nil]
    _ = reportOf .bestEffort verdicts ++ reportOf policy [] := reportOf_append h policy []
    _ = reportOf .bestEffort verdicts := Report.append_empty _

theorem writesOf_of_faultless {verdicts : List (String × Verdict)} (h : Faultless verdicts)
    (policy : Policy) : writesOf policy verdicts = writesOf .bestEffort verdicts := by
  calc writesOf policy verdicts
      = writesOf policy (verdicts ++ []) := by rw [List.append_nil]
    _ = writesOf .bestEffort verdicts ++ writesOf policy [] := writesOf_append h policy []
    _ = writesOf .bestEffort verdicts := List.append_nil _

/-- Of the entries of an option map written on a layer, the one at `i` is the first to fail. -/
structure FirstFailure (layer : Nat) (options : OptionMap) (tower : Tower) (i : Nat) (name : String)
    (value : Value) (fault : OptionFault) : Prop where
  entry : options.entries[i]? = some (name, value)
  /-- The entries in front of it do not fail. -/
  before : (applyOptions layer (options.take i) .bestEffort tower).answer.failed = []
  fails : (setOption layer name value
    (applyOptions layer (options.take i) .bestEffort tower).tower).answer = .error fault

namespace FirstFailure

variable {layer : Nat} {options : OptionMap} {tower : Tower} {i : Nat} {name : String}
  {value : Value} {fault : OptionFault}

theorem resolve_eq (h : FirstFailure layer options tower i name value fault) :
    resolve layer name value = .error fault := by
  have hfails := h.fails
  rw [setOption_answer] at hfails
  exact eq_error_of_map_eq_error hfails

theorem faultless (h : FirstFailure layer options tower i name value fault) :
    Faultless (verdicts layer (options.take i).entries) := by
  have hbefore := h.before
  rw [applyOptions_answer] at hbefore
  exact failed_reportOf_eq_nil_iff.1 hbefore

theorem verdicts_take (h : FirstFailure layer options tower i name value fault) :
    verdicts layer (options.take (i + 1)).entries
      = verdicts layer (options.take i).entries ++ [(name, .error fault)] := by
  obtain ⟨hi, hentry⟩ := List.getElem?_eq_some_iff.1 h.entry
  have hlast : verdicts layer [(name, value)] = [(name, .error fault)] :=
    congrArg (fun verdict => [(name, verdict)]) h.resolve_eq
  rw [OptionMap.entries_take, List.take_succ_eq_append_getElem hi, hentry, ← hlast]
  exact List.map_append

theorem verdicts_eq (h : FirstFailure layer options tower i name value fault) :
    verdicts layer options.entries = verdicts layer (options.take i).entries
      ++ (name, .error fault) :: verdicts layer (options.entries.drop (i + 1)) := by
  have hsplit : verdicts layer options.entries
      = verdicts layer (options.take (i + 1)).entries
        ++ verdicts layer (options.entries.drop (i + 1)) := by
    rw [OptionMap.entries_take, verdicts, verdicts, verdicts, ← List.map_append,
      List.take_append_drop]
  rw [hsplit, h.verdicts_take, List.append_assoc, List.singleton_append]

/-- **A bulk write that stops at a failure is one that would go on, of the entries up to there.** -/
theorem outcome_failFast (h : FirstFailure layer options tower i name value fault) :
    (applyOptions layer options .failFast tower).outcome
      = (applyOptions layer (options.take (i + 1)) .bestEffort tower).outcome := by
  rw [applyOptions_outcome, applyOptions_outcome, h.verdicts_eq, h.verdicts_take,
    reportOf_append h.faultless, reportOf_append h.faultless, writesOf_append h.faultless,
    writesOf_append h.faultless]
  rfl

/-- Under both policies the first failure is listed first. -/
theorem failed_eq (h : FirstFailure layer options tower i name value fault) (policy : Policy) :
    (applyOptions layer options policy tower).answer.failed
      = (reportOf policy
          ((name, .error fault) :: verdicts layer (options.entries.drop (i + 1)))).failed := by
  have hbefore : (reportOf .bestEffort (verdicts layer (options.take i).entries)).failed = [] :=
    failed_reportOf_eq_nil_iff.2 h.faultless
  have happend (first second : Report) : (first ++ second).failed = first.failed ++ second.failed :=
    rfl
  rw [applyOptions_answer, h.verdicts_eq, reportOf_append h.faultless, happend, hbefore,
    List.nil_append]

theorem head?_failed (h : FirstFailure layer options tower i name value fault) (policy : Policy) :
    (applyOptions layer options policy tower).answer.failed.head? = some (name, fault) := by
  rw [h.failed_eq]
  cases policy <;> rfl

/-- What has been written or passed over by the first failure is listed first in both reports. -/
theorem isPrefix (h : FirstFailure layer options tower i name value fault) :
    (applyOptions layer options .failFast tower).answer.applied
      <+: (applyOptions layer options .bestEffort tower).answer.applied
    ∧ (applyOptions layer options .failFast tower).answer.unrecognized
      <+: (applyOptions layer options .bestEffort tower).answer.unrecognized := by
  rw [applyOptions_answer, applyOptions_answer, h.verdicts_eq, reportOf_append h.faultless,
    reportOf_append h.faultless]
  exact ⟨(List.prefix_append_right_inj _).2 List.nil_prefix,
    (List.prefix_append_right_inj _).2 List.nil_prefix⟩

end FirstFailure

theorem exists_firstFailure {layer : Nat} {options : OptionMap}
    (h : ¬ Faultless (verdicts layer options.entries)) (tower : Tower) :
    ∃ i name value fault, FirstFailure layer options tower i name value fault := by
  obtain ⟨before, name, value, after, fault, hsplit, hbefore, hfails⟩ :=
    (faultless_or_split layer options.entries).resolve_left h
  have htake : (options.take before.length).entries = before := by
    rw [OptionMap.entries_take, hsplit]
    exact List.take_left
  refine ⟨before.length, name, value, fault, ?_, ?_, ?_⟩
  · rw [hsplit, List.getElem?_append_right (Nat.le_refl _), Nat.sub_self]
    rfl
  · rw [applyOptions_answer, htake]
    exact failed_reportOf_eq_nil_iff.2 hbefore
  · rw [setOption_answer, hfails]
    rfl

section Reports

variable (layer : Nat) (options : OptionMap) (tower : Tower)

theorem map_fst_verdicts : (verdicts layer options.entries).map Prod.fst = options.keys :=
  List.map_map

/-- **Every key of a map has its place in a report that goes on after failures.** -/
theorem keys_bestEffort :
    (applyOptions layer options .bestEffort tower).answer.keys.Perm options.keys := by
  rw [applyOptions_answer, ← map_fst_verdicts layer options]
  exact keys_reportOf_bestEffort (verdicts layer options.entries)

variable {options} in
/-- A key has one place in such a report. -/
theorem count_bestEffort {name : String} (h : name ∈ options.keys) :
    (applyOptions layer options .bestEffort tower).answer.keys.count name = 1 := by
  have hnodup : options.keys.Nodup := options.nodup
  rw [(keys_bestEffort layer options tower).count_eq, hnodup.count, if_pos h]

theorem length_bestEffort :
    (applyOptions layer options .bestEffort tower).answer.keys.length = options.size := by
  rw [(keys_bestEffort layer options tower).length_eq, OptionMap.keys, Entries.keys,
    List.length_map, OptionMap.size]

theorem inOrder_bestEffort :
    (applyOptions layer options .bestEffort tower).answer.InOrder options.keys := by
  rw [applyOptions_answer, ← map_fst_verdicts layer options]
  exact inOrder_reportOf_bestEffort (verdicts layer options.entries)

theorem failed_bestEffort_eq_nil_iff :
    (applyOptions layer options .bestEffort tower).answer.failed = []
      ↔ Faultless (verdicts layer options.entries) := by
  rw [applyOptions_answer]
  exact failed_reportOf_eq_nil_iff

variable {layer options tower} in
/-- Without a failure it makes no difference what is done about one. -/
theorem outcome_eq_of_faultless (h : Faultless (verdicts layer options.entries)) :
    (applyOptions layer options .failFast tower).outcome
      = (applyOptions layer options .bestEffort tower).outcome := by
  rw [applyOptions_outcome, applyOptions_outcome, reportOf_of_faultless h .failFast,
    writesOf_of_faultless h .failFast]

/-- What looks at nothing but the first failure, where there is one, sees no difference between the
policies. -/
theorem eq_of_first_failure {α : Type} {read : Report → α} {ofFault : OptionFault → α}
    (hread : ∀ report name fault, report.failed.head? = some (name, fault) →
      read report = ofFault fault) :
    read (applyOptions layer options .failFast tower).answer
      = read (applyOptions layer options .bestEffort tower).answer := by
  by_cases h : Faultless (verdicts layer options.entries)
  · exact congrArg (read ·.1) (outcome_eq_of_faultless h)
  · obtain ⟨i, name, value, fault, hfirst⟩ := exists_firstFailure h tower
    rw [hread _ _ _ (hfirst.head?_failed .failFast), hread _ _ _ (hfirst.head?_failed .bestEffort)]

end Reports

/-- **The two policies agree up to the first failure.** The report that goes on after failures has
every entry in its place. Without a failure the other one is the same, and otherwise it is that of
the entries up to the first that fails. As results the two are the same, and a report that insists
on known keys passes when it is complete, and else fails with its first failure or, without one, its
first unrecognized key. -/
theorem policies_agree_up_to_failure (layer : Nat) (options : OptionMap) (tower : Tower) :
    let best := applyOptions layer options .bestEffort tower
    let fast := applyOptions layer options .failFast tower
    (∀ name ∈ options.keys, best.answer.applied.count name + best.answer.unrecognized.count name
        + (best.answer.failed.map Prod.fst).count name = 1)
    ∧ best.answer.InOrder options.keys
    ∧ best.answer.applied.length + best.answer.unrecognized.length + best.answer.failed.length
      = options.size
    ∧ (best.answer.failed = [] → fast.outcome = best.outcome)
    ∧ (best.answer.failed ≠ [] → ∃ i name value fault,
      FirstFailure layer options tower i name value fault
      ∧ fast.outcome = (applyOptions layer (options.take (i + 1)) .bestEffort tower).outcome
      ∧ fast.answer.failed = [(name, fault)] ∧ best.answer.failed.head? = some (name, fault)
      ∧ fast.answer.applied <+: best.answer.applied
      ∧ fast.answer.unrecognized <+: best.answer.unrecognized)
    ∧ fast.answer.result = best.answer.result
    ∧ fast.answer.requireRecognized = best.answer.requireRecognized
    ∧ ∀ report : Report, (report.requireRecognized = .ok report ↔ report.isComplete = true)
      ∧ (∀ name fault, report.failed.head? = some (name, fault) →
        report.requireRecognized = .error fault)
      ∧ (∀ name, report.failed = [] → report.unrecognized.head? = some name →
        report.requireRecognized = .error (.unrecognized name)) := by
  intro best fast
  have hfaultless := failed_bestEffort_eq_nil_iff layer options tower
  refine ⟨fun name hname => ?_, inOrder_bestEffort layer options tower, ?_, fun h => ?_,
    fun h => ?_, ?_, ?_, fun report => ⟨?_, fun name fault => ?_, fun name => ?_⟩⟩
  -- Every key is in one of the three lists, and in one place there.
  · have hcount := count_bestEffort layer tower hname
    rw [Report.keys, List.count_append, List.count_append] at hcount
    exact hcount
  · have hlength := length_bestEffort layer options tower
    rw [Report.keys, List.length_append, List.length_append, List.length_map] at hlength
    exact hlength
  · exact outcome_eq_of_faultless (hfaultless.1 h)
  -- From here on everything follows from which entry is the first to fail.
  · obtain ⟨i, name, value, fault, hfirst⟩ := exists_firstFailure (mt hfaultless.2 h) tower
    exact ⟨i, name, value, fault, hfirst, hfirst.outcome_failFast, hfirst.failed_eq .failFast,
      hfirst.head?_failed .bestEffort, hfirst.isPrefix⟩
  · exact eq_of_first_failure layer options tower fun _ _ _ => Report.result_of_failed
  · exact eq_of_first_failure layer options tower fun _ _ _ => Report.requireRecognized_of_failed
  · exact Report.requireRecognized_eq_ok_iff
  · exact Report.requireRecognized_of_failed
  · exact Report.requireRecognized_of_unrecognized

/-- Options that meet every outcome, of which the third and the fourth are refused. -/
def mixedOptions : OptionMap where
  entries := [("serverPath", .text "/a"), ("bogus", .int 1),
    ("enableSslSessionCreation", .text "sometimes"), ("trafficClass", .int 256),
    ("other", .null), ("keepAlive", .bool true)]

/-- Options that are not refused, one of which nobody knows. -/
def unrefusedOptions : OptionMap where
  entries := [("serverPath", .text "/x"), ("bogus", .int 1), ("tcpNoDelay", .text "false")]

theorem policies_agree_up_to_failure_mixed :
    "other" ∈ mixedOptions.keys
    ∧ (applyOptions 2 mixedOptions .bestEffort (new 2)).answer.applied.count "other"
        + (applyOptions 2 mixedOptions .bestEffort (new 2)).answer.unrecognized.count "other"
        + ((applyOptions 2 mixedOptions .bestEffort (new 2)).answer.failed.map Prod.fst).count
          "other" = 1
    ∧ (applyOptions 2 unrefusedOptions .bestEffort (new 2)).answer.failed = []
    ∧ (applyOptions 2 unrefusedOptions .failFast (new 2)).outcome
      = (applyOptions 2 unrefusedOptions .bestEffort (new 2)).outcome
    ∧ (applyOptions 2 mixedOptions .bestEffort (new 2)).answer.failed ≠ []
    ∧ (∃ i name value fault, FirstFailure 2 mixedOptions (new 2) i name value fault
      ∧ (applyOptions 2 mixedOptions .failFast (new 2)).outcome
        = (applyOptions 2 (mixedOptions.take (i + 1)) .bestEffort (new 2)).outcome
      ∧ (applyOptions 2 mixedOptions .failFast (new 2)).answer.failed = [(name, fault)])
    ∧ (applyOptions 2 mixedOptions .failFast (new 2)).answer.result
      = (applyOptions 2 mixedOptions .bestEffort (new 2)).answer.result
    ∧ (applyOptions 2 mixedOptions .bestEffort (new 2)).answer.requireRecognized
      = .error (.invalid "enableSslSessionCreation" (.noBoolean "sometimes"))
    ∧ (applyOptions 2 unrefusedOptions .bestEffort (new 2)).answer.requireRecognized
      = .error (.unrecognized "bogus") := by
  obtain ⟨honce, -, -, -, hfailed, hresult, -, hread⟩ :=
    policies_agree_up_to_failure 2 mixedOptions (new 2)
  obtain ⟨-, -, -, hunrefused, -, -, -, -⟩ :=
    policies_agree_up_to_failure 2 unrefusedOptions (new 2)
  have hmem : "other" ∈ mixedOptions.keys := by decide
  have hnone : (applyOptions 2 unrefusedOptions .bestEffort (new 2)).answer.failed = [] := rfl
  have hsome : (applyOptions 2 mixedOptions .bestEffort (new 2)).answer.failed ≠ [] := by
    have hreport : (applyOptions 2 mixedOptions .bestEffort (new 2)).answer.failed
        = [("enableSslSessionCreation",
            .invalid "enableSslSessionCreation" (.noBoolean "sometimes")),
          ("trafficClass", .invalid "trafficClass" (.noByte 256))] := rfl
    rw [hreport]
    exact List.cons_ne_nil _ _
  obtain ⟨i, name, value, fault, hfirst, hstops, honly, -, -, -⟩ := hfailed hsome
  exact ⟨hmem, honce _ hmem, hnone, hunrefused hnone, hsome,
    ⟨i, name, value, fault, hfirst, hstops, honly⟩, hresult,
    (hread _).2.1 "enableSslSessionCreation" _ rfl, (hread _).2.2 "bogus" hnone rfl⟩

/-! ## The plain loop

The loop and the report of a tunnel have been shown to come to the same list of verdicts. What is
left is to say what becomes of the new tunnel. -/

/-- **A tunnel writes an option map as the plain loop over its entries does**, with the same answer
and the same effect on the whole tower. So does a new tunnel: it is there when the loop succeeds on
it, and when the loop fails the layers below are left as the loop leaves them. -/
theorem bulk_writes_agree_with_loop (layer : Nat) (options : OptionMap) (tower : Tower) :
    (setOptions (layer + 1) options tower).outcome
      = (setEntries (layer + 1) options.entries tower).outcome
    ∧ (withOptions options tower).answer
      = (setEntries (tower.depth + 1) options.entries tower.push).answer
    ∧ ((setEntries (tower.depth + 1) options.entries tower.push).answer = .ok () →
      (withOptions options tower).tower
        = (setEntries (tower.depth + 1) options.entries tower.push).tower)
    ∧ (∀ fault, (setEntries (tower.depth + 1) options.entries tower.push).answer = .error fault →
      ∃ top, (setEntries (tower.depth + 1) options.entries tower.push).tower
        = (withOptions options tower).tower.under top) := by
  obtain ⟨hanswer, htower⟩ :=
    Prod.mk.inj (setOptions_outcome_eq (tower.depth + 1) options tower.push)
  rw [← hanswer, ← htower]
  refine ⟨setOptions_outcome_eq (layer + 1) options tower, ?_⟩
  rcases withOptions_cases options tower with ⟨hok, heq⟩ | ⟨first, top, hfails, hsame, htop⟩
  · refine ⟨congrArg Step.answer heq, fun _ => congrArg Step.tower heq, fun fault h => ?_⟩
    rw [hok] at h
    exact nomatch h
  · refine ⟨hsame.trans hfails.symm, fun h => ?_, fun _ _ => ⟨top, htop⟩⟩
    rw [hfails] at h
    exact nomatch h

theorem bulk_writes_agree_with_loop_mixed :
    (setOptions 2 mixedOptions (new 2)).outcome
      = (setEntries 2 mixedOptions.entries (new 2)).outcome
    ∧ (setEntries 3 mixedOptions.entries (new 2).push).answer
      = .error (.invalid "enableSslSessionCreation" (.noBoolean "sometimes"))
    ∧ (withOptions mixedOptions (new 2)).answer
      = .error (.invalid "enableSslSessionCreation" (.noBoolean "sometimes"))
    ∧ (∃ top, (setEntries 3 mixedOptions.entries (new 2).push).tower
      = (withOptions mixedOptions (new 2)).tower.under top)
    ∧ (setEntries 3 unrefusedOptions.entries (new 2).push).answer = .ok ()
    ∧ (withOptions unrefusedOptions (new 2)).tower
      = (setEntries 3 unrefusedOptions.entries (new 2).push).tower := by
  obtain ⟨hset, hanswer, -, hfails⟩ := bulk_writes_agree_with_loop 1 mixedOptions (new 2)
  obtain ⟨-, -, hsucceeds, -⟩ := bulk_writes_agree_with_loop 1 unrefusedOptions (new 2)
  have hloop : (setEntries 3 mixedOptions.entries (new 2).push).answer
      = .error (.invalid "enableSslSessionCreation" (.noBoolean "sometimes")) := rfl
  have hok : (setEntries 3 unrefusedOptions.entries (new 2).push).answer = .ok () := rfl
  exact ⟨hset, hloop, hanswer.trans hloop, hfails _ hloop, hok, hsucceeds hok⟩

end Tower

end TunnelOptions
