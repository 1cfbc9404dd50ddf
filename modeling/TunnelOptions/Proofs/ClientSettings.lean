import Mathlib.Data.Set.List
import TunnelOptions.Entries
import TunnelOptions.Tls.Selection

/-!
# Which settings a connection gets

Two lists of names, of cipher suites and of protocol versions, are turned into the settings of a
connection, and five things can be wrong with them. Reading the code tells in which order it meets
them, but a user wants to know it from what was given. So this file describes the outcome twice, by
the code and by `Decision`, a relation that speaks of the names only, and shows that the two agree.

Both lists go through the same look-up, in which the first unknown name is the fault and only then
an empty list is one. The look-up is therefore treated once, for any names that belong to things of
a type (`IsLookup`), and the suites and the versions are two cases of it. The other cut is between
choosing, which concerns each list by itself, and settling, which asks whether what was chosen fits
together: `clientSettings_eq` takes the function apart in this way, suites before versions, and the
rest of the file never unfolds it.

* `FirstUnknown`, `Choosable`: what is wrong with given names, and when nothing is. One of these or
  an empty list is always the case (`choosable_or`).
* `IsLookup`: a look-up that goes by names, as those of suites and versions do.
* `choose_of_firstUnknown`, `choose_nil`, `choose_of_choosable`: what is chosen from given names, in
  each of the three cases.
* `settle_of_usable`, `settle_of_not_usable`: what becomes of suites and versions once chosen.
* `Decision`: every way in which settings are decided, by what is given alone.
* `clientSettings_eq_iff_decision`: the settings are those of the decision, and there is always one.

The equivalence rests on two facts: a decision is what the code computes, and there always is one.
It follows that no two decisions differ.
-/

set_option autoImplicit false

namespace TunnelOptions.Tls

/-! ## Given names

What can be said of a list of names without looking anything up but whether a name is known. No
names given is not the same as an empty list: the first stands for everything, the second is a
fault. -/

/-- The first of some names that is not known is `name`: those in front of it are known, and nothing
is said of those behind it. -/
def FirstUnknown (known names : List String) (name : String) : Prop :=
  ∃ before after, names = before ++ name :: after ∧ (∀ other ∈ before, other ∈ known)
    ∧ name ∉ known

/-- Names can be chosen by when there is at least one and all are known. None need be given. -/
def Choosable (known : List String) (given : Option (List String)) : Prop :=
  ∀ names, given = some names → names ≠ [] ∧ ∀ name ∈ names, name ∈ known

/-- Given names cannot be chosen by because one is unknown or because there is none. -/
theorem choosable_or (known : List String) (given : Option (List String)) :
    Choosable known given
    ∨ (∃ names name, given = some names ∧ FirstUnknown known names name)
    ∨ given = some [] := by
  cases given with
  | none =>
    refine .inl fun names h => ?_
    cases h
  | some names =>
    rcases Entries.forall_or_first (· ∈ known) names with
      hall | ⟨before, name, after, hsplit, hbefore, hname⟩
    · by_cases hnil : names = []
      · exact .inr (.inr (congrArg some hnil))
      · refine .inl fun other h => ?_
        cases h
        exact ⟨hnil, hall⟩
    · exact .inr (.inl ⟨names, name, rfl, before, after, hsplit, hbefore, hname⟩)

/-! ## Looking names up

The look-up stops at the first name that it does not find. What it finds otherwise has the given
names, in their order and as often, and as names tell things apart there is only one such list. -/

/-- A look-up finds what has a name, and the known names are those of something. It follows that no
two things have one name. -/
structure IsLookup {α : Type} (ofName? : String → Option α) (nameOf : α → String)
    (known : List String) : Prop where
  eq_some_iff : ∀ {name : String} {a : α}, ofName? name = some a ↔ nameOf a = name
  mem_known : ∀ a, nameOf a ∈ known
  named : ∀ {name : String}, name ∈ known → ∃ a, nameOf a = name

/-- Going through everything there is for a name is such a look-up, if nothing shares its name. -/
theorem isLookup_find? {α : Type} {nameOf : α → String} {all : List α} (hall : ∀ a, a ∈ all)
    (hfound : ∀ a, (all.find? fun other => nameOf other == nameOf a) = some a) :
    IsLookup (fun name => all.find? fun a => nameOf a == name) nameOf (all.map nameOf) where
  eq_some_iff {name a} := by
    constructor
    · intro h
      have hname : (nameOf a == name) = true := @List.find?_some _ (nameOf · == name) _ _ h
      exact beq_iff_eq.1 hname
    · rintro rfl
      exact hfound a
  mem_known a := List.mem_map_of_mem (hall a)
  named h := by
    obtain ⟨a, -, hname⟩ := List.mem_map.1 h
    exact ⟨a, hname⟩

theorem Suite.isLookup : IsLookup Suite.ofName? Suite.name supportedSuites :=
  isLookup_find? Suite.mem_all Suite.ofName?_name

theorem Version.isLookup : IsLookup Version.ofName? Version.name supportedVersions :=
  isLookup_find? Version.mem_all Version.ofName?_name

section Lookup

variable {α : Type} {ofName? : String → Option α} {nameOf : α → String} {known : List String}
  (hlookup : IsLookup ofName? nameOf known)
include hlookup

theorem IsLookup.eq_none_iff {name : String} : ofName? name = none ↔ name ∉ known := by
  constructor
  · rintro hnone hknown
    obtain ⟨a, ha⟩ := hlookup.named hknown
    rw [hlookup.eq_some_iff.2 ha] at hnone
    cases hnone
  · intro hunknown
    cases hfound : ofName? name with
    | none => rfl
    | some a => exact absurd (hlookup.eq_some_iff.1 hfound ▸ hlookup.mem_known a) hunknown

theorem IsLookup.injective {a b : α} (h : nameOf a = nameOf b) : a = b := by
  have ha : ofName? (nameOf b) = some a := hlookup.eq_some_iff.2 h
  have hb : ofName? (nameOf b) = some b := hlookup.eq_some_iff.2 rfl
  exact Option.some.inj (ha.symm.trans hb)

/-- **Looking names up finds what is called so**, in the same order and as often. -/
theorem lookupAll_eq_ok_iff {unknown : String → Fault} {names : List String} {found : List α} :
    lookupAll ofName? unknown names = .ok found ↔ found.map nameOf = names := by
  induction names generalizing found with
  | nil => simp [lookupAll, eq_comm]
  | cons name names ih =>
    rw [lookupAll, List.map_eq_cons_iff]
    cases hname : ofName? name with
    | none =>
      constructor
      · intro h
        cases h
      · rintro ⟨a, rest, -, ha, -⟩
        rw [hlookup.eq_some_iff.2 ha] at hname
        cases hname
    | some a =>
      have ha : nameOf a = name := hlookup.eq_some_iff.1 hname
      constructor
      · intro h
        cases hrest : lookupAll ofName? unknown names with
        | error fault =>
          rw [hrest] at h
          cases h
        | ok rest =>
          rw [hrest] at h
          cases h
          exact ⟨a, rest, rfl, ha, ih.1 hrest⟩
      -- Names tell things apart, so what has the first name is what was found.
      · rintro ⟨b, rest, rfl, hb, hrest⟩
        rw [hlookup.injective (ha.trans hb.symm), ih.2 hrest]
        rfl

/-- **The first unknown name is the fault**, whatever stands behind it. -/
theorem lookupAll_of_firstUnknown {unknown : String → Fault} {names : List String} {name : String}
    (h : FirstUnknown known names name) :
    lookupAll ofName? unknown names = .error (unknown name) := by
  obtain ⟨before, after, rfl, hbefore, hname⟩ := h
  induction before with
  | nil => rw [List.nil_append, lookupAll, hlookup.eq_none_iff.2 hname]
  | cons other before ih =>
    obtain ⟨hother, hbefore⟩ := List.forall_mem_cons.1 hbefore
    obtain ⟨a, ha⟩ := hlookup.named hother
    rw [List.cons_append, lookupAll, hlookup.eq_some_iff.2 ha, ih hbefore]
    rfl

end Lookup

/-! ## Choosing

`choose` is the part that suites and versions share, with the faults of either as parameters. -/

/-- What is chosen by given names; everything when none are given. The two faults are those of
whatever the names are names of. -/
def choose {α : Type} (ofName? : String → Option α) (unknown : String → Fault) (nothing : Fault)
    (all : List α) : Option (List String) → Except Fault (List α)
  | none => .ok all
  | some names => do
    let found ← lookupAll ofName? unknown names
    if found.isEmpty then .error nothing else .ok found

/-- What is settled once suites and versions are chosen: whether they fit, and if so the settings.
The order in which the versions were chosen is lost here. -/
def settle (context : Context) (sessionCreation : Bool) (suites : List Suite)
    (chosen : List Version) : Except Fault ClientSettings :=
  let versions := Version.all.filter (· ∈ chosen)
  if suites.any (·.version ∈ versions) then
    .ok { suites, versions, alpn := context.alpn, resumption := sessionCreation }
  else .error .noUsableSuites

theorem clientSettings_eq (context : Context) (suiteNames versionNames : Option (List String))
    (sessionCreation : Bool) :
    clientSettings context suiteNames versionNames sessionCreation =
      choose Suite.ofName? .unknownSuite .noSuites Suite.all suiteNames >>= fun suites =>
        choose Version.ofName? .unknownVersion .noVersions Version.all versionNames >>=
          settle context sessionCreation suites := by
  cases suiteNames <;> cases versionNames <;> rfl

section Choose

variable {α : Type} {ofName? : String → Option α} {nameOf : α → String} {all : List α}
  (hlookup : IsLookup ofName? nameOf (all.map nameOf)) {unknown : String → Fault} {nothing : Fault}
include hlookup

theorem choose_of_firstUnknown {names : List String} {name : String}
    (h : FirstUnknown (all.map nameOf) names name) :
    choose ofName? unknown nothing all (some names) = .error (unknown name) := by
  rw [choose, lookupAll_of_firstUnknown hlookup h]
  rfl

omit hlookup in
theorem choose_nil : choose ofName? unknown nothing all (some []) = .error nothing := rfl

/-- Known names name something, and nothing given names everything. -/
theorem exists_named {given : Option (List String)} (h : Choosable (all.map nameOf) given) :
    ∃ chosen : List α, chosen.map nameOf = given.getD (all.map nameOf) := by
  cases given with
  | none => exact ⟨all, rfl⟩
  | some names =>
    have hrange : names ∈ Set.range (List.map nameOf) := by
      rw [Set.range_list_map]
      exact fun name hname => hlookup.named ((h names rfl).2 name hname)
    exact hrange

/-- **What is chosen by known names is what they name.** -/
theorem choose_of_choosable {given : Option (List String)}
    (h : Choosable (all.map nameOf) given) {chosen : List α}
    (hnamed : chosen.map nameOf = given.getD (all.map nameOf)) :
    choose ofName? unknown nothing all given = .ok chosen := by
  cases given with
  | none =>
    have hall : chosen = all := (List.map_inj_right fun _ _ => hlookup.injective).1 hnamed
    rw [hall]
    rfl
  | some names =>
    rw [Option.getD_some] at hnamed
    have hsome : chosen.isEmpty = false := by
      cases chosen with
      | nil => exact absurd hnamed.symm (h names rfl).1
      | cons a chosen => rfl
    rw [choose, (lookupAll_eq_ok_iff hlookup).2 hnamed]
    simp only [bind, Except.bind, hsome]
    rfl

end Choose

/-! ## Settling

Versions are kept in an order of their own, so of the chosen ones only membership matters here.
Suites stay as they were chosen. A connection could not be made without a suite that belongs to one
of the versions, and this is the last thing that is asked. -/

/-- Some suite that is asked for belongs to a version that is asked for. Without given names all are
asked for. -/
def Usable (suiteNames versionNames : Option (List String)) : Prop :=
  ∃ suite : Suite, suite.name ∈ suiteNames.getD supportedSuites
    ∧ suite.version.name ∈ versionNames.getD supportedVersions

/-- The settings of suites and versions that fit together. -/
def ClientSettings.ofNames (context : Context) (suites : List Suite)
    (versionNames : Option (List String)) (sessionCreation : Bool) : ClientSettings where
  suites := suites
  versions := Version.all.filter (·.name ∈ versionNames.getD supportedVersions)
  alpn := context.alpn
  resumption := sessionCreation

section Settle

variable {suiteNames versionNames : Option (List String)} {suites : List Suite}
  {chosen : List Version}

theorem mem_chosen_iff (h : chosen.map Version.name = versionNames.getD supportedVersions)
    (version : Version) :
    version ∈ chosen ↔ version.name ∈ versionNames.getD supportedVersions := by
  rw [← h]
  refine ⟨List.mem_map_of_mem, fun hname => ?_⟩
  obtain ⟨other, hother, hsame⟩ := List.mem_map.1 hname
  rw [← Version.isLookup.injective hsame]
  exact hother

theorem any_version_iff (hsuites : suites.map Suite.name = suiteNames.getD supportedSuites)
    (hchosen : chosen.map Version.name = versionNames.getD supportedVersions) :
    suites.any (·.version ∈ Version.all.filter (· ∈ chosen)) = true
      ↔ Usable suiteNames versionNames := by
  rw [List.any_eq_true, Usable, ← hsuites]
  constructor
  · rintro ⟨suite, hsuite, hversion⟩
    have hmem := of_decide_eq_true (List.mem_filter.1 (of_decide_eq_true hversion)).2
    exact ⟨suite, List.mem_map_of_mem hsuite, (mem_chosen_iff hchosen _).1 hmem⟩
  · rintro ⟨suite, hname, hversion⟩
    obtain ⟨other, hother, hsame⟩ := List.mem_map.1 hname
    rw [← Suite.isLookup.injective hsame] at hversion
    refine ⟨other, hother, decide_eq_true (List.mem_filter.2 ⟨Version.mem_all _, ?_⟩)⟩
    exact decide_eq_true ((mem_chosen_iff hchosen _).2 hversion)

theorem settle_of_usable (context : Context) (sessionCreation : Bool)
    (hsuites : suites.map Suite.name = suiteNames.getD supportedSuites)
    (hchosen : chosen.map Version.name = versionNames.getD supportedVersions)
    (h : Usable suiteNames versionNames) :
    settle context sessionCreation suites chosen
      = .ok (.ofNames context suites versionNames sessionCreation) := by
  have hversions : Version.all.filter (· ∈ chosen)
      = Version.all.filter (·.name ∈ versionNames.getD supportedVersions) :=
    List.filter_congr fun version _ => decide_eq_decide.2 (mem_chosen_iff hchosen version)
  rw [settle, if_pos ((any_version_iff hsuites hchosen).2 h), hversions]
  rfl

theorem settle_of_not_usable (context : Context) (sessionCreation : Bool)
    (hsuites : suites.map Suite.name = suiteNames.getD supportedSuites)
    (hchosen : chosen.map Version.name = versionNames.getD supportedVersions)
    (h : ¬ Usable suiteNames versionNames) :
    settle context sessionCreation suites chosen = .error .noUsableSuites := by
  rw [settle, if_neg (mt (any_version_iff hsuites hchosen).1 h)]

end Settle

/-! ## Deciding

The cases of `Decision` follow the order of the faults. For each of them the two steps of the code
are known from the sections above, and it remains to put them together. -/

section Decision

variable (context : Context) (suiteNames versionNames : Option (List String))
  (sessionCreation : Bool)

/-- What becomes of given names. Faults are listed in the order in which they count: each one
supposes that none of those before it applies. -/
inductive Decision : Except Fault ClientSettings → Prop where
  /-- Whatever the versions are. -/
  | unknownSuite {names : List String} {name : String} (given : suiteNames = some names)
      (first : FirstUnknown supportedSuites names name) : Decision (.error (.unknownSuite name))
  | noSuites (given : suiteNames = some []) : Decision (.error .noSuites)
  | unknownVersion {names : List String} {name : String}
      (hsuites : Choosable supportedSuites suiteNames) (given : versionNames = some names)
      (first : FirstUnknown supportedVersions names name) : Decision (.error (.unknownVersion name))
  | noVersions (hsuites : Choosable supportedSuites suiteNames) (given : versionNames = some []) :
      Decision (.error .noVersions)
  | noUsableSuites (hsuites : Choosable supportedSuites suiteNames)
      (hversions : Choosable supportedVersions versionNames)
      (h : ¬ Usable suiteNames versionNames) : Decision (.error .noUsableSuites)
  /-- The suites are those that are named, in the same order and as often. -/
  | settled (hsuites : Choosable supportedSuites suiteNames)
      (hversions : Choosable supportedVersions versionNames) (h : Usable suiteNames versionNames)
      {suites : List Suite} (named : suites.map Suite.name = suiteNames.getD supportedSuites) :
      Decision (.ok (.ofNames context suites versionNames sessionCreation))

variable {context suiteNames versionNames sessionCreation}

/-- Once suites can be chosen, it is up to the versions. -/
theorem clientSettings_of_choosable (hsuites : Choosable supportedSuites suiteNames)
    {suites : List Suite} (named : suites.map Suite.name = suiteNames.getD supportedSuites) :
    clientSettings context suiteNames versionNames sessionCreation
      = choose Version.ofName? .unknownVersion .noVersions Version.all versionNames >>=
        settle context sessionCreation suites := by
  rw [clientSettings_eq, choose_of_choosable Suite.isLookup hsuites named]
  rfl

/-- A decision is what the settings come to. -/
theorem Decision.clientSettings_eq {result : Except Fault ClientSettings}
    (h : Decision context suiteNames versionNames sessionCreation result) :
    clientSettings context suiteNames versionNames sessionCreation = result := by
  cases h with
  | unknownSuite given first =>
    rw [Tls.clientSettings_eq, given, choose_of_firstUnknown Suite.isLookup first]
    rfl
  | noSuites given =>
    rw [Tls.clientSettings_eq, given, choose_nil]
    rfl
  | unknownVersion hsuites given first =>
    obtain ⟨suites, named⟩ := exists_named Suite.isLookup hsuites
    rw [clientSettings_of_choosable hsuites named, given,
      choose_of_firstUnknown Version.isLookup first]
    rfl
  | noVersions hsuites given =>
    obtain ⟨suites, named⟩ := exists_named Suite.isLookup hsuites
    rw [clientSettings_of_choosable hsuites named, given, choose_nil]
    rfl
  | noUsableSuites hsuites hversions h =>
    obtain ⟨suites, named⟩ := exists_named Suite.isLookup hsuites
    obtain ⟨chosen, hchosen⟩ := exists_named Version.isLookup hversions
    rw [clientSettings_of_choosable hsuites named,
      choose_of_choosable Version.isLookup hversions hchosen]
    exact settle_of_not_usable context sessionCreation named hchosen h
  | settled hsuites hversions h named =>
    obtain ⟨chosen, hchosen⟩ := exists_named Version.isLookup hversions
    rw [clientSettings_of_choosable hsuites named,
      choose_of_choosable Version.isLookup hversions hchosen]
    exact settle_of_usable context sessionCreation named hchosen h

variable (context suiteNames versionNames sessionCreation)

/-- There is a decision on everything that can be given. -/
theorem exists_decision :
    ∃ result, Decision context suiteNames versionNames sessionCreation result := by
  rcases choosable_or supportedSuites suiteNames with hsuites | ⟨names, name, given, first⟩ | given
  · rcases choosable_or supportedVersions versionNames with
      hversions | ⟨names, name, given, first⟩ | given
    · by_cases h : Usable suiteNames versionNames
      · obtain ⟨suites, named⟩ := exists_named Suite.isLookup hsuites
        exact ⟨_, .settled hsuites hversions h named⟩
      · exact ⟨_, .noUsableSuites hsuites hversions h⟩
    · exact ⟨_, .unknownVersion hsuites given first⟩
    · exact ⟨_, .noVersions hsuites given⟩
  · exact ⟨_, .unknownSuite given first⟩
  · exact ⟨_, .noSuites given⟩

/-- **Settings are decided by the names that are given**, with faults in a fixed order: the first
unknown suite, no suites, the first unknown version, no versions, and no suite that belongs to an
enabled version. -/
theorem clientSettings_eq_iff_decision (result : Except Fault ClientSettings) :
    clientSettings context suiteNames versionNames sessionCreation = result
      ↔ Decision context suiteNames versionNames sessionCreation result := by
  constructor
  · rintro rfl
    obtain ⟨result, h⟩ := exists_decision context suiteNames versionNames sessionCreation
    rw [h.clientSettings_eq]
    exact h
  · exact Decision.clientSettings_eq

end Decision

/-- The second suite is the fault, not the third, and not the version. -/
example (context : Context) (sessionCreation : Bool) :
    clientSettings context (some ["TLS13_AES_128_GCM_SHA256", "RC4", "DES"]) (some ["SSLv3"])
      sessionCreation = .error (.unknownSuite "RC4") := rfl

/-- All names are known, but they do not fit together. -/
example (context : Context) (sessionCreation : Bool) :
    clientSettings context (some ["TLS13_AES_128_GCM_SHA256"]) (some ["TLSv1.2"])
      sessionCreation = .error .noUsableSuites := rfl

end TunnelOptions.Tls
