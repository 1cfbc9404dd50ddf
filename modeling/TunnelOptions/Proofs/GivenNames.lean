import Mathlib.Data.List.Perm.Basic
import TunnelOptions.Proofs.ClientSettings

/-!
# Versions are a set, suites a sequence

Names are given in lists, but only the suites are kept as they are listed. Of the versions nothing
counts but which ones there are, and giving no names is giving all there are. A suite that fits an
enabled version goes on to fit when more is asked for, so supported names can be added to a list
that has led to settings.

Each of these relates two calls. What one call comes to is known already, and is not taken apart
again: for versions it is enough that settling does not tell two lists of the same versions apart,
for suites that it keeps the order they have, and for added names that the three conditions for
there being settings at all are monotone.

* `settle_eq_of_mem_iff`: of the chosen versions only those count that there are.
* `clientSettings_eq_of_versions`: so it is with their names, if none given stand for all.
* `SuitesRearranged`, `clientSettings_of_perm`: suites in another order. The order is followed by
  places and not by names, since a name can be listed more than once.
* `exists_settings_iff`: when there are settings.
* `Adds`, `Choosable.of_adds`, `Usable.of_adds`: names that are added.
* `versions_as_set_and_suites_as_sequence`: all of this together.

The names in question are supported ones throughout. An unknown name is a fault that names it, so
its place among other unknown names does count.
-/

set_option autoImplicit false

namespace TunnelOptions.Tls

variable {context : Context} {sessionCreation : Bool}
  {suiteNames versionNames : Option (List String)}

/-! ## Versions

Two lists of known version names choose the same set of versions, and settling sees no more than the
set. -/

theorem settle_eq_of_mem_iff {suites : List Suite} {chosen others : List Version}
    (h : ∀ version, version ∈ chosen ↔ version ∈ others) :
    settle context sessionCreation suites chosen
      = settle context sessionCreation suites others := by
  have hversions : Version.all.filter (· ∈ chosen) = Version.all.filter (· ∈ others) :=
    List.filter_congr fun version _ => decide_eq_decide.2 (h version)
  rw [settle, hversions, settle]

/-- **Versions are a set.** Which names of versions are given is all that counts, and none given
stand for all there are. -/
theorem clientSettings_eq_of_versions {otherNames : Option (List String)}
    (h : Choosable supportedVersions versionNames) (h' : Choosable supportedVersions otherNames)
    (hsame : ∀ name, name ∈ versionNames.getD supportedVersions
      ↔ name ∈ otherNames.getD supportedVersions) :
    clientSettings context suiteNames versionNames sessionCreation
      = clientSettings context suiteNames otherNames sessionCreation := by
  obtain ⟨chosen, hchosen⟩ := exists_named Version.isLookup h
  obtain ⟨others, hothers⟩ := exists_named Version.isLookup h'
  have hmem (version : Version) : version ∈ chosen ↔ version ∈ others := by
    rw [mem_chosen_iff hchosen, mem_chosen_iff hothers]
    exact hsame version.name
  have hsettle (suites : List Suite) :
      settle context sessionCreation suites chosen = settle context sessionCreation suites others :=
    settle_eq_of_mem_iff hmem
  rw [clientSettings_eq, choose_of_choosable Version.isLookup h hchosen, clientSettings_eq,
    choose_of_choosable Version.isLookup h' hothers]
  exact congrArg _ (funext hsettle)

theorem choosable_none (known : List String) : Choosable known none := by
  intro given h
  cases h

/-- Known names can be chosen by, unless there are none. -/
theorem choosable_some {known names : List String} (hne : names ≠ [])
    (hknown : ∀ name ∈ names, name ∈ known) : Choosable known (some names) := by
  intro given h
  cases h
  exact ⟨hne, hknown⟩

/-- Known versions can be listed in any order and any number of times. -/
theorem clientSettings_eq_of_mem_iff {names others : List String}
    (hknown : ∀ name ∈ names, name ∈ supportedVersions)
    (hsame : ∀ name, name ∈ names ↔ name ∈ others) :
    clientSettings context suiteNames (some names) sessionCreation
      = clientSettings context suiteNames (some others) sessionCreation := by
  by_cases hnil : names = []
  · have hnone : others = [] := by
      refine List.eq_nil_iff_forall_not_mem.2 fun name hname => ?_
      rw [← hsame name, hnil] at hname
      cases hname
    rw [hnil, hnone]
  · have hother : others ≠ [] := by
      rintro rfl
      obtain ⟨name, hname⟩ := List.exists_mem_of_ne_nil names hnil
      cases (hsame name).1 hname
    have hothers : ∀ name ∈ others, name ∈ supportedVersions :=
      fun name hname => hknown name ((hsame name).2 hname)
    exact clientSettings_eq_of_versions (choosable_some hnil hknown)
      (choosable_some hother hothers) hsame

/-- No versions given are all of them. -/
theorem clientSettings_no_versions {names : List String}
    (hall : ∀ name, name ∈ names ↔ name ∈ supportedVersions) :
    clientSettings context suiteNames none sessionCreation
      = clientSettings context suiteNames (some names) sessionCreation := by
  have hne : names ≠ [] := by
    rintro rfl
    cases (hall Version.tls12.name).2 (Version.isLookup.mem_known .tls12)
  exact clientSettings_eq_of_versions (choosable_none supportedVersions)
    (choosable_some hne fun name hname => (hall name).1 hname) fun name => (hall name).symm

/-! ## Suites

No suites given come to the same as all of them, for the whole result and not only up to order.
Suites in another order come to settings that differ in their list of suites only. -/

/-- No suites given are all of them, in the order of preference. -/
theorem clientSettings_no_suites :
    clientSettings context none versionNames sessionCreation
      = clientSettings context (some supportedSuites) versionNames sessionCreation := by
  have hall : Choosable supportedSuites (some supportedSuites) :=
    choosable_some (by decide) fun _ hname => hname
  have hnamed : Suite.all.map Suite.name = supportedSuites := rfl
  rw [clientSettings_of_choosable (choosable_none supportedSuites) hnamed,
    clientSettings_of_choosable hall hnamed]

/-- Two results are the same, but that the suites of the second are those of the first rearranged
as the names were: each has moved with its name. -/
inductive SuitesRearranged (names others : List String) :
    Except Fault ClientSettings → Except Fault ClientSettings → Prop where
  | error (fault : Fault) : SuitesRearranged names others (.error fault) (.error fault)
  | ok (settings : ClientSettings) {suites : List Suite} (hperm : settings.suites.Perm suites)
      (hplaces : ∀ σ : Nat → Nat, (∀ i, others[i]? = names[σ i]?) →
        ∀ i, suites[i]? = settings.suites[σ i]?) :
      SuitesRearranged names others (.ok settings) (.ok { settings with suites })

/-- Suites move with their names: what stands at a place of the second list of suites stands in the
first where the name came from. -/
theorem getElem?_suites {suites others : List Suite} {names otherNames : List String}
    (hnamed : suites.map Suite.name = names) (hothers : others.map Suite.name = otherNames)
    {σ : Nat → Nat} (hplaces : ∀ i, otherNames[i]? = names[σ i]?) (i : Nat) :
    others[i]? = suites[σ i]? := by
  have hname : others[i]?.map Suite.name = suites[σ i]?.map Suite.name := by
    rw [← List.getElem?_map, ← List.getElem?_map, hnamed, hothers]
    exact hplaces i
  exact Option.map_injective (fun _ _ h => Suite.isLookup.injective h) hname

theorem settle_of_perm {suites others : List Suite} (hperm : suites.Perm others)
    {names otherNames : List String} (hnamed : suites.map Suite.name = names)
    (hothers : others.map Suite.name = otherNames) (chosen : List Version) :
    SuitesRearranged names otherNames (settle context sessionCreation suites chosen)
      (settle context sessionCreation others chosen) := by
  have hany : others.any (·.version ∈ Version.all.filter (· ∈ chosen))
      = suites.any (·.version ∈ Version.all.filter (· ∈ chosen)) := hperm.symm.any_eq
  rw [settle, settle, hany]
  split
  · exact .ok { suites, versions := _, alpn := _, resumption := _ } hperm
      fun σ hplaces => getElem?_suites hnamed hothers hplaces
  · exact .error _

/-- **Suites are a sequence.** Known names in another order lead to the same fault, or to the same
settings with the suites in that order. -/
theorem clientSettings_of_perm {names others : List String}
    (hknown : ∀ name ∈ names, name ∈ supportedSuites) (hperm : names.Perm others) :
    SuitesRearranged names others
      (clientSettings context (some names) versionNames sessionCreation)
      (clientSettings context (some others) versionNames sessionCreation) := by
  by_cases hnil : names = []
  · -- No names at all are refused, and there is one order of them.
    subst hnil
    rw [List.nil_perm.1 hperm]
    exact .error .noSuites
  · have hother : others ≠ [] := fun h => hnil (List.perm_nil.1 (h ▸ hperm))
    have hnames : Choosable supportedSuites (some names) := choosable_some hnil hknown
    have hothers : Choosable supportedSuites (some others) :=
      choosable_some hother fun name hname => hknown name (hperm.mem_iff.2 hname)
    obtain ⟨suites, hnamed⟩ := exists_named Suite.isLookup hnames
    obtain ⟨otherSuites, hotherNamed⟩ := exists_named Suite.isLookup hothers
    rw [Option.getD_some] at hnamed hotherNamed
    have hsuites : suites.Perm otherSuites := by
      refine (List.map_perm_map_iff fun _ _ h => Suite.isLookup.injective h).1 ?_
      rw [hnamed, hotherNamed]
      exact hperm
    rw [clientSettings_of_choosable hnames hnamed, clientSettings_of_choosable hothers hotherNamed]
    cases choose Version.ofName? .unknownVersion .noVersions Version.all versionNames with
    | error fault => exact .error fault
    | ok chosen => exact settle_of_perm hsuites hnamed hotherNamed chosen

/-! ## Added names

When there are settings is a question of three conditions, and adding known names keeps each of
them. What the settings are is not compared: more suites or versions are more settings. -/

/-- **There are settings** exactly when suites and versions can be chosen and some of them fit. -/
theorem exists_settings_iff :
    (∃ settings, clientSettings context suiteNames versionNames sessionCreation = .ok settings)
      ↔ Choosable supportedSuites suiteNames ∧ Choosable supportedVersions versionNames
        ∧ Usable suiteNames versionNames := by
  constructor
  · rintro ⟨settings, h⟩
    obtain ⟨result, hdecision⟩ :=
      exists_decision context suiteNames versionNames sessionCreation
    rw [hdecision.clientSettings_eq] at h
    subst h
    cases hdecision with
    | settled hsuites hversions husable => exact ⟨hsuites, hversions, husable⟩
  · rintro ⟨hsuites, hversions, husable⟩
    obtain ⟨suites, named⟩ := exists_named Suite.isLookup hsuites
    exact ⟨_, (Decision.settled hsuites hversions husable named).clientSettings_eq⟩

/-- Known names are added to those given, anywhere among them. Where none are given, none can be
added. -/
inductive Adds (known : List String) : Option (List String) → Option (List String) → Prop where
  | unchanged (given : Option (List String)) : Adds known given given
  | known {names more : List String} (hkept : ∀ name ∈ names, name ∈ more)
      (hadded : ∀ name ∈ more, name ∈ names ∨ name ∈ known) :
      Adds known (some names) (some more)

theorem Choosable.of_adds {known : List String} {given more : Option (List String)}
    (h : Choosable known given) (hadds : Adds known given more) : Choosable known more := by
  cases hadds with
  | unchanged => exact h
  | @known names more hkept hadded =>
    obtain ⟨hne, hknown⟩ := h names rfl
    obtain ⟨name, hname⟩ := List.exists_mem_of_ne_nil names hne
    refine choosable_some (List.ne_nil_of_mem (hkept name hname)) fun other hother => ?_
    exact (hadded other hother).elim (hknown other) id

theorem Adds.mem_getD {known : List String} {given more : Option (List String)}
    (h : Adds known given more) {name : String} (hname : name ∈ given.getD known) :
    name ∈ more.getD known := by
  cases h with
  | unchanged => exact hname
  | known hkept => exact hkept name hname

theorem Usable.of_adds {moreSuites moreVersions : Option (List String)}
    (h : Usable suiteNames versionNames) (hsuites : Adds supportedSuites suiteNames moreSuites)
    (hversions : Adds supportedVersions versionNames moreVersions) :
    Usable moreSuites moreVersions := by
  obtain ⟨suite, hname, hversion⟩ := h
  exact ⟨suite, hsuites.mem_getD hname, hversions.mem_getD hversion⟩

/-! ## All together -/

/-- **Versions are a set, suites a sequence, and nothing is everything.** Known versions can be
listed in any order and any number of times. None given are all there are, and no suites given are
all of them in the order of preference. Suites in another order lead to the same fault, or to the
same settings with the suites in that order. Names that have led to settings go on to do so when
supported names are added to them. -/
theorem versions_as_set_and_suites_as_sequence (context : Context) (sessionCreation : Bool) :
    let settings suiteNames versionNames :=
      clientSettings context suiteNames versionNames sessionCreation
    (∀ suiteNames names others, (∀ name ∈ names, name ∈ supportedVersions) →
      (∀ name, name ∈ names ↔ name ∈ others) →
      settings suiteNames (some names) = settings suiteNames (some others))
    ∧ (∀ suiteNames names, (∀ name, name ∈ names ↔ name ∈ supportedVersions) →
      settings suiteNames none = settings suiteNames (some names))
    ∧ (∀ versionNames,
      settings none versionNames = settings (some supportedSuites) versionNames)
    ∧ (∀ versionNames names others, (∀ name ∈ names, name ∈ supportedSuites) →
      names.Perm others → SuitesRearranged names others (settings (some names) versionNames)
        (settings (some others) versionNames))
    ∧ ∀ suiteNames moreSuites versionNames moreVersions,
      Adds supportedSuites suiteNames moreSuites →
      Adds supportedVersions versionNames moreVersions →
      (∃ derived, settings suiteNames versionNames = .ok derived) →
      ∃ derived, settings moreSuites moreVersions = .ok derived := by
  intro settings
  refine ⟨fun suiteNames names others => clientSettings_eq_of_mem_iff,
    fun suiteNames names => clientSettings_no_versions,
    fun versionNames => clientSettings_no_suites,
    fun versionNames names others => clientSettings_of_perm,
    fun suiteNames moreSuites versionNames moreVersions hsuites hversions hsettled => ?_⟩
  obtain ⟨hchoosable, hchoosable', husable⟩ := exists_settings_iff.1 hsettled
  exact exists_settings_iff.2 ⟨hchoosable.of_adds hsuites, hchoosable'.of_adds hversions,
    husable.of_adds hsuites hversions⟩

/-- Versions given twice, none given beside a suite that is unknown, three suites of which two are
the same, and names that are added in front and behind. -/
theorem versions_as_set_and_suites_as_sequence_given :
    let context := Context.withPublicRoots "c"
    let repeated := ["TLSv1.3", "TLSv1.2", "TLSv1.3"]
    let first := "TLS13_AES_128_GCM_SHA256"
    let second := "TLS_ECDHE_RSA_WITH_AES_128_GCM_SHA256"
    (∀ name ∈ repeated, name ∈ supportedVersions)
    ∧ (∀ name, name ∈ repeated ↔ name ∈ supportedVersions)
    ∧ clientSettings context none (some repeated) false
      = clientSettings context none (some supportedVersions) false
    ∧ clientSettings context (some ["RC4"]) none false
      = clientSettings context (some ["RC4"]) (some repeated) false
    ∧ clientSettings context none (some repeated) false
      = clientSettings context (some supportedSuites) (some repeated) false
    ∧ (∀ name ∈ [first, second, second], name ∈ supportedSuites)
    ∧ [first, second, second].Perm [second, first, second]
    ∧ SuitesRearranged [first, second, second] [second, first, second]
      (clientSettings context (some [first, second, second]) none false)
      (clientSettings context (some [second, first, second]) none false)
    ∧ Adds supportedSuites (some [first]) (some [second, first])
    ∧ Adds supportedVersions (some ["TLSv1.3"]) (some ["TLSv1.3", "TLSv1.2"])
    ∧ (∃ derived, clientSettings context (some [first]) (some ["TLSv1.3"]) false = .ok derived)
    ∧ ∃ derived, clientSettings context (some [second, first]) (some ["TLSv1.3", "TLSv1.2"]) false
      = .ok derived := by
  intro context repeated first second
  obtain ⟨hset, hnone, hall, hperm, hadds⟩ := versions_as_set_and_suites_as_sequence context false
  have hknown : ∀ name ∈ repeated, name ∈ supportedVersions := by decide
  have hsame (name : String) : name ∈ repeated ↔ name ∈ supportedVersions :=
    ⟨hknown name, (by decide : ∀ name ∈ supportedVersions, name ∈ repeated) name⟩
  have hsuites : ∀ name ∈ [first, second, second], name ∈ supportedSuites := by decide
  have hswap : [first, second, second].Perm [second, first, second] := .swap _ _ _
  have hmore : Adds supportedSuites (some [first]) (some [second, first]) :=
    .known (by decide) (by decide)
  have hmore' : Adds supportedVersions (some ["TLSv1.3"]) (some ["TLSv1.3", "TLSv1.2"]) :=
    .known (by decide) (by decide)
  have hsettled :
      ∃ derived, clientSettings context (some [first]) (some ["TLSv1.3"]) false = .ok derived :=
    ⟨_, rfl⟩
  exact ⟨hknown, hsame, hset none _ _ hknown hsame, hnone _ _ hsame, hall _, hsuites, hswap,
    hperm none _ _ hsuites hswap, hmore, hmore', hsettled, hadds _ _ _ _ hmore hmore' hsettled⟩

end TunnelOptions.Tls
