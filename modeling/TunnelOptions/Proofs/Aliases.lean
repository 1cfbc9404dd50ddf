import Mathlib.Data.List.Nodup
import TunnelOptions.Proofs.BulkWrites
import TunnelOptions.Proofs.Naming

/-!
# Aliases are transparent

Some options of tunnels go by more than one name. Which of them an entry is given under is looked at
once, to find the option, and from there on it is the option that decides. The given name comes up
again only where a report lists it. So with other names of the same options in their places the
entries of a map do what they did before, and the report lists the other names instead.

Two runs are compared, of a map and of one that is renamed entry by entry. The renamed entries have
the same verdicts under other names, so once more there are two lists to compare, and they differ by
a function on the names. That there is such a function is the only place where it matters that the
names of a map are distinct. Writes and results do not look at names, and a report lists them as
they are.

A fault carries the canonical name of its option, so it is not renamed with the entry. It need not
be: both names have the same canonical one.

* `Tunnel.Key.Synonyms`: names that stand for one key of tunnels.
* `OptionMap.Renamed`: a map with synonyms for some of its names.
* `Report.rename`: a report with other names for its entries, and the faults it had.
* `Tower.resolve_eq_of_synonyms`, `Tower.verdicts_renamed`: what renamed entries come to.
* `Tower.reportOf_rename`, `Tower.writesOf_rename`, `Tower.resultOf_rename`: where names show.
* `Tower.aliases_transparent`: maps with synonyms come to the same.
-/

set_option autoImplicit false

namespace TunnelOptions

/-! ## Other names

A renaming may be partial, and may exchange names between entries, as long as the names stay
distinct. So it is a relation between two maps and not a function that is applied to one. -/

/-- Two names are the same, or both stand for one key of tunnels, as its canonical name or as an
alias. -/
def Tunnel.Key.Synonyms (name other : String) : Prop :=
  name = other ∨ ∃ key, ofName? name = some key ∧ ofName? other = some key

theorem OptionKey.ofName?_eq_of_synonyms {name other : String}
    (h : Tunnel.Key.Synonyms name other) : ofName? name = ofName? other := by
  rcases h with rfl | ⟨key, hname, hother⟩
  · rfl
  · rw [ofName?_eq_tunnel_iff.2 hname, ofName?_eq_tunnel_iff.2 hother]

/-- An entry under another name of the same option. -/
def RenamedEntry (entry other : String × Value) : Prop :=
  Tunnel.Key.Synonyms entry.1 other.1 ∧ entry.2 = other.2

/-- A map with synonyms for some of its names: the entries have their places and values, and as in
every map no name comes twice. -/
def OptionMap.Renamed (options others : OptionMap) : Prop :=
  List.Forall₂ RenamedEntry options.entries others.entries

/-- Distinct names are given others, one by one, by a function. -/
theorem exists_rename {names others : List String} (hnodup : names.Nodup)
    (hlength : names.length = others.length) : ∃ rename : String → String,
      others = names.map rename := by
  -- A name is sent to the one that stands in its place.
  refine ⟨fun name => others[names.idxOf name]?.getD name, ?_⟩
  refine List.ext_getElem (by simp [hlength]) fun i hi _ => ?_
  simp [hnodup.idxOf_getElem, hi]

/-- The report with other names for the entries it lists. The faults stay what they are. -/
def Report.rename (rename : String → String) (report : Report) : Report where
  applied := report.applied.map rename
  unrecognized := report.unrecognized.map rename
  failed := report.failed.map fun (name, fault) => (rename name, fault)

namespace Tower

/-! ## What renamed entries come to -/

/-- **A tunnel does not look at which of its names an option is given under.** -/
theorem resolve_eq_of_synonyms {name other : String} (h : Tunnel.Key.Synonyms name other)
    (layer : Nat) (value : Value) :
    resolve (layer + 1) name value = resolve (layer + 1) other value := by
  rw [resolve_succ_eq, resolve_succ_eq, OptionKey.ofName?_eq_of_synonyms h]

/-- Renamed entries come to what they came to, under their new names. -/
theorem verdicts_renamed {entries others : List (String × Value)}
    (h : List.Forall₂ RenamedEntry entries others) {rename : String → String}
    (hkeys : Entries.keys others = (Entries.keys entries).map rename) (layer : Nat) :
    verdicts (layer + 1) others
      = (verdicts (layer + 1) entries).map fun (name, verdict) => (rename name, verdict) := by
  induction h with
  | nil => rfl
  | @cons entry other entries others hentry hrest ih =>
    obtain ⟨name, value⟩ := entry
    obtain ⟨otherName, otherValue⟩ := other
    have hvalue : value = otherValue := hentry.2
    subst hvalue
    have hname : otherName = rename name := (List.cons.inj hkeys).1
    have hverdict : resolve (layer + 1) name value = resolve (layer + 1) otherName value :=
      resolve_eq_of_synonyms hentry.1 layer value
    simp only [verdicts, List.map_cons] at ih ⊢
    rw [ih (List.cons.inj hkeys).2, hverdict, hname]

/-! ## Where names show

What is made of verdicts is followed over a renaming. Each induction has one case for every kind of
verdict, and the policy only matters at a fault. -/

section Rename

variable (rename : String → String) (policy : Policy) (verdicts : List (String × Verdict))

/-- **A report lists the names it is given**, and shows them nowhere else. -/
theorem reportOf_rename :
    reportOf policy (verdicts.map fun (name, verdict) => (rename name, verdict))
      = (reportOf policy verdicts).rename rename := by
  induction verdicts with
  | nil => rfl
  | cons entry verdicts ih =>
    obtain ⟨name, verdict⟩ := entry
    cases verdict with
    | error fault =>
      cases policy with
      | failFast => rfl
      | bestEffort => exact congrArg (Report.consFailed (rename name) fault) ih
    | ok write =>
      cases write with
      | none => exact congrArg (Report.consUnrecognized (rename name)) ih
      | some write => exact congrArg (Report.consApplied (rename name)) ih

/-- Names are not written. -/
theorem writesOf_rename :
    writesOf policy (verdicts.map fun (name, verdict) => (rename name, verdict))
      = writesOf policy verdicts := by
  induction verdicts with
  | nil => rfl
  | cons entry verdicts ih =>
    obtain ⟨name, verdict⟩ := entry
    cases verdict with
    | error fault =>
      cases policy with
      | failFast => rfl
      | bestEffort => exact ih
    | ok write => exact congrArg (write.toList ++ ·) ih

/-- A fault has its own name for the option. -/
theorem resultOf_rename :
    resultOf (verdicts.map fun (name, verdict) => (rename name, verdict))
      = resultOf verdicts := by
  induction verdicts with
  | nil => rfl
  | cons entry verdicts ih =>
    obtain ⟨name, verdict⟩ := entry
    cases verdict with
    | error fault => rfl
    | ok write => exact ih

end Rename

/-! ## Option maps -/

/-- The fault of a failure carries the canonical name of the option. -/
theorem canonical_of_mem_failed {layer : Nat} {options : OptionMap} {policy : Policy}
    {tower : Tower} {name : String} {fault : OptionFault}
    (h : (name, fault) ∈ (applyOptions (layer + 1) options policy tower).answer.failed) :
    (OptionKey.ofName? name).map OptionKey.name = some fault.key := by
  rw [applyOptions_answer] at h
  obtain ⟨⟨given, value⟩, -, hverdict⟩ := List.mem_map.1 (mem_failed_reportOf h)
  obtain ⟨rfl, hfault⟩ := Prod.mk.inj hverdict
  obtain ⟨key, reason, hkey, rfl⟩ := exists_key_of_resolve_eq_error hfault
  rw [hkey]
  rfl

/-- **Aliases are transparent.** When some entries of a map are given under other names of the same
options, a tunnel writes the same under either policy, and its report is the one it made before
with the other names in place of those given before. The faults in it stay what they are, with the
canonical names of their options. Without a report, too, both maps leave the same tower with the
same fault or none. -/
theorem aliases_transparent (layer : Nat) (tower : Tower) {options others : OptionMap}
    (h : options.Renamed others) :
    ∃ rename : String → String, others.keys = options.keys.map rename
      ∧ (∀ policy,
        let report := (applyOptions (layer + 1) options policy tower).answer
        (applyOptions (layer + 1) others policy tower).answer = report.rename rename
        ∧ (applyOptions (layer + 1) others policy tower).tower
          = (applyOptions (layer + 1) options policy tower).tower
        ∧ ∀ name fault, (name, fault) ∈ report.failed →
          (OptionKey.ofName? name).map OptionKey.name = some fault.key)
      ∧ (setOptions (layer + 1) others tower).outcome
        = (setOptions (layer + 1) options tower).outcome := by
  have hlength : options.keys.length = others.keys.length := by
    rw [OptionMap.keys, OptionMap.keys, Entries.keys, Entries.keys, List.length_map,
      List.length_map, h.length_eq]
  obtain ⟨rename, hkeys⟩ := exists_rename options.nodup hlength
  have hverdicts := verdicts_renamed h hkeys layer
  refine ⟨rename, hkeys, fun policy => ⟨?_, ?_, fun _ _ => canonical_of_mem_failed⟩, ?_⟩
  · rw [applyOptions_answer, hverdicts, reportOf_rename, applyOptions_answer]
  · rw [applyOptions_tower, hverdicts, writesOf_rename, applyOptions_tower]
  · rw [setOptions_outcome, hverdicts, resultOf_rename, writesOf_rename, setOptions_outcome]

/-- Options two of which are refused, one of them under an alias. -/
def aliasedOptions : OptionMap where
  entries := [("allowSessionCreation", .text "sometimes"), ("bogus", .null),
    ("enabledCipherSuites", .text "a, b"), ("enableSslSessionCreation", .bool false),
    ("trafficClass", .int 256), ("sslContext", .null)]

/-- The same with other names. Two of them have changed places, and one was canonical. -/
def aliasedOptionsRenamed : OptionMap where
  entries := [("enableSslSessionCreation", .text "sometimes"), ("bogus", .null),
    ("enabledSslCipherSuites", .text "a, b"), ("allowSessionCreation", .bool false),
    ("trafficClass", .int 256), ("tlsContext", .null)]

theorem aliases_transparent_swapped :
    aliasedOptions.Renamed aliasedOptionsRenamed
    ∧ ∃ rename : String → String, aliasedOptionsRenamed.keys = aliasedOptions.keys.map rename
      ∧ (applyOptions 2 aliasedOptionsRenamed .bestEffort (new 2)).answer
        = (applyOptions 2 aliasedOptions .bestEffort (new 2)).answer.rename rename
      ∧ (applyOptions 2 aliasedOptionsRenamed .failFast (new 2)).answer
        = (applyOptions 2 aliasedOptions .failFast (new 2)).answer.rename rename
      ∧ (applyOptions 2 aliasedOptionsRenamed .bestEffort (new 2)).tower
        = (applyOptions 2 aliasedOptions .bestEffort (new 2)).tower
      ∧ (OptionKey.ofName? "allowSessionCreation").map OptionKey.name
        = some "enableSslSessionCreation"
      ∧ (setOptions 2 aliasedOptionsRenamed (new 2)).outcome
        = (setOptions 2 aliasedOptions (new 2)).outcome := by
  have hrenamed : aliasedOptions.Renamed aliasedOptionsRenamed :=
    .cons ⟨.inr ⟨.enableSslSessionCreation, rfl, rfl⟩, rfl⟩ <|
    .cons ⟨.inl rfl, rfl⟩ <|
    .cons ⟨.inr ⟨.enabledSslCipherSuites, rfl, rfl⟩, rfl⟩ <|
    .cons ⟨.inr ⟨.enableSslSessionCreation, rfl, rfl⟩, rfl⟩ <|
    .cons ⟨.inl rfl, rfl⟩ <|
    .cons ⟨.inr ⟨.sslContext, rfl, rfl⟩, rfl⟩ .nil
  obtain ⟨rename, hkeys, hpolicy, hset⟩ := aliases_transparent 1 (new 2) hrenamed
  obtain ⟨hbest, htower, hcanonical⟩ := hpolicy .bestEffort
  have hfailed : ("allowSessionCreation",
        OptionFault.invalid "enableSslSessionCreation" (.noBoolean "sometimes"))
      ∈ (applyOptions 2 aliasedOptions .bestEffort (new 2)).answer.failed := by
    have hreport : (applyOptions 2 aliasedOptions .bestEffort (new 2)).answer.failed
        = [("allowSessionCreation", .invalid "enableSslSessionCreation" (.noBoolean "sometimes")),
          ("trafficClass", .invalid "trafficClass" (.noByte 256))] := rfl
    rw [hreport]
    exact List.mem_cons_self
  exact ⟨hrenamed, rename, hkeys, hbest, (hpolicy .failFast).1, htower, hcanonical _ _ hfailed,
    hset⟩

end Tower

end TunnelOptions
