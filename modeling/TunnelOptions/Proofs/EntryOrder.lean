import Mathlib.Data.List.Nodup
import TunnelOptions.Proofs.BulkWrites
import TunnelOptions.Proofs.Naming

/-!
# The order of entries

A map that comes from an unordered collection has its entries in any order. As long as no option is
named twice that is no matter: an entry writes to the place of its option and to no other, whatever
becomes of the entries around it, so any two entries can change places. The socket has no aliases,
and so only names of tunnels can stand for one option between them.

There are two halves, the tower and the report, and they are shown separately. For the tower a
permutation is taken apart into exchanges of neighbours, and one exchange is `put_comm`: the two
write to different places. For the report nothing needs to commute, since each of its lists is put
together from what each entry adds to it, and so a permutation of the entries gives one of the list.

Under the policy that stops at a failure the order matters, because it decides what is written by
then. Without a failure it does not stop, and the two policies are the same.

* `Tunnel.Key.NamedOnce`: names among which no key of tunnels has two.
* `Tower.writesOfEach`: what entries write, each by itself.
* `Tower.place_ne_of_mem_writes`, `Tower.putAll_perm`: names apart write to places apart, and so
  entries can be written in any order.
* `Report.Rearranges`, `Tower.rearranges_of_perm`: a report with its lists in another order.
* `Tower.order_of_entries_irrelevant`: both together.
-/

set_option autoImplicit false

namespace TunnelOptions

/-! ## Names that stand for an option once

Names that nobody knows may be as many as they like, since nothing is written for them. -/

/-- No two of some names stand for one key of tunnels: there is no alias beside the canonical name
or beside another alias. -/
def Tunnel.Key.NamedOnce (names : List String) : Prop :=
  ∀ name ∈ names, ∀ other ∈ names, ofName? name ≠ none → ofName? name = ofName? other →
    name = other

instance (names : List String) : Decidable (Tunnel.Key.NamedOnce names) :=
  inferInstanceAs (Decidable (∀ name ∈ names, ∀ other ∈ names, _ → _ → _))

theorem Tunnel.Key.NamedOnce.mono {names part : List String} (h : NamedOnce names)
    (hpart : part ⊆ names) : NamedOnce part :=
  fun name hname other hother => h name (hpart hname) other (hpart hother)

/-- Among such names no option has two, of whichever kind it is. -/
theorem OptionKey.eq_of_ofName? {names : List String} (honce : Tunnel.Key.NamedOnce names)
    {name other : String} (hname : name ∈ names) (hother : other ∈ names) {key : OptionKey}
    (h : ofName? name = some key) (h' : ofName? other = some key) : name = other := by
  cases key with
  | socket key =>
    rw [ofName?_eq_socket_iff] at h h'
    rw [← Socket.Key.name_of_ofName? h, Socket.Key.name_of_ofName? h']
  | tunnel key =>
    rw [ofName?_eq_tunnel_iff] at h h'
    have hknown : Tunnel.Key.ofName? name ≠ none := by simp [h]
    exact honce name hname other hother hknown (h.trans h'.symm)

namespace Tower

/-! ## Writes of entries

The writes of a map that is written to its end are those of its entries in a row. An induction on
the permutation exchanges two of them where it has to. -/

/-- What entries write on a layer, each by itself. -/
def writesOfEach (layer : Nat) (entries : List (String × Value)) : List Write :=
  entries.flatMap fun (name, value) => (resolve layer name value).writes

theorem writesOfEach_append (layer : Nat) (first second : List (String × Value)) :
    writesOfEach layer (first ++ second)
      = writesOfEach layer first ++ writesOfEach layer second :=
  List.flatMap_append

theorem writesOf_bestEffort (layer : Nat) (entries : List (String × Value)) :
    writesOf .bestEffort (verdicts layer entries) = writesOfEach layer entries := by
  induction entries with
  | nil => rfl
  | cons entry entries ih =>
    obtain ⟨name, value⟩ := entry
    simp only [verdicts, writesOfEach, List.map_cons, List.flatMap_cons, writesOf] at ih ⊢
    cases resolve layer name value with
    | error fault => exact ih
    | ok write => exact congrArg (write.toList ++ ·) ih

/-- One entry makes one write at most. -/
theorem eq_of_mem_writes {verdict : Verdict} {write other : Write} (h : write ∈ verdict.writes)
    (h' : other ∈ verdict.writes) : write = other := by
  cases verdict with
  | error fault => cases h
  | ok taken =>
    cases taken with
    | none => cases h
    | some taken => rw [List.mem_singleton.1 h, List.mem_singleton.1 h']

/-- **Names apart write to places apart**, if they are not two names of one option. -/
theorem place_ne_of_mem_writes {names : List String} (honce : Tunnel.Key.NamedOnce names)
    {name other : String} (hname : name ∈ names) (hother : other ∈ names) (hne : name ≠ other)
    {layer : Nat} {value otherValue : Value} {write later : Write}
    (h : write ∈ (resolve (layer + 1) name value).writes)
    (h' : later ∈ (resolve (layer + 1) other otherValue).writes) : write.place ≠ later.place := by
  obtain ⟨key, hkey, hplace⟩ := exists_key_of_mem_writes h
  obtain ⟨otherKey, hotherKey, hotherPlace⟩ := exists_key_of_mem_writes h'
  intro hsame
  have hkeys : key = otherKey :=
    OptionKey.place_inj (hplace.symm.trans (hsame.trans hotherPlace))
  exact hne (OptionKey.eq_of_ofName? honce hname hother hkey (hkeys ▸ hotherKey))

/-- **Entries can be written in any order** when no option is named twice. -/
theorem putAll_perm {entries others : List (String × Value)} (hperm : entries.Perm others)
    (hnodup : (Entries.keys entries).Nodup) (honce : Tunnel.Key.NamedOnce (Entries.keys entries))
    (layer : Nat) (tower : Tower) :
    tower.putAll (writesOfEach (layer + 1) entries)
      = tower.putAll (writesOfEach (layer + 1) others) := by
  refine List.Perm.foldl_eq' (hperm.flatMap_right _) (fun write h later h' between => ?_) tower
  obtain ⟨entry, hentry, hwrite⟩ := List.mem_flatMap.1 h
  obtain ⟨other, hother, hlater⟩ := List.mem_flatMap.1 h'
  by_cases hname : entry.1 = other.1
  · -- There is one entry under a name, and it makes one write at most.
    have hsame : entry = other := List.inj_on_of_nodup_map hnodup hentry hother hname
    subst hsame
    rw [eq_of_mem_writes hwrite hlater]
  · have hkey : entry.1 ∈ Entries.keys entries := List.mem_map_of_mem hentry
    have hotherKey : other.1 ∈ Entries.keys entries := List.mem_map_of_mem hother
    exact put_comm (place_ne_of_mem_writes honce hkey hotherKey hname hwrite hlater) between

end Tower

/-! ## Reports in another order

The argument is the same for the three lists of a report, so it is made for any list that is empty
in an empty report and is appended when reports are. -/

/-- A report that lists the same as another, each list in an order of its own. -/
structure Report.Rearranges (report other : Report) : Prop where
  applied : report.applied.Perm other.applied
  unrecognized : report.unrecognized.Perm other.unrecognized
  failed : report.failed.Perm other.failed

namespace Tower

theorem reportOf_bestEffort_cons (entry : String × Verdict) (verdicts : List (String × Verdict)) :
    reportOf .bestEffort (entry :: verdicts)
      = reportOf .bestEffort [entry] ++ reportOf .bestEffort verdicts := by
  obtain ⟨name, verdict⟩ := entry
  cases verdict with
  | error fault => rfl
  | ok write => cases write <;> rfl

/-- A list of a report that goes on after failures is put together from what each entry adds. -/
theorem list_reportOf_bestEffort {α : Type} (list : Report → List α) (hempty : list {} = [])
    (happend : ∀ first second, list (first ++ second) = list first ++ list second)
    (verdicts : List (String × Verdict)) :
    list (reportOf .bestEffort verdicts)
      = verdicts.flatMap fun entry => list (reportOf .bestEffort [entry]) := by
  induction verdicts with
  | nil => exact hempty
  | cons entry verdicts ih => rw [reportOf_bestEffort_cons, happend, ih, List.flatMap_cons]

/-- **Entries in another order are reported in another order.** -/
theorem rearranges_of_perm {verdicts others : List (String × Verdict)}
    (h : verdicts.Perm others) :
    (reportOf .bestEffort verdicts).Rearranges (reportOf .bestEffort others) := by
  have hlist {α : Type} (list : Report → List α) (hempty : list {} = [])
      (happend : ∀ first second, list (first ++ second) = list first ++ list second) :
      (list (reportOf .bestEffort verdicts)).Perm (list (reportOf .bestEffort others)) := by
    rw [list_reportOf_bestEffort list hempty happend, list_reportOf_bestEffort list hempty happend]
    exact h.flatMap_right _
  exact ⟨hlist Report.applied rfl fun _ _ => rfl, hlist Report.unrecognized rfl fun _ _ => rfl,
    hlist Report.failed rfl fun _ _ => rfl⟩

/-! ## Option maps

Coming to the same is a notion of two maps and a policy. It is shown for the policy that goes on,
and carried over to the other where no entry fails. -/

theorem resultOf_of_faultless {verdicts : List (String × Verdict)} (h : Faultless verdicts) :
    resultOf verdicts = .ok () := by
  induction verdicts with
  | nil => rfl
  | cons entry verdicts ih =>
    obtain ⟨name, verdict⟩ := entry
    obtain ⟨⟨write, hwrite⟩, hrest⟩ := List.forall_mem_cons.1 h
    cases hwrite
    exact ih hrest

theorem applyOptions_bestEffort_tower (layer : Nat) (options : OptionMap) (tower : Tower) :
    (applyOptions layer options .bestEffort tower).tower
      = tower.putAll (writesOfEach layer options.entries) := by
  rw [applyOptions_tower, writesOf_bestEffort]

/-- Without a failure an option map is written to its end. -/
theorem setOptions_outcome_of_faultless {layer : Nat} {options : OptionMap}
    (h : Faultless (verdicts layer options.entries)) (tower : Tower) :
    (setOptions layer options tower).outcome
      = (.ok (), (applyOptions layer options .bestEffort tower).tower) := by
  rw [setOptions_outcome, resultOf_of_faultless h, writesOf_of_faultless h, applyOptions_tower]

/-- Two option maps come to the same on a layer under a policy: they leave the same tower, and their
reports list the same. -/
structure WrittenAlike (policy : Policy) (layer : Nat) (tower : Tower)
    (options others : OptionMap) : Prop where
  written : (applyOptions layer options policy tower).tower
    = (applyOptions layer others policy tower).tower
  reported : (applyOptions layer options policy tower).answer.Rearranges
    (applyOptions layer others policy tower).answer

/-- Maps of the same entries come to the same when they are written to their ends. -/
theorem writtenAlike_of_perm {options others : OptionMap}
    (hperm : options.entries.Perm others.entries) (honce : Tunnel.Key.NamedOnce options.keys)
    (layer : Nat) (tower : Tower) :
    WrittenAlike .bestEffort (layer + 1) tower options others where
  written := by
    rw [applyOptions_bestEffort_tower, applyOptions_bestEffort_tower,
      putAll_perm hperm options.nodup honce]
  reported := by
    rw [applyOptions_answer, applyOptions_answer]
    exact rearranges_of_perm (hperm.map _)

/-- Without a failure it makes no difference which policy two maps are written under. -/
theorem WrittenAlike.failFast {layer : Nat} {tower : Tower} {options others : OptionMap}
    (h : WrittenAlike .bestEffort layer tower options others)
    (hoptions : Faultless (verdicts layer options.entries))
    (hothers : Faultless (verdicts layer others.entries)) :
    WrittenAlike .failFast layer tower options others := by
  obtain ⟨hreport, htower⟩ := Prod.mk.inj (@outcome_eq_of_faultless layer options tower hoptions)
  obtain ⟨hother, hotherTower⟩ := Prod.mk.inj (@outcome_eq_of_faultless layer others tower hothers)
  have hreported := h.reported
  rw [← hreport, ← hother] at hreported
  exact ⟨htower.trans (h.written.trans hotherTower.symm), hreported⟩

/-- **The order of entries does not matter when no option is named twice.** Two maps of the same
entries in different orders, written to their ends, leave the same tower, and their reports list the
same in different orders. When no entry fails this is so under the policy that would have stopped,
too, and without a report both maps are written to their ends. -/
theorem order_of_entries_irrelevant (layer : Nat) (tower : Tower) {options others : OptionMap}
    (hperm : options.entries.Perm others.entries) (honce : Tunnel.Key.NamedOnce options.keys) :
    let best := applyOptions (layer + 1) options .bestEffort tower
    WrittenAlike .bestEffort (layer + 1) tower options others
    ∧ (best.answer.failed = [] →
      WrittenAlike .failFast (layer + 1) tower options others
      ∧ (setOptions (layer + 1) options tower).outcome = (.ok (), best.tower)
      ∧ (setOptions (layer + 1) others tower).outcome = (.ok (), best.tower)) := by
  intro best
  have hbest := writtenAlike_of_perm hperm honce layer tower
  refine ⟨hbest, fun hfailed => ?_⟩
  have hoptions : Faultless (verdicts (layer + 1) options.entries) :=
    (failed_bestEffort_eq_nil_iff (layer + 1) options tower).1 hfailed
  have hothers : Faultless (verdicts (layer + 1) others.entries) := by
    refine (failed_bestEffort_eq_nil_iff (layer + 1) others tower).1 (List.perm_nil.1 ?_)
    exact hfailed ▸ hbest.reported.failed.symm
  refine ⟨hbest.failFast hoptions hothers, setOptions_outcome_of_faultless hoptions tower, ?_⟩
  rw [setOptions_outcome_of_faultless hothers tower, hbest.written]

/-- The same as `mixedOptions`, in another order. -/
def mixedOptionsShuffled : OptionMap where
  entries := [("keepAlive", .bool true), ("trafficClass", .int 256), ("serverPath", .text "/a"),
    ("other", .null), ("enableSslSessionCreation", .text "sometimes"), ("bogus", .int 1)]

/-- The same as `unrefusedOptions`, in another order. -/
def unrefusedOptionsShuffled : OptionMap where
  entries := [("bogus", .int 1), ("tcpNoDelay", .text "false"), ("serverPath", .text "/x")]

theorem order_of_entries_irrelevant_shuffled :
    mixedOptions.entries.Perm mixedOptionsShuffled.entries
    ∧ Tunnel.Key.NamedOnce mixedOptions.keys
    ∧ WrittenAlike .bestEffort 2 (new 2) mixedOptions mixedOptionsShuffled
    ∧ unrefusedOptions.entries.Perm unrefusedOptionsShuffled.entries
    ∧ Tunnel.Key.NamedOnce unrefusedOptions.keys
    ∧ (applyOptions 2 unrefusedOptions .bestEffort (new 2)).answer.failed = []
    ∧ WrittenAlike .failFast 2 (new 2) unrefusedOptions unrefusedOptionsShuffled
    ∧ (setOptions 2 unrefusedOptionsShuffled (new 2)).outcome
      = (.ok (), (applyOptions 2 unrefusedOptions .bestEffort (new 2)).tower) := by
  have hmixed : mixedOptions.entries.Perm mixedOptionsShuffled.entries := by decide
  have hunrefused : unrefusedOptions.entries.Perm unrefusedOptionsShuffled.entries := by decide
  have honce : Tunnel.Key.NamedOnce mixedOptions.keys := by decide
  have honce' : Tunnel.Key.NamedOnce unrefusedOptions.keys := by decide
  obtain ⟨hbest, -⟩ := order_of_entries_irrelevant 1 (new 2) hmixed honce
  obtain ⟨-, hfast⟩ := order_of_entries_irrelevant 1 (new 2) hunrefused honce'
  have hfailed : (applyOptions 2 unrefusedOptions .bestEffort (new 2)).answer.failed = [] := rfl
  obtain ⟨halike, -, hset⟩ := hfast hfailed
  exact ⟨hmixed, honce, hbest, hunrefused, honce', hfailed, halike, hset⟩

/-- An alias beside the canonical name is another matter: the later of the two counts. -/
example :
    (applyOptions 1 { entries := [("enableSslSessionCreation", .bool true),
      ("allowSessionCreation", .bool false)] } .bestEffort (new 1)).tower
    ≠ (applyOptions 1 { entries := [("allowSessionCreation", .bool false),
      ("enableSslSessionCreation", .bool true)] } .bestEffort (new 1)).tower := by
  decide

end Tower

end TunnelOptions
