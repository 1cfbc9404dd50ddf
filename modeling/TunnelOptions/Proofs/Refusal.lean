import TunnelOptions.Proofs.Nesting

/-!
# A refused write changes nothing

A write that is refused leaves the whole tower as it was. When writing an option map stops at an
entry that fails, the tower is the one that the entries in front of it lead to.

What the entries in front lead to is said by a relation and not by the functions that write option
maps: `Leads` puts the writes by name one behind the other, and `StopsAt` splits the entries at the
first that fails. So the statement can be read without knowing how a map is written, and it is the
same for every way of writing one. There are three: the socket's loop, the tunnel's report, and the
making of a tunnel with options. Each of them is shown to stop where `StopsAt` says, the first by
induction on the entries and the others by going back to it.

That a single refused write changes nothing needs no relation. It is made of no writes, and a tower
after no writes is the tower.

* `Tower.Leads`: entries written one after the other, none of which fails.
* `Tower.StopsAt`: entries of which one is the first to fail.
* `Tower.setOption_tower_of_ne`: a write by name that is not taken.
* `Tower.Leads.setEntries_outcome`, `Tower.StopsAt.setEntries_outcome`: what becomes of entries.
* `Tower.setEntries_stopsAt`, `Tower.applyEntries_stopsAt`: where option maps stop.
* `Tower.refused_writes_change_nothing`: all of it, for every way of writing.
-/

set_option autoImplicit false

namespace TunnelOptions.Tower

/-! ## One write -/

/-- A write by name that fails, or is not recognized, writes nothing. -/
theorem setOption_tower_of_ne {layer : Nat} {name : String} {value : Value} {tower : Tower}
    (h : (setOption layer name value tower).answer ≠ .ok true) :
    (setOption layer name value tower).tower = tower := by
  rw [setOption_answer] at h
  rw [setOption_tower]
  cases hv : resolve layer name value with
  | error fault => rfl
  | ok write =>
    cases write with
    | none => rfl
    | some write => exact absurd (by rw [hv]; rfl) h

/-- A typed socket write that is refused writes nothing, from whatever layer it comes. -/
theorem writeSocket_tower_of_error {layer : Nat} {write : Socket.Write} {tower : Tower}
    {fault : OptionFault}
    (h : (perform layer (.writeSocket write) tower).answer = .written (.error fault)) :
    (perform layer (.writeSocket write) tower).tower = tower := by
  rw [perform] at h ⊢
  cases hw : tower.writeSocket layer write with
  | error _ => rfl
  | ok after => simp [hw] at h

/-! ## Entries up to the first that fails

An entry that nobody knows does not fail. So `Leads` asks of each entry only that it has an answer,
and not which. -/

/-- Entries written by name on a layer one after the other, none of which fails, lead from one
tower to another. -/
inductive Leads (layer : Nat) : List (String × Value) → Tower → Tower → Prop where
  | nil (tower : Tower) : Leads layer [] tower tower
  | cons {name : String} {value : Value} {entries : List (String × Value)} {tower last : Tower}
      {recognized : Bool} (first : (setOption layer name value tower).answer = .ok recognized)
      (rest : Leads layer entries (setOption layer name value tower).tower last) :
      Leads layer ((name, value) :: entries) tower last

/-- Of entries written by name on a layer one after the other, the first to fail is one under
`name`, and the tower that the entries in front of it lead to is `reached`. -/
def StopsAt (layer : Nat) (entries : List (String × Value)) (tower : Tower) (name : String)
    (fault : OptionFault) (reached : Tower) : Prop :=
  ∃ before value after, entries = before ++ (name, value) :: after
    ∧ Leads layer before tower reached
    ∧ (setOption layer name value reached).answer = .error fault

theorem stopsAt_of_error {layer : Nat} {name : String} {value : Value} {tower : Tower}
    {fault : OptionFault} (h : (setOption layer name value tower).answer = .error fault)
    (entries : List (String × Value)) :
    StopsAt layer ((name, value) :: entries) tower name fault
      (setOption layer name value tower).tower := by
  have hkept : (setOption layer name value tower).tower = tower :=
    setOption_tower_of_ne (by rw [h]; exact fun h => nomatch h)
  rw [hkept]
  exact ⟨[], value, entries, rfl, .nil tower, h⟩

theorem StopsAt.cons {layer : Nat} {name other : String} {value : Value}
    {entries : List (String × Value)} {tower reached : Tower} {fault : OptionFault}
    {recognized : Bool} (first : (setOption layer name value tower).answer = .ok recognized)
    (h : StopsAt layer entries (setOption layer name value tower).tower other fault reached) :
    StopsAt layer ((name, value) :: entries) tower other fault reached := by
  obtain ⟨before, failing, after, hentries, hleads, hfails⟩ := h
  refine ⟨(name, value) :: before, failing, after, ?_, .cons first hleads, hfails⟩
  rw [hentries, List.cons_append]

/-- Writing entries stops at the first that fails. -/
theorem setEntries_stopsAt {layer : Nat} {entries : List (String × Value)} {tower : Tower}
    {fault : OptionFault} (h : (setEntries layer entries tower).answer = .error fault) :
    ∃ name, StopsAt layer entries tower name fault (setEntries layer entries tower).tower := by
  induction entries generalizing tower with
  | nil => exact nomatch h
  | cons entry entries ih =>
    obtain ⟨name, value⟩ := entry
    rw [setEntries] at h ⊢
    cases hfirst : (setOption layer name value tower).answer with
    | error first =>
      simp only [hfirst] at h ⊢
      cases h
      exact ⟨name, stopsAt_of_error hfirst entries⟩
    | ok recognized =>
      simp only [hfirst] at h ⊢
      obtain ⟨other, hstops⟩ := ih h
      exact ⟨other, hstops.cons hfirst⟩

/-- Entries that do not fail are all written. -/
theorem Leads.setEntries_outcome {layer : Nat} {entries : List (String × Value)}
    {tower last : Tower} (h : Leads layer entries tower last) :
    (setEntries layer entries tower).outcome = (.ok (), last) := by
  induction h with
  | nil tower => rfl
  | cons first rest ih =>
    rw [setEntries]
    simp only [first]
    exact ih

theorem setEntries_leads {layer : Nat} {entries : List (String × Value)} {tower : Tower}
    (h : (setEntries layer entries tower).answer = .ok ()) :
    Leads layer entries tower (setEntries layer entries tower).tower := by
  induction entries generalizing tower with
  | nil => exact .nil tower
  | cons entry entries ih =>
    obtain ⟨name, value⟩ := entry
    rw [setEntries] at h ⊢
    cases hfirst : (setOption layer name value tower).answer with
    | error fault =>
      simp only [hfirst] at h
      cases h
    | ok recognized =>
      simp only [hfirst] at h ⊢
      exact .cons hfirst (ih h)

/-- Entries of which one fails are written up to there. -/
theorem StopsAt.setEntries_outcome {layer : Nat} {entries : List (String × Value)}
    {tower reached : Tower} {name : String} {fault : OptionFault}
    (h : StopsAt layer entries tower name fault reached) :
    (setEntries layer entries tower).outcome = (.error fault, reached) := by
  obtain ⟨before, value, after, rfl, hleads, hfails⟩ := h
  induction hleads with
  | nil tower =>
    have hkept : (setOption layer name value tower).tower = tower :=
      setOption_tower_of_ne (by rw [hfails]; exact fun h => nomatch h)
    rw [List.nil_append, setEntries]
    simp only [hfails]
    rw [hkept]
    rfl
  | cons first rest ih =>
    rw [List.cons_append, setEntries]
    simp only [first]
    exact ih hfails

/-- A bulk write that is to stop at a failure has no more than one, and stops there. -/
theorem applyEntries_stopsAt {layer : Nat} {entries : List (String × Value)} {tower : Tower}
    (h : (applyEntries layer .failFast entries tower).answer.failed ≠ []) :
    ∃ name fault, (applyEntries layer .failFast entries tower).answer.failed = [(name, fault)]
      ∧ StopsAt layer entries tower name fault
        (applyEntries layer .failFast entries tower).tower := by
  induction entries generalizing tower with
  | nil => exact absurd rfl h
  | cons entry entries ih =>
    obtain ⟨name, value⟩ := entry
    cases hfirst : (setOption layer name value tower).answer with
    | error fault =>
      simp only [applyEntries, hfirst]
      exact ⟨name, fault, rfl, stopsAt_of_error hfirst entries⟩
    | ok recognized =>
      cases recognized <;> (
        simp only [applyEntries, hfirst] at h ⊢
        obtain ⟨other, fault, hfailed, hstops⟩ := ih h
        exact ⟨other, fault, hfailed, hstops.cons hfirst⟩)

/-! ## Option maps

For a new tunnel the tower that is reached has that tunnel on top, and the one that is left does
not; the statement says so with the tunnel as an unknown. -/

/-- Tunnels write an option map as the socket does. -/
theorem setOptions_outcome_eq (layer : Nat) (options : OptionMap) (tower : Tower) :
    (setOptions layer options tower).outcome
      = (setEntries layer options.entries tower).outcome := by
  rw [setOptions_outcome, setEntries_outcome]

theorem setOptions_stopsAt {layer : Nat} {options : OptionMap} {tower : Tower}
    {fault : OptionFault} (h : (setOptions layer options tower).answer = .error fault) :
    ∃ name, StopsAt layer options.entries tower name fault
      (setOptions layer options tower).tower := by
  obtain ⟨hanswer, htower⟩ := Prod.mk.inj (setOptions_outcome_eq layer options tower)
  rw [htower]
  exact setEntries_stopsAt (hanswer ▸ h)

/-- A new tunnel whose options fail leaves the layers below it as they were when it failed. -/
theorem withOptions_stopsAt {options : OptionMap} {tower : Tower} {fault : OptionFault}
    (h : (withOptions options tower).answer = .error fault) :
    ∃ name top, StopsAt (tower.depth + 1) options.entries tower.push name fault
      ((withOptions options tower).tower.under top) := by
  rcases withOptions_cases options tower with ⟨hok, heq⟩ | ⟨first, top, hfails, hanswer, htop⟩
  · rw [heq, hok] at h
    exact nomatch h
  · rw [hanswer] at h
    cases h
    obtain ⟨name, hstops⟩ := setOptions_stopsAt hfails
    exact ⟨name, top, htop ▸ hstops⟩

/-! ## Every way of writing -/

/-- **A refused write changes nothing.** A write by name that fails or is not recognized, and a
typed socket write that is refused, leave the tower as it was. An option map that stops at an entry
leaves it as the entries in front of that one do, and a new tunnel that cannot be made of its
options leaves the layers below it so. -/
theorem refused_writes_change_nothing (tower : Tower) (layer : Nat) :
    (∀ name value, (setOption layer name value tower).answer ≠ .ok true →
      (setOption layer name value tower).tower = tower)
    ∧ (∀ write fault, (perform layer (.writeSocket write) tower).answer = .written (.error fault) →
      (perform layer (.writeSocket write) tower).tower = tower)
    ∧ (∀ options fault, (setOptions layer options tower).answer = .error fault →
      ∃ name, StopsAt layer options.entries tower name fault
        (setOptions layer options tower).tower)
    ∧ (∀ options, (applyOptions layer options .failFast tower).answer.failed ≠ [] →
      ∃ name fault, (applyOptions layer options .failFast tower).answer.failed = [(name, fault)]
        ∧ StopsAt layer options.entries tower name fault
          (applyOptions layer options .failFast tower).tower)
    ∧ (∀ options fault, (withOptions options tower).answer = .error fault →
      ∃ name top, StopsAt (tower.depth + 1) options.entries tower.push name fault
        ((withOptions options tower).tower.under top)) := by
  refine ⟨fun name value h => setOption_tower_of_ne h,
    fun write fault h => writeSocket_tower_of_error h,
    fun options fault h => setOptions_stopsAt h, fun options h => ?_,
    fun options fault h => withOptions_stopsAt h⟩
  exact applyEntries_stopsAt h

/-- Options of which the second is refused. -/
def refusedSecond : OptionMap where
  entries := [("serverName", .text "h"), ("trafficClass", .int 256), ("keepAlive", .bool true)]

theorem refused_writes_change_nothing_behind_one :
    (setOption 2 "trafficClass" (.int 256) (new 2)).answer ≠ .ok true
    ∧ (setOption 2 "trafficClass" (.int 256) (new 2)).tower = new 2
    ∧ (perform 2 (.writeSocket (.trafficClass 256)) (new 2)).answer
      = .written (.error (.invalid "trafficClass" (.noByte 256)))
    ∧ (perform 2 (.writeSocket (.trafficClass 256)) (new 2)).tower = new 2
    ∧ (setOptions 2 refusedSecond (new 2)).answer
      = .error (.invalid "trafficClass" (.noByte 256))
    ∧ (∃ name, StopsAt 2 refusedSecond.entries (new 2) name
      (.invalid "trafficClass" (.noByte 256)) (setOptions 2 refusedSecond (new 2)).tower)
    ∧ (applyOptions 2 refusedSecond .failFast (new 2)).answer.failed ≠ []
    ∧ (∃ name fault, (applyOptions 2 refusedSecond .failFast (new 2)).answer.failed
        = [(name, fault)]
      ∧ StopsAt 2 refusedSecond.entries (new 2) name fault
        (applyOptions 2 refusedSecond .failFast (new 2)).tower)
    ∧ (withOptions refusedSecond (new 2)).answer = .error (.invalid "trafficClass" (.noByte 256))
    ∧ ∃ name top, StopsAt 3 refusedSecond.entries (new 2).push name
      (.invalid "trafficClass" (.noByte 256))
      ((withOptions refusedSecond (new 2)).tower.under top) := by
  obtain ⟨hkeyed, htyped, hset, happly, hnew⟩ := refused_writes_change_nothing (new 2) 2
  have hrefused : (setOption 2 "trafficClass" (.int 256) (new 2)).answer ≠ .ok true := by
    have hanswer : (setOption 2 "trafficClass" (.int 256) (new 2)).answer
        = .error (.invalid "trafficClass" (.noByte 256)) := rfl
    rw [hanswer]
    exact fun h => nomatch h
  have hfailed : (applyOptions 2 refusedSecond .failFast (new 2)).answer.failed ≠ [] := by
    have hreport : (applyOptions 2 refusedSecond .failFast (new 2)).answer.failed
        = [("trafficClass", .invalid "trafficClass" (.noByte 256))] := rfl
    rw [hreport]
    exact List.cons_ne_nil _ _
  exact ⟨hrefused, hkeyed _ _ hrefused, rfl, htyped _ _ rfl, rfl, hset _ _ rfl, hfailed,
    happly _ hfailed, rfl, hnew _ _ rfl⟩

end TunnelOptions.Tower
