import TunnelOptions.Proofs.OptionValues
import TunnelOptions.Proofs.Refusal

/-!
# Opening a tunnel from settings

A tunnel is opened in two phases. First the whole table is read as an option map, and nothing is
written when one of its values is no option value, whatever stands in front of it. Then the options
are written one by one to a new tunnel on top, in the order of the table, and what has been written
before one of them fails stays written.

The first phase is about values and the second about towers, and they meet in the option map only.
So the file has a part for each: what `Tower.withOptions` comes to is said in terms of the runs
`Tower.Leads` and `Tower.StopsAt`, in which entries are written by name one after the other, and
what the map holds is known from the option values of settings.

* `Tower.leads_or_stopsAt`: entries are all written, or stop at one that fails.
* `Tower.withOptions_of_leads`, `Tower.withOptions_of_stopsAt`: options on a new tunnel. Where they
  stop the new tunnel is gone, and the layers below it are left as they are by then.
* `Settings.optionMap_fails_iff`: the first phase fails when some value is no option value.
* `Settings.openTunnel_in_two_phases`: both phases.

What is compared is the answer of the call and the tower it leaves. Events are left aside, but that
there are none when the first phase fails.
-/

set_option autoImplicit false

namespace TunnelOptions

namespace Tower

/-! ## Options on a new tunnel

The call either returns what writing the options returns, or it fails and takes the new tunnel away.
Which of the two it is depends on the options alone. -/

theorem leads_or_stopsAt (layer : Nat) (entries : List (String × Value)) (tower : Tower) :
    (∃ last, Leads layer entries tower last)
    ∨ ∃ name fault reached, StopsAt layer entries tower name fault reached := by
  cases hanswer : (setEntries layer entries tower).answer with
  | ok _ => exact .inl ⟨_, setEntries_leads hanswer⟩
  | error fault =>
    obtain ⟨name, hstops⟩ := setEntries_stopsAt hanswer
    exact .inr ⟨name, fault, _, hstops⟩

/-- Options that do not fail are all written to the new tunnel. -/
theorem withOptions_of_leads {options : OptionMap} {tower last : Tower}
    (h : Leads (tower.depth + 1) options.entries tower.push last) :
    (withOptions options tower).outcome = (.ok (), last) := by
  have hset : (setOptions (tower.depth + 1) options tower.push).outcome = (.ok (), last) :=
    (setOptions_outcome_eq (tower.depth + 1) options tower.push).trans h.setEntries_outcome
  rcases withOptions_cases options tower with ⟨-, heq⟩ | ⟨first, top, hfails, -, -⟩
  · rw [heq]
    exact hset
  · have hok := (Prod.mk.inj hset).1
    rw [hfails] at hok
    exact nomatch hok

/-- When options stop at one that fails, the new tunnel is taken away from what they have led to. -/
theorem withOptions_of_stopsAt {options : OptionMap} {tower reached : Tower} {name : String}
    {fault : OptionFault}
    (h : StopsAt (tower.depth + 1) options.entries tower.push name fault reached) :
    (withOptions options tower).answer = .error fault
    ∧ ∃ top, reached = (withOptions options tower).tower.under top := by
  have hset : (setOptions (tower.depth + 1) options tower.push).outcome = (.error fault, reached) :=
    (setOptions_outcome_eq (tower.depth + 1) options tower.push).trans h.setEntries_outcome
  obtain ⟨hanswer, htower⟩ := Prod.mk.inj hset
  rcases withOptions_cases options tower with ⟨hok, -⟩ | ⟨first, top, hfails, hsame, htop⟩
  · rw [hok] at hanswer
    exact nomatch hanswer
  · rw [hfails] at hanswer
    cases hanswer
    exact ⟨hsame, top, htower.symm.trans htop⟩

end Tower

namespace Settings

/-! ## The two phases

When the map cannot be made the tower is not touched and nothing is said. Otherwise the call is that
of the options on a new tunnel. -/

theorem openTunnel_of_error {settings : Settings} {fault : OptionFault}
    (h : settings.optionMap = .error fault) (tower : Tower) :
    openTunnel settings tower = ⟨.error (.option fault), tower, []⟩ := by
  rw [openTunnel, h]

theorem openTunnel_outcome_of_ok {settings : Settings} {options : OptionMap}
    (h : settings.optionMap = .ok options) (tower : Tower) :
    (openTunnel settings tower).outcome
      = ((tower.withOptions options).answer.mapError .option,
        (tower.withOptions options).tower) := by
  rw [openTunnel, h]
  rfl

theorem optionMap_fails_iff {settings : Settings} :
    (∃ fault, settings.optionMap = .error fault) ↔ ∃ entry ∈ settings.options, ¬ entry.2.Plain := by
  constructor
  · rintro ⟨fault, h⟩
    obtain ⟨key, reason, -, before, value, after, hsplit, -, hrefuses⟩ :=
      optionMap_eq_error_iff.1 h
    refine ⟨(key, value), ?_, hrefuses.not_plain⟩
    rw [hsplit]
    exact List.mem_append_right before List.mem_cons_self
  · rintro ⟨entry, hmem, hentry⟩
    rcases plain_or_firstRefused settings.options with hplain | ⟨key, reason, hfirst⟩
    · exact absurd (hplain entry hmem) hentry
    · exact ⟨_, optionMap_eq_error_iff.2 ⟨key, reason, rfl, hfirst⟩⟩

/-- **A tunnel is opened in two phases.** When some value of the table is no option value, the first
of them is the fault and the tower stays as it is. Otherwise the option map has the keys of the
table in their order with the values they stand for, and the tower is what writing these by name to
a new tunnel leads to: with the tunnel when none of them fails, and else, with the fault of the
first that does, the layers below it as they are by then. -/
theorem openTunnel_in_two_phases (settings : Settings) (tower : Tower)
    (hkeys : (Entries.keys settings.options).Nodup) :
    ((∃ fault, settings.optionMap = .error fault) ↔ ∃ entry ∈ settings.options, ¬ entry.2.Plain)
    ∧ (∀ fault, settings.optionMap = .error fault →
      (∃ key reason, fault = .invalid key reason ∧ FirstRefused settings.options key reason)
      ∧ openTunnel settings tower = ⟨.error (.option fault), tower, []⟩)
    ∧ (∀ options, settings.optionMap = .ok options →
      List.Forall₂ ConvertsEntry settings.options options.entries
      ∧ ((∃ last, Tower.Leads (tower.depth + 1) options.entries tower.push last)
        ∨ ∃ name fault reached,
          Tower.StopsAt (tower.depth + 1) options.entries tower.push name fault reached)
      ∧ (∀ last, Tower.Leads (tower.depth + 1) options.entries tower.push last →
        (openTunnel settings tower).outcome = (.ok (), last))
      ∧ (∀ name fault reached,
        Tower.StopsAt (tower.depth + 1) options.entries tower.push name fault reached →
        (openTunnel settings tower).answer = .error (.option fault)
        ∧ ∃ top, reached = (openTunnel settings tower).tower.under top)) := by
  refine ⟨optionMap_fails_iff, fun fault h => ?_, fun options h => ?_⟩
  · exact ⟨optionMap_eq_error_iff.1 h, openTunnel_of_error h tower⟩
  · have houtcome := openTunnel_outcome_of_ok h tower
    obtain ⟨hanswer, htower⟩ := Prod.mk.inj houtcome
    refine ⟨forall₂_optionMap hkeys h, Tower.leads_or_stopsAt _ _ _, fun last hleads => ?_,
      fun name fault reached hstops => ?_⟩
    · obtain ⟨hok, hlast⟩ := Prod.mk.inj (Tower.withOptions_of_leads hleads)
      rw [houtcome, hok, hlast]
      rfl
    · obtain ⟨hfails, top, htop⟩ := Tower.withOptions_of_stopsAt hstops
      rw [hfails] at hanswer
      exact ⟨hanswer, top, by rw [htop, htower]⟩

/-- Settings with an array of mixed items behind an option that could be written. -/
def mixedArray : Settings where
  options :=
    [("keepAlive", .boolean true), ("enabledSslProtocols", .array [.string "TLSv1.3", .integer 2]),
      ("soLinger", .datetime (.date ⟨2024, 2, 29⟩))]

/-- Settings whose third option is refused when it is written. -/
def refusedThird : Settings where
  options :=
    [("receiveBufferSize", .integer 4096), ("bogus", .array [.string "x"]),
      ("trafficClass", .string "256"), ("keepAlive", .boolean true)]

/-- The options of `refusedThird`. -/
def refusedThirdOptions : OptionMap where
  entries := [("receiveBufferSize", .int 4096), ("bogus", .texts ["x"]),
    ("trafficClass", .text "256"), ("keepAlive", .bool true)]

/-- What they lead to on a new tunnel over another one. -/
def beforeThird : Tower where
  socket := { receiveBufferSize := 4096 }
  tunnels := [{}, {}]

/-- Settings with an option that nobody knows and one that is written. -/
def unrefused : Settings where
  options := [("bogus", .boolean true), ("serverName", .string "h")]

/-- The options of `unrefused`. -/
def unrefusedOptions : OptionMap where
  entries := [("bogus", .bool true), ("serverName", .text "h")]

/-- An array of mixed items behind an option that could be written, a third option that is refused
when it is written, and options of which none fails. -/
theorem openTunnel_in_two_phases_refused :
    (Entries.keys mixedArray.options).Nodup ∧ (Entries.keys refusedThird.options).Nodup
    ∧ (Entries.keys unrefused.options).Nodup
    ∧ (∃ entry ∈ mixedArray.options, ¬ entry.2.Plain)
    ∧ openTunnel mixedArray (Tower.new 1)
      = ⟨.error (.option (.invalid "enabledSslProtocols" (.noStringItem .integer))),
        Tower.new 1, []⟩
    ∧ refusedThird.optionMap = .ok refusedThirdOptions
    ∧ List.Forall₂ ConvertsEntry refusedThird.options refusedThirdOptions.entries
    ∧ Tower.StopsAt 2 refusedThirdOptions.entries (Tower.new 1).push "trafficClass"
      (.invalid "trafficClass" (.noByte 256)) beforeThird
    ∧ (openTunnel refusedThird (Tower.new 1)).answer
      = .error (.option (.invalid "trafficClass" (.noByte 256)))
    ∧ (∃ top, beforeThird = (openTunnel refusedThird (Tower.new 1)).tower.under top)
    ∧ Tower.Leads 1 unrefusedOptions.entries (Tower.new 0).push
      { tunnels := [{ serverName := some "h" }] }
    ∧ (openTunnel unrefused (Tower.new 0)).outcome
      = (.ok (), { tunnels := [{ serverName := some "h" }] }) := by
  have hmixed : (Entries.keys mixedArray.options).Nodup := by decide
  have hrefused : (Entries.keys refusedThird.options).Nodup := by decide
  obtain ⟨hfails, hkept, -⟩ := openTunnel_in_two_phases mixedArray (Tower.new 1) hmixed
  obtain ⟨-, -, hwritten⟩ := openTunnel_in_two_phases refusedThird (Tower.new 1) hrefused
  have hunrefused : (Entries.keys unrefused.options).Nodup := by decide
  obtain ⟨-, -, hall⟩ := openTunnel_in_two_phases unrefused (Tower.new 0) hunrefused
  have hfault : mixedArray.optionMap
      = .error (.invalid "enabledSslProtocols" (.noStringItem .integer)) := rfl
  have hoptions : refusedThird.optionMap = .ok refusedThirdOptions := rfl
  have hgood : unrefused.optionMap = .ok unrefusedOptions := rfl
  have hleads : Tower.Leads 2 (refusedThirdOptions.entries.take 2) (Tower.new 1).push beforeThird :=
    @Tower.Leads.cons 2 _ _ _ _ _ true rfl (@Tower.Leads.cons 2 _ _ _ _ _ false rfl (.nil _))
  have hstops : Tower.StopsAt 2 refusedThirdOptions.entries (Tower.new 1).push "trafficClass"
      (.invalid "trafficClass" (.noByte 256)) beforeThird :=
    ⟨_, .text "256", [("keepAlive", .bool true)], rfl, hleads, rfl⟩
  obtain ⟨hconverts, -, -, hreached⟩ := hwritten _ hoptions
  obtain ⟨hanswer, htop⟩ := hreached _ _ _ hstops
  have hlast : Tower.Leads 1 unrefusedOptions.entries (Tower.new 0).push
      { tunnels := [{ serverName := some "h" }] } :=
    @Tower.Leads.cons 1 _ _ _ _ _ false rfl (@Tower.Leads.cons 1 _ _ _ _ _ true rfl (.nil _))
  exact ⟨hmixed, hrefused, hunrefused, hfails.1 ⟨_, hfault⟩, (hkept _ hfault).2, hoptions,
    hconverts, hstops, hanswer, htop, hlast, (hall _ hgood).2.2.1 _ hlast⟩

end Settings

end TunnelOptions
