import TunnelOptions.Proofs.Routing

/-!
# What is said depends on names and outcomes

A log must not give away the values of options, nor what a tower holds. Events carry no values, but
which events there are, and how many, could still tell of them. It does not: what a call says can be
told from the names it is given, the layer it is asked of and what becomes of each name. Two runs
that agree in these say the same, whatever values they carry and whatever towers they start from.

To state that, what is said has to be made a function of nothing else. A name has one of three
fates, which are the answers to a write by name without the fault. A call without its values is a
form. What a call says is then computed from its form, its layer and the fates, by functions that
have no value and no tower among their arguments, and the theorems say that this is what the call
said.

The fates of a bulk write are those of the entries that it came to. They are taken from the calls as
they were made, one after the other, so that the statement does not presume what it says of towers;
`attempts` is the list of these calls.

* `Fate`: what becomes of a name.
* `Tower.saidOf`, `Tower.setOption_events`: what one write by name says.
* `Tower.attempts`: the writes by name that a bulk write is made of, as far as it comes to them.
* `Tower.applyOptions_events`: what a bulk write says.
* `Call.form`, `Call.fates`: a call without its values, and what becomes of its names.
* `Tower.perform_events`: what a call says, by these two.
* `Tower.said_by_names_and_fates`: all of it, up to runs of calls.
-/

set_option autoImplicit false

namespace TunnelOptions

/-! ## One write by name

There is one layer that takes a value, and each layer above it says that it was taken below. A name
that is not known is passed up, and each tunnel on the way says so. -/

/-- What becomes of a name that is written a value. Which value it was, and why it failed if it did,
is not told. -/
inductive Fate where
  | recognized
  | unrecognized
  | failed
  deriving DecidableEq, Repr

/-- What an answer says of a name. It is not told which fault there is. -/
def Fate.of : Except OptionFault Bool → Fate
  | .ok true => .recognized
  | .ok false => .unrecognized
  | .error _ => .failed

namespace Tower

/-- What a write by name on a layer says. The layer that takes the value says so, and then each
layer above it that it was handled below; a name that is not known is said to be so by each tunnel,
the lowest first; and nothing is said of a failure. -/
def saidOf (layer : Nat) (name : String) : Fate → List Event
  | .failed => []
  | .unrecognized => List.replicate layer (.unrecognized name)
  | .recognized =>
    match Socket.Key.ofName? name, Tunnel.Key.ofName? name with
    | some _, _ => .socketApplied name :: List.replicate layer (.handledBelow name)
    | none, some key =>
      .tunnelApplied name key :: List.replicate (layer - 1) (.handledBelow name)
    | none, none => []

/-- **A write by name says what becomes of the name**, and nothing of the value or the tower. -/
theorem setOption_events (layer : Nat) (name : String) (value : Value) (tower : Tower) :
    (setOption layer name value tower).events
      = saidOf layer name (.of (setOption layer name value tower).answer) := by
  cases hs : Socket.Key.ofName? name with
  | some key =>
    rw [setOption_of_socketKey hs]
    cases key.read value >>= Socket.Write.checked with
    | error fault => rfl
    | ok write => simp [Fate.of, saidOf, hs]
  | none =>
    cases ht : Tunnel.Key.ofName? name with
    | none =>
      rw [setOption_of_unknown hs ht]
      rfl
    | some key =>
      cases layer with
      | zero =>
        rw [setOption_zero_of_none hs]
        rfl
      | succ layer =>
        rw [setOption_of_tunnelKey hs ht]
        cases key.read value with
        | error fault => rfl
        | ok write => simp [Fate.of, saidOf, hs, ht]

/-! ## Option maps

The recursion over the entries is the same for the report and for the plain loop, so both are shown
to say what the attempts say. A summary counts the keys of a report, and these are as many as the
fates of each kind. -/

/-- The writes by name that entries are made of, one after the other. None follows one that fails if
the policy is to stop there. -/
def attempts (layer : Nat) (policy : Policy) :
    List (String × Value) → Tower → List (Step (Except OptionFault Bool))
  | [], _ => []
  | (name, value) :: entries, tower =>
    let first := setOption layer name value tower
    first :: if Fate.of first.answer = .failed ∧ policy = .failFast then []
      else attempts layer policy entries first.tower

/-- What becomes of the names of entries, as far as it comes to them. -/
def fatesOf (layer : Nat) (policy : Policy) (entries : List (String × Value)) (tower : Tower) :
    List Fate :=
  (attempts layer policy entries tower).map fun step => .of step.answer

/-- What writing names one after the other says, as far as something becomes of them. -/
def saidOfAll (layer : Nat) (names : List String) (fates : List Fate) : List Event :=
  (names.zip fates).flatMap fun (name, fate) => saidOf layer name fate

theorem attempts_events (layer : Nat) (policy : Policy) (entries : List (String × Value))
    (tower : Tower) :
    (attempts layer policy entries tower).flatMap Step.events
      = saidOfAll layer (Entries.keys entries) (fatesOf layer policy entries tower) := by
  induction entries generalizing tower with
  | nil => rfl
  | cons entry entries ih =>
    obtain ⟨name, value⟩ := entry
    have hrest := ih (setOption layer name value tower).tower
    have hfirst := setOption_events layer name value tower
    simp only [attempts, fatesOf, saidOfAll, Entries.keys, List.map_cons, List.zip_cons_cons,
      List.flatMap_cons, hfirst, List.append_cancel_left_eq]
    split
    · simp
    · exact hrest

/-- **A bulk write says what its entries say**, in their order. -/
theorem applyEntries_events (layer : Nat) (policy : Policy) (entries : List (String × Value))
    (tower : Tower) :
    (applyEntries layer policy entries tower).events
      = (attempts layer policy entries tower).flatMap Step.events := by
  induction entries generalizing tower with
  | nil => rfl
  | cons entry entries ih =>
    obtain ⟨name, value⟩ := entry
    have hrest := ih (setOption layer name value tower).tower
    cases hanswer : (setOption layer name value tower).answer with
    | error fault => cases policy <;> simp [applyEntries, attempts, hanswer, hrest, Fate.of]
    | ok recognized => cases recognized <;> simp [applyEntries, attempts, hanswer, hrest, Fate.of]

theorem setEntries_events (layer : Nat) (entries : List (String × Value)) (tower : Tower) :
    (setEntries layer entries tower).events
      = (attempts layer .failFast entries tower).flatMap Step.events := by
  induction entries generalizing tower with
  | nil => rfl
  | cons entry entries ih =>
    obtain ⟨name, value⟩ := entry
    have hrest := ih (setOption layer name value tower).tower
    cases hanswer : (setOption layer name value tower).answer with
    | error fault => simp [setEntries, attempts, hanswer, Fate.of]
    | ok recognized => cases recognized <;> simp [setEntries, attempts, hanswer, hrest, Fate.of]

/-- The summary of a bulk write, by what became of its names. -/
def summaryOf (fates : List Fate) (policy : Policy) : Event :=
  .bulkApplied (fates.count .recognized) (fates.count .unrecognized) (fates.count .failed) policy

theorem summary_applyEntries (layer : Nat) (policy : Policy) (entries : List (String × Value))
    (tower : Tower) :
    (applyEntries layer policy entries tower).answer.summary policy
      = summaryOf (fatesOf layer policy entries tower) policy := by
  induction entries generalizing tower with
  | nil => rfl
  | cons entry entries ih =>
    obtain ⟨name, value⟩ := entry
    have hrest := ih (setOption layer name value tower).tower
    simp only [Report.summary, summaryOf, fatesOf, Event.bulkApplied.injEq, and_true] at hrest ⊢
    cases hanswer : (setOption layer name value tower).answer with
    | error fault =>
      cases policy <;> simp [applyEntries, attempts, hanswer, hrest, Fate.of, Report.consFailed]
    | ok recognized =>
      cases recognized <;>
        simp [applyEntries, attempts, hanswer, hrest, Fate.of, Report.consApplied,
          Report.consUnrecognized]

theorem applyOptions_events (layer : Nat) (options : OptionMap) (policy : Policy) (tower : Tower) :
    (applyOptions layer options policy tower).events
      = (attempts layer policy options.entries tower).flatMap Step.events
        ++ [(applyOptions layer options policy tower).answer.summary policy] := by
  rw [← applyEntries_events]
  rfl

end Tower

/-! ## Calls

A typed write says nothing, and has neither names nor fates. -/

/-- A call without the values it carries: its kind, its names in their order, and its policy. -/
inductive CallForm where
  /-- A typed write, of whatever attribute. -/
  | typed
  | setOption (name : String)
  | setOptions (names : List String)
  | applyOptions (names : List String) (policy : Policy)
  deriving DecidableEq

/-- What is left of a call without the values it carries. -/
def Call.form : Call → CallForm
  | .writeSocket _ | .writeTunnel _ => .typed
  | .setOption name _ => .setOption name
  | .setOptions options => .setOptions options.keys
  | .applyOptions options policy => .applyOptions options.keys policy

/-- What becomes of the names of a call on a layer, as far as it comes to them. -/
def Call.fates (layer : Nat) (tower : Tower) : Call → List Fate
  | .writeSocket _ | .writeTunnel _ => []
  | .setOption name value => [.of (Tower.setOption layer name value tower).answer]
  | .setOptions options => Tower.fatesOf layer .failFast options.entries tower
  | .applyOptions options policy => Tower.fatesOf layer policy options.entries tower

/-- What a call of some form says on a layer. A tunnel ends a bulk write with a summary; the socket
does not. -/
def CallForm.said (layer : Nat) (fates : List Fate) : CallForm → List Event
  | .typed => []
  | .setOption name => Tower.saidOfAll layer [name] fates
  | .setOptions names =>
    Tower.saidOfAll layer names fates
      ++ if layer = 0 then [] else [Tower.summaryOf fates .failFast]
  | .applyOptions names policy =>
    Tower.saidOfAll layer names fates ++ [Tower.summaryOf fates policy]

namespace Tower

theorem perform_writeSocket_events (layer : Nat) (write : Socket.Write) (tower : Tower) :
    (perform layer (.writeSocket write) tower).events = [] := by
  rw [perform]
  cases tower.writeSocket layer write <;> rfl

/-- **What a call says can be told from its form and what becomes of its names.** -/
theorem perform_events (layer : Nat) (call : Call) (tower : Tower) :
    (perform layer call tower).events = call.form.said layer (call.fates layer tower) := by
  have happly (options : OptionMap) (policy : Policy) :
      (applyOptions layer options policy tower).events
        = saidOfAll layer options.keys (fatesOf layer policy options.entries tower)
          ++ [summaryOf (fatesOf layer policy options.entries tower) policy] := by
    rw [applyOptions_events, attempts_events, ← summary_applyEntries]
    rfl
  cases call with
  | writeSocket write => exact perform_writeSocket_events layer write tower
  | writeTunnel write => rfl
  | setOption name value =>
    have hone : saidOfAll layer [name] [.of (setOption layer name value tower).answer]
        = saidOf layer name (.of (setOption layer name value tower).answer) := List.append_nil _
    exact (setOption_events layer name value tower).trans hone.symm
  | setOptions options =>
    cases layer with
    | zero =>
      have hloop := (setEntries_events 0 options.entries tower).trans
        (attempts_events 0 .failFast options.entries tower)
      exact hloop.trans (List.append_nil _).symm
    | succ layer => exact happly options .failFast
  | applyOptions options policy => exact happly options policy

/-! ## Runs

The fates of the calls of a run are taken where the run has got to, so the induction is over runs
from any tower. -/

/-- The layers and forms of the calls of a run. -/
def formsOfRun (calls : List (Nat × Call)) : List (Nat × CallForm) :=
  calls.map fun (layer, call) => (layer, call.form)

/-- What becomes of the names of each call of a run. Each call meets the tower that those in front
of it have led to, so the run is followed here. -/
def fatesOfRun : List (Nat × Call) → Tower → List (List Fate)
  | [], _ => []
  | (layer, call) :: calls, tower =>
    call.fates layer tower :: fatesOfRun calls (perform layer call tower).tower

/-- **What a run says can be told from the forms of its calls and what becomes of their names.** -/
theorem run_events (calls : List (Nat × Call)) (tower : Tower) :
    (run calls tower).events
      = ((formsOfRun calls).zip (fatesOfRun calls tower)).flatMap
        fun ((layer, form), fates) => form.said layer fates := by
  induction calls generalizing tower with
  | nil => rfl
  | cons entry calls ih =>
    obtain ⟨layer, call⟩ := entry
    have hrest := ih (perform layer call tower).tower
    rw [run, perform_events, hrest]
    rfl

/-- **What is said depends on names and outcomes**, never on values or on what towers hold. A write
by name says what becomes of the name. A bulk write on a tunnel says what its entries say, in their
order, and ends with a summary that counts the keys of its report; on the socket there is no
summary. Typed writes say nothing. So two runs, from whatever towers, say the same when their calls
have the same forms on the same layers and the same becomes of the names. -/
theorem said_by_names_and_fates :
    (∀ layer name value tower, (setOption layer name value tower).events
      = saidOf layer name (.of (setOption layer name value tower).answer))
    ∧ (∀ layer options policy tower,
      let report := (applyOptions (layer + 1) options policy tower).answer
      (applyOptions (layer + 1) options policy tower).events
        = (attempts (layer + 1) policy options.entries tower).flatMap Step.events
          ++ [.bulkApplied report.applied.length report.unrecognized.length report.failed.length
            policy])
    ∧ (∀ layer options tower, (setOptions (layer + 1) options tower).events
      = (applyOptions (layer + 1) options .failFast tower).events)
    ∧ (∀ options tower, (setOptions 0 options tower).events
      = (attempts 0 .failFast options.entries tower).flatMap Step.events)
    ∧ (∀ layer write tower, (perform layer (.writeSocket write) tower).events = [])
    ∧ (∀ layer write tower, (perform layer (.writeTunnel write) tower).events = [])
    ∧ ∀ calls others tower other, formsOfRun calls = formsOfRun others →
      fatesOfRun calls tower = fatesOfRun others other →
      (run calls tower).events = (run others other).events := by
  refine ⟨setOption_events, fun layer => applyOptions_events (layer + 1), fun _ _ _ => rfl,
    fun options tower => setEntries_events 0 options.entries tower, perform_writeSocket_events,
    fun _ _ _ => rfl, fun calls others tower other hforms hfates => ?_⟩
  rw [run_events, run_events, hforms, hfates]

/-- A run that carries one set of values. -/
def oneRun : List (Nat × Call) :=
  [(2, .setOption "serverName" (.text "one.example")), (1, .writeSocket (.trafficClass 16)),
    (2, .applyOptions { entries := [("allowSessionCreation", .text "no"), ("bogus", .int 1),
      ("trafficClass", .int 256), ("keepAlive", .bool true)] } .bestEffort),
    (1, .setOptions { entries := [("soLinger", .int 5), ("serverPath", .null),
      ("tcpNoDelay", .bool true)] })]

/-- The same calls with other values, one of which a socket refuses. -/
def otherRun : List (Nat × Call) :=
  [(2, .setOption "serverName" .null), (1, .writeSocket (.receiveBufferSize 0)),
    (2, .applyOptions { entries := [("allowSessionCreation", .int 7), ("bogus", .texts ["x"]),
      ("trafficClass", .text "high"), ("keepAlive", .text " No ")] } .bestEffort),
    (1, .setOptions { entries := [("soLinger", .text "-1"), ("serverPath", .texts []),
      ("tcpNoDelay", .int 0)] })]

/-- They say the same, on a new tower and on one that has been written to. -/
theorem said_by_names_and_fates_of_others :
    let used := (run oneRun (new 2)).tower
    formsOfRun oneRun = formsOfRun otherRun
    ∧ fatesOfRun oneRun (new 2) = fatesOfRun otherRun used
    ∧ (run oneRun (new 2)).events = (run otherRun used).events := by
  intro used
  obtain ⟨-, -, -, -, -, -, hruns⟩ := said_by_names_and_fates
  have hforms : formsOfRun oneRun = formsOfRun otherRun := by decide
  have hfates : fatesOfRun oneRun (new 2) = fatesOfRun otherRun used := by decide
  exact ⟨hforms, hfates, hruns oneRun otherRun (new 2) used hforms hfates⟩

end Tower

end TunnelOptions
