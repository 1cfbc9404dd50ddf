import TunnelOptions.Tower.Calls

/-!
# Where writes go

Whether a write is taken, and where it goes, depends on the write and the layer it is asked of and
never on what the tower holds. So a call comes to a list of writes that can be told before it is
made, and all that it does to the tower is to put them there one after the other.

That is the one fact about towers on which everything else rests, and this module is the only one
that opens the definitions of the calls. It gives every call a meaning that does not mention a
tower: what it is answered (`Call.reply`) and which writes it is made of (`Call.writes`). Behind it
nobody follows a value down the layers any more; what has to be shown of runs, bulk writes and deep
towers is shown of lists of writes.

The meaning is built from below. A typed socket write is a check that does not look at the socket,
and then a store. A value under a name is read, checked, and given the place it goes to, or it is
refused, or nobody knows the name; these three are a `Verdict`. An option map is the list of the
verdicts of its entries, and the two ways of going through a map differ only in what they make of
that list: its writes, its report, or its first fault.

A tunnel that is not the lowest one has no part in this. `resolve` therefore asks of a layer only
whether it is the socket's, and `resolve_succ` holds by definition.

* `Socket.write_eq`: a typed socket write is a check of the write alone, and then a store.
* `Tower.Write`, `Tower.put`: one write with the place it goes to, and the tower after it.
* `Tower.resolve`: what a value given by name on a layer comes to.
* `Tower.setOption_outcome`: a write by name does what it comes to.
* `Tower.setOptions_outcome`, `Tower.applyOptions_outcome`: so do option maps.
* `Call.reaches_of_mem_writes`: which layers a call writes to.
* `Tower.perform_answer`, `Tower.perform_tower`, `Tower.run_tower`: what calls and runs of calls are
  answered and do.
-/

set_option autoImplicit false

namespace TunnelOptions

/-- What a call leaves behind, without what it said. Two calls that come to the same by different
ways often say different things, so most comparisons are of outcomes. -/
def Step.outcome {α : Type} (step : Step α) : α × Tower :=
  (step.answer, step.tower)

/-! ## Typed socket writes

The checks are written into `Socket.write`, each in the case of its attribute. Here they are taken
apart from the stores, so that a write that has been checked is a write again, and what is stored
can be spoken of without a fault. -/

namespace Socket

/-- A write, if sockets take it. Which socket it is does not matter, so a write can be checked
before it is known where it goes. -/
def Write.checked : Write → Except OptionFault Write
  | .receiveBufferSize size => (requirePositive .receiveBufferSize size).map .receiveBufferSize
  | .sendBufferSize size => (requirePositive .sendBufferSize size).map .sendBufferSize
  | .trafficClass octet => (requireByte .trafficClass octet).map .trafficClass
  | .connectTimeoutMillis millis =>
    (requireNonneg .connectTimeoutMillis millis).map .connectTimeoutMillis
  | write => .ok write

/-- The socket after a write that it takes. Nothing is checked here, which makes it a function that
can be applied any number of times. -/
def put (socket : Socket) : Write → Socket
  | .receiveBufferSize size => { socket with receiveBufferSize := size }
  | .sendBufferSize size => { socket with sendBufferSize := size }
  | .soLinger seconds => { socket with soLinger := seconds }
  | .trafficClass octet => { socket with trafficClass := octet }
  | .keepAlive flag => { socket with keepAlive := flag }
  | .reuseAddress flag => { socket with reuseAddress := flag }
  | .tcpNoDelay flag => { socket with tcpNoDelay := flag }
  | .connectTimeoutMillis millis => { socket with connectTimeoutMillis := millis }
  | .performance preferences => { socket with performance := preferences }
  | .bufferFactory factory => { socket with bufferFactory := factory }
  | .pipelineFactory factory => { socket with pipelineFactory := some factory }

/-- **A socket checks a write before it stores anything**, and the check does not look at what is
stored already. -/
theorem write_eq (socket : Socket) (write : Write) :
    socket.write write = write.checked.map socket.put := by
  cases write with
  | receiveBufferSize size =>
    rw [Socket.write, Write.checked]
    cases requirePositive .receiveBufferSize size <;> rfl
  | sendBufferSize size =>
    rw [Socket.write, Write.checked]
    cases requirePositive .sendBufferSize size <;> rfl
  | trafficClass octet =>
    rw [Socket.write, Write.checked]
    cases requireByte .trafficClass octet <;> rfl
  | connectTimeoutMillis millis =>
    rw [Socket.write, Write.checked]
    cases requireNonneg .connectTimeoutMillis millis <;> rfl
  | soLinger | keepAlive | reuseAddress | tcpNoDelay | performance | bufferFactory
  | pipelineFactory => rfl

theorem writeKeyed_eq (socket : Socket) (key : Key) (value : Value) :
    socket.writeKeyed key value = (key.read value >>= Write.checked).map socket.put := by
  rw [writeKeyed]
  cases key.read value with
  | error fault => rfl
  | ok write => exact write_eq socket write

end Socket

namespace Tower

/-! ## Writes with their places

A typed write does not say which layer it goes to. With its place it does, and then the order of
some writes is all that matters of the calls they came from. -/

/-- One write and the place it goes to. A call comes to any number of these, and all that a tower
remembers of its calls are their writes. -/
inductive Write where
  | socket (write : Socket.Write)
  /-- To the tunnel of layer `index + 1`. -/
  | tunnel (index : Nat) (write : Tunnel.Write)
  deriving DecidableEq

/-- The layer a write goes to. -/
def Write.layer : Write → Nat
  | .socket _ => 0
  | .tunnel index _ => index + 1

/-- The tower after one write. A write to a tunnel that is not there changes nothing. -/
def put (tower : Tower) : Write → Tower
  | .socket write => { tower with socket := tower.socket.put write }
  | .tunnel index write => tower.writeTunnel (index + 1) write

/-- The tower after some writes, one after the other. This is what every call and every run is
reduced to. -/
def putAll (tower : Tower) (writes : List Write) : Tower :=
  writes.foldl put tower

theorem putAll_append (tower : Tower) (first second : List Write) :
    tower.putAll (first ++ second) = (tower.putAll first).putAll second :=
  List.foldl_append

@[simp] theorem depth_put (tower : Tower) (write : Write) :
    (tower.put write).depth = tower.depth := by
  cases write with
  | socket write => rfl
  | tunnel index write => simp [put, writeTunnel, depth]

@[simp] theorem depth_putAll (tower : Tower) (writes : List Write) :
    (tower.putAll writes).depth = tower.depth := by
  induction writes generalizing tower with
  | nil => rfl
  | cons write writes ih => exact (ih (tower.put write)).trans (depth_put tower write)

/-! ## Writes by name

The three lemmas about `setOption` go down the layers, one for each kind of name, and say also what
is said on the way up; the events are needed elsewhere, and one induction gives both. What a name
comes to then follows by cases, without another induction. -/

/-- What a value given by name comes to: a write, nothing under a name that is not known, or a
fault. -/
abbrev Verdict := Except OptionFault (Option Write)

/-- The writes that are made of a verdict, one or none. -/
def Verdict.writes : Verdict → List Write
  | .error _ => []
  | .ok write => write.toList

/-- What a value given by name on a layer comes to. The socket's names go to the socket from every
layer, and the names of tunnels go to the lowest tunnel from every layer but the socket's. -/
def resolve (layer : Nat) (name : String) (value : Value) : Verdict :=
  match Socket.Key.ofName? name with
  | some key => (key.read value >>= Socket.Write.checked).map fun write => some (.socket write)
  | none =>
    match layer with
    | 0 => .ok none
    | _ + 1 =>
      match Tunnel.Key.ofName? name with
      | some key => (key.read value).map fun write => some (.tunnel 0 write)
      | none => .ok none

/-- No name is both the socket's and one of tunnels. -/
theorem ofName?_eq_none_of_tunnelKey {name : String} {key : Tunnel.Key}
    (h : Tunnel.Key.ofName? name = some key) : Socket.Key.ofName? name = none := by
  have hdisjoint : ∀ name ∈ Tunnel.Key.names, Socket.Key.ofName? name = none := by decide
  refine hdisjoint name (Decidable.byContradiction fun hunlisted => ?_)
  rw [Tunnel.Key.ofName?_eq_none_iff.2 hunlisted] at h
  exact nomatch h

/-- A name of the socket's. The tunnels above it only say that they saw it taken. -/
theorem setOption_of_socketKey {name : String} {key : Socket.Key}
    (h : Socket.Key.ofName? name = some key) (layer : Nat) (value : Value) (tower : Tower) :
    setOption layer name value tower =
      match key.read value >>= Socket.Write.checked with
      | .error fault => ⟨.error fault, tower, []⟩
      | .ok write => ⟨.ok true, tower.put (.socket write),
          .socketApplied name :: List.replicate layer (.handledBelow name)⟩ := by
  induction layer with
  | zero =>
    rw [setOption, setSocketOption, h]
    dsimp only
    rw [Socket.writeKeyed_eq]
    cases key.read value >>= Socket.Write.checked <;> rfl
  | succ layer ih =>
    rw [setOption, ih]
    cases key.read value >>= Socket.Write.checked with
    | error fault => rfl
    | ok write => simp [List.replicate_succ']

/-- A name of tunnels, on a layer above the socket. -/
theorem setOption_of_tunnelKey {name : String} {key : Tunnel.Key}
    (hs : Socket.Key.ofName? name = none) (ht : Tunnel.Key.ofName? name = some key) (layer : Nat)
    (value : Value) (tower : Tower) :
    setOption (layer + 1) name value tower =
      match key.read value with
      | .error fault => ⟨.error fault, tower, []⟩
      | .ok write => ⟨.ok true, tower.put (.tunnel 0 write),
          .tunnelApplied name key :: List.replicate layer (.handledBelow name)⟩ := by
  induction layer with
  | zero =>
    rw [setOption, setOption, setSocketOption, hs]
    dsimp only
    rw [setTunnelOption, ht]
    dsimp only
    cases key.read value <;> rfl
  | succ layer ih =>
    rw [setOption, ih]
    cases key.read value with
    | error fault => rfl
    | ok write => simp [List.replicate_succ']

/-- A name that nobody knows. -/
theorem setOption_of_unknown {name : String} (hs : Socket.Key.ofName? name = none)
    (ht : Tunnel.Key.ofName? name = none) (layer : Nat) (value : Value) (tower : Tower) :
    setOption layer name value tower =
      ⟨.ok false, tower, List.replicate layer (.unrecognized name)⟩ := by
  induction layer with
  | zero => rw [setOption, setSocketOption, hs]; rfl
  | succ layer ih =>
    rw [setOption, ih]
    dsimp only
    rw [setTunnelOption, ht]
    simp [List.replicate_succ']

/-- The socket itself leaves the names of others alone. -/
theorem setOption_zero_of_none {name : String} (h : Socket.Key.ofName? name = none) (value : Value)
    (tower : Tower) : setOption 0 name value tower = ⟨.ok false, tower, []⟩ := by
  rw [setOption, setSocketOption, h]

/-- **A write by name does what it comes to**, whatever the tower holds. -/
theorem setOption_outcome (layer : Nat) (name : String) (value : Value) (tower : Tower) :
    (setOption layer name value tower).outcome =
      ((resolve layer name value).map Option.isSome,
        tower.putAll (resolve layer name value).writes) := by
  unfold resolve
  cases hs : Socket.Key.ofName? name with
  | some key =>
    rw [setOption_of_socketKey hs]
    dsimp only
    cases key.read value >>= Socket.Write.checked <;> rfl
  | none =>
    cases ht : Tunnel.Key.ofName? name with
    | none =>
      rw [setOption_of_unknown hs ht]
      cases layer <;> rfl
    | some key =>
      cases layer with
      | zero => rw [setOption_zero_of_none hs]; rfl
      | succ layer =>
        rw [setOption_of_tunnelKey hs ht]
        dsimp only
        cases key.read value <;> rfl

theorem setOption_answer (layer : Nat) (name : String) (value : Value) (tower : Tower) :
    (setOption layer name value tower).answer = (resolve layer name value).map Option.isSome :=
  congrArg Prod.fst (setOption_outcome layer name value tower)

theorem setOption_tower (layer : Nat) (name : String) (value : Value) (tower : Tower) :
    (setOption layer name value tower).tower = tower.putAll (resolve layer name value).writes :=
  congrArg Prod.snd (setOption_outcome layer name value tower)

/-- All layers above the socket come to the same. -/
theorem resolve_succ (layer : Nat) : resolve (layer + 1) = resolve 1 := rfl

/-- The layer that a name given on a layer goes to, if it is known there. -/
def targetOf? (layer : Nat) (name : String) : Option Nat :=
  match Socket.Key.ofName? name with
  | some _ => some 0
  | none =>
    match layer with
    | 0 => none
    | _ + 1 => (Tunnel.Key.ofName? name).map fun _ => 1

theorem targetOf?_le_one {layer target : Nat} {name : String}
    (h : targetOf? layer name = some target) : target ≤ 1 := by
  unfold targetOf? at h
  cases hs : Socket.Key.ofName? name with
  | some key =>
    rw [hs] at h
    rw [← Option.some.inj h]
    exact Nat.zero_le 1
  | none =>
    rw [hs] at h
    cases layer with
    | zero => exact nomatch h
    | succ layer =>
      obtain ⟨key, -, htarget⟩ := Option.map_eq_some_iff.1 h
      exact Nat.le_of_eq htarget.symm

/-- A reading writes at most what it has read. -/
theorem exists_of_mem_writes_map {α : Type} {read : Except OptionFault α} {put : α → Write}
    {write : Write} (h : write ∈ Verdict.writes (read.map fun a => some (put a))) :
    ∃ a, read = .ok a ∧ write = put a := by
  cases read with
  | error fault => exact nomatch h
  | ok a => exact ⟨a, rfl, List.mem_singleton.1 h⟩

/-- **A write by name goes to the layer of its name.** -/
theorem targetOf?_of_mem_writes {layer : Nat} {name : String} {value : Value} {write : Write}
    (h : write ∈ (resolve layer name value).writes) :
    targetOf? layer name = some write.layer := by
  unfold resolve at h
  unfold targetOf?
  cases hs : Socket.Key.ofName? name with
  | some key =>
    rw [hs] at h
    obtain ⟨taken, -, rfl⟩ := exists_of_mem_writes_map h
    rfl
  | none =>
    rw [hs] at h
    cases layer with
    | zero => exact nomatch h
    | succ layer =>
      cases ht : Tunnel.Key.ofName? name with
      | none =>
        rw [ht] at h
        exact nomatch h
      | some key =>
        rw [ht] at h
        obtain ⟨taken, -, rfl⟩ := exists_of_mem_writes_map h
        rfl

theorem layer_le_one_of_mem_writes {layer : Nat} {name : String} {value : Value} {write : Write}
    (h : write ∈ (resolve layer name value).writes) : write.layer ≤ 1 :=
  targetOf?_le_one (targetOf?_of_mem_writes h)

/-! ## Option maps

Each induction over the entries has the same step: the first entry is written by name, and by
`setOption_outcome` what it does to the tower does not change what the later ones come to. -/

/-- What entries come to on a layer, each by itself, with the name it was given under. There is no
tower here: a verdict depends on the name, the value and the layer. -/
def verdicts (layer : Nat) (entries : List (String × Value)) : List (String × Verdict) :=
  entries.map fun (name, value) => (name, resolve layer name value)

/-- The writes that are made of entries under a policy. Up to the first fault they are the same
under both. -/
def writesOf (policy : Policy) : List (String × Verdict) → List Write
  | [] => []
  | (_, verdict) :: verdicts =>
    match verdict, policy with
    | .error _, .failFast => []
    | .error _, .bestEffort => writesOf policy verdicts
    | .ok write, _ => write.toList ++ writesOf policy verdicts

/-- The report of entries under a policy, made of their verdicts alone. It goes through them as a
bulk write goes through the entries. -/
def reportOf (policy : Policy) : List (String × Verdict) → Report
  | [] => {}
  | (name, verdict) :: verdicts =>
    match verdict, policy with
    | .error fault, .failFast => .consFailed name fault {}
    | .error fault, .bestEffort => (reportOf policy verdicts).consFailed name fault
    | .ok none, _ => (reportOf policy verdicts).consUnrecognized name
    | .ok (some _), _ => (reportOf policy verdicts).consApplied name

/-- The first fault of entries, if one of them comes to a fault. What is not known is passed over.
-/
def resultOf : List (String × Verdict) → Except OptionFault Unit
  | [] => .ok ()
  | (_, verdict) :: verdicts =>
    match verdict with
    | .error fault => .error fault
    | .ok _ => resultOf verdicts

theorem verdicts_succ (layer : Nat) : verdicts (layer + 1) = verdicts 1 := rfl

/-- Every write of a bulk write is that of one of its entries. -/
theorem exists_of_mem_writesOf {policy : Policy} {verdicts : List (String × Verdict)}
    {write : Write} (h : write ∈ writesOf policy verdicts) :
    ∃ entry ∈ verdicts, write ∈ entry.2.writes := by
  induction verdicts with
  | nil => simp [writesOf] at h
  | cons entry verdicts ih =>
    obtain ⟨name, verdict⟩ := entry
    have later (h : write ∈ writesOf policy verdicts) :
        ∃ entry ∈ (name, verdict) :: verdicts, write ∈ entry.2.writes := by
      obtain ⟨entry, hm, hw⟩ := ih h
      exact ⟨entry, List.mem_cons_of_mem _ hm, hw⟩
    cases verdict with
    | error fault =>
      cases policy with
      | failFast => simp [writesOf] at h
      | bestEffort => exact later h
    | ok first =>
      rw [writesOf] at h
      rcases List.mem_append.1 h with h | h
      · exact ⟨(name, .ok first), List.mem_cons_self, h⟩
      · exact later h

/-- **Every write of a bulk write goes to the layer of one of its names.** -/
theorem exists_targetOf?_of_mem_writesOf {layer : Nat} {policy : Policy}
    {entries : List (String × Value)} {write : Write}
    (h : write ∈ writesOf policy (verdicts layer entries)) :
    ∃ name ∈ Entries.keys entries, targetOf? layer name = some write.layer := by
  obtain ⟨verdict, hverdict, hwrite⟩ := exists_of_mem_writesOf h
  obtain ⟨entry, hentry, rfl⟩ := List.mem_map.1 hverdict
  exact ⟨entry.1, List.mem_map_of_mem hentry, targetOf?_of_mem_writes hwrite⟩

theorem layer_le_one_of_mem_writesOf {layer : Nat} {policy : Policy}
    {entries : List (String × Value)} {write : Write}
    (h : write ∈ writesOf policy (verdicts layer entries)) : write.layer ≤ 1 := by
  obtain ⟨name, -, htarget⟩ := exists_targetOf?_of_mem_writesOf h
  exact targetOf?_le_one htarget

theorem setEntries_outcome (layer : Nat) (entries : List (String × Value)) (tower : Tower) :
    (setEntries layer entries tower).outcome =
      (resultOf (verdicts layer entries),
        tower.putAll (writesOf .failFast (verdicts layer entries))) := by
  induction entries generalizing tower with
  | nil => rfl
  | cons entry entries ih =>
    obtain ⟨name, value⟩ := entry
    have ih := ih (setOption layer name value tower).tower
    rw [setOption_tower] at ih
    simp only [setEntries, verdicts, List.map_cons, resultOf, writesOf]
    rw [setOption_answer, setOption_tower]
    cases hv : resolve layer name value with
    | error fault => rfl
    | ok write =>
      rw [hv] at ih
      simp only [Except.map]
      rw [putAll_append]
      exact ih

/-- **A bulk write reports and does what its entries come to**, whatever the tower holds. -/
theorem applyEntries_outcome (layer : Nat) (policy : Policy) (entries : List (String × Value))
    (tower : Tower) :
    (applyEntries layer policy entries tower).outcome =
      (reportOf policy (verdicts layer entries),
        tower.putAll (writesOf policy (verdicts layer entries))) := by
  induction entries generalizing tower with
  | nil => rfl
  | cons entry entries ih =>
    obtain ⟨name, value⟩ := entry
    -- The rest of the entries meets the tower that this one has led to, but its verdicts do not
    -- depend on that tower.
    have ih := ih (setOption layer name value tower).tower
    rw [setOption_tower] at ih
    simp only [applyEntries, verdicts, List.map_cons, reportOf, writesOf]
    rw [setOption_answer, setOption_tower]
    cases hv : resolve layer name value with
    | error fault =>
      rw [hv] at ih
      cases policy with
      | failFast => rfl
      | bestEffort =>
        obtain ⟨ha, ht⟩ := Prod.mk.inj ih
        exact Prod.ext (congrArg (Report.consFailed name fault) ha) ht
    | ok write =>
      rw [hv] at ih
      obtain ⟨ha, ht⟩ := Prod.mk.inj ih
      simp only
      rw [putAll_append]
      cases write with
      | none => exact Prod.ext (congrArg (Report.consUnrecognized name) ha) ht
      | some write => exact Prod.ext (congrArg (Report.consApplied name) ha) ht

/-- The report of a bulk write that stops at the first fault, as a result. -/
theorem result_reportOf_failFast (verdicts : List (String × Verdict)) :
    (reportOf .failFast verdicts).result.map (fun _ => ()) = resultOf verdicts := by
  induction verdicts with
  | nil => rfl
  | cons entry verdicts ih =>
    obtain ⟨name, verdict⟩ := entry
    cases verdict with
    | error fault => rfl
    | ok write =>
      rw [resultOf, ← ih]
      cases write <;> (
        simp only [reportOf, Report.result, Report.consApplied, Report.consUnrecognized]
        cases (reportOf .failFast verdicts).failed <;> rfl)

theorem applyOptions_outcome (layer : Nat) (options : OptionMap) (policy : Policy) (tower : Tower) :
    (applyOptions layer options policy tower).outcome =
      (reportOf policy (verdicts layer options.entries),
        tower.putAll (writesOf policy (verdicts layer options.entries))) :=
  applyEntries_outcome layer policy options.entries tower

theorem applyOptions_answer (layer : Nat) (options : OptionMap) (policy : Policy) (tower : Tower) :
    (applyOptions layer options policy tower).answer
      = reportOf policy (verdicts layer options.entries) :=
  congrArg Prod.fst (applyOptions_outcome layer options policy tower)

theorem applyOptions_tower (layer : Nat) (options : OptionMap) (policy : Policy) (tower : Tower) :
    (applyOptions layer options policy tower).tower
      = tower.putAll (writesOf policy (verdicts layer options.entries)) :=
  congrArg Prod.snd (applyOptions_outcome layer options policy tower)

/-- Writing an option map up to the first fault, on the socket and on tunnels alike. -/
theorem setOptions_outcome (layer : Nat) (options : OptionMap) (tower : Tower) :
    (setOptions layer options tower).outcome =
      (resultOf (verdicts layer options.entries),
        tower.putAll (writesOf .failFast (verdicts layer options.entries))) := by
  cases layer with
  | zero => exact setEntries_outcome 0 options.entries tower
  | succ layer =>
    obtain ⟨ha, ht⟩ := Prod.mk.inj (applyOptions_outcome (layer + 1) options .failFast tower)
    refine Prod.ext ?_ ht
    rw [← result_reportOf_failFast, ← ha]
    rfl

theorem setOptions_tower (layer : Nat) (options : OptionMap) (tower : Tower) :
    (setOptions layer options tower).tower
      = tower.putAll (writesOf .failFast (verdicts layer options.entries)) :=
  congrArg Prod.snd (setOptions_outcome layer options tower)

end Tower

/-! ## Calls and runs

The five kinds of calls have nothing to do with each other any more once each of them is an answer
and a list of writes. What is proved of runs is proved by induction on the run from these. -/

/-- The writes that a call on a layer is made of. The socket is no tunnel, and has nothing for a
typed tunnel write to go to. -/
def Call.writes (layer : Nat) : Call → List Tower.Write
  | .writeSocket write =>
    match write.checked with
    | .error _ => []
    | .ok write => [.socket write]
  | .writeTunnel write =>
    match layer with
    | 0 => []
    | index + 1 => [.tunnel index write]
  | .setOption name value => (Tower.resolve layer name value).writes
  | .setOptions options => Tower.writesOf .failFast (Tower.verdicts layer options.entries)
  | .applyOptions options policy => Tower.writesOf policy (Tower.verdicts layer options.entries)

/-- What a call on a layer is answered, by what it carries and the number of the layer. No tower is
asked. -/
def Call.reply (layer : Nat) : Call → Reply
  | .writeSocket write => .written (write.checked.map fun _ => ())
  | .writeTunnel _ => .written (.ok ())
  | .setOption name value => .recognized ((Tower.resolve layer name value).map Option.isSome)
  | .setOptions options => .written (Tower.resultOf (Tower.verdicts layer options.entries))
  | .applyOptions options policy =>
    .reported (Tower.reportOf policy (Tower.verdicts layer options.entries))

/-- Whether a call on a layer can write to another one. It is said of the names that the call
carries and not of its values, which may all be refused. -/
def Call.Reaches (layer : Nat) (call : Call) (target : Nat) : Prop :=
  match call with
  | .writeSocket _ => target = 0
  | .writeTunnel _ => target = layer
  | .setOption name _ => Tower.targetOf? layer name = some target
  | .setOptions options | .applyOptions options _ =>
    ∃ name ∈ options.keys, Tower.targetOf? layer name = some target

/-- **A call writes to the layers it reaches, and to no other.** -/
theorem Call.reaches_of_mem_writes {layer : Nat} {call : Call} {write : Tower.Write}
    (h : write ∈ call.writes layer) : call.Reaches layer write.layer := by
  cases call with
  | writeSocket write =>
    rw [Call.writes] at h
    cases hchecked : write.checked with
    | error fault =>
      rw [hchecked] at h
      exact nomatch h
    | ok taken =>
      rw [hchecked] at h
      rw [List.mem_singleton.1 h]
      rfl
  | writeTunnel write =>
    cases layer with
    | zero => exact nomatch h
    | succ index =>
      rw [List.mem_singleton.1 h]
      rfl
  | setOption name value => exact Tower.targetOf?_of_mem_writes h
  | setOptions options => exact Tower.exists_targetOf?_of_mem_writesOf h
  | applyOptions options policy => exact Tower.exists_targetOf?_of_mem_writesOf h

/-- Whether a call writes by name. -/
def Call.isByName : Call → Bool
  | .writeSocket _ | .writeTunnel _ => false
  | .setOption _ _ | .setOptions _ | .applyOptions _ _ => true

/-- **Writing by name reaches the socket and the lowest tunnel, and nothing above.** -/
theorem Call.layer_le_one_of_isByName {call : Call} (hname : call.isByName = true) {layer : Nat}
    {write : Tower.Write} (h : write ∈ call.writes layer) : write.layer ≤ 1 := by
  cases call with
  | writeSocket | writeTunnel => exact nomatch hname
  | setOption name value => exact Tower.layer_le_one_of_mem_writes h
  | setOptions options => exact Tower.layer_le_one_of_mem_writesOf h
  | applyOptions options policy => exact Tower.layer_le_one_of_mem_writesOf h

namespace Tower

/-- The writes that a run of calls is made of, the oldest first. -/
def writesOfRun (calls : List (Nat × Call)) : List Write :=
  calls.flatMap fun (layer, call) => call.writes layer

/-- A typed socket write, from any layer. -/
theorem writeSocket_checked (tower : Tower) (layer : Nat) (write : Socket.Write) :
    tower.writeSocket layer write = write.checked.map fun write => tower.put (.socket write) := by
  rw [writeSocket_eq, writeSocket, Socket.write_eq]
  cases write.checked <;> rfl

/-- **A call makes its writes and no others.** -/
theorem perform_tower (layer : Nat) (call : Call) (tower : Tower) :
    (perform layer call tower).tower = tower.putAll (call.writes layer) := by
  cases call with
  | writeSocket write =>
    rw [perform, Call.writes, writeSocket_checked]
    cases write.checked <;> rfl
  | writeTunnel write => cases layer <;> rfl
  | setOption name value => exact setOption_tower layer name value tower
  | setOptions options => exact setOptions_tower layer options tower
  | applyOptions options policy => exact applyOptions_tower layer options policy tower

/-- **The answer to a call does not depend on what the tower holds.** -/
theorem perform_answer (layer : Nat) (call : Call) (tower : Tower) :
    (perform layer call tower).answer = call.reply layer := by
  cases call with
  | writeSocket write =>
    rw [perform, Call.reply, writeSocket_checked]
    cases write.checked <;> rfl
  | writeTunnel write => rfl
  | setOption name value =>
    exact congrArg Reply.recognized (setOption_answer layer name value tower)
  | setOptions options =>
    exact congrArg (Reply.written ·.1) (setOptions_outcome layer options tower)
  | applyOptions options policy =>
    exact congrArg Reply.reported (applyOptions_answer layer options policy tower)

/-- **A run makes the writes of its calls in their order.** -/
theorem run_tower (calls : List (Nat × Call)) (tower : Tower) :
    (run calls tower).tower = tower.putAll (writesOfRun calls) := by
  induction calls generalizing tower with
  | nil => rfl
  | cons entry calls ih =>
    obtain ⟨layer, call⟩ := entry
    rw [writesOfRun, List.flatMap_cons, putAll_append, ← perform_tower]
    exact ih (perform layer call tower).tower

end Tower

end TunnelOptions
