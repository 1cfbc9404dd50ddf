import TunnelOptions.Proofs.LastWrite
import TunnelOptions.Proofs.Nesting

/-!
# Towers that can be reached

A socket checks a write before it stores anything, so what it would refuse it never holds: every way
of writing comes to writes that have been checked, and a store of a checked value keeps to the
bounds. Tunnels keep nothing of the socket's, so all layers show the one socket.

It is an invariant, and it is proved as one. `Reachable` is what can become of new towers: a call on
a layer, a new tunnel with options over any layer, or standing beside such a tunnel while it is
made. A call that fails is a step like any other. The invariant is carried over a step in two halves
that meet in `Write.InBounds`: the writes that a call makes are within bounds, whatever it is given,
and a write within bounds keeps a socket valid. Neither half looks at the other, and neither has a
case for each kind of call and each attribute at once.

A tunnel over a layer in the middle is the one step that is not simply a call. The tower is cut off
there, the tunnel is made on top of what is left, and the tunnels above are put back beside it. None
of this touches the socket.

* `Socket.Valid`: the bounds a socket keeps to.
* `Socket.Write.inBounds_of_checked`, `Socket.Valid.put`: what a check lets through, and what that
  does to a socket.
* `Call.inBounds_of_mem_writes`: calls make writes within bounds.
* `Tower.Reachable`: what can become of new towers.
* `Tower.reachable_sockets_valid`: their sockets keep to the bounds, and every layer shows them.
-/

set_option autoImplicit false

namespace TunnelOptions

/-! ## The bounds of a socket

The bounds of a write are those of the attribute it goes to; one that goes to an attribute without
bounds has none. -/

namespace Socket

/-- The bounds a socket keeps to. They are said of the attributes as integers, so that nothing about
them depends on how wide these are. -/
structure Valid (socket : Socket) : Prop where
  receiveBufferSize : 1 ≤ socket.receiveBufferSize.toInt
  sendBufferSize : 1 ≤ socket.sendBufferSize.toInt
  trafficClass : 0 ≤ socket.trafficClass.toInt ∧ socket.trafficClass.toInt ≤ 255
  connectTimeoutMillis : 0 ≤ socket.connectTimeoutMillis.toInt

theorem valid_new : Valid {} where
  receiveBufferSize := by decide
  sendBufferSize := by decide
  trafficClass := by decide
  connectTimeoutMillis := by decide

/-- **A valid timeout is waited for as it is**: cutting it off at zero makes no difference. -/
theorem Valid.connectTimeout_eq {socket : Socket} (h : socket.Valid) :
    (socket.connectTimeout : Int) = socket.connectTimeoutMillis.toInt :=
  Int.toNat_of_nonneg h.connectTimeoutMillis

/-- The bounds of what a write stores. -/
def Write.InBounds : Write → Prop
  | .receiveBufferSize size | .sendBufferSize size => 1 ≤ size.toInt
  | .trafficClass octet => 0 ≤ octet.toInt ∧ octet.toInt ≤ 255
  | .connectTimeoutMillis millis => 0 ≤ millis.toInt
  | _ => True

theorem one_le_of_requirePositive {key : Key} {n m : Int32} (h : requirePositive key n = .ok m) :
    1 ≤ m.toInt := by
  rw [requirePositive] at h
  split at h
  · rename_i hpos
    cases h
    exact Int32.lt_iff_toInt_lt.1 hpos
  · exact nomatch h

theorem le_of_requireByte {key : Key} {n m : Int32} (h : requireByte key n = .ok m) :
    0 ≤ m.toInt ∧ m.toInt ≤ 255 := by
  rw [requireByte] at h
  split at h
  · rename_i hbyte
    cases h
    exact ⟨Int32.le_iff_toInt_le.1 hbyte.1, Int32.le_iff_toInt_le.1 hbyte.2⟩
  · exact nomatch h

theorem nonneg_of_requireNonneg {key : Key} {n m : Int32} (h : requireNonneg key n = .ok m) :
    0 ≤ m.toInt := by
  rw [requireNonneg] at h
  split at h
  · rename_i hnonneg
    cases h
    exact Int32.le_iff_toInt_le.1 hnonneg
  · exact nomatch h

/-- **A checked write is within bounds.** -/
theorem Write.inBounds_of_checked {write taken : Write} (h : write.checked = .ok taken) :
    taken.InBounds := by
  cases write with
  | receiveBufferSize size | sendBufferSize size =>
    obtain ⟨n, hcheck, rfl⟩ := exists_of_map_eq_ok h
    exact one_le_of_requirePositive hcheck
  | trafficClass octet =>
    obtain ⟨n, hcheck, rfl⟩ := exists_of_map_eq_ok h
    exact le_of_requireByte hcheck
  | connectTimeoutMillis millis =>
    obtain ⟨n, hcheck, rfl⟩ := exists_of_map_eq_ok h
    exact nonneg_of_requireNonneg hcheck
  | soLinger | keepAlive | reuseAddress | tcpNoDelay | performance | bufferFactory
  | pipelineFactory =>
    cases h
    trivial

/-- **A write within bounds keeps a socket valid.** -/
theorem Valid.put {socket : Socket} (h : socket.Valid) {write : Write} (hwrite : write.InBounds) :
    (socket.put write).Valid := by
  cases write with
  | receiveBufferSize size => exact { h with receiveBufferSize := hwrite }
  | sendBufferSize size => exact { h with sendBufferSize := hwrite }
  | trafficClass octet => exact { h with trafficClass := hwrite }
  | connectTimeoutMillis millis => exact { h with connectTimeoutMillis := hwrite }
  | soLinger | keepAlive | reuseAddress | tcpNoDelay | performance | bufferFactory
  | pipelineFactory => exact { h with }

end Socket

/-! ## The writes of calls

A call by name checks what it has read before it becomes a write, and a typed call is checked too.
So wherever a write comes from, it is the result of a check. -/

namespace Tower

/-- The bounds of a write with its place. A tunnel stores whatever it is given. -/
def Write.InBounds : Write → Prop
  | .socket write => write.InBounds
  | .tunnel _ _ => True

theorem inBounds_of_mem_writes {layer : Nat} {name : String} {value : Value} {write : Write}
    (h : write ∈ (resolve layer name value).writes) : write.InBounds := by
  rw [resolve.eq_def] at h
  cases hs : Socket.Key.ofName? name with
  | some key =>
    rw [hs] at h
    obtain ⟨taken, hread, rfl⟩ := exists_of_mem_writes_map h
    obtain ⟨raw, -, hchecked⟩ := exists_of_bind_eq_ok hread
    exact Socket.Write.inBounds_of_checked hchecked
  | none =>
    rw [hs] at h
    cases layer with
    | zero => exact nomatch h
    | succ layer =>
      cases ht : Tunnel.Key.ofName? name with
      | none => rw [ht] at h; exact nomatch h
      | some key =>
        rw [ht] at h
        obtain ⟨taken, -, rfl⟩ := exists_of_mem_writes_map h
        trivial

theorem inBounds_of_mem_writesOf {layer : Nat} {policy : Policy} {entries : List (String × Value)}
    {write : Write} (h : write ∈ writesOf policy (verdicts layer entries)) : write.InBounds := by
  obtain ⟨verdict, hverdict, hwrite⟩ := exists_of_mem_writesOf h
  obtain ⟨entry, -, rfl⟩ := List.mem_map.1 hverdict
  exact inBounds_of_mem_writes hwrite

end Tower

/-- **Calls make writes within bounds**, whatever they are given. -/
theorem Call.inBounds_of_mem_writes {layer : Nat} {call : Call} {write : Tower.Write}
    (h : write ∈ call.writes layer) : write.InBounds := by
  cases call with
  | writeSocket write =>
    rw [Call.writes] at h
    cases hchecked : write.checked with
    | error fault =>
      rw [hchecked] at h
      cases h
    | ok taken =>
      rw [hchecked] at h
      rw [List.mem_singleton.1 h]
      exact Socket.Write.inBounds_of_checked hchecked
  | writeTunnel write =>
    cases layer with
    | zero => cases h
    | succ index =>
      rw [List.mem_singleton.1 h]
      trivial
  | setOption name value => exact Tower.inBounds_of_mem_writes h
  | setOptions options => exact Tower.inBounds_of_mem_writesOf h
  | applyOptions options policy => exact Tower.inBounds_of_mem_writesOf h

/-! ## Towers -/

namespace Tower

/-- The socket as the channel that a layer is bound to shows it. Layer 0 is bound to none. -/
def realSocketAt? (tower : Tower) : Nat → Option Socket
  | 0 => none
  | layer + 1 => some (tower.socketAt layer)

/-- The layers up to a given one, as a tower by themselves. This is the tower that a channel in the
middle sees. -/
def upTo (tower : Tower) (layer : Nat) : Tower :=
  { tower with tunnels := tower.tunnels.take layer }

/-- The tower with its layers up to a given one as they are in `base`. -/
def rebase (tower : Tower) (layer : Nat) (base : Tower) : Tower :=
  { base with tunnels := base.tunnels.take layer ++ tower.tunnels.drop layer }

/-- What can become of new towers, by calls on their layers and by new tunnels over them, whether
these succeed or fail. -/
inductive Reachable : Tower → Prop where
  | new (depth : Nat) : Reachable (new depth)
  | perform {tower : Tower} (h : Reachable tower) (layer : Nat) (call : Call) :
    Reachable (perform layer call tower).tower
  /-- A new tunnel with options over any layer: the tower below it, with the tunnel if there is
  one. -/
  | withOptions {tower : Tower} (h : Reachable tower) (layer : Nat) (options : OptionMap) :
    Reachable (withOptions options (tower.upTo layer)).tower
  /-- The tower beside such a tunnel, which keeps its own tunnels above the layer. -/
  | beside {tower : Tower} (h : Reachable tower) (layer : Nat) (options : OptionMap) :
    Reachable (tower.rebase layer (Tower.withOptions options (tower.upTo layer)).tower)

/-- Any run of calls on a reachable tower leads to one. -/
theorem Reachable.run {tower : Tower} (h : Reachable tower) (calls : List (Nat × Call)) :
    Reachable (run calls tower).tower := by
  induction calls generalizing tower with
  | nil => exact h
  | cons entry calls ih => exact ih (h.perform entry.1 entry.2)

theorem valid_putAll {tower : Tower} (h : tower.socket.Valid) {writes : List Write}
    (hwrites : ∀ write ∈ writes, write.InBounds) : (tower.putAll writes).socket.Valid := by
  induction writes generalizing tower with
  | nil => exact h
  | cons write writes ih =>
    have hput : (tower.put write).socket.Valid := by
      cases write with
      | socket write => exact h.put (hwrites (.socket write) List.mem_cons_self)
      | tunnel index write => exact h
    exact ih hput fun later hm => hwrites later (List.mem_cons_of_mem write hm)

/-- A call keeps the socket valid. -/
theorem valid_perform {tower : Tower} (h : tower.socket.Valid) (layer : Nat) (call : Call) :
    (perform layer call tower).tower.socket.Valid := by
  rw [perform_tower]
  exact valid_putAll h fun write => Call.inBounds_of_mem_writes

/-- A new tunnel on top keeps the socket valid, also when its options fail. -/
theorem valid_withOptions {tower : Tower} (h : tower.socket.Valid) (options : OptionMap) :
    (withOptions options tower).tower.socket.Valid := by
  have hset : (setOptions (tower.depth + 1) options tower.push).tower.socket.Valid :=
    @valid_perform tower.push h (tower.depth + 1) (.setOptions options)
  rcases withOptions_cases options tower with ⟨-, heq⟩ | ⟨fault, top, -, -, htop⟩
  · rw [heq]
    exact hset
  · rw [htop] at hset
    exact hset

theorem Reachable.valid {tower : Tower} (h : Reachable tower) : tower.socket.Valid := by
  induction h with
  | new depth => exact Socket.valid_new
  | perform _ layer call ih => exact valid_perform ih layer call
  | @withOptions tower _ layer options ih | @beside tower _ layer options ih =>
    -- Neither cutting a tower off nor putting tunnels back on it touches the socket.
    have hcut : (tower.upTo layer).socket.Valid := ih
    exact valid_withOptions hcut options

/-- **Sockets keep to their bounds, and all layers show the same one.** Whatever is asked of the
layers of a tower, and whether it succeeds or fails, the buffers are not empty, the traffic class is
one byte and the timeout is not negative, so that it is waited for as it is. Every layer, and the
channel that every layer is bound to, shows each attribute of layer 0. -/
theorem reachable_sockets_valid {tower : Tower} (h : Reachable tower) :
    tower.socket.Valid
    ∧ (tower.socket.connectTimeout : Int) = tower.socket.connectTimeoutMillis.toInt
    ∧ (∀ layer field, (tower.socketAt layer).get field = tower.socket.get field)
    ∧ ∀ layer real, tower.realSocketAt? layer = some real →
      ∀ field, real.get field = tower.socket.get field := by
  refine ⟨h.valid, h.valid.connectTimeout_eq, fun layer field => ?_,
    fun layer real hreal field => ?_⟩
  · rw [socketAt_eq]
  · cases layer with
    | zero => exact nomatch hreal
    | succ layer =>
      cases hreal
      rw [socketAt_eq]

/-- A run on two tunnels of which only the last call is not refused. -/
def mostlyRefused : List (Nat × Call) :=
  [(2, .writeSocket (.trafficClass 256)), (1, .setOption "receiveBufferSize" (.text "0")),
    (0, .setOption "sendBufferSize" (.int 4294967297)),
    (2, .setOption "connectTimeoutMillis" (.text " 2147483647 "))]

/-- What a third tunnel leaves of that run when its second option is refused. -/
def afterRefusals : Tower :=
  (withOptions { entries := [("trafficClass", .text "+255"), ("sendBufferSize", .int (-1))] }
    ((run mostlyRefused (new 2)).tower.upTo 2)).tower

theorem reachable_sockets_valid_after_refusals :
    Reachable afterRefusals ∧ afterRefusals.socket.Valid
    ∧ (afterRefusals.socket.connectTimeout : Int) = 2147483647
    ∧ (afterRefusals.socketAt 2).get .trafficClass = (255 : Int32)
    ∧ afterRefusals.realSocketAt? 2 = some (afterRefusals.socketAt 1)
    ∧ (afterRefusals.socketAt 1).get .sendBufferSize = (65536 : Int32) := by
  have hreach : Reachable afterRefusals := ((Reachable.new 2).run mostlyRefused).withOptions 2 _
  obtain ⟨hvalid, htimeout, hlayers, hreal⟩ := reachable_sockets_valid hreach
  refine ⟨hreach, hvalid, htimeout.trans ?_, (hlayers 2 .trafficClass).trans ?_, rfl,
    (hreal 2 _ rfl .sendBufferSize).trans ?_⟩
  · decide
  · decide
  · decide

end Tower

end TunnelOptions
