import TunnelOptions.Proofs.Routing

/-!
# The last write wins

After any run of calls on a new tower, every attribute of every layer holds what was written to it
last, or what it was made with when nothing was. The writes of a run are those of its calls in order
(`Tower.writesOfRun`), and a write says by itself which attribute of which layer it goes to.

To say this at once for all attributes there has to be a notion of an attribute, and a type for what
it holds. `Socket.Field` and `Tunnel.Key` name the attributes, `Content` gives each its type, and a
`Place` is an attribute of a layer. So what is in a tower is a family of values, one for each place,
and a write is a change to one of them: `Write.content?` is what it gives a place, if that is the
place it goes to. There is one case analysis over all writes and all attributes, in `get_put` and
`get_write`; everything behind them is about places in general.

From one write to many is an induction in which the later writes go first: what the last of them
gives a place is kept, and only when none of them goes there does the first one count.

* `Socket.get_put`, `Tunnel.get_write`: one write and one attribute.
* `Tower.Place`, `Tower.get?`: an attribute of a layer, and what it holds.
* `Tower.get?_putAll`: what a place holds after some writes.
* `Tower.last_write_wins`: what it holds after a run, and which calls can have written there.
-/

set_option autoImplicit false

namespace TunnelOptions

/-! ## Fields

The socket has an attribute without a key, so its attributes are a type of their own. A tunnel has a
key for each, and its keys will do. -/

namespace Socket

/-- What a socket keeps: a constructor for each attribute, so that something can be said of any of
them. There is one more of these than there are keys. -/
inductive Field where
  | receiveBufferSize
  | sendBufferSize
  | soLinger
  | trafficClass
  | keepAlive
  | reuseAddress
  | tcpNoDelay
  | connectTimeoutMillis
  | performance
  | bufferFactory
  | pipelineFactory
  deriving DecidableEq, Repr

/-- What an attribute holds. -/
@[reducible] def Field.Content : Field → Type
  | .receiveBufferSize | .sendBufferSize | .soLinger | .trafficClass | .connectTimeoutMillis =>
    Int32
  | .keepAlive | .reuseAddress | .tcpNoDelay => Bool
  | .performance => Performance
  | .bufferFactory => BufferFactory
  | .pipelineFactory => Option PipelineFactory

/-- What an attribute of a socket holds. -/
def get (socket : Socket) : (field : Field) → field.Content
  | .receiveBufferSize => socket.receiveBufferSize
  | .sendBufferSize => socket.sendBufferSize
  | .soLinger => socket.soLinger
  | .trafficClass => socket.trafficClass
  | .keepAlive => socket.keepAlive
  | .reuseAddress => socket.reuseAddress
  | .tcpNoDelay => socket.tcpNoDelay
  | .connectTimeoutMillis => socket.connectTimeoutMillis
  | .performance => socket.performance
  | .bufferFactory => socket.bufferFactory
  | .pipelineFactory => socket.pipelineFactory

/-- What a write gives an attribute, if it is the one that is written. -/
def Write.content? : Write → (field : Field) → Option field.Content
  | .receiveBufferSize size, .receiveBufferSize => some size
  | .sendBufferSize size, .sendBufferSize => some size
  | .soLinger seconds, .soLinger => some seconds
  | .trafficClass octet, .trafficClass => some octet
  | .keepAlive flag, .keepAlive => some flag
  | .reuseAddress flag, .reuseAddress => some flag
  | .tcpNoDelay flag, .tcpNoDelay => some flag
  | .connectTimeoutMillis millis, .connectTimeoutMillis => some millis
  | .performance preferences, .performance => some preferences
  | .bufferFactory factory, .bufferFactory => some factory
  | .pipelineFactory factory, .pipelineFactory => some (some factory)
  | _, _ => none

theorem get_put (socket : Socket) (write : Write) (field : Field) :
    (socket.put write).get field = (write.content? field).getD (socket.get field) := by
  cases write <;> cases field <;> rfl

end Socket

namespace Tunnel

/-- What an attribute holds. Every attribute of a tunnel has a key. -/
@[reducible] def Key.Content : Key → Type
  | .serverName => Option String
  | .serverPath => String
  | .sslContext => Option Tls.Context
  | .enabledSslCipherSuites | .enabledSslProtocols => Option (List String)
  | .enableSslSessionCreation => Bool

/-- What an attribute of a tunnel holds. -/
def get (tunnel : Tunnel) : (key : Key) → key.Content
  | .serverName => tunnel.serverName
  | .serverPath => tunnel.serverPath
  | .sslContext => tunnel.sslContext
  | .enabledSslCipherSuites => tunnel.enabledSslCipherSuites
  | .enabledSslProtocols => tunnel.enabledSslProtocols
  | .enableSslSessionCreation => tunnel.enableSslSessionCreation

/-- What a write gives an attribute, if it is the one that is written. -/
def Write.content? : Write → (key : Key) → Option key.Content
  | .serverName name, .serverName => some name
  | .serverPath path, .serverPath => some path
  | .sslContext context, .sslContext => some context
  | .enabledSslCipherSuites names, .enabledSslCipherSuites => some names
  | .enabledSslProtocols names, .enabledSslProtocols => some names
  | .enableSslSessionCreation flag, .enableSslSessionCreation => some flag
  | _, _ => none

theorem get_write (tunnel : Tunnel) (write : Write) (key : Key) :
    (tunnel.write write).get key = (write.content? key).getD (tunnel.get key) := by
  cases write <;> cases key <;> rfl

end Tunnel

namespace Tower

/-! ## Places

A layer that is not there has no places that hold anything, which is why `get?` is an option. In a
new tower every place of a layer that is there holds what its attribute starts with. -/

/-- An attribute of a layer. These are all the places that a tower has, and a tower is no more than
what they hold. -/
inductive Place where
  | socket (field : Socket.Field)
  /-- Of the tunnel of layer `index + 1`. -/
  | tunnel (index : Nat) (key : Tunnel.Key)

namespace Place

/-- The layer of a place. -/
def layer : Place → Nat
  | .socket _ => 0
  | .tunnel index _ => index + 1

/-- What a place holds. -/
@[reducible] def Content : Place → Type
  | .socket field => field.Content
  | .tunnel _ key => key.Content

/-- What a place holds in a new tower. -/
def initial : (place : Place) → place.Content
  | .socket field => ({} : Socket).get field
  | .tunnel _ key => ({} : Tunnel).get key

end Place

/-- What a place holds, if its layer is there. -/
def get? (tower : Tower) : (place : Place) → Option place.Content
  | .socket field => some (tower.socket.get field)
  | .tunnel index key => (tower.tunnelAt? (index + 1)).map (·.get key)

/-- What a write gives a place, if it goes there. It goes to one place and gives nothing to any
other. -/
def Write.content? : Write → (place : Place) → Option place.Content
  | .socket write, .socket field => write.content? field
  | .tunnel index write, .tunnel other key => if index = other then write.content? key else none
  | _, _ => none

/-- What the last of some writes that go to a place gives it. -/
def lastContent? (place : Place) (writes : List Write) : Option place.Content :=
  (writes.filterMap (·.content? place)).getLast?

/-! ## What a place holds -/

theorem get?_new {depth : Nat} {place : Place} (h : place.layer ≤ depth) :
    (new depth).get? place = some place.initial := by
  cases place with
  | socket field => rfl
  | tunnel index key =>
    have hlt : index < depth := h
    have hnew : (new depth).tunnelAt? (index + 1) = some {} := by simp [new, tunnelAt?, hlt]
    rw [get?, hnew]
    rfl

/-- One write and one place. -/
theorem get?_put (tower : Tower) (write : Write) (place : Place) :
    (tower.put write).get? place = (tower.get? place).map (write.content? place).getD := by
  cases write with
  | socket write =>
    cases place with
    | socket field => exact congrArg some (Socket.get_put tower.socket write field)
    | tunnel index key =>
      have hsame : (Write.socket write).content? (.tunnel index key) = none := rfl
      rw [hsame]
      exact Option.map_id'.symm
  | tunnel index write =>
    cases place with
    | socket field => rfl
    | tunnel other key =>
      have hafter : (tower.put (.tunnel index write)).tunnelAt? (other + 1)
          = (tower.tunnelAt? (other + 1)).map
            fun tunnel => if index = other then tunnel.write write else tunnel := by
        simp only [put, writeTunnel, tunnelAt?, List.getElem?_modify, Option.map_eq_map]
      rw [get?, get?, hafter, Option.map_map, Option.map_map]
      refine congrArg (Option.map · _) (funext fun tunnel => ?_)
      by_cases h : index = other
      · simpa [h, Write.content?] using Tunnel.get_write tunnel write key
      · simp [h, Write.content?]

/-- **A place holds what was written to it last**, or what it held before. -/
theorem get?_putAll (tower : Tower) (writes : List Write) (place : Place) :
    (tower.putAll writes).get? place = (tower.get? place).map (lastContent? place writes).getD := by
  induction writes generalizing tower with
  | nil => exact Option.map_id'.symm
  | cons write writes ih =>
    have hstep : (tower.putAll (write :: writes)).get? place
        = ((tower.put write).get? place).map (lastContent? place writes).getD :=
      ih (tower.put write)
    rw [hstep, get?_put, Option.map_map]
    -- The first write counts only where none of the later ones goes to the place.
    refine congrArg (Option.map · _) (funext fun before => ?_)
    simp only [lastContent?, Function.comp_apply]
    cases hw : write.content? place with
    | none => simp only [List.filterMap_cons, hw, Option.getD_none]
    | some content => simp only [List.filterMap_cons, hw, Option.getD_some, List.getLast?_cons]

/-- A write to another layer gives a place nothing. -/
theorem content?_of_layer_ne {write : Write} {place : Place} (h : write.layer ≠ place.layer) :
    write.content? place = none := by
  cases write with
  | socket write =>
    cases place with
    | socket field => exact absurd rfl h
    | tunnel index key => rfl
  | tunnel index write =>
    cases place with
    | socket field => rfl
    | tunnel other key =>
      have hne : index ≠ other := by
        intro he
        rw [he] at h
        exact h rfl
      rw [Write.content?, if_neg hne]

theorem get?_putAll_of_layer_ne {tower : Tower} {writes : List Write} {place : Place}
    (h : ∀ write ∈ writes, write.layer ≠ place.layer) :
    (tower.putAll writes).get? place = tower.get? place := by
  have hnone : lastContent? place writes = none := by
    rw [lastContent?, List.filterMap_eq_nil_iff.2 fun write hm => content?_of_layer_ne (h write hm)]
    rfl
  rw [get?_putAll, hnone]
  exact Option.map_id'

end Tower

/-! ## Runs -/

namespace Tower

/-- **The last write wins.** After any run of calls on a new tower every place holds what the last
of the run's writes to it gave it, or what it was made with. A call writes to the layers it reaches
and to no other, and how it is answered tells which of its writes were made. And no call by name, on
whatever layer, changes anything above the lowest tunnel. -/
theorem last_write_wins (depth : Nat) (calls : List (Nat × Call)) :
    (∀ place : Place, place.layer ≤ depth →
      (run calls (new depth)).tower.get? place
        = some ((lastContent? place (writesOfRun calls)).getD place.initial))
    ∧ (∀ layer (call : Call), ∀ write ∈ call.writes layer, call.Reaches layer write.layer)
    ∧ (∀ layer call tower, (perform layer call tower).answer = call.reply layer)
    ∧ (∀ layer (call : Call) tower place, call.isByName = true → 1 < place.layer →
      (perform layer call tower).tower.get? place = tower.get? place) := by
  refine ⟨fun place hplace => ?_, fun layer call write hm => Call.reaches_of_mem_writes hm,
    perform_answer, fun layer call tower place hname hplace => ?_⟩
  · rw [run_tower, get?_putAll, get?_new hplace]
    rfl
  · rw [perform_tower]
    refine get?_putAll_of_layer_ne fun write hm => ?_
    have hle : write.layer ≤ 1 := Call.layer_le_one_of_isByName hname hm
    exact Nat.ne_of_lt (Nat.lt_of_le_of_lt hle hplace)

/-- A run on two tunnels whose second bulk write fails at a name of the socket's. -/
def mixedRun : List (Nat × Call) :=
  [(2, .setOption "serverPath" (.text "/a")), (2, .writeTunnel (.serverPath "/b")),
    (1, .writeTunnel (.serverPath "/c")), (2, .writeSocket (.keepAlive true)),
    (2, .setOptions { entries := [("serverPath", .text "/d"), ("trafficClass", .int 256),
      ("keepAlive", .bool false)] })]

theorem last_write_wins_mixed :
    (Place.tunnel 1 .serverPath).layer ≤ 2
    ∧ (run mixedRun (new 2)).tower.get? (.tunnel 0 .serverPath) = some "/d"
    ∧ (run mixedRun (new 2)).tower.get? (.tunnel 1 .serverPath) = some "/b"
    ∧ (run mixedRun (new 2)).tower.get? (.socket .keepAlive) = some true
    ∧ Write.tunnel 0 (.serverPath "/a") ∈ (Call.setOption "serverPath" (.text "/a")).writes 2
    ∧ (Call.setOption "serverPath" (.text "/a")).Reaches 2 1
    ∧ (Call.setOption "serverPath" (.text "/a")).isByName = true
    ∧ 1 < (Place.tunnel 1 .serverPath).layer
    ∧ (perform 2 (.setOption "serverPath" (.text "/a")) (new 2)).tower.get? (.tunnel 1 .serverPath)
      = (new 2).get? (.tunnel 1 .serverPath) := by
  obtain ⟨hplaces, hreaches, -, hname⟩ := last_write_wins 2 mixedRun
  have hmem : Write.tunnel 0 (.serverPath "/a")
      ∈ (Call.setOption "serverPath" (.text "/a")).writes 2 := List.mem_singleton.2 rfl
  have habove : 1 < (Place.tunnel 1 .serverPath).layer := by decide
  refine ⟨by decide, ?_, ?_, ?_, hmem, hreaches 2 _ _ hmem, rfl, habove,
    hname 2 _ (new 2) _ rfl habove⟩
  · exact (hplaces (.tunnel 0 .serverPath) (by decide)).trans rfl
  · exact (hplaces (.tunnel 1 .serverPath) (by decide)).trans rfl
  · exact (hplaces (.socket .keepAlive) (by decide)).trans rfl

end Tower

end TunnelOptions
