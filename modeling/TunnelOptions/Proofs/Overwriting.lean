import TunnelOptions.Proofs.LastWrite

/-!
# Overwriting

A write stores what it carries in one place and looks at nothing that is there. So a tower is told
by what its places hold, and these by the last write to each; the writes in between leave no trace,
and writes to different places can be made in any order. That is why an option map can be written
again: the second pass goes through values that the first has already replaced, and ends with the
same ones.

The argument is made once, for lists of writes. Two lists leave the same tower when each place has
the same last write in both (`putAll_congr`). Writing twice, in another order, or over what was
written before are then facts about the last element of a list, with no tower in them.

Written again, a map has the same answer as well. That needs no argument about towers at all,
because answers do not depend on what a tower holds.

* `Tower.ext_get?`: a tower is what its places hold.
* `Tower.Write.place`, `Tower.Write.isSome_content?_iff`: the one place that a write goes to.
* `Tower.putAll_congr`: only the last write to each place counts.
* `Tower.put_put`, `Tower.put_comm`: two writes to the same place, and to different ones.
* `Tower.putAll_putAll`, `Tower.perform_perform`: some writes made again, and so a call.
* `Tower.bulk_writes_idempotent`: option maps written again.
-/

set_option autoImplicit false

namespace TunnelOptions

attribute [ext] Socket Tunnel Tower

/-! ## Attributes

A socket and a tunnel are told by their attributes, and a write goes to exactly one of them. These
are the only facts that are proved by going through the attributes. -/

namespace Socket

theorem ext_get {socket other : Socket} (h : ∀ field, socket.get field = other.get field) :
    socket = other :=
  Socket.ext (h .receiveBufferSize) (h .sendBufferSize) (h .soLinger) (h .trafficClass)
    (h .keepAlive) (h .reuseAddress) (h .tcpNoDelay) (h .connectTimeoutMillis) (h .performance)
    (h .bufferFactory) (h .pipelineFactory)

/-- The attribute a write goes to. -/
def Write.field : Write → Field
  | .receiveBufferSize _ => .receiveBufferSize
  | .sendBufferSize _ => .sendBufferSize
  | .soLinger _ => .soLinger
  | .trafficClass _ => .trafficClass
  | .keepAlive _ => .keepAlive
  | .reuseAddress _ => .reuseAddress
  | .tcpNoDelay _ => .tcpNoDelay
  | .connectTimeoutMillis _ => .connectTimeoutMillis
  | .performance _ => .performance
  | .bufferFactory _ => .bufferFactory
  | .pipelineFactory _ => .pipelineFactory

theorem Write.isSome_content? (write : Write) (field : Field) :
    (write.content? field).isSome = decide (write.field = field) := by
  cases write <;> cases field <;> rfl

end Socket

namespace Tunnel

theorem ext_get {tunnel other : Tunnel} (h : ∀ key, tunnel.get key = other.get key) :
    tunnel = other :=
  Tunnel.ext (h .serverName) (h .serverPath) (h .sslContext) (h .enabledSslCipherSuites)
    (h .enabledSslProtocols) (h .enableSslSessionCreation)

/-- The key of the attribute a write goes to. -/
def Write.key : Write → Key
  | .serverName _ => .serverName
  | .serverPath _ => .serverPath
  | .sslContext _ => .sslContext
  | .enabledSslCipherSuites _ => .enabledSslCipherSuites
  | .enabledSslProtocols _ => .enabledSslProtocols
  | .enableSslSessionCreation _ => .enableSslSessionCreation

theorem Write.isSome_content? (write : Write) (key : Key) :
    (write.content? key).isSome = decide (write.key = key) := by
  cases write <;> cases key <;> rfl

end Tunnel

namespace Tower

/-! ## Places -/

/-- **A tower is what its places hold.** A place of a layer that is not there holds nothing, so they
also tell how many tunnels there are. -/
theorem ext_get? {tower other : Tower} (h : ∀ place, tower.get? place = other.get? place) :
    tower = other := by
  have hsocket : tower.socket = other.socket :=
    Socket.ext_get fun field => Option.some.inj (h (.socket field))
  have htunnels : tower.tunnels = other.tunnels := by
    refine List.ext_getElem? fun index => ?_
    have hkeys (key : Tunnel.Key) :
        (tower.tunnels[index]?).map (·.get key) = (other.tunnels[index]?).map (·.get key) :=
      h (.tunnel index key)
    -- Any one key tells whether there is a tunnel.
    cases hhere : tower.tunnels[index]? with
    | none =>
      rw [hhere] at hkeys
      exact (Option.map_eq_none_iff.1 (hkeys .serverName).symm).symm
    | some tunnel =>
      rw [hhere] at hkeys
      obtain ⟨there, hthere, -⟩ := Option.map_eq_some_iff.1 (hkeys .serverName).symm
      rw [hthere] at hkeys ⊢
      exact congrArg some (Tunnel.ext_get fun key => Option.some.inj (hkeys key))
  exact Tower.ext hsocket htunnels

/-- The place a write goes to. -/
def Write.place : Write → Place
  | .socket write => .socket write.field
  | .tunnel index write => .tunnel index write.key

/-- **A write goes to its place and to no other.** -/
theorem Write.isSome_content?_iff {write : Write} {place : Place} :
    (write.content? place).isSome = true ↔ write.place = place := by
  cases write with
  | socket write =>
    cases place with
    | socket field => simp [Write.content?, Write.place, Socket.Write.isSome_content?]
    | tunnel index key => simp [Write.content?, Write.place]
  | tunnel index write =>
    cases place with
    | socket field => simp [Write.content?, Write.place]
    | tunnel other key =>
      by_cases hindex : index = other
      · simp [Write.content?, Write.place, hindex, Tunnel.Write.isSome_content?]
      · simp [Write.content?, Write.place, hindex]

theorem Write.content?_eq_none {write : Write} {place : Place} (h : write.place ≠ place) :
    write.content? place = none := by
  rw [← Option.not_isSome_iff_eq_none, isSome_content?_iff]
  exact h

/-! ## Only the last write to a place counts

The two special cases of two writes follow from the general one by looking at each place: it is the
place of both, of one of them, or of neither. -/

theorem lastContent?_append (place : Place) (first second : List Write) :
    lastContent? place (first ++ second)
      = (lastContent? place second).or (lastContent? place first) := by
  rw [lastContent?, List.filterMap_append, List.getLast?_append]
  rfl

theorem lastContent?_singleton (place : Place) (write : Write) :
    lastContent? place [write] = write.content? place := by
  rw [lastContent?]
  cases h : write.content? place <;> simp [h]

/-- Writes that give every place the same last leave the same tower. -/
theorem putAll_congr (tower : Tower) (first second : List Write)
    (h : ∀ place, lastContent? place first = lastContent? place second) :
    tower.putAll first = tower.putAll second :=
  ext_get? fun place => by rw [get?_putAll, get?_putAll, h place]

/-- **A write replaces what was written to its place before.** -/
theorem put_put {first second : Write} (h : first.place = second.place) (tower : Tower) :
    (tower.put first).put second = tower.put second := by
  refine putAll_congr tower ([first] ++ [second]) [second] fun place => ?_
  rw [lastContent?_append, lastContent?_singleton, lastContent?_singleton]
  by_cases hplace : second.place = place
  · obtain ⟨content, hcontent⟩ := Option.isSome_iff_exists.1 (Write.isSome_content?_iff.2 hplace)
    rw [hcontent, Option.some_or]
  · have hfirst : first.content? place = none := Write.content?_eq_none (h ▸ hplace)
    rw [hfirst, Option.or_none]

/-- **Writes to different places can be made in either order.** -/
theorem put_comm {first second : Write} (h : first.place ≠ second.place) (tower : Tower) :
    (tower.put first).put second = (tower.put second).put first := by
  refine putAll_congr tower ([first] ++ [second]) ([second] ++ [first]) fun place => ?_
  rw [lastContent?_append, lastContent?_append, lastContent?_singleton, lastContent?_singleton]
  by_cases hplace : first.place = place
  · have hsecond : second.content? place = none :=
      Write.content?_eq_none fun hother => h (hplace.trans hother.symm)
    rw [hsecond, Option.none_or, Option.or_none]
  · rw [Write.content?_eq_none hplace, Option.none_or, Option.or_none]

/-! ## Writing again -/

/-- **Writes made again leave the tower as they left it.** -/
theorem putAll_putAll (tower : Tower) (writes : List Write) :
    (tower.putAll writes).putAll writes = tower.putAll writes := by
  rw [← putAll_append]
  refine putAll_congr tower (writes ++ writes) writes fun place => ?_
  rw [lastContent?_append, Option.or_self]

/-- **A call made again has the answer that it had, and changes nothing.** -/
theorem perform_perform (layer : Nat) (call : Call) (tower : Tower) :
    (perform layer call (perform layer call tower).tower).outcome
      = (perform layer call tower).outcome := by
  have hanswer : (perform layer call (perform layer call tower).tower).answer
      = (perform layer call tower).answer := by
    rw [perform_answer, perform_answer]
  have htower : (perform layer call (perform layer call tower).tower).tower
      = (perform layer call tower).tower := by
    rw [perform_tower, perform_tower, putAll_putAll]
  exact Prod.ext hanswer htower

/-! ## Option maps -/

/-- **Writing an option map again changes nothing.** Under either policy the report is the one that
there was, and so is the answer without a report, whether the map is written to its end or stops at
an entry that fails. The tower stays as the first pass left it, also where several entries of the
map go to one attribute. -/
theorem bulk_writes_idempotent (layer : Nat) (options : OptionMap) (tower : Tower) :
    (∀ policy, let first := applyOptions layer options policy tower
      (applyOptions layer options policy first.tower).outcome = first.outcome)
    ∧ let first := setOptions layer options tower
      (setOptions layer options first.tower).outcome = first.outcome := by
  constructor
  · intro policy
    obtain ⟨hanswer, htower⟩ :=
      Prod.mk.inj (perform_perform layer (.applyOptions options policy) tower)
    exact Prod.ext (Reply.reported.inj hanswer) htower
  · obtain ⟨hanswer, htower⟩ := Prod.mk.inj (perform_perform layer (.setOptions options) tower)
    exact Prod.ext (Reply.written.inj hanswer) htower

end Tower

end TunnelOptions
