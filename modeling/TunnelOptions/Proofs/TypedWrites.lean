import TunnelOptions.Proofs.Decimal
import TunnelOptions.Proofs.Routing

/-!
# Writing by name and typed writes agree

Every option can be written in two ways: by name, with a value that is read first, and by a typed
write of its own. Where a value means what a typed write says, the two come to the same on every
layer. An integer may be given as itself or written out in decimal with white space around it, and
it goes through the checks of the socket either way.

What a value means under a key is a relation, written down key by key without a look at the readers.
So the statement says which typed write belongs to which key, and it would not be true if a key were
read as another attribute. The relation has as many cases as there are attributes, and two of them
for what may be absent; that each is what the value is read as is one case analysis. From there on
the two ways meet, because a write by name and a typed write are checked and stored by the same
functions.

The one difficult reading is that of an integer from its text. Its digits are visible characters, so
exactly the white space around them goes, and they are read back as the number they were made of.

* `Value.GivesInt`: the values that give a 32-bit integer.
* `Socket.Key.Means`, `Tunnel.Key.Means`: the typed write that a value means under a key.
* `Socket.Key.read_of_means`, `Tunnel.Key.read_of_means`: it is what the value is read as.
* `Tower.keyed_writes_agree_with_typed`: both ways come to the same.
-/

set_option autoImplicit false

namespace TunnelOptions

/-! ## Integers as values

The text may have any white space around it, on either side and of any kind that is one. -/

/-- A value gives an integer of 32 bits as itself, or written out with any white space around it. -/
inductive Value.GivesInt (n : Int32) : Value → Prop where
  | int : GivesInt n (.int (Number.widen n))
  | text {before after : String} (hbefore : ∀ c ∈ before.toList, Text.isBlank c = true)
      (hafter : ∀ c ∈ after.toList, Text.isBlank c = true) :
      GivesInt n (.text (before ++ toString n.toInt ++ after))

theorem fitInt32_widen (n : Int32) : fitInt32 (Number.widen n) = .ok n := by
  have hlow := n.le_toInt
  have hhigh := n.toInt_lt
  have hnarrow : Number.narrow (Number.widen n) = some n := by
    rw [Number.narrow, Number.toInt_widen, if_pos (by omega), Int32.ofInt_toInt]
  rw [fitInt32, hnarrow]

theorem not_isBlank_of_mem_toString {n : Int} {c : Char} (h : c ∈ (toString n).toList) :
    Text.isBlank c = false := by
  rw [Number.toList_toString, Number.signOf] at h
  rcases List.mem_append.1 h with hsign | hdigit
  · split at hsign
    · exact absurd hsign List.not_mem_nil
    · rw [List.mem_singleton.1 hsign]
      decide
  · exact Text.not_isBlank_of_isDigit (Number.isDigit_of_mem_digitsOf hdigit)

/-- **An integer that is written out is read as itself**, whatever white space is around it. -/
theorem readInt32_toString (n : Int32) {before after : String}
    (hbefore : ∀ c ∈ before.toList, Text.isBlank c = true)
    (hafter : ∀ c ∈ after.toList, Text.isBlank c = true) :
    readInt32 (before ++ toString n.toInt ++ after) = .ok n := by
  have htrim :
      Text.trim (before ++ toString n.toInt ++ after).toList = (toString n.toInt).toList := by
    rw [String.toList_append, String.toList_append]
    exact Text.trim_surrounded hbefore (fun c => not_isBlank_of_mem_toString) hafter
  have hread : Number.readInt64 (toString n.toInt).toList = .ok (Number.widen n) := by
    rw [Number.toList_toString, ← Number.toInt_widen]
    exact Number.readInt64_toString (Number.widen n)
  rw [readInt32, htrim, hread]
  exact fitInt32_widen n

theorem Value.asInt32_of_givesInt {value : Value} {n : Int32} (h : value.GivesInt n) :
    value.asInt32 = .ok n := by
  cases h with
  | int => exact fitInt32_widen n
  | text hbefore hafter => exact readInt32_toString n hbefore hafter

/-! ## What values mean under keys -/

/-- The typed write that a value means under a key of the socket's. -/
inductive Socket.Key.Means : Key → Value → Write → Prop where
  | receiveBufferSize {value : Value} {size : Int32} (h : value.GivesInt size) :
    Means .receiveBufferSize value (.receiveBufferSize size)
  | sendBufferSize {value : Value} {size : Int32} (h : value.GivesInt size) :
    Means .sendBufferSize value (.sendBufferSize size)
  | soLinger {value : Value} {seconds : Int32} (h : value.GivesInt seconds) :
    Means .soLinger value (.soLinger seconds)
  | trafficClass {value : Value} {octet : Int32} (h : value.GivesInt octet) :
    Means .trafficClass value (.trafficClass octet)
  | connectTimeoutMillis {value : Value} {millis : Int32} (h : value.GivesInt millis) :
    Means .connectTimeoutMillis value (.connectTimeoutMillis millis)
  | keepAlive (flag : Bool) : Means .keepAlive (.bool flag) (.keepAlive flag)
  | reuseAddress (flag : Bool) : Means .reuseAddress (.bool flag) (.reuseAddress flag)
  | tcpNoDelay (flag : Bool) : Means .tcpNoDelay (.bool flag) (.tcpNoDelay flag)
  | bufferFactory (factory : BufferFactory) :
    Means .bufferFactory (.bufferFactory factory) (.bufferFactory factory)
  | pipelineFactory (factory : PipelineFactory) :
    Means .pipelineFactory (.pipelineFactory factory) (.pipelineFactory factory)

theorem Socket.Key.read_of_means {key : Key} {value : Value} {write : Write}
    (h : key.Means value write) : key.read value = .ok write := by
  cases h with
  | receiveBufferSize h | sendBufferSize h | soLinger h | trafficClass h | connectTimeoutMillis h =>
    rw [read, Value.asInt32_of_givesInt h]
    rfl
  | keepAlive | reuseAddress | tcpNoDelay | bufferFactory | pipelineFactory => rfl

/-- The typed write that a value means under a key of tunnels. The explicit nothing clears what may
be absent. -/
inductive Tunnel.Key.Means : Key → Value → Write → Prop where
  | serverName (name : String) : Means .serverName (.text name) (.serverName (some name))
  | noServerName : Means .serverName .null (.serverName none)
  | serverPath (path : String) : Means .serverPath (.text path) (.serverPath path)
  | sslContext (context : Tls.Context) :
    Means .sslContext (.tlsContext context) (.sslContext (some context))
  | noSslContext : Means .sslContext .null (.sslContext none)
  | enabledSslCipherSuites (names : List String) :
    Means .enabledSslCipherSuites (.texts names) (.enabledSslCipherSuites (some names))
  | allSslCipherSuites : Means .enabledSslCipherSuites .null (.enabledSslCipherSuites none)
  | enabledSslProtocols (names : List String) :
    Means .enabledSslProtocols (.texts names) (.enabledSslProtocols (some names))
  | allSslProtocols : Means .enabledSslProtocols .null (.enabledSslProtocols none)
  | enableSslSessionCreation (flag : Bool) :
    Means .enableSslSessionCreation (.bool flag) (.enableSslSessionCreation flag)

theorem Tunnel.Key.read_of_means {key : Key} {value : Value} {write : Write}
    (h : key.Means value write) : key.read value = .ok write := by
  cases h <;> rfl

/-! ## Both ways

On the socket a typed write may be refused, and then so is the value, with the same fault. Tunnels
refuse nothing. -/

namespace Tower

theorem setOption_of_socketMeans {key : Socket.Key} {value : Value} {write : Socket.Write}
    (h : key.Means value write) (layer : Nat) (tower : Tower) :
    (setOption layer key.name value tower).answer
        = (tower.writeSocket layer write).map (fun _ => true)
      ∧ (setOption layer key.name value tower).tower
        = (perform layer (.writeSocket write) tower).tower := by
  have hread : (key.read value >>= Socket.Write.checked) = write.checked := by
    rw [Socket.Key.read_of_means h]
    rfl
  rw [perform, setOption_of_socketKey (Socket.Key.ofName?_name key), hread, writeSocket_checked]
  cases write.checked <;> exact ⟨rfl, rfl⟩

theorem setOption_of_tunnelMeans {name : String} {key : Tunnel.Key} {value : Value}
    {write : Tunnel.Write} (hname : Tunnel.Key.ofName? name = some key)
    (h : key.Means value write) (layer : Nat) (tower : Tower) :
    (setOption (layer + 1) name value tower).outcome = (.ok true, tower.writeTunnel 1 write) := by
  rw [setOption_of_tunnelKey (ofName?_eq_none_of_tunnelKey hname) hname,
    Tunnel.Key.read_of_means h]
  rfl

/-- **Writing by name and typed writes agree.** Under a key of the socket's, a value that means a
typed write is taken or refused as that write is on the same layer, with the same fault, and leaves
the same tower. Under a name of tunnels, canonical or not, it does on every tunnel what the typed
write does on the lowest. -/
theorem keyed_writes_agree_with_typed (layer : Nat) (tower : Tower) :
    (∀ (key : Socket.Key) value write, key.Means value write →
      (setOption layer key.name value tower).answer
          = (tower.writeSocket layer write).map (fun _ => true)
        ∧ (setOption layer key.name value tower).tower
          = (perform layer (.writeSocket write) tower).tower)
    ∧ ∀ name (key : Tunnel.Key) value write, Tunnel.Key.ofName? name = some key →
      key.Means value write →
      (setOption (layer + 1) name value tower).outcome
        = (.ok true, (perform 1 (.writeTunnel write) tower).tower) :=
  ⟨fun _ _ _ h => setOption_of_socketMeans h layer tower,
    fun _ _ _ _ hname h => setOption_of_tunnelMeans hname h layer tower⟩

/-- A refused timeout between white space of two kinds, a buffer size that is taken, and two aliases
on the second tunnel. -/
theorem keyed_writes_agree_with_typed_surrounded :
    let timeout := Value.text (" \t" ++ toString (-1 : Int32).toInt ++ "\u2003")
    Socket.Key.Means .connectTimeoutMillis timeout (.connectTimeoutMillis (-1))
    ∧ (setOption 2 "connectTimeoutMillis" timeout (new 2)).answer
      = ((new 2).writeSocket 2 (.connectTimeoutMillis (-1))).map (fun _ => true)
    ∧ (setOption 2 "connectTimeoutMillis" timeout (new 2)).answer
      = .error (.invalid "connectTimeoutMillis" (.negative (-1)))
    ∧ (setOption 2 "sendBufferSize" (.int (Number.widen 4096)) (new 2)).tower
      = (perform 2 (.writeSocket (.sendBufferSize 4096)) (new 2)).tower
    ∧ Tunnel.Key.ofName? "allowSessionCreation" = some .enableSslSessionCreation
    ∧ (setOption 2 "allowSessionCreation" (.bool false) (new 2)).outcome
      = (.ok true, (perform 1 (.writeTunnel (.enableSslSessionCreation false)) (new 2)).tower)
    ∧ (setOption 2 "enabledProtocols" .null (new 2)).outcome
      = (.ok true, (perform 1 (.writeTunnel (.enabledSslProtocols none)) (new 2)).tower) := by
  intro timeout
  obtain ⟨hsocket, -⟩ := keyed_writes_agree_with_typed 2 (new 2)
  obtain ⟨-, htunnel⟩ := keyed_writes_agree_with_typed 1 (new 2)
  have hmeans : Socket.Key.Means .connectTimeoutMillis timeout (.connectTimeoutMillis (-1)) :=
    .connectTimeoutMillis (.text (List.all_eq_true.1 rfl) (List.all_eq_true.1 rfl))
  have hrefused := (hsocket _ _ _ hmeans).1
  exact ⟨hmeans, hrefused, hrefused.trans rfl,
    (hsocket .sendBufferSize _ _ (.sendBufferSize .int)).2, rfl,
    htunnel _ _ _ _ rfl (.enableSslSessionCreation false), htunnel _ _ _ _ rfl .allSslProtocols⟩

end Tower

end TunnelOptions
