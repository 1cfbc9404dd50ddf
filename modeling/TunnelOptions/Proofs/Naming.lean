import TunnelOptions.Proofs.Overwriting

/-!
# What names stand for

A tunnel knows the options of the socket and those of tunnels, and what it does about a name is a
matter of the option that the name stands for: which value is taken, where it goes, and which name a
fault carries. A fault carries the canonical name, also where an alias was given; a report puts the
name beside it that was given. None of this looks at what the tower holds.

The keys of the socket and of tunnels are two types, and a tunnel looks names up in both.
`OptionKey` is the two together, so that there is one look-up, one canonical name and one place for
each option, and statements about names need not be made twice. It is sound to do so because no name
is in both vocabularies; that is checked once, by going through the tunnel's names.

The rest of the module says that an option determines what becomes of a value. What is read under it
goes to its place and nowhere else, and what is refused under it is its own fault. These two are
what the statements about reports, aliases and the order of entries are made of.

* `OptionKey`, `OptionKey.ofName?`: the options a tunnel knows, and the one that a name stands for.
* `OptionKey.place_of_read`, `OptionKey.fault_of_read`: where a value taken under an option goes,
  and whose fault there is when it is not taken.
* `Tower.resolve_succ_eq`: a write by name, through the option that the name stands for.
* `Tower.exists_key_of_resolve_eq_error`, `Tower.exists_key_of_mem_writes`: whose its fault is, and
  where its write goes.
* `Tower.mem_failed_reportOf`: the failures of a report are those of entries.
* `Tower.report_by_options_alone`: reports do not depend on what towers hold.
-/

set_option autoImplicit false

namespace TunnelOptions

/-! ## Attributes of the socket

A value under a key can be refused twice, by the reading and by the check, and both times the fault
is about the key. The check only knows the attribute, so the two have to be matched. -/

namespace Socket

/-- The attribute that is written under a key. -/
def Key.field : Key → Field
  | .receiveBufferSize => .receiveBufferSize
  | .sendBufferSize => .sendBufferSize
  | .soLinger => .soLinger
  | .trafficClass => .trafficClass
  | .keepAlive => .keepAlive
  | .reuseAddress => .reuseAddress
  | .tcpNoDelay => .tcpNoDelay
  | .connectTimeoutMillis => .connectTimeoutMillis
  | .bufferFactory => .bufferFactory
  | .pipelineFactory => .pipelineFactory

/-- No two keys write the same attribute. -/
theorem Key.field_inj {key other : Key} (h : key.field = other.field) : key = other := by
  have hall : ∀ key ∈ all, ∀ other ∈ all, key.field = other.field → key = other := by decide
  exact hall key (mem_all key) other (mem_all other) h

/-- The socket has no aliases. -/
theorem Key.name_of_ofName? {name : String} {key : Key} (h : ofName? name = some key) :
    key.name = name := by
  have hfound := List.find?_some h
  exact eq_of_beq hfound

theorem Key.field_of_read {key : Key} {value : Value} {write : Write}
    (h : key.read value = .ok write) : write.field = key.field := by
  have hread := Reason.eq_ok_of_about h
  cases key <;> (
    obtain ⟨content, -, rfl⟩ := exists_of_map_eq_ok hread
    rfl)

/-- A check leaves a write at its attribute. -/
theorem Write.field_of_checked {write taken : Write} (h : write.checked = .ok taken) :
    taken.field = write.field := by
  cases write with
  | receiveBufferSize | sendBufferSize | trafficClass | connectTimeoutMillis =>
    obtain ⟨content, -, rfl⟩ := exists_of_map_eq_ok h
    rfl
  | soLinger | keepAlive | reuseAddress | tcpNoDelay | performance | bufferFactory
  | pipelineFactory =>
    cases h
    rfl

/-- A check has one fault. -/
theorem eq_of_check_eq_error {α : Type} {c : Prop} [Decidable c] {a : α} {fault other : OptionFault}
    (h : (if c then Except.ok a else .error fault) = .error other) : other = fault := by
  split at h
  · cases h
  · exact (Except.error.inj h).symm

/-- The fault of a check is about the attribute that was to be written. -/
theorem Write.fault_of_checked {write : Write} {fault : OptionFault}
    (h : write.checked = .error fault) :
    ∃ (key : Key) (reason : Reason), key.field = write.field
      ∧ fault = .invalid key.name reason := by
  cases write with
  | receiveBufferSize size =>
    exact ⟨.receiveBufferSize, _, rfl, eq_of_check_eq_error (eq_error_of_map_eq_error h)⟩
  | sendBufferSize size =>
    exact ⟨.sendBufferSize, _, rfl, eq_of_check_eq_error (eq_error_of_map_eq_error h)⟩
  | trafficClass octet =>
    exact ⟨.trafficClass, _, rfl, eq_of_check_eq_error (eq_error_of_map_eq_error h)⟩
  | connectTimeoutMillis millis =>
    exact ⟨.connectTimeoutMillis, _, rfl, eq_of_check_eq_error (eq_error_of_map_eq_error h)⟩
  | soLinger | keepAlive | reuseAddress | tcpNoDelay | performance | bufferFactory
  | pipelineFactory => cases h

end Socket

/-! ## Attributes of tunnels -/

namespace Tunnel

theorem Key.key_of_read {key : Key} {value : Value} {write : Write}
    (h : key.read value = .ok write) : write.key = key := by
  have hread := Reason.eq_ok_of_about h
  cases key <;> (
    obtain ⟨content, -, rfl⟩ := exists_of_map_eq_ok hread
    rfl)

end Tunnel

/-! ## Options

An option of tunnels is kept on the lowest tunnel, whichever tunnel is asked. So an option has one
place, and it does not depend on the layer. -/

/-- An option that tunnels know by name, the socket's or one of their own. Two names of one option
are one of these, and every name that is known is the name of one. -/
inductive OptionKey where
  | socket (key : Socket.Key)
  | tunnel (key : Tunnel.Key)
  deriving DecidableEq, Repr

namespace OptionKey

/-- The canonical name of an option. -/
def name : OptionKey → String
  | .socket key => key.name
  | .tunnel key => key.name

/-- The option that a name, canonical or not, stands for on a tunnel. -/
def ofName? (name : String) : Option OptionKey :=
  match Socket.Key.ofName? name with
  | some key => some (.socket key)
  | none => (Tunnel.Key.ofName? name).map .tunnel

theorem ofName?_eq_socket_iff {name : String} {key : Socket.Key} :
    ofName? name = some (.socket key) ↔ Socket.Key.ofName? name = some key := by
  unfold ofName?
  cases Socket.Key.ofName? name <;> simp

/-- A name of tunnels is none of the socket's, which would come first. -/
theorem ofName?_eq_tunnel_iff {name : String} {key : Tunnel.Key} :
    ofName? name = some (.tunnel key) ↔ Tunnel.Key.ofName? name = some key := by
  unfold ofName?
  cases hs : Socket.Key.ofName? name with
  | none => simp
  | some socketKey =>
    have hno : Tunnel.Key.ofName? name ≠ some key := fun h => by
      rw [Tower.ofName?_eq_none_of_tunnelKey h] at hs
      cases hs
    simp [hno]

/-- Where an option is kept, however many tunnels there are: on the socket or the lowest tunnel. -/
def place : OptionKey → Tower.Place
  | .socket key => .socket key.field
  | .tunnel key => .tunnel 0 key

/-- The write that a value comes to under an option. -/
def read (value : Value) : OptionKey → Except OptionFault Tower.Write
  | .socket key => (key.read value >>= Socket.Write.checked).map .socket
  | .tunnel key => (key.read value).map (.tunnel 0)

/-- No two options are kept in the same place. -/
theorem place_inj {key other : OptionKey} (h : key.place = other.place) : key = other := by
  cases key with
  | socket key =>
    cases other with
    | socket other => exact congrArg socket (Socket.Key.field_inj (Tower.Place.socket.inj h))
    | tunnel other => cases h
  | tunnel key =>
    cases other with
    | socket other => cases h
    | tunnel other => exact congrArg tunnel (Tower.Place.tunnel.inj h).2

/-- **What is read under an option goes to its place.** -/
theorem place_of_read {key : OptionKey} {value : Value} {write : Tower.Write}
    (h : key.read value = .ok write) : write.place = key.place := by
  cases key with
  | socket key =>
    obtain ⟨taken, htaken, rfl⟩ := exists_of_map_eq_ok h
    obtain ⟨raw, hraw, hchecked⟩ := exists_of_bind_eq_ok htaken
    have hfield : taken.field = key.field :=
      (Socket.Write.field_of_checked hchecked).trans (Socket.Key.field_of_read hraw)
    exact congrArg Tower.Place.socket hfield
  | tunnel key =>
    obtain ⟨taken, htaken, rfl⟩ := exists_of_map_eq_ok h
    exact congrArg (Tower.Place.tunnel 0) (Tunnel.Key.key_of_read htaken)

/-- **What is not taken under an option is its fault**, under its canonical name. -/
theorem fault_of_read {key : OptionKey} {value : Value} {fault : OptionFault}
    (h : key.read value = .error fault) : ∃ reason, fault = .invalid key.name reason := by
  cases key with
  | socket key =>
    have hread := eq_error_of_map_eq_error h
    cases hraw : key.read value with
    | error first =>
      rw [hraw] at hread
      cases hread
      exact Reason.exists_of_about_eq_error hraw
    | ok raw =>
      rw [hraw] at hread
      obtain ⟨checked, reason, hfield, hfault⟩ := Socket.Write.fault_of_checked hread
      have hkey : checked = key :=
        Socket.Key.field_inj (hfield.trans (Socket.Key.field_of_read hraw))
      exact ⟨reason, hkey ▸ hfault⟩
  | tunnel key => exact Reason.exists_of_about_eq_error (eq_error_of_map_eq_error h)

end OptionKey

/-! ## Writes by name -/

namespace Tower

/-- **A tunnel looks at a name for the option that it stands for**, and at nothing else of it. -/
theorem resolve_succ_eq (layer : Nat) (name : String) (value : Value) :
    resolve (layer + 1) name value =
      match OptionKey.ofName? name with
      | none => .ok none
      | some key => (key.read value).map some := by
  unfold resolve OptionKey.ofName?
  cases Socket.Key.ofName? name with
  | some key =>
    dsimp only [OptionKey.read]
    cases key.read value >>= Socket.Write.checked <;> rfl
  | none =>
    cases Tunnel.Key.ofName? name with
    | none => rfl
    | some key =>
      dsimp only [OptionKey.read, Option.map_some]
      cases key.read value <;> rfl

/-- A fault is that of the option that the name stands for. -/
theorem exists_key_of_resolve_eq_error {layer : Nat} {name : String} {value : Value}
    {fault : OptionFault} (h : resolve (layer + 1) name value = .error fault) :
    ∃ (key : OptionKey) (reason : Reason), OptionKey.ofName? name = some key
      ∧ fault = .invalid key.name reason := by
  rw [resolve_succ_eq] at h
  cases hkey : OptionKey.ofName? name with
  | none =>
    rw [hkey] at h
    cases h
  | some key =>
    rw [hkey] at h
    obtain ⟨reason, hfault⟩ := OptionKey.fault_of_read (eq_error_of_map_eq_error h)
    exact ⟨key, reason, rfl, hfault⟩

/-- A write by name goes to the place of the option that the name stands for. -/
theorem exists_key_of_mem_writes {layer : Nat} {name : String} {value : Value} {write : Write}
    (h : write ∈ (resolve (layer + 1) name value).writes) :
    ∃ key, OptionKey.ofName? name = some key ∧ write.place = key.place := by
  rw [resolve_succ_eq] at h
  cases hkey : OptionKey.ofName? name with
  | none =>
    rw [hkey] at h
    cases h
  | some key =>
    rw [hkey] at h
    cases hread : key.read value with
    | error fault =>
      simp only [hread] at h
      cases h
    | ok taken =>
      simp only [hread] at h
      rw [List.mem_singleton.1 h]
      exact ⟨key, rfl, OptionKey.place_of_read hread⟩

/-! ## Reports -/

/-- What a report lists as failed has failed, under the name that was given. -/
theorem mem_failed_reportOf {policy : Policy} {verdicts : List (String × Verdict)} {name : String}
    {fault : OptionFault} (h : (name, fault) ∈ (reportOf policy verdicts).failed) :
    (name, .error fault) ∈ verdicts := by
  induction verdicts with
  | nil => cases h
  | cons entry verdicts ih =>
    obtain ⟨other, verdict⟩ := entry
    cases verdict with
    | error first =>
      have hmem : (name, fault) = (other, first)
          ∨ (name, fault) ∈ (reportOf policy verdicts).failed := by
        cases policy with
        | failFast => exact .inl (List.mem_singleton.1 h)
        | bestEffort => exact List.mem_cons.1 h
      rcases hmem with heq | hlater
      · cases heq
        exact List.mem_cons_self
      · exact List.mem_cons_of_mem _ (ih hlater)
    | ok write =>
      have hlater : (name, fault) ∈ (reportOf policy verdicts).failed := by
        cases write <;> exact h
      exact List.mem_cons_of_mem _ (ih hlater)

/-- **What a bulk write reports is a matter of its options alone.** Whatever two towers hold, and
however many tunnels they have, all their tunnels make the same report of the same options. Every
failure in it is that of an entry, is listed under the name that was given, and carries the
canonical name of the option that this name stands for. -/
theorem report_by_options_alone (options : OptionMap) (policy : Policy) :
    (∀ layer otherLayer tower other,
      (applyOptions (layer + 1) options policy tower).answer
        = (applyOptions (otherLayer + 1) options policy other).answer)
    ∧ ∀ layer tower name fault,
      (name, fault) ∈ (applyOptions (layer + 1) options policy tower).answer.failed →
      ∃ (value : Value) (key : OptionKey) (reason : Reason),
        (name, value) ∈ options.entries ∧ OptionKey.ofName? name = some key
        ∧ fault = .invalid key.name reason := by
  refine ⟨fun layer otherLayer tower other => ?_, fun layer tower name fault hfailed => ?_⟩
  · rw [applyOptions_answer, applyOptions_answer, verdicts_succ layer, verdicts_succ otherLayer]
  · rw [applyOptions_answer] at hfailed
    obtain ⟨⟨given, value⟩, hentry, hverdict⟩ := List.mem_map.1 (mem_failed_reportOf hfailed)
    obtain ⟨rfl, hfault⟩ := Prod.mk.inj hverdict
    obtain ⟨key, reason, hkey, hcanonical⟩ := exists_key_of_resolve_eq_error hfault
    exact ⟨value, key, reason, hentry, hkey, hcanonical⟩

/-- Options of which two aliases and a name of the socket's are refused. -/
def refusedByName : OptionMap where
  entries := [("serverName", .text "h"), ("allowSessionCreation", .text "sometimes"),
    ("bogus", .null), ("trafficClass", .text " 256 "), ("enabledProtocols", .int 3)]

/-- A new tower, and a deeper one that has been written to already: the fault of the alias is told
under the canonical name. -/
theorem report_by_options_alone_aliased :
    let used := (applyOptions 2 refusedByName .bestEffort (new 3)).tower
    (applyOptions 1 refusedByName .bestEffort (new 1)).answer
      = (applyOptions 3 refusedByName .bestEffort used).answer
    ∧ ("allowSessionCreation", .invalid "enableSslSessionCreation" (.noBoolean "sometimes"))
      ∈ (applyOptions 3 refusedByName .bestEffort used).answer.failed
    ∧ ∃ (value : Value) (key : OptionKey) (reason : Reason),
      ("allowSessionCreation", value) ∈ refusedByName.entries
      ∧ OptionKey.ofName? "allowSessionCreation" = some key
      ∧ OptionFault.invalid "enableSslSessionCreation" (.noBoolean "sometimes")
        = .invalid key.name reason := by
  intro used
  obtain ⟨hsame, hfailed⟩ := report_by_options_alone refusedByName .bestEffort
  have hmem : ("allowSessionCreation",
        OptionFault.invalid "enableSslSessionCreation" (.noBoolean "sometimes"))
      ∈ (applyOptions 3 refusedByName .bestEffort used).answer.failed := by
    have hreport : (applyOptions 3 refusedByName .bestEffort used).answer.failed
        = [("allowSessionCreation", .invalid "enableSslSessionCreation" (.noBoolean "sometimes")),
          ("trafficClass", .invalid "trafficClass" (.noByte 256)),
          ("enabledProtocols", .invalid "enabledSslProtocols" (.mismatch .texts .integer))] := rfl
    rw [hreport]
    exact List.mem_cons_self
  exact ⟨hsame 0 2 (new 1) used, hmem, hfailed 2 used _ _ hmem⟩

end Tower

end TunnelOptions
