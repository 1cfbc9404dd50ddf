import TunnelOptions.Proofs.Naming
import TunnelOptions.Proofs.TypedWrites

/-!
# Scalars given as text

Whoever writes a settings file may put a number or a truth value in quotes. An option that is not a
list does not mind: what a scalar is read as, the text it is written as is read as, too, and where
one of them is refused so is the other. For a number under an option that wants a number or a truth
value even the fault is the same.

Elsewhere the faults differ, since a fault may say of which kind the value was. So two values are
compared reading by reading, as results without their faults, and `ReadAlike` is the list of the
readings with how well each agrees. It is shown once for a scalar and its text. What an option makes
of the two then follows from which reading it uses, by a case for each key, and no key needs to know
why the readings agree.

Lists are left out because they are the one exception: as a list a text is its items, and a number
is refused.

* `Value.Scalar`: truth values and integers.
* `OptionKey.wanted`: what an option wants its value to be.
* `Value.ReadAlike`, `Value.readAlike_text`: values that are read alike, as a scalar and its text
  are.
* `OptionKey.toOption_read`, `OptionKey.read_text_of_int`: what options make of the two.
* `Tower.text_agrees_with_scalar`: writes by name come to the same.
-/

set_option autoImplicit false

namespace TunnelOptions

/-! ## Results without their faults

Forgetting the fault goes with the two ways in which readings are put together. -/

section Results

variable {ε α β : Type}

theorem toOption_map (f : α → β) (result : Except ε α) :
    (result.map f).toOption = result.toOption.map f := by
  cases result <;> rfl

theorem toOption_bind (result : Except ε α) (next : α → Except ε β) :
    (result >>= next).toOption = result.toOption.bind fun a => (next a).toOption := by
  cases result <;> rfl

end Results

/-! ## What options want

The readers say this too, but only by which reading they use; here it is said as data, for the
hypotheses of the theorems. -/

/-- What a key of the socket's wants its value to be. -/
def Socket.Key.wanted : Key → Wanted
  | .receiveBufferSize | .sendBufferSize | .soLinger | .trafficClass | .connectTimeoutMillis => .int
  | .keepAlive | .reuseAddress | .tcpNoDelay => .bool
  | .bufferFactory => .bufferFactory
  | .pipelineFactory => .pipelineFactory

/-- What a key of tunnels wants its value to be. -/
def Tunnel.Key.wanted : Key → Wanted
  | .serverName | .serverPath => .text
  | .sslContext => .tlsContext
  | .enabledSslCipherSuites | .enabledSslProtocols => .texts
  | .enableSslSessionCreation => .bool

/-- What an option wants its value to be. -/
def OptionKey.wanted : OptionKey → Wanted
  | .socket key => key.wanted
  | .tunnel key => key.wanted

/-! ## Scalars and their texts

A truth value in quotes begins with its letter, and an integer is read back from its decimal. In
both cases nothing is there to be trimmed. -/

namespace Value

/-- Truth values and integers. -/
inductive Scalar : Value → Prop where
  | bool (b : Bool) : Scalar (.bool b)
  | int (n : Int64) : Scalar (.int n)

theorem Scalar.exists_asText {value : Value} (h : value.Scalar) :
    ∃ text, value.asText = .ok text := by
  cases h with
  | bool b => exact ⟨_, rfl⟩
  | int n => exact ⟨_, rfl⟩

/-- Two values are read alike, if not as lists: each is taken for what the other is, or both are
refused. As text and as truth values they are even refused for the same reason. -/
structure ReadAlike (value other : Value) : Prop where
  asText : other.asText = value.asText
  asOptionalText : other.asOptionalText = value.asOptionalText
  readPath : Tunnel.readPath other = Tunnel.readPath value
  asBool : other.asBool = value.asBool
  asInt32 : other.asInt32.toOption = value.asInt32.toOption
  asTlsContext : other.asTlsContext.toOption = value.asTlsContext.toOption
  asBufferFactory : other.asBufferFactory.toOption = value.asBufferFactory.toOption
  asPipelineFactory : other.asPipelineFactory.toOption = value.asPipelineFactory.toOption

theorem trim_toString (n : Int) : Text.trim (toString n).toList = (toString n).toList := by
  have htrim := @Text.trim_surrounded [] (toString n).toList [] (by simp)
    (fun _ => not_isBlank_of_mem_toString) (by simp)
  rwa [List.nil_append, List.append_nil] at htrim

theorem readInt64_trim_toString (n : Int64) :
    Number.readInt64 (Text.trim (toString n.toInt).toList) = .ok n := by
  rw [trim_toString, Number.toList_toString]
  exact Number.readInt64_toString n

theorem asInt32_text_toString (n : Int64) :
    (text (toString n.toInt)).asInt32 = (int n).asInt32 := by
  show readInt32 (toString n.toInt) = fitInt32 n
  rw [readInt32, readInt64_trim_toString]

theorem asBool_text_toString (n : Int64) :
    (text (toString n.toInt)).asBool = (int n).asBool := by
  show readBool (Text.trim (toString n.toInt).toList) = .ok (n.toInt != 0)
  exact readBool_of_readInt64 (readInt64_trim_toString n)

/-- **A scalar and the text it is written as are read alike.** -/
theorem readAlike_text {value : Value} (h : value.Scalar) {written : String}
    (hwritten : value.asText = .ok written) : value.ReadAlike (.text written) := by
  cases h with
  | bool b =>
    cases b <;> (
      cases hwritten
      constructor <;> rfl)
  | int n =>
    cases hwritten
    exact
      { asText := rfl
        asOptionalText := rfl
        readPath := rfl
        asBool := asBool_text_toString n
        asInt32 := congrArg Except.toOption (asInt32_text_toString n)
        asTlsContext := rfl
        asBufferFactory := rfl
        asPipelineFactory := rfl }

end Value

/-! ## What options make of them -/

theorem Socket.Key.toOption_read {value other : Value} (h : value.ReadAlike other) (key : Key) :
    (key.read other).toOption = (key.read value).toOption := by
  cases key with
  | receiveBufferSize | sendBufferSize | soLinger | trafficClass | connectTimeoutMillis =>
    simp only [read, Reason.toOption_about, toOption_map, h.asInt32]
  | keepAlive | reuseAddress | tcpNoDelay => rw [read, h.asBool, read]
  | bufferFactory => simp only [read, Reason.toOption_about, toOption_map, h.asBufferFactory]
  | pipelineFactory => simp only [read, Reason.toOption_about, toOption_map, h.asPipelineFactory]

theorem Tunnel.Key.toOption_read {value other : Value} (h : value.ReadAlike other) {key : Key}
    (hkey : key.wanted ≠ .texts) : (key.read other).toOption = (key.read value).toOption := by
  cases key with
  | serverName => rw [read, h.asOptionalText, read]
  | serverPath => rw [read, h.readPath, read]
  | sslContext => simp only [read, Reason.toOption_about, toOption_map, h.asTlsContext]
  | enabledSslCipherSuites | enabledSslProtocols => exact absurd rfl hkey
  | enableSslSessionCreation => rw [read, h.asBool, read]

namespace OptionKey

/-- **An option that is not a list makes the same of values that are read alike**, or refuses
both. -/
theorem toOption_read {value other : Value} (h : value.ReadAlike other) {key : OptionKey}
    (hkey : key.wanted ≠ .texts) : (key.read other).toOption = (key.read value).toOption := by
  cases key with
  | socket key =>
    rw [read, read, toOption_map, toOption_map, toOption_bind, toOption_bind,
      Socket.Key.toOption_read h]
  | tunnel key => rw [read, read, toOption_map, toOption_map, Tunnel.Key.toOption_read h hkey]

/-- **An integer and its text come to the same write or fault** under an option that wants an
integer or a truth value. -/
theorem read_text_of_int (n : Int64) {key : OptionKey}
    (hkey : key.wanted = .int ∨ key.wanted = .bool) :
    key.read (.text (toString n.toInt)) = key.read (.int n) := by
  have hint := Value.asInt32_text_toString n
  have hbool := Value.asBool_text_toString n
  cases key with
  | socket key =>
    have hread : key.read (.text (toString n.toInt)) = key.read (.int n) := by
      cases key with
      | receiveBufferSize | sendBufferSize | soLinger | trafficClass | connectTimeoutMillis =>
        rw [Socket.Key.read, hint, Socket.Key.read]
      | keepAlive | reuseAddress | tcpNoDelay => rw [Socket.Key.read, hbool, Socket.Key.read]
      | bufferFactory | pipelineFactory => simp [wanted, Socket.Key.wanted] at hkey
    rw [read, read, hread]
  | tunnel key =>
    have hread : key.read (.text (toString n.toInt)) = key.read (.int n) := by
      cases key with
      | enableSslSessionCreation => rw [Tunnel.Key.read, hbool, Tunnel.Key.read]
      | serverName | serverPath | sslContext | enabledSslCipherSuites | enabledSslProtocols =>
        simp [wanted, Tunnel.Key.wanted] at hkey
    rw [read, read, hread]

end OptionKey

namespace Tower

/-! ## Writes by name

A name that a layer does not know comes to nothing whatever the value is, so only known names have
to be looked at. -/

/-- A layer does not know a name, or looks at it for the option that it stands for. -/
theorem resolve_eq_none_or (layer : Nat) (name : String) :
    (∀ value, resolve layer name value = .ok none)
    ∨ ∃ key, OptionKey.ofName? name = some key
      ∧ ∀ value, resolve layer name value = (key.read value).map some := by
  cases layer with
  | zero =>
    cases hname : Socket.Key.ofName? name with
    | none => exact .inl fun value => by rw [resolve, hname]
    | some key =>
      refine .inr ⟨.socket key, OptionKey.ofName?_eq_socket_iff.2 hname, fun value => ?_⟩
      rw [resolve, hname, OptionKey.read]
      dsimp only
      cases key.read value >>= Socket.Write.checked <;> rfl
  | succ layer =>
    cases hname : OptionKey.ofName? name with
    | none => exact .inl fun value => by rw [resolve_succ_eq, hname]
    | some key => exact .inr ⟨key, rfl, fun value => by rw [resolve_succ_eq, hname]⟩

/-- Verdicts that differ in their faults only come to the same writes. -/
theorem Verdict.writes_congr {verdict other : Verdict}
    (h : other.toOption = verdict.toOption) : other.writes = verdict.writes := by
  cases verdict with
  | error fault =>
    cases other with
    | error fault => rfl
    | ok write => cases h
  | ok write =>
    cases other with
    | error fault => cases h
    | ok otherWrite => rw [Option.some.inj h]

/-- **A scalar and its text agree.** Every truth value and every integer has a text that it is
written as. On every layer and under every name, but for the names of options that want lists, the
two are both refused or answered alike, and leave the same tower. An integer and its text under an
option that wants an integer or a truth value are answered alike even when they are refused. -/
theorem text_agrees_with_scalar {value : Value} (h : value.Scalar) :
    ∃ text, value.asText = .ok text ∧ ∀ layer name tower,
      let given := setOption layer name value tower
      let quoted := setOption layer name (.text text) tower
      ((∀ key, OptionKey.ofName? name = some key → key.wanted ≠ .texts) →
        quoted.answer.toOption = given.answer.toOption ∧ quoted.tower = given.tower)
      ∧ (value.kind = .integer → ∀ key, OptionKey.ofName? name = some key →
        key.wanted = .int ∨ key.wanted = .bool → quoted.outcome = given.outcome) := by
  obtain ⟨text, htext⟩ := h.exists_asText
  refine ⟨text, htext, fun layer name tower => ⟨fun hname => ?_, fun hkind key hkey hwanted => ?_⟩⟩
  -- Answer and tower are functions of the verdict, of which faults do not matter here.
  · have hverdict : (resolve layer name (.text text)).toOption
        = (resolve layer name value).toOption := by
      rcases resolve_eq_none_or layer name with hunknown | ⟨key, hkey, hread⟩
      · rw [hunknown, hunknown]
      · rw [hread, hread, toOption_map, toOption_map,
          OptionKey.toOption_read (Value.readAlike_text h htext) (hname key hkey)]
    rw [setOption_answer, setOption_answer, toOption_map, toOption_map, hverdict,
      setOption_tower, setOption_tower, Verdict.writes_congr hverdict]
    exact ⟨rfl, rfl⟩
  · cases h with
    | bool b => cases hkind
    | int n =>
      cases htext
      have hverdict : resolve layer name (.text (toString n.toInt))
          = resolve layer name (.int n) := by
        rcases resolve_eq_none_or layer name with hunknown | ⟨known, hknown, hread⟩
        · rw [hunknown, hunknown]
        · have hsame : key = known := Option.some.inj (hkey.symm.trans hknown)
          rw [hread, hread, OptionKey.read_text_of_int n (hsame ▸ hwanted)]
      rw [setOption_outcome, hverdict, setOption_outcome]

/-- The least integer is refused with the same fault either way, and taken as a name either way. A
truth value that is no integer is refused as itself for its kind and in quotes for its text. -/
theorem text_agrees_with_scalar_refused :
    (Value.int Int64.minValue).Scalar
    ∧ (∃ text, (Value.int Int64.minValue).asText = .ok text
      ∧ (setOption 2 "trafficClass" (.int Int64.minValue) (new 2)).outcome
        = (.error (.invalid "trafficClass" (.outOfRange Int64.minValue)), new 2)
      ∧ (setOption 2 "trafficClass" (.text text) (new 2)).outcome
        = (setOption 2 "trafficClass" (.int Int64.minValue) (new 2)).outcome
      ∧ (setOption 2 "serverName" (.text text) (new 2)).tower
        = (setOption 2 "serverName" (.int Int64.minValue) (new 2)).tower)
    ∧ (Value.bool true).Scalar
    ∧ ∃ text, (Value.bool true).asText = .ok text
      ∧ (setOption 2 "trafficClass" (.bool true) (new 2)).answer
        = .error (.invalid "trafficClass" (.mismatch .int .boolean))
      ∧ (setOption 2 "trafficClass" (.text text) (new 2)).answer.toOption
        = (setOption 2 "trafficClass" (.bool true) (new 2)).answer.toOption := by
  have hint : (Value.int Int64.minValue).Scalar := .int _
  have hbool : (Value.bool true).Scalar := .bool true
  obtain ⟨digits, hdigits, hagree⟩ := text_agrees_with_scalar hint
  obtain ⟨word, hword, hagree'⟩ := text_agrees_with_scalar hbool
  have hclass : ∀ key, OptionKey.ofName? "trafficClass" = some key → key.wanted ≠ .texts := by
    rintro key ⟨⟩
    decide
  have hname : ∀ key, OptionKey.ofName? "serverName" = some key → key.wanted ≠ .texts := by
    rintro key ⟨⟩
    decide
  exact ⟨hint, ⟨digits, hdigits, rfl,
      (hagree 2 "trafficClass" (new 2)).2 rfl (.socket .trafficClass) rfl (.inl rfl),
      ((hagree 2 "serverName" (new 2)).1 hname).2⟩,
    hbool, word, hword, rfl, ((hagree' 2 "trafficClass" (new 2)).1 hclass).1⟩

/-- An option that wants a list is another matter: it takes a number only as text. -/
example : (setOption 1 "enabledProtocols" (.int 3) (new 1)).answer.toOption
    ≠ (setOption 1 "enabledProtocols" (.text "3") (new 1)).answer.toOption := by
  decide

end Tower

end TunnelOptions
