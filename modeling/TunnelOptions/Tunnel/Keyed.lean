import TunnelOptions.Tunnel
import TunnelOptions.Value.Reading

/-!
# Writing a tunnel by name

Under a key a value is read as what the attribute keeps. Since a tunnel takes any value of the right
type, the reading is all that can fail, and the rest of the write belongs to the tower that has the
tunnel: `Tower.setTunnelOption` makes the write on the layer it is asked for.

The host, the TLS context and the two lists of names may be absent, so they read the explicit
nothing as absent. A path may not: it is refused there for a reason of its own, and not for being of
the wrong kind.

* `Tunnel.Key.read`: the typed write that a value stands for under a key.
-/

set_option autoImplicit false

namespace TunnelOptions.Tunnel

/-- A path must be there, so the explicit nothing is refused before the value is read as a text,
with a reason that says so. -/
def readPath (value : Value) : Except Reason String :=
  if value.isNull then .error .null else value.asText

/-- The typed write that a value stands for under a key. The fault names the canonical key,
whichever name the key was found by. -/
def Key.read (key : Key) (value : Value) : Except OptionFault Write :=
  Reason.about key.name <|
    match key with
    | .serverName => value.asOptionalText.map .serverName
    | .serverPath => (readPath value).map .serverPath
    | .sslContext => value.asTlsContext.map .sslContext
    | .enabledSslCipherSuites => value.asTexts.map .enabledSslCipherSuites
    | .enabledSslProtocols => value.asTexts.map .enabledSslProtocols
    | .enableSslSessionCreation => value.asBool.map .enableSslSessionCreation

end TunnelOptions.Tunnel
