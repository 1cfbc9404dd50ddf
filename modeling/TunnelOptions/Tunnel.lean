import TunnelOptions.Entries
import TunnelOptions.OptionFault
import TunnelOptions.Tls.Selection

/-!
# The settings of a tunnel

A tunnel keeps what a socket knows nothing of: which host and path the tunnel is opened to, and how
its TLS connections are made. Any value of the right type is accepted. Names of suites and versions
are not looked up when they are written, since which of them are any good depends on what the other
attributes say by the time a connection is made; so a write cannot fail, and `Tunnel.tlsSettings`
can.

Four of the keys go by a second name. Such an alias is no key of its own: all names are one table
with the keys they stand for, the canonical ones first, and looking a name up and listing the names
are both read off that table, so they cannot come apart.

As with a socket, writes are values of one type, and how a value under a key becomes one is left to
`TunnelOptions.Tunnel.Keyed`.

* `Tunnel`: the attributes, with the values a new tunnel has.
* `Tunnel.Key`: the keys under which they can be written by name, with their aliases.
* `Tunnel.Write`, `Tunnel.write`: one typed write, and the tunnel after it.
* `Tunnel.tlsSettings`: the settings of its next TLS connection.
* `Tunnel.outline`: the outline of a tunnel.
-/

set_option autoImplicit false

namespace TunnelOptions

/-- The path a tunnel is opened to when nothing else is said. -/
def defaultServerPath : String := "/netty-tunnel"

/-- The settings of a tunnel, with what a new one has. The channel below is no part of it: tunnels
are put on each other by the tower that they belong to. -/
structure Tunnel where
  /-- The name sent as the host; without one, none is sent. -/
  serverName : Option String := none
  /-- The path of the tunnel's endpoint. -/
  serverPath : String := defaultServerPath
  /-- Without a context the tunnel is plain text. -/
  sslContext : Option Tls.Context := none
  /-- The names of the suites enabled; all of them when absent. -/
  enabledSslCipherSuites : Option (List String) := none
  /-- The names of the versions enabled; all of them when absent. -/
  enabledSslProtocols : Option (List String) := none
  /-- Whether new TLS sessions may be made. -/
  enableSslSessionCreation : Bool := true
  deriving DecidableEq

namespace Tunnel

/-! ## Keys

No name of the table comes twice, so it does not matter that a look-up takes the first entry, and an
alias never hides a canonical name. -/

/-- What can be written by name: a key for each attribute. Some of them have two names, and still
are one key. -/
inductive Key where
  | serverName
  | serverPath
  | sslContext
  | enabledSslCipherSuites
  | enabledSslProtocols
  | enableSslSessionCreation
  deriving DecidableEq, Repr

namespace Key

/-- Every key, in the order in which they are listed to a reader. -/
def all : List Key :=
  [.serverName, .serverPath, .sslContext, .enabledSslCipherSuites, .enabledSslProtocols,
    .enableSslSessionCreation]

/-- The canonical name of a key. It is the one that faults use, also where the value was given under
an alias. -/
def name : Key → String
  | .serverName => "serverName"
  | .serverPath => "serverPath"
  | .sslContext => "sslContext"
  | .enabledSslCipherSuites => "enabledSslCipherSuites"
  | .enabledSslProtocols => "enabledSslProtocols"
  | .enableSslSessionCreation => "enableSslSessionCreation"

/-- The names that stand for a key besides its own. -/
def aliases : List (String × Key) :=
  [("tlsContext", .sslContext), ("enabledCipherSuites", .enabledSslCipherSuites),
    ("enabledProtocols", .enabledSslProtocols),
    ("allowSessionCreation", .enableSslSessionCreation)]

/-- Every name with its key, the canonical names first. All that is asked about names is answered
from this table. -/
def table : List (String × Key) :=
  all.map (fun key => (key.name, key)) ++ aliases

/-- The key of a canonical name or alias, exactly as it is written. -/
def ofName? (name : String) : Option Key :=
  Entries.get? name table

/-- The names, in the order of the table. -/
def names : List String :=
  Entries.keys table

theorem ofName?_eq_none_iff {name : String} : ofName? name = none ↔ name ∉ names :=
  Entries.get?_eq_none_iff

end Key

/-! ## Writes

Nothing is checked here, so a write has a tunnel for its result and no fault. -/

/-- One typed write: an attribute and the value that it is to have, which may be that it has none.
-/
inductive Write where
  | serverName (name : Option String)
  | serverPath (path : String)
  | sslContext (context : Option Tls.Context)
  | enabledSslCipherSuites (names : Option (List String))
  | enabledSslProtocols (names : Option (List String))
  | enableSslSessionCreation (flag : Bool)
  deriving DecidableEq

/-- The tunnel after one write. There is no fault: whatever the type of an attribute can hold is
accepted, and what is wrong with it is found when a connection is made. -/
def write (tunnel : Tunnel) : Write → Tunnel
  | .serverName name => { tunnel with serverName := name }
  | .serverPath path => { tunnel with serverPath := path }
  | .sslContext context => { tunnel with sslContext := context }
  | .enabledSslCipherSuites names => { tunnel with enabledSslCipherSuites := names }
  | .enabledSslProtocols names => { tunnel with enabledSslProtocols := names }
  | .enableSslSessionCreation flag => { tunnel with enableSslSessionCreation := flag }

/-- The settings of the next TLS connection; none for a plain-text tunnel. The names of suites and
versions are looked up here, at the time of the connection, and this is where an unknown one is a
fault. -/
def tlsSettings (tunnel : Tunnel) : Except Tls.Fault (Option Tls.ClientSettings) :=
  match tunnel.sslContext with
  | none => .ok none
  | some context =>
    (Tls.clientSettings context tunnel.enabledSslCipherSuites tunnel.enabledSslProtocols
      tunnel.enableSslSessionCreation).map some

/-- The outline of a tunnel: every attribute under its name, in the order of the structure. The
channel below it is left out, which the dots at the end say. -/
def outline (tunnel : Tunnel) : Outline :=
  .record "HttpTunnelingSocketChannelConfig"
    [("server_name", .option (tunnel.serverName.map .text)),
      ("server_path", .text tunnel.serverPath),
      ("ssl_context", .option (tunnel.sslContext.map Tls.Context.outline)),
      ("enabled_ssl_cipher_suites", .option (tunnel.enabledSslCipherSuites.map .texts)),
      ("enabled_ssl_protocols", .option (tunnel.enabledSslProtocols.map .texts)),
      ("enable_ssl_session_creation", .bool tunnel.enableSslSessionCreation)] true

end Tunnel

end TunnelOptions
