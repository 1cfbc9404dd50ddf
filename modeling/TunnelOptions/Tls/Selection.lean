import TunnelOptions.Tls.Context
import TunnelOptions.Tls.Suite

/-!
# Settings of one TLS connection

A connection starts from a context, an optional list of suite names, an optional list of version
names and a flag for resumption. Nothing given means everything supported; an empty list is not
nothing given, and is refused.

The two lists are treated differently once their names are known. The order of suites is the order
in which they are offered, so it is kept, and so are repeats. Of versions it only matters which they
are, so they come out in the one order there is, each once.

Which fault is reported is part of what is promised, since a caller that has several things wrong
should mend them in one order: an unknown suite, no suites, an unknown version, no versions, and at
last that no suite belongs to an enabled version. The definition is a chain of steps in that order.

* `Fault`: why no settings come about, with its wording in `Fault.message`.
* `lookupAll`: names looked up in order, for suites and versions alike.
* `clientSettings`: the settings, or the first fault.
-/

set_option autoImplicit false

namespace TunnelOptions.Tls

/-- Why no settings come about. An unknown name is quoted as it was given; of several it is the
first, and those of suites come before those of versions. -/
inductive Fault where
  | unknownSuite (name : String)
  | unknownVersion (name : String)
  | noSuites
  | noVersions
  /-- The settings are of no use, for a reason given in words. -/
  | refused (reason : String)
  deriving DecidableEq, Repr

/-- The wording of a fault. -/
def Fault.message : Fault → String
  | .unknownSuite name => String.join ["Unknown cipher suite: ", name]
  | .unknownVersion name => String.join ["Unknown protocol version: ", name]
  | .noSuites => "No cipher suites enabled"
  | .noVersions => "No protocol versions enabled"
  | .refused reason => String.join ["TLS configuration error: ", reason]

/-- The fault of suites none of which belongs to an enabled version. -/
def Fault.noUsableSuites : Fault :=
  .refused "unexpected error: no usable cipher suites configured"

/-- The settings of one connection, as they are handed to whoever makes it. That the suites fit the
versions has been checked by then, so at least one suite can be used. -/
structure ClientSettings where
  /-- The suites offered, in the order they were given. -/
  suites : List Suite
  /-- The versions enabled, the older first, each once. -/
  versions : List Version
  /-- The application protocols offered. -/
  alpn : List (List UInt8)
  /-- Whether sessions may be resumed. -/
  resumption : Bool
  deriving DecidableEq, Repr

/-- Looks up every name in order; the first unknown one is the fault. The suites and the versions
share this, with their own look-up and their own fault. -/
def lookupAll {α : Type} (ofName? : String → Option α) (unknown : String → Fault) :
    List String → Except Fault (List α)
  | [] => .ok []
  | name :: names =>
    match ofName? name with
    | none => .error (unknown name)
    | some a => (lookupAll ofName? unknown names).map (a :: ·)

/-- The suites of some names, which must be known and not none at all. -/
def selectSuites (names : List String) : Except Fault (List Suite) := do
  let suites ← lookupAll Suite.ofName? .unknownSuite names
  if suites.isEmpty then .error .noSuites else .ok suites

/-- The versions of some names, which must be known and not none at all. -/
def selectVersions (names : List String) : Except Fault (List Version) := do
  let versions ← lookupAll Version.ofName? .unknownVersion names
  if versions.isEmpty then .error .noVersions else .ok versions

/-- The names accepted for suites, in the order of preference. -/
def supportedSuites : List String := Suite.all.map Suite.name

/-- The names accepted for versions. -/
def supportedVersions : List String := Version.all.map Version.name

/-- The settings of one connection. Suites keep their order and repeats; versions are a set. The
protocols come from the context, and the flag is passed on as it is. -/
def clientSettings (context : Context) (suiteNames versionNames : Option (List String))
    (sessionCreation : Bool) : Except Fault ClientSettings := do
  let suites ← match suiteNames with
    | some names => selectSuites names
    | none => .ok Suite.all
  let chosen ← match versionNames with
    | some names => selectVersions names
    | none => .ok Version.all
  let versions := Version.all.filter (· ∈ chosen)
  if suites.any (·.version ∈ versions) then
    .ok { suites, versions, alpn := context.alpn, resumption := sessionCreation }
  else .error .noUsableSuites

end TunnelOptions.Tls
