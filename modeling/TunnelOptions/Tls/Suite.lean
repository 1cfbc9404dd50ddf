/-!
# Protocol versions and cipher suites

A connection can use two versions of the protocol and nine suites, each of which belongs to one of
the versions. Settings choose among them by name. The names of the suites follow two conventions,
the short one of the newer version and the long one of the older, and they are looked up exactly:
case matters, and there are no aliases.

Both types are closed and have a list of all their values, in an order that matters: suites are
offered in the order of preference when none are chosen, and versions are always kept with the older
one first. The look-ups are found in that list by name; that they find every value, and only by its
own name, follows from the names being different.

* `Version`, `Suite`: what a connection can use, each with the name it is chosen by.
* `Version.ofName?`, `Suite.ofName?`: the exact, case-sensitive look-ups.
* `Suite.version`: the one version a suite belongs to.
-/

set_option autoImplicit false

namespace TunnelOptions.Tls

/-- A protocol version that a connection may use. Older ones than these two are not supported under
any name. -/
inductive Version where
  | tls12
  | tls13
  deriving DecidableEq, Repr

namespace Version

/-- Every version, the older first. -/
def all : List Version := [.tls12, .tls13]

/-- The name a version is chosen by. -/
def name : Version → String
  | .tls12 => "TLSv1.2"
  | .tls13 => "TLSv1.3"

/-- The version of a name, exactly as it is written. A name in other letters, or of an older
version, is the name of none. -/
def ofName? (name : String) : Option Version :=
  all.find? fun version => version.name == name

theorem mem_all (version : Version) : version ∈ all := by
  cases version <;> decide

theorem ofName?_name (version : Version) : ofName? version.name = some version := by
  cases version <;> decide

end Version

/-- A cipher suite that a connection may use. It says by its version with which of the two it can be
used, and never with both. -/
inductive Suite where
  | tls13Aes256GcmSha384
  | tls13Aes128GcmSha256
  | tls13Chacha20Poly1305Sha256
  | ecdsaAes256GcmSha384
  | ecdsaAes128GcmSha256
  | ecdsaChacha20Poly1305Sha256
  | rsaAes256GcmSha384
  | rsaAes128GcmSha256
  | rsaChacha20Poly1305Sha256
  deriving DecidableEq, Repr

namespace Suite

/-- Every suite, in the order of preference. -/
def all : List Suite :=
  [.tls13Aes256GcmSha384, .tls13Aes128GcmSha256, .tls13Chacha20Poly1305Sha256,
    .ecdsaAes256GcmSha384, .ecdsaAes128GcmSha256, .ecdsaChacha20Poly1305Sha256,
    .rsaAes256GcmSha384, .rsaAes128GcmSha256, .rsaChacha20Poly1305Sha256]

/-- The name a suite is chosen by. -/
def name : Suite → String
  | .tls13Aes256GcmSha384 => "TLS13_AES_256_GCM_SHA384"
  | .tls13Aes128GcmSha256 => "TLS13_AES_128_GCM_SHA256"
  | .tls13Chacha20Poly1305Sha256 => "TLS13_CHACHA20_POLY1305_SHA256"
  | .ecdsaAes256GcmSha384 => "TLS_ECDHE_ECDSA_WITH_AES_256_GCM_SHA384"
  | .ecdsaAes128GcmSha256 => "TLS_ECDHE_ECDSA_WITH_AES_128_GCM_SHA256"
  | .ecdsaChacha20Poly1305Sha256 => "TLS_ECDHE_ECDSA_WITH_CHACHA20_POLY1305_SHA256"
  | .rsaAes256GcmSha384 => "TLS_ECDHE_RSA_WITH_AES_256_GCM_SHA384"
  | .rsaAes128GcmSha256 => "TLS_ECDHE_RSA_WITH_AES_128_GCM_SHA256"
  | .rsaChacha20Poly1305Sha256 => "TLS_ECDHE_RSA_WITH_CHACHA20_POLY1305_SHA256"

/-- The suite of a name, exactly as it is written. Names under which the same suite is known
elsewhere do not count. -/
def ofName? (name : String) : Option Suite :=
  all.find? fun suite => suite.name == name

/-- The version a suite belongs to. -/
def version : Suite → Version
  | .tls13Aes256GcmSha384 | .tls13Aes128GcmSha256 | .tls13Chacha20Poly1305Sha256 => .tls13
  | .ecdsaAes256GcmSha384 | .ecdsaAes128GcmSha256 | .ecdsaChacha20Poly1305Sha256
  | .rsaAes256GcmSha384 | .rsaAes128GcmSha256 | .rsaChacha20Poly1305Sha256 => .tls12

theorem mem_all (suite : Suite) : suite ∈ all := by
  cases suite <;> decide

theorem ofName?_name (suite : Suite) : ofName? suite.name = some suite := by
  cases suite <;> decide

end Suite

end TunnelOptions.Tls
