import TunnelOptions.Outline
import TunnelOptions.Text.Utf8

/-!
# TLS contexts

A context holds what all connections of one client share: how many trust anchors it has and the
application protocols it offers. It is made once and handed around, so what a tunnel keeps is a
handle to it: two contexts are equal when they are the same one, whatever they hold.

Of the trust anchors only the number is kept. What an anchor is matters when a connection is made,
which is not described here; the number is what is shown of a context.

Protocols are bytes and need not be text. They are shown as text with replacement characters, which
loses something: two contexts can be told from their outlines only as far as their protocols can be
told from these texts.

* `publicRoots`, `defaultAlpn`: what a context has when nothing else is said.
* `Context`: the handle, with `Context.sameAs`.
* `Context.outline`: its outline, the protocols shown as text.
-/

set_option autoImplicit false

namespace TunnelOptions.Tls

/-- How many trust anchors the public root program has, in the collection that the library comes
with. It grows and shrinks with that collection. -/
def publicRoots : Nat := 120

/-- The application protocol that is offered when nothing else is said: `http/1.1`. -/
def defaultAlpn : List UInt8 :=
  [0x68, 0x74, 0x74, 0x70, 0x2f, 0x31, 0x2e, 0x31]

/-- What all connections of one client share, as far as it is shown or goes into the settings of a
connection. The certificates themselves stay with whoever made the context. -/
structure Context where
  /-- The identity of the handle. -/
  id : String
  /-- The number of trust anchors. -/
  roots : Nat
  /-- The application protocols offered, in order. -/
  alpn : List (List UInt8)
  deriving DecidableEq

namespace Context

/-- A context that trusts `roots` anchors and offers the default protocol. -/
def trusting (id : String) (roots : Nat) : Context :=
  { id, roots, alpn := [defaultAlpn] }

/-- A context that trusts the public root program. -/
def withPublicRoots (id : String) : Context :=
  trusting id publicRoots

/-- Whether two handles are the same context. Two that trust the same anchors and offer the same
protocols are still two, if they were made separately. -/
def sameAs (a b : Context) : Bool :=
  a.id == b.id

@[simp] theorem sameAs_self (context : Context) : context.sameAs context = true := by
  simp [sameAs]

/-- The outline of a context. Protocols that are not UTF-8 are shown with replacement characters,
and of the anchors only the number is shown. -/
def outline (context : Context) : Outline :=
  .record "TlsContext"
    [("roots", .int context.roots), ("alpn", .texts (context.alpn.map Text.decodeLossy))] false

end Context

end TunnelOptions.Tls
