/-!
# Factory handles

A channel's settings keep two handles that they never use themselves: the transport that reads the
settings allocates its buffers with the one and builds its pipelines with the other. So nothing is
said here of what a factory does with a channel. A handle is an identity and a text: two handles are
equal when they are the same object and for no other reason, and the text is there because settings
are printed and logged.

The two kinds differ in where the text comes from. A buffer factory has nothing but the text that it
is printed as, and the factory that every new channel holds is an object of its own, so it is a
constructor of its own and not one handle among others. A pipeline factory has a name, and a channel
starts without any.

* `BufferFactory`: the handles that allocate buffers, with `BufferFactory.sameAs` and
  `BufferFactory.shown`.
* `BufferFactory.buffer`: the one thing that is asked of such a factory.
* `PipelineFactory`: the handles that build pipelines, with `PipelineFactory.sameAs`.
-/

set_option autoImplicit false

namespace TunnelOptions

/-! ## Buffers -/

/-- A handle to what allocates a channel's buffers. Nothing of what it does is kept but who it is
and how it prints. -/
inductive BufferFactory where
  /-- The one a new channel holds. It allocates on the heap. -/
  | builtIn
  /-- One that was made elsewhere, by its identity, and the text that it is printed as. -/
  | custom (id text : String)
  deriving DecidableEq, Repr

/-- A buffer: how many bytes it holds and for how many it has room. It holds no more than there is
room for, and there is no other buffer. -/
structure Buffer where
  length : Nat
  room : Nat
  length_le_room : length ≤ room := by omega
  deriving DecidableEq, Repr

namespace BufferFactory

/-- Whether two handles are the same factory. How they print does not count: two factories that were
made separately are two, whatever they are shown as. -/
def sameAs : BufferFactory → BufferFactory → Bool
  | .builtIn, .builtIn => true
  | .custom a _, .custom b _ => a == b
  | _, _ => false

@[simp] theorem sameAs_self (factory : BufferFactory) : factory.sameAs factory = true := by
  cases factory <;> simp [sameAs]

/-- What a buffer factory is shown as. The heap factory has a fixed name, and a factory made
elsewhere is shown as whoever made it says. -/
def shown : BufferFactory → String
  | .builtIn => "HeapBufferFactory"
  | .custom _ text => text

/-- An empty buffer with room for `capacity` bytes, which is all that a factory is asked for. -/
def buffer (_ : BufferFactory) (capacity : Nat) : Buffer :=
  { length := 0, room := capacity }

end BufferFactory

/-! ## Pipelines -/

/-- A handle to what builds the pipelines of new channels. -/
structure PipelineFactory where
  /-- The identity of the handle. -/
  id : String
  /-- The name that it is printed and logged under. Other handles may have the same one. -/
  name : String
  deriving DecidableEq, Repr

namespace PipelineFactory

/-- Whether two handles are the same factory. Their names do not count, since a name is not taken
once it is given. -/
def sameAs (a b : PipelineFactory) : Bool :=
  a.id == b.id

@[simp] theorem sameAs_self (factory : PipelineFactory) : factory.sameAs factory = true := by
  simp [sameAs]

end PipelineFactory

end TunnelOptions
