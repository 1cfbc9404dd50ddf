import TunnelOptions.Socket
import TunnelOptions.Value.Reading

/-!
# Writing a socket by name

Under a key a value is read as what the attribute keeps, and the result is a typed write; the typed
write is then made like any other. So a value can be refused in two places, by the reading when it
is of the wrong kind, and by the write when it is out of bounds, and in both the fault names the
key.

Reading does not look at the socket. That is why a value that is refused is refused by every socket,
and why the fate of an entry does not depend on what was written before it.

* `Socket.Key.read`: the typed write that a value stands for under a key.
* `Socket.writeKeyed`: the socket after writing a value under a key.
-/

set_option autoImplicit false

namespace TunnelOptions.Socket

/-- The typed write that a value stands for under a key. The fault names the key. -/
def Key.read (key : Key) (value : Value) : Except OptionFault Write :=
  Reason.about key.name <|
    match key with
    | .receiveBufferSize => value.asInt32.map .receiveBufferSize
    | .sendBufferSize => value.asInt32.map .sendBufferSize
    | .soLinger => value.asInt32.map .soLinger
    | .trafficClass => value.asInt32.map .trafficClass
    | .keepAlive => value.asBool.map .keepAlive
    | .reuseAddress => value.asBool.map .reuseAddress
    | .tcpNoDelay => value.asBool.map .tcpNoDelay
    | .connectTimeoutMillis => value.asInt32.map .connectTimeoutMillis
    | .bufferFactory => value.asBufferFactory.map .bufferFactory
    | .pipelineFactory => value.asPipelineFactory.map .pipelineFactory

/-- The socket after writing a value under a key: the value is read first, then written. -/
def writeKeyed (socket : Socket) (key : Key) (value : Value) : Except OptionFault Socket :=
  key.read value >>= socket.write

end TunnelOptions.Socket
