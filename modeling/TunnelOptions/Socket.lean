import TunnelOptions.OptionFault

/-!
# The settings of a real socket

A socket keeps its settings as plain attributes. It is written one attribute at a time, and four of
the attributes refuse values that no socket can have: the two buffer sizes, the traffic class and
the time to wait for a connection.

A write is a value of the type `Socket.Write`, with a constructor for each attribute, and not a
function for each. So there is one function that writes, and what holds of every write is said once
and proved by going through the constructors. The bounds are part of the write and not of the
structure: the attributes are public to whoever makes a socket, and that they stay in bounds is
something that is proved of the sockets that writes can lead to.

Writing by name is a second way to the same writes. The keys are listed here, next to the
attributes; how a value under a key becomes a write is in `TunnelOptions.Socket.Keyed`. One
attribute, the performance preferences, has a write and no key.

* `Socket`: the attributes, with the values a new socket has.
* `Socket.Key`: the keys under which attributes can be written by name.
* `Socket.Write`, `Socket.write`: one typed write, and the socket after it or the fault.
* `Socket.outline`: the outline of a socket.
-/

set_option autoImplicit false

namespace TunnelOptions

/-- How important a short connection time, low latency and high bandwidth are to each other. Only
the comparison of the three matters, so any integers will do, negative ones included. -/
structure Performance where
  connectionTime : Int32 := 0
  latency : Int32 := 0
  bandwidth : Int32 := 0
  deriving DecidableEq, Repr

/-- The settings of a real socket, with what a new one has. The type has room for every 32-bit
integer; which of them an attribute may have is checked by the writes. -/
structure Socket where
  receiveBufferSize : Int32 := 65536
  sendBufferSize : Int32 := 65536
  /-- Seconds; negative when lingering is off. -/
  soLinger : Int32 := -1
  trafficClass : Int32 := 0
  keepAlive : Bool := false
  reuseAddress : Bool := false
  tcpNoDelay : Bool := true
  connectTimeoutMillis : Int32 := 10000
  performance : Performance := {}
  bufferFactory : BufferFactory := .builtIn
  pipelineFactory : Option PipelineFactory := none
  deriving DecidableEq

namespace Socket

/-! ## Keys

A key and its name are two things: the type is closed, so that every function of a key has a case
for each, and the name is what a caller writes. -/

/-- What can be written by name. There is a key for each attribute but the performance preferences,
which no option value could hold. -/
inductive Key where
  | receiveBufferSize
  | sendBufferSize
  | soLinger
  | trafficClass
  | keepAlive
  | reuseAddress
  | tcpNoDelay
  | connectTimeoutMillis
  | bufferFactory
  | pipelineFactory
  deriving DecidableEq, Repr

namespace Key

/-- Every key, in the order in which they are listed to a reader. -/
def all : List Key :=
  [.receiveBufferSize, .sendBufferSize, .soLinger, .trafficClass, .keepAlive, .reuseAddress,
    .tcpNoDelay, .connectTimeoutMillis, .bufferFactory, .pipelineFactory]

/-- The name of a key, the one name under which it can be written on a socket and by which faults
refer to it. -/
def name : Key → String
  | .receiveBufferSize => "receiveBufferSize"
  | .sendBufferSize => "sendBufferSize"
  | .soLinger => "soLinger"
  | .trafficClass => "trafficClass"
  | .keepAlive => "keepAlive"
  | .reuseAddress => "reuseAddress"
  | .tcpNoDelay => "tcpNoDelay"
  | .connectTimeoutMillis => "connectTimeoutMillis"
  | .bufferFactory => "bufferFactory"
  | .pipelineFactory => "pipelineFactory"

/-- The key of a name, exactly as it is written. A socket has no aliases, and case matters. -/
def ofName? (name : String) : Option Key :=
  all.find? fun key => key.name == name

theorem mem_all (key : Key) : key ∈ all := by
  cases key <;> decide

theorem ofName?_name (key : Key) : ofName? key.name = some key := by
  cases key <;> decide

/-- The names, in the same order. -/
def names : List String :=
  all.map name

end Key

/-! ## Writes

The three bounds are functions of the key and the number, since the fault names the key. The fault
is the same whether the write was typed or came by name. -/

/-- One typed write: an attribute and the value that it is to have. There is a constructor for each
attribute, so that what holds of every write can be shown by cases. -/
inductive Write where
  | receiveBufferSize (size : Int32)
  | sendBufferSize (size : Int32)
  | soLinger (seconds : Int32)
  | trafficClass (octet : Int32)
  | keepAlive (flag : Bool)
  | reuseAddress (flag : Bool)
  | tcpNoDelay (flag : Bool)
  | connectTimeoutMillis (millis : Int32)
  | performance (preferences : Performance)
  | bufferFactory (factory : BufferFactory)
  | pipelineFactory (factory : PipelineFactory)
  deriving DecidableEq

/-- Refuses what is not positive, as a buffer size. -/
def requirePositive (key : Key) (n : Int32) : Except OptionFault Int32 :=
  if 0 < n then .ok n else .error (.invalid key.name (.notPositive n))

/-- Refuses what is no value of one byte, as a traffic class. -/
def requireByte (key : Key) (n : Int32) : Except OptionFault Int32 :=
  if 0 ≤ n ∧ n ≤ 255 then .ok n else .error (.invalid key.name (.noByte n))

/-- Refuses what is negative, as a time to wait. -/
def requireNonneg (key : Key) (n : Int32) : Except OptionFault Int32 :=
  if 0 ≤ n then .ok n else .error (.invalid key.name (.negative n))

/-- The socket after one write, or the fault of a value that it refuses. A write changes its own
attribute and no other, and one that is refused has no socket for its result, so nothing can be half
written. -/
def write (socket : Socket) : Write → Except OptionFault Socket
  | .receiveBufferSize size =>
    (requirePositive .receiveBufferSize size).map ({ socket with receiveBufferSize := · })
  | .sendBufferSize size =>
    (requirePositive .sendBufferSize size).map ({ socket with sendBufferSize := · })
  | .soLinger seconds => .ok { socket with soLinger := seconds }
  | .trafficClass octet =>
    (requireByte .trafficClass octet).map ({ socket with trafficClass := · })
  | .keepAlive flag => .ok { socket with keepAlive := flag }
  | .reuseAddress flag => .ok { socket with reuseAddress := flag }
  | .tcpNoDelay flag => .ok { socket with tcpNoDelay := flag }
  | .connectTimeoutMillis millis =>
    (requireNonneg .connectTimeoutMillis millis).map ({ socket with connectTimeoutMillis := · })
  | .performance preferences => .ok { socket with performance := preferences }
  | .bufferFactory factory => .ok { socket with bufferFactory := factory }
  | .pipelineFactory factory => .ok { socket with pipelineFactory := some factory }

/-- How long to wait for a connection, in milliseconds. The attribute is never negative on a socket
that writes have led to, so nothing is lost. -/
def connectTimeout (socket : Socket) : Nat :=
  socket.connectTimeoutMillis.toInt.toNat

/-- The outline of a socket: every attribute under its name, in the order of the structure.
Factories are shown as what they print, since their identity says nothing to a reader. -/
def outline (socket : Socket) : Outline :=
  .record "DefaultSocketChannelConfig"
    [("receive_buffer_size", .int socket.receiveBufferSize.toInt),
      ("send_buffer_size", .int socket.sendBufferSize.toInt),
      ("so_linger", .int socket.soLinger.toInt),
      ("traffic_class", .int socket.trafficClass.toInt),
      ("keep_alive", .bool socket.keepAlive),
      ("reuse_address", .bool socket.reuseAddress),
      ("tcp_no_delay", .bool socket.tcpNoDelay),
      ("connect_timeout_millis", .int socket.connectTimeoutMillis.toInt),
      ("buffer_factory", .atom socket.bufferFactory.shown),
      ("pipeline_factory",
        .option (socket.pipelineFactory.map fun factory => .text factory.name))] false

end Socket

end TunnelOptions
