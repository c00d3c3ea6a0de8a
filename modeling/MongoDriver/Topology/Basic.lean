/-! # Connections of the topology package

The vocabulary shared by the transport: the errors it builds and receives, the part of the
server description it negotiates, the socket it owns, and the `connection` record with its
configuration. The operations over them are in the modules that import this one.
-/

namespace MongoDriver.Topology

/-- The values of `connection.state`. -/
inductive ConnState
  | disconnected
  | connected
  | initialized
  deriving DecidableEq, Repr

/-- The errors the code builds, and those its collaborators hand back to it. -/
inductive Error
  -- A `net.Error` whose `Timeout()` holds, as a socket reports a deadline.
  | timeout
  -- `io.EOF`.
  | eof
  -- `io.ErrUnexpectedEOF`.
  | unexpectedEOF
  -- `context.Canceled`.
  | canceled
  -- Any other error of a socket or a collaborator.
  | network (text : String)
  -- `context.DeadlineExceeded`, wrapped with the original error by `transformNetworkError`.
  | deadlineExceeded (original : Error)
  -- `malformed message length: %d`.
  | malformedLength (size : Int)
  -- `errResponseTooLarge`.
  | responseTooLarge
  -- `errLoadBalancedStateMismatch`.
  | loadBalancedStateMismatch
  -- `ErrConnectionClosed`.
  | connectionClosed
  -- `ConnectionError{ConnectionID, Wrapped, init, message}`.
  | connection (connectionID : String) (wrapped : Option Error) (init : Bool) (message : String)
  -- An error built from a message alone (`errors.New`, `fmt.Errorf` without `%w`).
  | text (message : String)
  deriving Repr

def Error.message : Error → String
  | .malformedLength size => "malformed message length: " ++ toString size
  | .responseTooLarge => "length of read message too large"
  | .loadBalancedStateMismatch =>
    "driver attempted to initialize in load balancing mode, but the server does not support this mode"
  | .text message => message
  | .network t => t
  | _ => ""

/-- `errors.As(err, &nerr) && nerr.Timeout()`, through `Unwrap` of connection errors. -/
def Error.isTimeout : Error → Bool
  | .timeout => true
  | .deadlineExceeded _ => true
  | .connection _ (some wrapped) _ _ => wrapped.isTimeout
  | _ => false

structure ObjectID where
  bytes : List UInt8
  deriving DecidableEq, Repr

/-- The fields of `description.Server` that the transport reads. -/
structure Server where
  serviceID : Option ObjectID := none
  maxMessageSize : UInt32 := 0
  compression : List String := []
  deriving DecidableEq, Repr

/-- A `net.Conn`: the dialed socket, or a secure-transport client around another one. -/
inductive NetConn
  | raw (localAddr : String)
  | tls (inner : NetConn)
  | tlcp (inner : NetConn)
  deriving DecidableEq, Repr

def NetConn.localAddr : NetConn → String
  | .raw addr => addr
  | .tls inner => inner.localAddr
  | .tlcp inner => inner.localAddr

/-- Modelled from the spec: `wiremessage.CompressorID`, the ids of the compressed envelope. -/
inductive CompressorID
  | noOp
  | snappy
  | zlib
  | zstd
  deriving DecidableEq, Repr

/-- Modelled from the spec: the byte of the compressed envelope that names the compressor. -/
def CompressorID.toByte : CompressorID → UInt8
  | .noOp => 0
  | .snappy => 1
  | .zlib => 2
  | .zstd => 3

structure TLSConfig where
  serverName : String
  insecureSkipVerify : Bool
  deriving DecidableEq, Repr

/-- The fields of `connectionConfig` that the modelled functions read. -/
structure ConnectionConfig where
  loadBalanced : Bool := false
  getGenerationFn : Option (Option ObjectID → Nat) := none
  tlsConfig : Option TLSConfig := none
  tlcpConfig : Bool := false -- whether the pointer is set
  handshaker : Bool := false -- whether the pointer is set
  compressors : List String := []
  zlibLevel : Option Int := none
  zstdLevel : Option Int := none

/-- The fields of `connection` that the modelled functions read or write. -/
structure Connection where
  state : ConnState
  id : String
  nc : Option NetConn
  addr : String
  desc : Server
  compressor : CompressorID
  zliblevel : Int
  zstdLevel : Int
  connectDone : Bool -- whether the channel is closed
  config : ConnectionConfig
  serverConnectionID : Option Int
  driverConnectionID : Int
  generation : Nat
  awaitRemainingBytes : Option Int

/-- How a call ends: it returns its results, or it panics. -/
inductive Outcome (α : Type)
  | returns (a : α)
  | panics
  deriving DecidableEq, Repr

/-- `connection.close`, with the socket whose `Close` it invoked. -/
def close (c : Connection) : Connection × Option NetConn :=
  if c.state = .connected then ({ c with state := .disconnected }, c.nc) else (c, none)

theorem close_state (c : Connection) :
    (close c).1.state = if c.state = .connected then .disconnected else c.state := by
  unfold close; split <;> simp [*]

@[simp] theorem close_id (c : Connection) : (close c).1.id = c.id := by
  unfold close; split <;> rfl

theorem close_of_not_connected {c : Connection} (h : c.state ≠ .connected) :
    close c = (c, none) := by
  simp [close, h]

end MongoDriver.Topology
