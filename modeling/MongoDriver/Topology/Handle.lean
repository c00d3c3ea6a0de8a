import MongoDriver.Topology.Framing
import MongoDriver.Wiremessage.Compression

/-! # Connection handles

The exported `Connection` is a handle over a `connection`, returned by the pool on checkout.
Every method takes the handle's lock, so a run of concurrent callers is a sequence of calls.
Releasing the handle (`Close` with no pins, or `Expire`) hands the connection back and clears
the pointer; the calls into the pool and the server are recorded as `Callback`s.
-/

namespace MongoDriver.Topology

open Wiremessage

inductive Callback
  | checkIn
  | pinConnectionToCursor
  | unpinConnectionFromCursor
  | pinConnectionToTransaction
  | unpinConnectionFromTransaction
  | cleanupServer
  deriving DecidableEq, Repr

structure CompressionOpts where
  compressor : CompressorID
  zlibLevel : Int
  zstdLevel : Int

/-- What a handle calls outside this model: the pool's `checkIn` and `stale`, and compression. -/
structure Externals where
  checkIn : Connection → Option Error
  stale : Connection → Bool
  compressPayload : List UInt8 → CompressionOpts → Except Error (List UInt8)

/-- Go's 64-bit `int`: `++` and `--` wrap around to the range `[-2^63, 2^63)`. -/
def wrapInt (x : Int) : Int := x.bmod 18446744073709551616

@[simp] theorem wrapInt_one : wrapInt 1 = 1 := rfl

theorem wrapInt_of_lt {x : Int} (h₀ : 0 ≤ x) (h : x < 9223372036854775808) : wrapInt x = x := by
  have hx : x % (18446744073709551616 : Nat) = x := Int.emod_eq_of_lt h₀ (by omega)
  rw [wrapInt, Int.bmod_pos _ _ (by omega), hx]

/-- The exported `Connection`, a handle over a `connection`. -/
structure Handle where
  connection : Option Connection
  refCount : Int
  cleanupPoolFn : Option Callback
  cleanupServerFn : Bool
  oidcTokenGenID : Nat

/-- One call on a handle: the handle after it, the callbacks it made, and how it ended. -/
structure Call (α : Type) where
  handle : Handle
  callbacks : List Callback
  outcome : Outcome α

namespace Handle

variable (ext : Externals) (h : Handle)

/-- A call that only reads, returning `closedValue` once the handle is released. -/
def guarded {α : Type} (closedValue : α) (f : Connection → α) : Call α :=
  ⟨h, [], .returns (match h.connection with | none => closedValue | some c => f c)⟩

/-- A call that reads through `c.connection` without checking it. -/
def unguarded {α : Type} (f : Connection → Call α) : Call α :=
  match h.connection with
  | none => ⟨h, [], .panics⟩
  | some c => f c

def write (env : WriteEnv) : Call (Option Error) :=
  match h.connection with
  | none => ⟨h, [], .returns (some .connectionClosed)⟩
  | some c =>
    match writeWireMessage c env with
    | .panics => ⟨h, [], .panics⟩
    | .returns (c', r) => ⟨{ h with connection := some c' }, [], .returns r⟩

def read (env : ReadEnv) : Call (Except Error (List UInt8)) :=
  match h.connection with
  | none => ⟨h, [], .returns (.error .connectionClosed)⟩
  | some c =>
    match readWireMessage c env with
    | .panics => ⟨h, [], .panics⟩
    | .returns (c', _, r) => ⟨{ h with connection := some c' }, [], .returns r⟩

def compressWireMessage (src dst : List UInt8) : Call (List UInt8 × Option Error) :=
  match h.connection with
  | none => ⟨h, [], .returns (dst, some .connectionClosed)⟩
  | some c =>
    if c.compressor = .noOp then ⟨h, [], .returns (dst ++ src, none)⟩
    else match readHeader src with
    | none => ⟨h, [], .returns (dst,
        some (.text "wiremessage is too short to compress, less than 16 bytes"))⟩
    | some (_, reqid, respto, origcode, rem) =>
      let (idx, dst) := appendHeaderStart dst reqid respto opCompressed
      let dst := appendCompressedOriginalOpCode dst origcode
      let dst := appendCompressedUncompressedSize dst rem.length
      let dst := appendCompressedCompressorID dst c.compressor
      match ext.compressPayload rem ⟨c.compressor, c.zliblevel, c.zstdLevel⟩ with
      | .error e => ⟨h, [], .returns ([], some e)⟩
      | .ok compressed =>
        let dst := appendCompressedCompressedMessage dst compressed
        ⟨h, [], .returns (updateLength dst idx (dst.drop idx).length, none)⟩

def description : Call Server := guarded h {} Connection.desc

def cleanupReferences (c : Connection) : Call (Option Error) :=
  ⟨{ h with connection := none, cleanupPoolFn := none, cleanupServerFn := false },
    .checkIn :: h.cleanupPoolFn.toList ++ (if h.cleanupServerFn then [.cleanupServer] else []),
    .returns (ext.checkIn c)⟩

/-- `Connection.Close`: hands the connection back only when no resource pins it. -/
def close : Call (Option Error) :=
  match h.connection with
  | none => ⟨h, [], .returns none⟩
  | some c => if 0 < h.refCount then ⟨h, [], .returns none⟩ else cleanupReferences ext h c

def expire : Call (Option Error) :=
  match h.connection with
  | none => ⟨h, [], .returns none⟩
  | some c => cleanupReferences ext h (Topology.close c).1

/-- `Connection.pin`: only the first reference calls the pool and stores its cleanup. -/
def pin (reason : String) (updatePoolFn cleanupPoolFn : Callback) : Call (Option Error) :=
  match h.connection with
  | none => ⟨h, [], .returns (some (.text ("attempted to pin a connection for a " ++ reason ++
      ", but the connection has already been returned to the pool")))⟩
  | some _ =>
    if h.refCount = 0 then
      ⟨{ h with cleanupPoolFn := some cleanupPoolFn, refCount := wrapInt (h.refCount + 1) },
        [updatePoolFn], .returns none⟩
    else ⟨{ h with refCount := wrapInt (h.refCount + 1) }, [], .returns none⟩

/-- `Connection.PinToCursor`: its arguments read `c.connection.pool` before `pin` runs. -/
def pinToCursor : Call (Option Error) :=
  unguarded h fun _ => pin h "cursor" .pinConnectionToCursor .unpinConnectionFromCursor

def pinToTransaction : Call (Option Error) :=
  unguarded h fun _ =>
    pin h "transaction" .pinConnectionToTransaction .unpinConnectionFromTransaction

def unpin (reason : String) : Call (Option Error) :=
  match h.connection with
  | none => ⟨h, [], .returns none⟩
  | some _ =>
    if h.refCount = 0 then ⟨h, [], .returns (some (.text ("attempted to unpin a connection from a "
      ++ reason ++ ", but the connection is not pinned by any resources")))⟩
    else ⟨{ h with refCount := wrapInt (h.refCount - 1) }, [], .returns none⟩

def unpinFromCursor : Call (Option Error) := unpin h "cursor"

def unpinFromTransaction : Call (Option Error) := unpin h "transaction"

def id : Call String := guarded h "<closed>" Connection.id

def serverConnectionID : Call (Option Int) := guarded h none Connection.serverConnectionID

def stale : Call Bool := unguarded h fun c => ⟨h, [], .returns (ext.stale c)⟩

def address : Call String := guarded h "0.0.0.0" Connection.addr

def localAddress : Call String :=
  guarded h "0.0.0.0" fun c => match c.nc with | none => "0.0.0.0" | some nc => nc.localAddr

def driverConnectionID : Call Int :=
  unguarded h fun c => ⟨h, [], .returns c.driverConnectionID⟩

end Handle

inductive HandleOp
  | write (env : WriteEnv)
  | read (env : ReadEnv)
  | compressWireMessage (src dst : List UInt8)
  | description
  | close
  | expire
  | pinToCursor
  | pinToTransaction
  | unpinFromCursor
  | unpinFromTransaction
  | id
  | serverConnectionID
  | stale
  | address
  | localAddress
  | driverConnectionID

inductive Reply
  | error (e : Option Error)
  | message (r : Except Error (List UInt8))
  | compressed (r : List UInt8 × Option Error)
  | description (d : Server)
  | text (t : String)
  | serverConnectionID (id : Option Int)
  | stale (b : Bool)
  | driverConnectionID (id : Int)

def Call.reply {α : Type} (wrap : α → Reply) (k : Call α) : Call Reply :=
  ⟨k.handle, k.callbacks,
    match k.outcome with | .returns a => .returns (wrap a) | .panics => .panics⟩

namespace Handle

variable (ext : Externals)

def apply (h : Handle) : HandleOp → Call Reply
  | .write env => (h.write env).reply .error
  | .read env => (h.read env).reply .message
  | .compressWireMessage src dst => (h.compressWireMessage ext src dst).reply .compressed
  | .description => h.description.reply .description
  | .close => (h.close ext).reply .error
  | .expire => (h.expire ext).reply .error
  | .pinToCursor => h.pinToCursor.reply .error
  | .pinToTransaction => h.pinToTransaction.reply .error
  | .unpinFromCursor => h.unpinFromCursor.reply .error
  | .unpinFromTransaction => h.unpinFromTransaction.reply .error
  | .id => h.id.reply .text
  | .serverConnectionID => h.serverConnectionID.reply .serverConnectionID
  | .stale => (h.stale ext).reply .stale
  | .address => h.address.reply .text
  | .localAddress => h.localAddress.reply .text
  | .driverConnectionID => h.driverConnectionID.reply .driverConnectionID

/-- A sequence of calls, ended by the first that panics: the handle after it and the callbacks. -/
def run : Handle → List HandleOp → Handle × List Callback
  | h, [] => (h, [])
  | h, op :: ops =>
    match (apply ext h op).outcome with
    | .panics => ((apply ext h op).handle, (apply ext h op).callbacks)
    | .returns _ =>
      ((run (apply ext h op).handle ops).1,
        (apply ext h op).callbacks ++ (run (apply ext h op).handle ops).2)

end Handle

end MongoDriver.Topology
