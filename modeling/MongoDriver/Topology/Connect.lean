import MongoDriver.Topology.Framing
import MongoDriver.Topology.Negotiation

/-! # Establishing and closing a connection

`newConnection` builds a connection in the initialized state. `connect` moves it to connected
with a compare-and-swap, then dials, secures the socket with TLS or TLCP, runs the handshake
and selects a compressor; on an error its deferred function stores disconnected and closes the
socket. `close` moves a connected connection to disconnected with a compare-and-swap and closes
the socket. Both are cut at the points another goroutine can observe: each access to a field
another goroutine reads (`state`, `nc`, `desc`) and each call into a collaborator is one step, and
the collaborators' answers are data.
-/

namespace MongoDriver.Topology

structure HandshakeInformation where
  description : Server
  serverConnectionID : Option Int

/-- What the collaborators answer one `connect` call. -/
structure ConnectOutcomes where
  dial : Except Error String
  tlsHandshake : Option Error
  ocspVerify : Option Error
  tlcpHandshake : Option Error
  getHandshakeInformation : Except Error HandshakeInformation
  finishHandshake : Option Error

/-- The calls a goroutine makes outside the connection record. -/
inductive Invocation
  | dialContext (address : String)
  | clientHandshake (serverName : String)
  | ocspVerify
  | clientTLCPHandshake
  | getHandshakeInformation
  | finishHandshake
  | getGenerationFn (serviceID : Option ObjectID)
  | netConnClose (nc : NetConn)
  deriving DecidableEq, Repr

def setGenerationNumber (c : Connection) : Connection × List Invocation :=
  match c.config.getGenerationFn with
  | none => (c, [])
  | some getGenerationFn =>
    ({ c with generation := getGenerationFn c.desc.serviceID }, [.getGenerationFn c.desc.serviceID])

/-- `newConnection`, given the id `nextConnectionID` returns; with the calls it makes. -/
def newConnection (addr : String) (cfg : ConnectionConfig) (connectionID : Nat) :
    Connection × List Invocation :=
  let c : Connection :=
    { state := .disconnected, id := addr ++ "[-" ++ toString connectionID ++ "]", nc := none,
      addr := addr, desc := {}, compressor := .noOp, zliblevel := 0, zstdLevel := 0,
      connectDone := false, config := cfg, serverConnectionID := none, driverConnectionID := 0,
      generation := 0, awaitRemainingBytes := none }
  let (c, calls) := if !c.config.loadBalanced then setGenerationNumber c else (c, [])
  ({ c with state := .initialized }, calls)

section NewConnection

variable (addr : String) (cfg : ConnectionConfig) (connectionID : Nat)

@[simp] theorem newConnection_state :
    (newConnection addr cfg connectionID).1.state = .initialized := by
  simp only [newConnection]

theorem newConnection_fields :
    (newConnection addr cfg connectionID).1.nc = none ∧
    (newConnection addr cfg connectionID).1.connectDone = false ∧
    (newConnection addr cfg connectionID).1.desc = {} ∧
    (newConnection addr cfg connectionID).1.config = cfg ∧
    (newConnection addr cfg connectionID).1.generation =
      (match cfg.loadBalanced, cfg.getGenerationFn with
        | false, some getGenerationFn => getGenerationFn none
        | _, _ => 0) ∧
    (newConnection addr cfg connectionID).2 =
      (match cfg.loadBalanced, cfg.getGenerationFn with
        | false, some _ => [.getGenerationFn none]
        | _, _ => []) := by
  cases hlb : cfg.loadBalanced <;> cases hfn : cfg.getGenerationFn <;>
    simp [newConnection, setGenerationNumber, hlb, hfn]

end NewConnection

/-- The SNI host name: the address up to its last `:`, or all of it. -/
def sniHostname (addr : String) : String :=
  if ':' ∈ addr.data then ⟨(addr.data.reverse.dropWhile (· != ':')).tail.reverse⟩ else addr

def initError (err : Error) (message : String) : Error := .connection "" (some err) true message

/-- The points of `connect` between its steps. -/
inductive ConnectPc
  | start -- before the compare-and-swap from initialized to connected
  | dial -- before `DialContext`
  | dialed (tempNc : NetConn) -- before `c.nc = tempNc`
  | tls -- before `if c.config.tlsConfig != nil` and `configureTLS`
  | tlsConfigured (tlsNc : NetConn) -- before `c.nc = tlsNc`
  | tlcp -- before `if c.config.tlcpConfig != nil` and `configureTLCP`
  | tlcpConfigured (tlcpNc : NetConn) -- before `c.nc = tlcpNc`
  | handshake -- before `if handshaker == nil` and `GetHandshakeInformation`
  | generation -- before `if c.config.loadBalanced` and `c.setGenerationNumber()`
  | finish -- before `FinishHandshake`
  | compress -- before the compressor selection
  | teardown (err : Error) -- the deferred function, before `Store(&c.state, connDisconnected)`
  | closeNc (err : Error) -- the deferred function, before `c.nc.Close()`
  | done (err : Option Error) -- before `close(c.connectDone)`
  | returned (err : Option Error) -- after `connect` has returned `err`
  | lost -- after the compare-and-swap failed and `connect` returned nil
  | panicked -- after a method was called on a nil socket

def ConnectPc.won : ConnectPc → Bool
  | .start | .lost => false
  | _ => true

section Connect

variable (lib : Library) (o : ConnectOutcomes)

/-- One step of `connect`: the connection after it, the next point, and the calls it made. -/
def connectStep (c : Connection) : ConnectPc → Connection × ConnectPc × List Invocation
  | .start =>
    if c.state = .initialized then ({ c with state := .connected }, .dial, []) else (c, .lost, [])
  | .dial =>
    match o.dial with
    | .error e =>
      (c, .teardown (initError e ("failed to connect to " ++ c.addr)), [.dialContext c.addr])
    | .ok localAddr => (c, .dialed (.raw localAddr), [.dialContext c.addr])
  | .dialed tempNc => ({ c with nc := some tempNc }, .tls, [])
  | .tls =>
    match c.config.tlsConfig, c.nc with
    | none, _ => (c, .tlcp, [])
    | some _, none => (c, .panicked, [])
    | some tlsConfig, some nc =>
      let serverName :=
        if tlsConfig.serverName = "" then sniHostname c.addr else tlsConfig.serverName
      let err := fun e => initError e ("failed to configure TLS for " ++ c.addr)
      match o.tlsHandshake with
      | some e => (c, .teardown (err e), [.clientHandshake serverName])
      | none =>
        if tlsConfig.insecureSkipVerify then
          (c, .tlsConfigured (.tls nc), [.clientHandshake serverName])
        else match o.ocspVerify with
          | some e => (c, .teardown (err e), [.clientHandshake serverName, .ocspVerify])
          | none => (c, .tlsConfigured (.tls nc), [.clientHandshake serverName, .ocspVerify])
  | .tlsConfigured tlsNc => ({ c with nc := some tlsNc }, .tlcp, [])
  | .tlcp =>
    match c.config.tlcpConfig, c.nc with
    | false, _ => (c, .handshake, [])
    | true, none => (c, .panicked, [])
    | true, some nc =>
      match o.tlcpHandshake with
      | some e => (c, .teardown (initError e ("failed to configure TLCP for " ++ c.addr)),
          [.clientTLCPHandshake])
      | none => (c, .tlcpConfigured (.tlcp nc), [.clientTLCPHandshake])
  | .tlcpConfigured tlcpNc => ({ c with nc := some tlcpNc }, .handshake, [])
  | .handshake =>
    if !c.config.handshaker then (c, .done none, [])
    else match o.getHandshakeInformation with
      | .error e => (c, .teardown (initError e ""), [.getHandshakeInformation])
      | .ok info =>
        let c := { c with desc := info.description, serverConnectionID := info.serverConnectionID }
        if c.config.loadBalanced ∧ c.desc.serviceID = none then
          (c, .teardown (initError .loadBalancedStateMismatch ""), [.getHandshakeInformation])
        else (c, .generation, [.getHandshakeInformation])
  | .generation =>
    if c.config.loadBalanced then ((setGenerationNumber c).1, .finish, (setGenerationNumber c).2)
    else (c, .finish, [])
  | .finish =>
    match o.finishHandshake with
    | some e => (c, .teardown (initError e ""), [.finishHandshake])
    | none => (c, .compress, [.finishHandshake])
  | .compress => (selectCompressor lib c, .done none, [])
  | .teardown err => ({ c with state := .disconnected }, .closeNc err, [])
  | .closeNc err =>
    (c, .done (some err), match c.nc with | some nc => [.netConnClose nc] | none => [])
  | .done err => ({ c with connectDone := true }, .returned err, [])
  | .returned err => (c, .returned err, [])
  | .lost => (c, .lost, [])
  | .panicked => (c, .panicked, [])

end Connect

/-- The points of `connection.close`. -/
inductive ClosePc
  -- Before the compare-and-swap from connected to disconnected.
  | cas
  -- Before `c.nc.Close()`.
  | closeNc
  -- After `close` has returned.
  | returned

def closeStep (c : Connection) : ClosePc → Connection × ClosePc × List Invocation
  | .cas =>
    if c.state = .connected then ({ c with state := .disconnected }, .closeNc, [])
    else (c, .returned, [])
  | .closeNc => (c, .returned, match c.nc with | some nc => [.netConnClose nc] | none => [])
  | .returned => (c, .returned, [])

section Fields

variable {lib : Library} {o : ConnectOutcomes} {c : Connection}

theorem selectCompressor_eq (lib : Library) (c : Connection) : ∃ a b d,
    selectCompressor lib c = { c with compressor := a, zliblevel := b, zstdLevel := d } := by
  have hApply : ∀ m, ∃ a b d,
      applyCompressor lib c m = { c with compressor := a, zliblevel := b, zstdLevel := d } := by
    intro m; unfold applyCompressor; split <;> exact ⟨_, _, _, rfl⟩
  have hLoop : ∀ C, ∃ a b d, clientMethodLoop lib c.desc.compression c C =
      { c with compressor := a, zliblevel := b, zstdLevel := d } := by
    intro C
    induction C with
    | nil => exact ⟨_, _, _, rfl⟩
    | cons m C ih => rw [clientMethodLoop]; split; exacts [hApply m, ih]
  unfold selectCompressor; split; exacts [hLoop _, ⟨_, _, _, rfl⟩]

theorem connectStep_fields {pc : ConnectPc} (hw : pc.won) :
    let c' := (connectStep lib o c pc).1
    (c'.state = c.state ∨ c'.state = .disconnected) ∧ c'.config = c.config ∧
      c'.addr = c.addr ∧ c'.id = c.id ∧ c'.awaitRemainingBytes = c.awaitRemainingBytes := by
  cases pc <;> simp only [ConnectPc.won, Bool.false_eq_true] at hw
  case compress =>
    obtain ⟨a, b, d, h⟩ := selectCompressor_eq lib c
    simp only [connectStep, h, true_or, and_self]
  case generation =>
    simp only [connectStep, setGenerationNumber]
    repeat' split
    all_goals simp
  all_goals simp only [connectStep]; repeat' split
  all_goals simp

theorem connectStep_won {pc : ConnectPc} (hw : pc.won) : (connectStep lib o c pc).2.1.won := by
  cases pc <;> simp only [ConnectPc.won, Bool.false_eq_true] at hw <;> simp only [connectStep] <;>
    (repeat' split) <;> rfl

theorem connectStep_start : connectStep lib o c .start =
    if c.state = .initialized then ({ c with state := .connected }, .dial, [])
    else (c, .lost, []) :=
  rfl

theorem closeStep_eq (c : Connection) (pc : ClosePc) :
    (closeStep c pc).1 = c ∨
      (c.state = .connected ∧ (closeStep c pc).1 = { c with state := .disconnected }) := by
  cases pc
  · by_cases h : c.state = .connected
    · exact .inr ⟨h, by simp [closeStep, h]⟩
    · exact .inl (by simp [closeStep, h])
  all_goals exact .inl rfl

end Fields

end MongoDriver.Topology
