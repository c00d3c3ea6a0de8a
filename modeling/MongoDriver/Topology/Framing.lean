import MongoDriver.Topology.Basic
import MongoDriver.Wiremessage.Bytes

/-! # Wire framing

`readWireMessage` reads the 4-byte little-endian length prefix, checks it against the
negotiated maximum and reads the rest of the message with full-read semantics. The socket is a
`Stream`: the bytes that arrive, then the error every later read gets. A read that times out
leaves the number of bytes still owed in `awaitRemainingBytes` instead of closing the
connection. On a connected connection whose socket is not set yet, the deadline call panics.
-/

namespace MongoDriver.Topology

open Wiremessage

def defaultMaxMessageSize : Nat := 48000000

/-- The peer's side of a socket: the bytes that arrive, then the error every later read gets. -/
structure Stream where
  data : List UInt8
  stop : Error

def Stream.shortReadError (s : Stream) : Error :=
  match s.stop, s.data with
  | .eof, _ :: _ => .unexpectedEOF
  | e, _ => e

/-- `io.ReadFull` into a buffer of `k` bytes: the bytes read, the error, and the stream left. -/
def readFull (s : Stream) (k : Nat) : List UInt8 × Option Error × Stream :=
  if k ≤ s.data.length then (s.data.take k, none, ⟨s.data.drop k, s.stop⟩)
  else (s.data, some s.shortReadError, ⟨[], s.stop⟩)

structure Context where
  hasDeadline : Bool
  canceled : Bool

def transformNetworkError (ctx : Context) (originalError : Error) (contextDeadlineUsed : Bool) :
    Error :=
  if ctx.canceled then .canceled
  else if !contextDeadlineUsed then originalError
  else match originalError with
    | .timeout => .deadlineExceeded originalError
    | _ => originalError

/-- The negotiated maximum message size, or `defaultMaxMessageSize` while it is unset. -/
def effectiveMaxMessageSize (desc : Server) : Nat :=
  if desc.maxMessageSize = 0 then defaultMaxMessageSize else desc.maxMessageSize.toNat

def parseWmSizeBytes (c : Connection) (wmSizeBytes : List UInt8) : Except Error Int :=
  let size := toInt32 (leUint wmSizeBytes)
  if size < 4 then .error (.malformedLength size)
  else if toUint32 size > effectiveMaxMessageSize c.desc then .error .responseTooLarge
  else .ok size

structure ReadReply where
  bytesRead : List UInt8
  errMsg : String
  err : Option Error

/-- `connection.read` up to its deferred call; `make([]byte, size)` and `dst[4:]` may panic. -/
def readMessage (c : Connection) (s : Stream) : Outcome (Connection × Stream × ReadReply) :=
  let (sizeBuf, err, s) := readFull s 4
  match err with
  | some e =>
    let c := if sizeBuf.length = 0 ∧ e.isTimeout then { c with awaitRemainingBytes := some 0 }
      else c
    .returns (c, s, ⟨[], "incomplete read of message header", some e⟩)
  | none =>
    match parseWmSizeBytes c sizeBuf with
    | .error e => .returns (c, s, ⟨[], e.message, some e⟩)
    | .ok size =>
      if size < 4 then .panics
      else
        let (body, err, s) := readFull s (size.toNat - 4)
        let dst := sizeBuf ++ body ++ List.replicate (size.toNat - 4 - body.length) 0
        match err with
        | some e =>
          let remainingBytes := size - 4 - body.length
          let c := if 0 < remainingBytes ∧ e.isTimeout then
              { c with awaitRemainingBytes := some remainingBytes } else c
          .returns (c, s, ⟨dst, "incomplete read of full message", some e⟩)
        | none => .returns (c, s, ⟨dst, "", none⟩)

def read (c : Connection) (s : Stream) (aborted : Bool) :
    Outcome (Connection × Stream × ReadReply) :=
  match readMessage c s with
  | .panics => .panics
  | .returns (c, s, r) =>
    .returns (c, s, if aborted ∧ r.err.isNone then
      ⟨r.bytesRead, "unable to read server response", some .canceled⟩ else r)

/-- What one `readWireMessage` call meets: context, deadline result, socket, and listener. -/
structure ReadEnv where
  ctx : Context
  setDeadline : Option Error
  stream : Stream
  aborted : Bool

def readWireMessage (c : Connection) (env : ReadEnv) :
    Outcome (Connection × Stream × Except Error (List UInt8)) :=
  if c.state ≠ .connected then
    .returns (c, env.stream, .error (.connection c.id none false "connection is closed"))
  else match c.nc with
  | none => .panics
  | some _ =>
    match env.setDeadline with
    | some e => .returns (c, env.stream,
        .error (.connection c.id (some e) false "failed to set read deadline"))
    | none =>
      let c := if env.aborted then (close c).1 else c
      match read c env.stream env.aborted with
      | .panics => .panics
      | .returns (c, s, r) =>
        match r.err with
        | none => .returns (c, s, .ok r.bytesRead)
        | some e =>
          let c := if c.awaitRemainingBytes.isNone then (close c).1 else c
          .returns (c, s, .error (.connection c.id
            (some (transformNetworkError env.ctx e env.ctx.hasDeadline)) false r.errMsg))

/-- What one `writeWireMessage` call meets: context, deadline result, write error, and listener. -/
structure WriteEnv where
  ctx : Context
  setDeadline : Option Error
  result : Option Error
  aborted : Bool

def write (env : WriteEnv) : Option Error :=
  if env.aborted ∧ env.result.isNone then some .canceled else env.result

def writeWireMessage (c : Connection) (env : WriteEnv) : Outcome (Connection × Option Error) :=
  if c.state ≠ .connected then
    .returns (c, some (.connection c.id none false "connection is closed"))
  else match c.nc with
  | none => .panics
  | some _ =>
    match env.setDeadline with
    | some e => .returns (c, some (.connection c.id (some e) false "failed to set write deadline"))
    | none =>
      let c := if env.aborted then (close c).1 else c
      match write env with
      | none => .returns (c, none)
      | some e => .returns ((close c).1, some (.connection c.id
          (some (transformNetworkError env.ctx e env.ctx.hasDeadline)) false
          "unable to write wire message to network"))

section Reads

variable {c : Connection} {s : Stream} {k : Nat}

theorem readFull_of_le (h : k ≤ s.data.length) :
    readFull s k = (s.data.take k, none, ⟨s.data.drop k, s.stop⟩) := if_pos h

theorem readFull_of_lt (h : s.data.length < k) :
    readFull s k = (s.data, some s.shortReadError, ⟨[], s.stop⟩) := if_neg (by omega)

theorem parseWmSizeBytes_ok {b : List UInt8} {size : Int} (h : parseWmSizeBytes c b = .ok size) :
    4 ≤ size ∧ toUint32 size ≤ effectiveMaxMessageSize c.desc := by
  dsimp only [parseWmSizeBytes] at h
  split at h
  · cases h
  · split at h
    · cases h
    · cases h; omega

theorem parseWmSizeBytes_of_le {b : List UInt8} (h4 : 4 ≤ toInt32 (leUint b))
    (hM : toUint32 (toInt32 (leUint b)) ≤ effectiveMaxMessageSize c.desc) :
    parseWmSizeBytes c b = .ok (toInt32 (leUint b)) := by
  dsimp only [parseWmSizeBytes]
  rw [if_neg (by omega), if_neg (by omega)]

theorem parseWmSizeBytes_frame {f : List UInt8} (h4 : 4 ≤ f.length) (h31 : f.length < 2 ^ 31)
    (hM : f.length ≤ effectiveMaxMessageSize c.desc) (hp : f.take 4 = le32 f.length) :
    parseWmSizeBytes c (f.take 4) = .ok f.length := by
  have hu : leUint (f.take 4) = f.length := by
    rw [hp, leUint_le32, Nat.mod_eq_of_lt (by omega)]
  have hs : toInt32 (f.length) = f.length := toInt32_of_lt h31
  have hu32 : toUint32 (f.length : Int) = f.length := by
    rw [toUint32_of_nonneg (by omega) (by omega)]; rfl
  simp only [parseWmSizeBytes, hu, hs, hu32]
  rw [if_neg (by omega), if_neg (by omega)]

theorem readMessage_of_ok {size : Int} (h4 : 4 ≤ s.data.length)
    (hp : parseWmSizeBytes c (s.data.take 4) = .ok size) (hL : size.toNat ≤ s.data.length) :
    readMessage c s = .returns (c, ⟨s.data.drop size.toNat, s.stop⟩,
      ⟨s.data.take size.toNat, "", none⟩) := by
  obtain ⟨hs4, -⟩ := parseWmSizeBytes_ok hp
  have hb : size.toNat - 4 ≤ (s.data.drop 4).length := by simp; omega
  have hdrop : (s.data.drop 4).drop (size.toNat - 4) = s.data.drop size.toNat := by
    rw [List.drop_drop]; congr 1; omega
  have htake : s.data.take 4 ++ (s.data.drop 4).take (size.toNat - 4) = s.data.take size.toNat := by
    conv_rhs => rw [← List.take_append_drop 4 s.data]
    rw [List.take_append_eq_append_take, List.take_take, List.length_take]
    congr 2 <;> omega
  have hlen : size.toNat - 4 - ((s.data.drop 4).take (size.toNat - 4)).length = 0 := by simp; omega
  simp only [readMessage, readFull_of_le h4, hp, if_neg (show ¬ size < 4 by omega),
    @readFull_of_le ⟨s.data.drop 4, s.stop⟩ _ hb, hdrop, hlen, List.replicate_zero, List.append_nil,
    htake]

theorem readMessage_of_error {e : Error} (h4 : 4 ≤ s.data.length)
    (hp : parseWmSizeBytes c (s.data.take 4) = .error e) :
    readMessage c s = .returns (c, ⟨s.data.drop 4, s.stop⟩, ⟨[], e.message, some e⟩) := by
  simp only [readMessage, readFull_of_le h4, hp]

theorem readMessage_of_short {size : Int} (h4 : 4 ≤ s.data.length)
    (hp : parseWmSizeBytes c (s.data.take 4) = .ok size) (hL : s.data.length < size.toNat) :
    ∃ c' r, readMessage c s = .returns (c', ⟨[], s.stop⟩, r) ∧ r.err.isSome := by
  obtain ⟨hs4, -⟩ := parseWmSizeBytes_ok hp
  have hb : (s.data.drop 4).length < size.toNat - 4 := by simp; omega
  simp only [readMessage, readFull_of_le h4, hp, if_neg (show ¬ size < 4 by omega),
    @readFull_of_lt ⟨s.data.drop 4, s.stop⟩ _ hb]
  exact ⟨_, _, rfl, rfl⟩

/-- `readMessage` never panics: the size check keeps the allocation and the slice in range. -/
theorem readMessage_ne_panics : readMessage c s ≠ .panics := by
  unfold readMessage
  split
  split
  · simp
  · split
    · simp
    · rename_i size hp
      rw [if_neg (by have := (parseWmSizeBytes_ok hp).1; omega)]
      split
      split <;> simp

end Reads

section Frames

variable {c : Connection} {ctx : Context} {stop : Error}

/-- A well-formed frame for the maximum `M`: a length prefix, then the rest of its bytes. -/
def IsFrame (M : Nat) (f : List UInt8) : Prop :=
  4 ≤ f.length ∧ f.length ≤ M ∧ f.length < 2 ^ 31 ∧ f.take 4 = le32 f.length

/-- `k` successive uncancelled `readWireMessage` calls on one stream. -/
def readSuccessive (c : Connection) (ctx : Context) :
    Nat → Stream → List (Except Error (List UInt8)) × Stream
  | 0, s => ([], s)
  | k + 1, s =>
    match readWireMessage c ⟨ctx, none, s, false⟩ with
    | .returns (c', s', r) =>
      ((r :: (readSuccessive c' ctx k s').1), (readSuccessive c' ctx k s').2)
    | .panics => ([], s)

theorem readWireMessage_eq (h : c.state = .connected) (hnc : c.nc.isSome) (s : Stream) :
    readWireMessage c ⟨ctx, none, s, false⟩ =
      match readMessage c s with
      | .panics => .panics
      | .returns (c', s', r) =>
        match r.err with
        | none => .returns (c', s', .ok r.bytesRead)
        | some e => .returns (if c'.awaitRemainingBytes.isNone then (close c').1 else c', s',
            .error (.connection c'.id (some (transformNetworkError ctx e ctx.hasDeadline)) false
              r.errMsg)) := by
  obtain ⟨n, hn⟩ := Option.isSome_iff_exists.mp hnc
  simp only [readWireMessage, h, hn, ne_eq, not_true_eq_false, if_false, Bool.false_eq_true,
    read, false_and]
  rcases readMessage c s with ⟨⟨c', s', ⟨b, m, _ | e⟩⟩⟩ | _ <;> simp only
  split <;> simp only [close_id]

theorem readWireMessage_frame {f more : List UInt8} (h : c.state = .connected) (hnc : c.nc.isSome)
    (hf : IsFrame (effectiveMaxMessageSize c.desc) f) :
    readWireMessage c ⟨ctx, none, ⟨f ++ more, stop⟩, false⟩ =
      .returns (c, ⟨more, stop⟩, .ok f) := by
  obtain ⟨h4, hM, h31, hp⟩ := hf
  have hlen : 4 ≤ (f ++ more).length := by simp only [List.length_append]; omega
  have hparse : parseWmSizeBytes c ((f ++ more).take 4) = .ok (f.length : Int) := by
    rw [List.take_append_of_le_length h4]; exact parseWmSizeBytes_frame h4 h31 hM hp
  have hL : (f.length : Int).toNat ≤ (f ++ more).length := by
    simp only [Int.toNat_ofNat, List.length_append]; omega
  rw [readWireMessage_eq h hnc, @readMessage_of_ok c ⟨f ++ more, stop⟩ _ hlen hparse hL]
  simp only [Int.toNat_ofNat, List.drop_left, List.take_left]

theorem readSuccessive_frames (h : c.state = .connected) (hnc : c.nc.isSome)
    {frames : List (List UInt8)} (rest : List UInt8)
    (hf : ∀ f ∈ frames, IsFrame (effectiveMaxMessageSize c.desc) f) :
    readSuccessive c ctx frames.length ⟨frames.flatten ++ rest, stop⟩ =
      (frames.map .ok, ⟨rest, stop⟩) := by
  induction frames with
  | nil => rfl
  | cons f fs ih =>
    simp only [List.flatten_cons, List.append_assoc, List.length_cons, readSuccessive,
      readWireMessage_frame h hnc (hf f (List.mem_cons_self f fs)),
      ih (fun g hg => hf g (List.mem_cons_of_mem f hg)), List.map_cons]

/-- Wire framing decodes exactly the frames on the stream, in order, and nothing past them. -/
theorem readWireMessage_decodes_frames (h : c.state = .connected) (hnc : c.nc.isSome) :
    (∀ data, readWireMessage c ⟨ctx, none, ⟨data, stop⟩, false⟩ ≠ .panics) ∧
    (∀ data, data.length < 4 → ∃ c' e,
      readWireMessage c ⟨ctx, none, ⟨data, stop⟩, false⟩ = .returns (c', ⟨[], stop⟩, .error e)) ∧
    (∀ data L, 4 ≤ data.length → L = toInt32 (leUint (data.take 4)) →
      (L < 4 ∨ effectiveMaxMessageSize c.desc < toUint32 L → ∃ c' e,
        readWireMessage c ⟨ctx, none, ⟨data, stop⟩, false⟩ =
          .returns (c', ⟨data.drop 4, stop⟩, .error e)) ∧
      (4 ≤ L → toUint32 L ≤ effectiveMaxMessageSize c.desc → L.toNat ≤ data.length →
        readWireMessage c ⟨ctx, none, ⟨data, stop⟩, false⟩ =
          .returns (c, ⟨data.drop L.toNat, stop⟩, .ok (data.take L.toNat))) ∧
      (4 ≤ L → toUint32 L ≤ effectiveMaxMessageSize c.desc → data.length < L.toNat → ∃ c' e,
        readWireMessage c ⟨ctx, none, ⟨data, stop⟩, false⟩ = .returns (c', ⟨[], stop⟩, .error e))) ∧
    (∀ (frames : List (List UInt8)) rest,
      (∀ f ∈ frames, IsFrame (effectiveMaxMessageSize c.desc) f) →
      readSuccessive c ctx frames.length ⟨frames.flatten ++ rest, stop⟩ =
        (frames.map .ok, ⟨rest, stop⟩)) := by
  refine ⟨fun data => ?_, fun data hd => ?_, fun data L hd hLe => ?_, fun frames rest hf => ?_⟩
  · rw [readWireMessage_eq h hnc]
    rcases hr : readMessage c ⟨data, stop⟩ with ⟨⟨c', s', ⟨b, m, _ | e⟩⟩⟩ | _
    · simp
    · simp
    · exact absurd hr readMessage_ne_panics
  · rw [readWireMessage_eq h hnc]
    simp only [readMessage, @readFull_of_lt ⟨data, stop⟩ 4 hd]
    exact ⟨_, _, rfl⟩
  · subst hLe
    refine ⟨fun hL => ?_, fun h4 hM hL => ?_, fun h4 hM hL => ?_⟩
    · have hp : ∃ e, parseWmSizeBytes c (data.take 4) = .error e := by
        dsimp only [parseWmSizeBytes]
        split
        · exact ⟨_, rfl⟩
        · rw [if_pos (by omega)]; exact ⟨_, rfl⟩
      obtain ⟨e, hp⟩ := hp
      rw [readWireMessage_eq h hnc, @readMessage_of_error c ⟨data, stop⟩ _ hd hp]
      exact ⟨_, _, rfl⟩
    · rw [readWireMessage_eq h hnc,
        @readMessage_of_ok c ⟨data, stop⟩ _ hd (parseWmSizeBytes_of_le h4 hM) hL]
    · obtain ⟨c', r, hr, herr⟩ :=
        @readMessage_of_short c ⟨data, stop⟩ _ hd (parseWmSizeBytes_of_le h4 hM) hL
      rw [readWireMessage_eq h hnc, hr]
      obtain ⟨e, he⟩ := Option.isSome_iff_exists.mp herr
      simp only [he]
      exact ⟨_, _, rfl⟩
  · exact readSuccessive_frames h hnc rest hf

theorem readWireMessage_decodes_frames_witness :
    let c₀ : Connection :=
      { state := .connected, id := "localhost:27017[-2]", nc := some (.raw "127.0.0.1:50000"),
        addr := "localhost:27017", desc := {}, compressor := .noOp, zliblevel := 0,
        zstdLevel := 0, connectDone := true, config := {}, serverConnectionID := none,
        driverConnectionID := 0, generation := 0, awaitRemainingBytes := none }
    let frame : List UInt8 := [16, 0, 0, 0, 1, 0, 0, 0, 0, 0, 0, 0, 221, 7, 0, 0]
    c₀.state = .connected ∧ c₀.nc.isSome ∧
      readSuccessive c₀ ⟨false, false⟩ 1 ⟨frame ++ [9], .eof⟩ = ([.ok frame], ⟨[9], .eof⟩) := by
  intro c₀ frame
  have hs : c₀.state = .connected := rfl
  have hn : c₀.nc.isSome := rfl
  refine ⟨hs, hn, (readWireMessage_decodes_frames hs hn).2.2.2 [frame] [9] ?_⟩
  simp only [List.mem_singleton, forall_eq, IsFrame]
  decide

end Frames

end MongoDriver.Topology
