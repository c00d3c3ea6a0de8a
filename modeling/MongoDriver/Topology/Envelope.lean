import MongoDriver.Topology.Handle

/-! # The compressed envelope round trip

`CompressWireMessage` copies the request and response ids of the message header, writes the
`OpCompressed` opcode, then the original opcode, the uncompressed size, the compressor id and
the payload, and patches the length where `AppendHeaderStart` reserved it. The receiving side
reads these fields back and rebuilds the original message byte for byte.
-/

namespace MongoDriver.Topology

open Wiremessage

section Layout

variable {a b c d rest : List UInt8}

theorem readHeader_append (ha : a.length = 4) (hb : b.length = 4) (hc : c.length = 4)
    (hd : d.length = 4) :
    readHeader (a ++ b ++ c ++ d ++ rest) =
      some (leUint a, leUint b, leUint c, leUint d, rest) := by
  have h16 : 16 ≤ (a ++ b ++ c ++ d ++ rest).length := by simp only [List.length_append]; omega
  rw [readHeader_of_le h16]
  simp only [List.append_assoc, List.take_left' ha, List.drop_left' ha, List.take_left' hb]
  rw [show 8 = 4 + 4 from rfl, ← List.drop_drop, List.drop_left' ha, List.drop_left' hb,
    List.take_left' hc, show 12 = 4 + 4 + 4 from rfl, ← List.drop_drop, ← List.drop_drop,
    List.drop_left' ha, List.drop_left' hb, List.drop_left' hc, List.take_left' hd,
    show 16 = 4 + 4 + 4 + 4 from rfl, ← List.drop_drop, ← List.drop_drop, ← List.drop_drop,
    List.drop_left' ha, List.drop_left' hb, List.drop_left' hc, List.drop_left' hd]

theorem updateLength_reserved (dst : List UInt8) (n : Nat) :
    updateLength (dst ++ [0, 0, 0, 0] ++ rest) dst.length n = dst ++ le32 n ++ rest := by
  unfold updateLength
  simp only [List.append_assoc]
  rw [List.take_left, List.drop_append]
  rfl

end Layout

variable (ext : Externals) {h : Handle} {c : Connection} {src dst p : List UInt8}

/-- With a compressor, a message of at least 16 bytes becomes `dst` followed by the envelope. -/
theorem compressWireMessage_layout (hc : h.connection = some c) (hne : c.compressor ≠ .noOp)
    (h16 : 16 ≤ src.length)
    (hp : ext.compressPayload (src.drop 16) ⟨c.compressor, c.zliblevel, c.zstdLevel⟩ = .ok p) :
    (h.compressWireMessage ext src dst).outcome = .returns (dst ++ (le32 (25 + p.length) ++
      (src.drop 4).take 4 ++ (src.drop 8).take 4 ++ le32 opCompressed ++ (src.drop 12).take 4 ++
      le32 (src.length - 16) ++ [c.compressor.toByte] ++ p), none) := by
  have h4 : ((src.drop 4).take 4).length = 4 := length_take_drop_four (by omega)
  have h8 : ((src.drop 8).take 4).length = 4 := length_take_drop_four (by omega)
  have h12 : ((src.drop 12).take 4).length = 4 := length_take_drop_four (by omega)
  simp only [Handle.compressWireMessage, hc, if_neg hne, readHeader_of_le h16,
    appendHeaderStart, appendCompressedOriginalOpCode, appendCompressedUncompressedSize,
    appendCompressedCompressorID, appendCompressedCompressedMessage, appendi32, hp,
    le32_leUint h4, le32_leUint h8, le32_leUint h12, List.length_drop, List.append_assoc]
  rw [← List.append_assoc dst, updateLength_reserved]
  simp only [List.drop_left, List.length_append, List.length_cons, length_le32,
    List.length_take, List.length_drop, List.append_assoc]
  congr 5
  simp only [List.length_singleton, List.length_nil, h4, h8, h12]
  omega

/-- The receiving side rebuilds the original message from the envelope. -/
theorem decompressWireMessage_envelope {decompress : UInt8 → List UInt8 → Option (List UInt8)}
    {id : UInt8} (h16 : 16 ≤ src.length) (h31 : src.length < 2 ^ 31)
    (hlen : src.take 4 = le32 src.length) (hd : decompress id p = some (src.drop 16)) :
    decompressWireMessage decompress (le32 (25 + p.length) ++ (src.drop 4).take 4 ++
      (src.drop 8).take 4 ++ le32 opCompressed ++ (src.drop 12).take 4 ++
      le32 (src.length - 16) ++ [id] ++ p) = some src := by
  have h4 : ((src.drop 4).take 4).length = 4 := length_take_drop_four (by omega)
  have h8 : ((src.drop 8).take 4).length = 4 := length_take_drop_four (by omega)
  have h12 : ((src.drop 12).take 4).length = 4 := length_take_drop_four (by omega)
  have hsize : leUint (le32 (src.length - 16)) = src.length - 16 := by
    rw [leUint_le32, Nat.mod_eq_of_lt (by omega)]
  have hop : leUint (le32 opCompressed) = opCompressed := by
    rw [leUint_le32]; rfl
  have he : le32 (25 + p.length) ++ (src.drop 4).take 4 ++ (src.drop 8).take 4 ++
      le32 opCompressed ++ (src.drop 12).take 4 ++ le32 (src.length - 16) ++ [id] ++ p =
      le32 (25 + p.length) ++ (src.drop 4).take 4 ++ (src.drop 8).take 4 ++ le32 opCompressed ++
        ((src.drop 12).take 4 ++ le32 (src.length - 16) ++ id :: p) := by
    simp only [List.append_assoc, List.singleton_append]
  have h8' : ((src.drop 12).take 4 ++ le32 (src.length - 16)).length = 8 := by
    simp only [List.length_append, h12, length_le32]
  have hrem8 : ((src.drop 12).take 4 ++ le32 (src.length - 16) ++ id :: p).getD 8 0 = id := by
    rw [List.getD_eq_getElem?_getD, List.getElem?_append_right (by omega), h8']
    simp
  have hrem9 : ((src.drop 12).take 4 ++ le32 (src.length - 16) ++ id :: p).drop 9 = p := by
    rw [show 9 = 8 + 1 from rfl, ← List.drop_drop, List.drop_left' h8']
    rfl
  have hlen9 : ¬ ((src.drop 12).take 4 ++ le32 (src.length - 16) ++ id :: p).length < 9 := by
    simp only [List.length_append, List.length_cons, h8']; omega
  have hrem4 : ((src.drop 12).take 4 ++ le32 (src.length - 16) ++ id :: p).take 4 =
      (src.drop 12).take 4 := by
    rw [List.append_assoc, List.take_left' h12]
  have hremS : (((src.drop 12).take 4 ++ le32 (src.length - 16) ++ id :: p).drop 4).take 4 =
      le32 (src.length - 16) := by
    rw [List.append_assoc, List.drop_left' h12, List.take_left' (length_le32 _)]
  rw [he]
  unfold decompressWireMessage
  rw [readHeader_append (length_le32 _) h4 h8 (length_le32 _)]
  simp only [hop, ne_eq, not_true_eq_false, false_or, hlen9, if_false, hrem8, hrem9, hd, hrem4,
    hremS, hsize]
  rw [show 16 + (src.length - 16) = src.length by omega, ← hlen, le32_leUint h4, le32_leUint h8,
    le32_leUint h12]
  exact congrArg some (header_split h16).symm

theorem compressWireMessage_noOp (hc : h.connection = some c) (hn : c.compressor = .noOp) :
    (h.compressWireMessage ext src dst).outcome = .returns (dst ++ src, none) := by
  simp only [Handle.compressWireMessage, hc, hn, if_true]

theorem compressWireMessage_short (hc : h.connection = some c) (hne : c.compressor ≠ .noOp)
    (h16 : src.length < 16) :
    ∃ e, (h.compressWireMessage ext src dst).outcome = .returns (dst, some e) := by
  simp only [Handle.compressWireMessage, hc, if_neg hne, readHeader, if_pos h16]
  exact ⟨_, rfl⟩

/-- The compressed envelope round-trips through `decompressWireMessage`. -/
theorem compressWireMessage_round_trip (hc : h.connection = some c) :
    (c.compressor = .noOp →
      (h.compressWireMessage ext src dst).outcome = .returns (dst ++ src, none)) ∧
    (c.compressor ≠ .noOp → src.length < 16 →
      ∃ e, (h.compressWireMessage ext src dst).outcome = .returns (dst, some e)) ∧
    (c.compressor ≠ .noOp → 16 ≤ src.length → src.length < 2 ^ 31 →
      src.take 4 = le32 src.length →
      ext.compressPayload (src.drop 16) ⟨c.compressor, c.zliblevel, c.zstdLevel⟩ = .ok p →
      ∃ e, (h.compressWireMessage ext src dst).outcome = .returns (dst ++ e, none) ∧
        e = le32 e.length ++ (src.drop 4).take 4 ++ (src.drop 8).take 4 ++ le32 opCompressed ++
          (src.drop 12).take 4 ++ le32 (src.length - 16) ++ [c.compressor.toByte] ++ p ∧
        e.length = 25 + p.length ∧
        ∀ decompress : UInt8 → List UInt8 → Option (List UInt8),
          (∀ x o y, ext.compressPayload x o = .ok y → decompress o.compressor.toByte y = some x) →
          decompressWireMessage decompress e = some src) := by
  refine ⟨compressWireMessage_noOp ext hc, compressWireMessage_short ext hc,
    fun hne h16 h31 hlen hp => ⟨_, compressWireMessage_layout ext hc hne h16 hp, ?_, ?_,
      fun decompress hcodec => decompressWireMessage_envelope h16 h31 hlen (hcodec _ _ _ hp)⟩⟩
  · have h4 := @length_take_drop_four src 4 (by omega)
    have h8 := @length_take_drop_four src 8 (by omega)
    have h12 := @length_take_drop_four src 12 (by omega)
    congr 7
    simp only [List.length_append, length_le32, h4, h8, h12, List.length_singleton]
  · have h4 := @length_take_drop_four src 4 (by omega)
    have h8 := @length_take_drop_four src 8 (by omega)
    have h12 := @length_take_drop_four src 12 (by omega)
    simp only [List.length_append, length_le32, h4, h8, h12, List.length_singleton]

theorem compressWireMessage_round_trip_witness :
    let c₀ : Connection :=
      { state := .connected, id := "localhost:27017[-2]", nc := some (.raw "127.0.0.1:50000"),
        addr := "localhost:27017", desc := {}, compressor := .snappy, zliblevel := 0,
        zstdLevel := 0, connectDone := true, config := {}, serverConnectionID := none,
        driverConnectionID := 0, generation := 0, awaitRemainingBytes := none }
    let h₀ : Handle := ⟨some c₀, 0, none, false, 0⟩
    let ext₀ : Externals := ⟨fun _ => none, fun _ => false, fun x _ => .ok x⟩
    let src₀ : List UInt8 := [17, 0, 0, 0, 1, 0, 0, 0, 0, 0, 0, 0, 221, 7, 0, 0, 42]
    h₀.connection = some c₀ ∧ ∃ e, (h₀.compressWireMessage ext₀ src₀ [9]).outcome =
      .returns ([9] ++ e, none) ∧ decompressWireMessage (fun _ y => some y) e = some src₀ := by
  intro c₀ h₀ ext₀ src₀
  obtain ⟨e, he, -, -, hd⟩ :=
    (@compressWireMessage_round_trip ext₀ h₀ c₀ src₀ [9] (src₀.drop 16) rfl).2.2
      (by decide) (by decide) (by decide) (by decide) rfl
  exact ⟨rfl, e, he, hd _ fun x o y h => by cases h; rfl⟩

end MongoDriver.Topology
