import MongoDriver.Topology.Basic
import MongoDriver.Wiremessage.Bytes

/-! # The compressed envelope

The `wiremessage` helpers that `CompressWireMessage` calls are not under src/. The envelope
they build is a header with the opcode `OpCompressed`, then the original opcode, the
uncompressed size, the compressor id and the compressed payload; `decompressWireMessage` reads
it back.
-/

namespace MongoDriver.Wiremessage

open Topology

/-- Modelled from the spec: `wiremessage.OpCompressed`. -/
def opCompressed : Nat := 2012

/-- Modelled from the spec: `wiremessage.ReadHeader`, the four fields and the rest. -/
def readHeader (src : List UInt8) : Option (Nat × Nat × Nat × Nat × List UInt8) :=
  if src.length < 16 then none
  else some (leUint (src.take 4), leUint ((src.drop 4).take 4), leUint ((src.drop 8).take 4),
    leUint ((src.drop 12).take 4), src.drop 16)

/-- Modelled from the spec: `wiremessage.AppendHeaderStart`, with where the length goes. -/
def appendHeaderStart (dst : List UInt8) (reqid respto opcode : Nat) : Nat × List UInt8 :=
  (dst.length, appendi32 (appendi32 (appendi32 (dst ++ [0, 0, 0, 0]) reqid) respto) opcode)

/-- Modelled from the spec: `wiremessage.AppendCompressedOriginalOpCode`. -/
def appendCompressedOriginalOpCode (dst : List UInt8) (opcode : Nat) : List UInt8 :=
  appendi32 dst opcode

/-- Modelled from the spec: `wiremessage.AppendCompressedUncompressedSize`. -/
def appendCompressedUncompressedSize (dst : List UInt8) (size : Nat) : List UInt8 :=
  appendi32 dst size

/-- Modelled from the spec: `wiremessage.AppendCompressedCompressorID`. -/
def appendCompressedCompressorID (dst : List UInt8) (id : CompressorID) : List UInt8 :=
  dst ++ [id.toByte]

/-- Modelled from the spec: `wiremessage.AppendCompressedCompressedMessage`. -/
def appendCompressedCompressedMessage (dst msg : List UInt8) : List UInt8 := dst ++ msg

/-- Modelled from the spec: `bsoncore.UpdateLength`, over the four bytes at `index`. -/
def updateLength (dst : List UInt8) (index length : Nat) : List UInt8 :=
  dst.take index ++ le32 length ++ dst.drop (index + 4)

/-- Modelled from the spec: the receiving side of the envelope. -/
def decompressWireMessage (decompress : UInt8 → List UInt8 → Option (List UInt8))
    (e : List UInt8) : Option (List UInt8) :=
  match readHeader e with
  | none => none
  | some (_, reqid, respto, opcode, rem) =>
    if opcode ≠ opCompressed ∨ rem.length < 9 then none
    else
      let origcode := leUint (rem.take 4)
      let size := leUint ((rem.drop 4).take 4)
      match decompress (rem.getD 8 0) (rem.drop 9) with
      | none => none
      | some msg =>
        some (le32 (16 + size) ++ le32 reqid ++ le32 respto ++ le32 origcode ++ msg)

theorem readHeader_of_le {src : List UInt8} (h : 16 ≤ src.length) :
    readHeader src = some (leUint (src.take 4), leUint ((src.drop 4).take 4),
      leUint ((src.drop 8).take 4), leUint ((src.drop 12).take 4), src.drop 16) :=
  if_neg (by omega)

theorem header_split {src : List UInt8} (h : 16 ≤ src.length) :
    src = src.take 4 ++ (src.drop 4).take 4 ++ (src.drop 8).take 4 ++ (src.drop 12).take 4 ++
      src.drop 16 := by
  apply List.ext_getElem
  · simp only [List.length_append, List.length_take, List.length_drop]; omega
  · intro i h₁ h₂
    simp only [List.getElem_append, List.getElem_take, List.getElem_drop, List.length_append,
      List.length_take, List.length_drop]
    split_ifs <;> congr 1 <;> omega

theorem length_take_drop_four {src : List UInt8} {k : Nat} (h : k + 4 ≤ src.length) :
    ((src.drop k).take 4).length = 4 := by
  simp only [List.length_take, List.length_drop]; omega

end MongoDriver.Wiremessage
