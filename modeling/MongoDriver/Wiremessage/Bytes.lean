import Mathlib.Tactic.Ring

/-! # Little-endian 32-bit integers

Every integer of a wire message header is four little-endian bytes. A 32-bit value is kept as
the natural number of its bits; `toInt32` and `toUint32` are Go's conversions between the signed
and unsigned readings of those bits.
-/

namespace MongoDriver.Wiremessage

def byte (x : Nat) : UInt8 := UInt8.ofNat (x % 256)

/-- The four little-endian bytes of the low 32 bits of `n`. -/
def le32 (n : Nat) : List UInt8 := [byte n, byte (n / 2 ^ 8), byte (n / 2 ^ 16), byte (n / 2 ^ 24)]

def appendi32 (dst : List UInt8) (n : Nat) : List UInt8 := dst ++ le32 n

/-- The number with the given little-endian bytes: `binary.LittleEndian.Uint32` on four. -/
def leUint : List UInt8 → Nat
  | [] => 0
  | b :: bs => b.toNat + 256 * leUint bs

/-- `int32(u)` for the bits `u` of a `uint32`. -/
def toInt32 (u : Nat) : Int := if u < 2 ^ 31 then u else (u : Int) - 2 ^ 32

def toUint32 (x : Int) : Nat := (x % 2 ^ 32).toNat

@[simp] theorem toNat_byte (x : Nat) : (byte x).toNat = x % 256 :=
  UInt8.toNat_ofNat_of_lt (Nat.mod_lt _ (by decide))

@[simp] theorem leUint_nil : leUint [] = 0 := rfl

@[simp] theorem leUint_cons (b : UInt8) (bs : List UInt8) :
    leUint (b :: bs) = b.toNat + 256 * leUint bs := rfl

@[simp] theorem length_le32 (n : Nat) : (le32 n).length = 4 := rfl

theorem leUint_le32 (n : Nat) : leUint (le32 n) = n % 2 ^ 32 := by
  simp only [le32, leUint_cons, toNat_byte, leUint_nil]
  omega

theorem le32_leUint {l : List UInt8} (h : l.length = 4) : le32 (leUint l) = l := by
  match l, h with
  | [a, b, c, d], _ =>
    have ha := a.toNat_lt_size
    have hb := b.toNat_lt_size
    have hc := c.toNat_lt_size
    have hd := d.toNat_lt_size
    simp only [le32, leUint_cons, leUint_nil, List.cons.injEq, and_true]
    refine ⟨?_, ?_, ?_, ?_⟩ <;> apply UInt8.toNat.inj <;> simp only [toNat_byte] <;>
      simp only [UInt8.size] at ha hb hc hd <;> omega

theorem toInt32_of_lt {u : Nat} (h : u < 2 ^ 31) : toInt32 u = u := if_pos h

theorem toUint32_of_nonneg {x : Int} (h₀ : 0 ≤ x) (h : x < 2 ^ 32) : toUint32 x = x.toNat := by
  simp only [toUint32, Int.emod_eq_of_lt h₀ h]

end MongoDriver.Wiremessage
