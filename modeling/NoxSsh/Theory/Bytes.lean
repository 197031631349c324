/-
# Theory.Bytes — big-endian words, byte memories and counter-mode streams

The byte vocabulary of a binary protocol.

* `beNat`, `be32` — big-endian byte strings as numbers, and 32-bit words as four
  bytes; below `2 ^ 32` the two are inverse (`beNat_be32`, `be32_beNat`).
* `Mem`, `slice`, `memOf` — memory as a total function, what a run of it holds,
  and a buffer whose first bytes are known and whose rest is not.  Memory is
  total on purpose: a reader that runs past the end of a buffer reads something.
* `ctrStream` — XOR with the key stream of consecutive counter blocks.  It is its
  own inverse and splits at block boundaries, which is all a receiver that
  decrypts a packet in two calls needs.
-/
import Mathlib.Data.Nat.Digits.Lemmas
import Mathlib.Data.List.OfFn
import Mathlib.Tactic.Common

namespace NoxSsh.Theory

set_option autoImplicit false

/-! ## Big-endian numbers -/

/-- The unsigned integer a byte string denotes, most significant byte first. -/
def beNat (bytes : List UInt8) : Nat := Nat.ofDigits 256 (bytes.reverse.map UInt8.toNat)

/-- The four bytes of a 32-bit word; larger numbers lose their high bits. -/
def be32 (n : Nat) : List UInt8 :=
  [UInt8.ofNat (n / 16777216), UInt8.ofNat (n / 65536), UInt8.ofNat (n / 256), UInt8.ofNat n]

@[simp] theorem length_be32 (n : Nat) : (be32 n).length = 4 := rfl

theorem beNat_be32 (n : Nat) : beNat (be32 n) = n % 4294967296 := by
  simp [beNat, be32, Nat.ofDigits_cons]
  omega

theorem beNat_append (a b : List UInt8) : beNat (a ++ b) = beNat a * 256 ^ b.length + beNat b := by
  simp [beNat, Nat.ofDigits_append]
  ring

theorem beNat_lt (bytes : List UInt8) : beNat bytes < 256 ^ bytes.length := by
  have := Nat.ofDigits_lt_base_pow_length (b := 256) (l := bytes.reverse.map UInt8.toNat)
    (by decide) (by simp only [List.mem_map]; rintro _ ⟨b, -, rfl⟩; exact b.toNat_lt)
  simpa [beNat] using this

theorem beNat_inj {a b : List UInt8} (same : a.length = b.length) (equal : beNat a = beNat b) :
    a = b := by
  have digits : a.reverse.map UInt8.toNat = b.reverse.map UInt8.toNat :=
    Nat.ofDigits_inj_of_len_eq (b := 256) (by decide) (by simpa using same)
    (by simp only [List.mem_map]; rintro _ ⟨b, -, rfl⟩; exact b.toNat_lt)
    (by simp only [List.mem_map]; rintro _ ⟨b, -, rfl⟩; exact b.toNat_lt) equal
  have reversed : a.reverse = b.reverse :=
    List.map_injective_iff.2 (fun _ _ h => UInt8.toNat_inj.1 h) digits
  exact List.reverse_injective reversed

theorem be32_beNat {bytes : List UInt8} (word : bytes.length = 4) : be32 (beNat bytes) = bytes := by
  apply beNat_inj (by simp [word])
  have bound := beNat_lt bytes
  rw [word] at bound
  rw [beNat_be32, Nat.mod_eq_of_lt (by simpa using bound)]

theorem be32_inj {n m : Nat} (hn : n < 4294967296) (hm : m < 4294967296) (equal : be32 n = be32 m) :
    n = m := by
  have := congrArg beNat equal
  rwa [beNat_be32, beNat_be32, Nat.mod_eq_of_lt hn, Nat.mod_eq_of_lt hm] at this

theorem be32_mod (n : Nat) : be32 (n % 4294967296) = be32 n := by
  apply beNat_inj (a := be32 (n % 4294967296)) (b := be32 n) (by simp)
  rw [beNat_be32, beNat_be32, Nat.mod_mod]

/-! ## Memory -/

/-- A byte memory: every address holds something. -/
abbrev Mem := Nat → UInt8

/-- The memory seen from address `base`. -/
def Mem.at (m : Mem) (base : Nat) : Mem := fun i => m (base + i)

/-- The `n` bytes from address `off` on. -/
def slice (m : Mem) (off n : Nat) : List UInt8 := (List.range n).map fun i => m (off + i)

/-- A buffer that starts with `bytes`; what stands behind them is `rest`. -/
def memOf (bytes : List UInt8) (rest : Mem) : Mem := fun i => (bytes[i]?).getD (rest i)

@[simp] theorem length_slice (m : Mem) (off n : Nat) : (slice m off n).length = n := by
  simp [slice]

@[simp] theorem slice_zero (m : Mem) (off : Nat) : slice m off 0 = [] := rfl

theorem slice_add (m : Mem) (off a b : Nat) :
    slice m off (a + b) = slice m off a ++ slice m (off + a) b := by
  simp [slice, List.range_add, Nat.add_assoc]

/-- A shorter run of memory is the beginning of a longer one. -/
theorem slice_prefix (m : Mem) (off : Nat) {a b : Nat} (shorter : a ≤ b) : slice m off a <+: slice m off b := by
  rw [← Nat.add_sub_cancel' shorter, slice_add]
  exact List.prefix_append _ _

theorem slice_succ (m : Mem) (off n : Nat) : slice m off (n + 1) = m off :: slice m (off + 1) n := by
  rw [Nat.add_comm n 1, slice_add]
  rfl

theorem slice_at (m : Mem) (base off n : Nat) : slice (m.at base) off n = slice m (base + off) n := by
  simp [slice, Mem.at, Nat.add_assoc]

theorem memOf_lt {bytes : List UInt8} {i : Nat} (inside : i < bytes.length) (rest : Mem) :
    memOf bytes rest i = bytes[i] := by
  simp [memOf, inside]

/-- A run of the buffer that lies inside the known bytes is that run of them. -/
theorem slice_memOf (bytes : List UInt8) (rest : Mem) {off n : Nat} (inside : off + n ≤ bytes.length) :
    slice (memOf bytes rest) off n = (bytes.drop off).take n := by
  apply List.ext_getElem
  · simp; omega
  · intro i h _
    simp only [length_slice] at h
    simp [slice, memOf_lt (show off + i < bytes.length by omega)]

theorem slice_memOf_self (bytes : List UInt8) (rest : Mem) :
    slice (memOf bytes rest) 0 bytes.length = bytes := by
  rw [slice_memOf bytes rest (by omega)]
  simp

/-- The middle of a buffer, by the lengths of what stands before it. -/
theorem slice_memOf_append (a b c : List UInt8) (rest : Mem) :
    slice (memOf (a ++ b ++ c) rest) a.length b.length = b := by
  rw [slice_memOf _ rest (by simp)]
  simp

/-! ## Counter mode -/

/-- XOR `data` with the key stream whose block number `start + j` has the bytes
`block (start + j) 0 … block (start + j) 15`. -/
def ctrStream (block : Nat → Nat → UInt8) (start : Nat) (data : List UInt8) : List UInt8 :=
  data.mapIdx fun j b => b ^^^ block (start + j / 16) (j % 16)

@[simp] theorem length_ctrStream (block : Nat → Nat → UInt8) (start : Nat) (data : List UInt8) :
    (ctrStream block start data).length = data.length := by
  simp [ctrStream]

/-- Applying the stream twice gives the data back: decryption is encryption. -/
@[simp] theorem ctrStream_ctrStream (block : Nat → Nat → UInt8) (start : Nat) (data : List UInt8) :
    ctrStream block start (ctrStream block start data) = data := by
  apply List.ext_getElem
  · simp
  · intro i _ _
    simp [ctrStream, UInt8.xor_assoc]

/-- At a block boundary the stream of the rest starts at the later block. -/
theorem ctrStream_append (block : Nat → Nat → UInt8) (start m : Nat) (a b : List UInt8)
    (whole : a.length = 16 * m) :
    ctrStream block start (a ++ b) = ctrStream block start a ++ ctrStream block (start + m) b := by
  unfold ctrStream
  rw [List.mapIdx_append]
  congr 1
  apply List.ext_getElem
  · simp
  · intro i _ _
    have div : (i + a.length) / 16 = m + i / 16 := by omega
    have mod : (i + a.length) % 16 = i % 16 := by omega
    simp [div, mod, Nat.add_assoc]

end NoxSsh.Theory
