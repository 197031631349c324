/-
# Transport.Counter — the counter block in machine words

`netnox_ssh_ctr_increment_blocks` adds a 32-bit number of blocks to the sixteen bytes of the
counter, from the last byte to the first, with a 64-bit carry, and stops where the carry is
zero.  It is addition modulo `2 ^ 128` (`increment_blocks_adds`), so it is the function the
model of the packets uses (`toList_incrementBlocks`).
-/
import NoxSsh.Transport.Noxtls

namespace NoxSsh.Transport

open Theory

set_option autoImplicit false

/-- The loop of `ctr_increment_blocks`, `i` bytes being left. -/
def incrementLoop (counter16 : Vector UInt8 16) (carry : UInt64) : (i : Nat) → i ≤ 16 → Vector UInt8 16
  | 0, _ => counter16
  | i + 1, inside =>
      if carry > 0 then
        let sum := carry + (counter16.get ⟨i, inside⟩).toUInt64
        incrementLoop (counter16.set i (sum &&& 0xFF).toUInt8 inside) (sum >>> 8) i (Nat.le_of_succ_le inside)
      else counter16

def incrementBlocks (counter16 : Vector UInt8 16) (nBlocks : UInt32) : Vector UInt8 16 :=
  incrementLoop counter16 nBlocks.toUInt64 16 (Nat.le_refl 16)

/-! ## One byte -/

section Step

variable {carry : UInt64} {byte : UInt8}

/-- The carry never fills its word, so the sum is that of the numbers. -/
theorem toNat_sum (small : carry.toNat < 2 ^ 32) :
    (carry + byte.toUInt64).toNat = carry.toNat + byte.toNat := by
  have bound := byte.toNat_lt
  rw [UInt64.toNat_add, UInt8.toNat_toUInt64, Nat.mod_eq_of_lt (by omega)]

theorem toNat_low (word : UInt64) : ((word &&& 0xFF).toUInt8).toNat = word.toNat % 256 := by
  have mask : (0xFF : UInt64).toNat = 2 ^ 8 - 1 := by decide
  rw [UInt64.toNat_toUInt8, UInt64.toNat_and, mask, Nat.and_two_pow_sub_one_eq_mod, Nat.mod_mod]

theorem toNat_high (word : UInt64) : (word >>> 8).toNat = word.toNat / 256 := by
  have count : (8 : UInt64).toNat % 64 = 8 := by decide
  rw [UInt64.toNat_shiftRight, count, Nat.shiftRight_eq_div_pow]

/-- What is kept of the sum and what is carried on. -/
theorem carry_next (byte : UInt8) (small : carry.toNat < 2 ^ 32) :
    ((carry + byte.toUInt64) &&& 0xFF).toUInt8.toNat = (carry.toNat + byte.toNat) % 256 ∧
      ((carry + byte.toUInt64) >>> 8).toNat = (carry.toNat + byte.toNat) / 256 ∧
      ((carry + byte.toUInt64) >>> 8).toNat < 2 ^ 32 := by
  have bound := byte.toNat_lt
  have high := toNat_high (carry + byte.toUInt64)
  rw [toNat_sum small] at high
  refine ⟨by rw [toNat_low, toNat_sum small], high, ?_⟩
  rw [high]
  omega

end Step

/-! ## The run -/

theorem beNat_snoc (bytes : List UInt8) (low : UInt8) : beNat (bytes ++ [low]) = beNat bytes * 256 + low.toNat := by
  rw [beNat_append]
  simp [beNat]

theorem take_succ_get (counter16 : Vector UInt8 16) {i : Nat} (inside : i < 16) :
    counter16.toList.take (i + 1) = counter16.toList.take i ++ [counter16.get ⟨i, inside⟩] := by
  rw [List.take_succ_eq_append_getElem (by simpa using inside)]
  rfl

/-- The low digit of a sum and what is left of it after. -/
theorem add_digit (front digit carry power : Nat) :
    (front + (carry + digit) / 256) % power * 256 + (carry + digit) % 256 =
      (front * 256 + digit + carry) % (power * 256) := by
  have split : front * 256 + digit + carry = (carry + digit) % 256 + 256 * (front + (carry + digit) / 256) := by omega
  rw [split, Nat.mul_comm power 256, Nat.mod_mul, Nat.add_mul_mod_self_left, Nat.mod_mod,
    Nat.add_mul_div_left _ _ (by decide), Nat.div_eq_of_lt (Nat.mod_lt _ (by decide)), Nat.zero_add,
    Nat.mul_comm 256, Nat.add_comm]

/-- With `i` bytes left, those behind them stay and the number in front of them grows by the carry. -/
theorem incrementLoop_adds (counter16 : Vector UInt8 16) (carry : UInt64) (i : Nat) (inside : i ≤ 16)
    (small : carry.toNat < 2 ^ 32) :
    (incrementLoop counter16 carry i inside).toList.drop i = counter16.toList.drop i ∧
      beNat ((incrementLoop counter16 carry i inside).toList.take i) =
        (beNat (counter16.toList.take i) + carry.toNat) % 256 ^ i := by
  induction i generalizing counter16 carry with
  | zero => exact ⟨rfl, by simp [Nat.mod_one]; rfl⟩
  | succ i ih =>
      have room : i < 16 := inside
      by_cases more : carry > 0
      · rw [incrementLoop, if_pos more]
        dsimp only
        obtain ⟨low, high, small'⟩ := carry_next (counter16.get ⟨i, room⟩) small
        have digit := take_succ_get counter16 room
        generalize counter16.get ⟨i, room⟩ = byte at low high small' digit ⊢
        generalize carry + byte.toUInt64 = sum at low high small' ⊢
        obtain ⟨behind, front⟩ := ih (counter16.set i (sum &&& 0xFF).toUInt8 room) (sum >>> 8) (by omega) small'
        generalize incrementLoop (counter16.set i (sum &&& 0xFF).toUInt8 room) (sum >>> 8) i (by omega) = left
          at behind front ⊢
        have kept : (counter16.set i (sum &&& 0xFF).toUInt8 room).toList.take i = counter16.toList.take i := by
          rw [Vector.toList_set, List.take_set_of_le (Nat.le_refl i)]
        have written : left.get ⟨i, room⟩ = (sum &&& 0xFF).toUInt8 := by
          have heads := congrArg List.head? behind
          show left[i] = _
          simpa [List.head?_drop, room] using heads
        constructor
        · have tails := congrArg (List.drop 1) behind
          rwa [List.drop_drop, List.drop_drop, Vector.toList_set, List.drop_set_of_lt (Nat.lt_succ_self i)] at tails
        · rw [take_succ_get left room, written, digit, beNat_snoc, beNat_snoc, front, kept, low, high, Nat.pow_succ]
          exact add_digit _ _ _ _
      · have bound := beNat_lt (counter16.toList.take (i + 1))
        have length : (counter16.toList.take (i + 1)).length = i + 1 := by simp; omega
        rw [length] at bound
        have zero : carry.toNat = 0 := by
          rw [gt_iff_lt, UInt64.lt_iff_toNat_lt] at more
          exact Nat.eq_zero_of_not_pos more
        rw [incrementLoop, if_neg more]
        refine ⟨rfl, ?_⟩
        rw [zero, Nat.add_zero (beNat _), Nat.mod_eq_of_lt bound]

theorem beNat_incrementBlocks (counter16 : Vector UInt8 16) (nBlocks : UInt32) :
    beNat (incrementBlocks counter16 nBlocks).toList = (beNat counter16.toList + nBlocks.toNat) % 2 ^ 128 := by
  have small : nBlocks.toUInt64.toNat < 2 ^ 32 := by
    rw [UInt32.toNat_toUInt64]
    exact nBlocks.toNat_lt
  have adds := (incrementLoop_adds counter16 nBlocks.toUInt64 16 (Nat.le_refl 16) small).2
  have whole : ∀ counter : Vector UInt8 16, counter.toList.take 16 = counter.toList := fun counter =>
    List.take_of_length_le (by simp)
  rwa [whole, whole, UInt32.toNat_toUInt64] at adds

/-- It is the function the packets are modelled with. -/
theorem toList_incrementBlocks (counter16 : Vector UInt8 16) (nBlocks : UInt32) :
    (incrementBlocks counter16 nBlocks).toList = ctrIncrementBlocks counter16.toList nBlocks.toNat := by
  apply beNat_inj (by simp)
  rw [beNat_incrementBlocks, beNat_ctrIncrementBlocks, Vector.length_toList]
  rfl

/-- **Counter arithmetic.**  For every counter of sixteen bytes and every 32-bit number of
blocks the counter grows by that number modulo `2 ^ 128`; so two advances are one by their
sum, as long as the sum is a 32-bit number. -/
theorem increment_blocks_adds (counter16 : Vector UInt8 16) :
    (∀ n : UInt32, beNat (incrementBlocks counter16 n).toList = (beNat counter16.toList + n.toNat) % 2 ^ 128) ∧
      ∀ a b : UInt32, a.toNat + b.toNat < 2 ^ 32 →
        incrementBlocks (incrementBlocks counter16 a) b = incrementBlocks counter16 (a + b) := by
  refine ⟨beNat_incrementBlocks counter16, fun a b small => ?_⟩
  have sum : (a + b).toNat = a.toNat + b.toNat := by
    rw [UInt32.toNat_add, Nat.mod_eq_of_lt small]
  apply Vector.toList_inj.1
  rw [toList_incrementBlocks, toList_incrementBlocks, toList_incrementBlocks, ctrIncrementBlocks_add, sum]

/-- A carry through all sixteen bytes, and an advance in two parts. -/
theorem increment_blocks_adds_wrap :
    beNat (incrementBlocks (Vector.replicate 16 255) 2).toList =
        (beNat (Vector.replicate 16 255).toList + (2 : UInt32).toNat) % 2 ^ 128 ∧
      incrementBlocks (incrementBlocks (Vector.replicate 16 255) 4294967294) 1 =
        incrementBlocks (Vector.replicate 16 255) (4294967294 + 1) :=
  ⟨(increment_blocks_adds _).1 2, (increment_blocks_adds _).2 4294967294 1 (by decide)⟩

end NoxSsh.Transport
