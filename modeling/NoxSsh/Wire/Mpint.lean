/-
# Wire.Mpint — the mpint encoding is canonical

`netnox_ssh_buf_append_mpint_be` drops leading zero bytes and puts one back where the top
bit is set.  What it appends depends on the number alone: it is the shortest string of
bytes that is not negative in two's complement and has the value (`append_mpint_canonical`).
-/
import NoxSsh.Wire.Payload

namespace NoxSsh.Wire

open Theory

set_option autoImplicit false

/-! ## Numbers and their bytes -/

/-- The bytes of a number, the most significant first, none for zero. -/
def bigEndian (n : Nat) : List UInt8 := ((Nat.digits 256 n).map UInt8.ofNat).reverse

/-- The first bit of all is the sign. -/
def NonNegative (bytes : List UInt8) : Prop := ∀ top ∈ bytes.head?, top.toNat < 128

instance (bytes : List UInt8) : Decidable (NonNegative bytes) :=
  inferInstanceAs (Decidable (∀ top ∈ bytes.head?, top.toNat < 128))

/-- RFC 4251: the body of the `mpint` of a number, with a zero byte in front just if the top
bit is set. -/
def mpintBody (n : Nat) : List UInt8 := if NonNegative (bigEndian n) then bigEndian n else 0 :: bigEndian n

/-- RFC 4251 `mpint`. -/
def rfcMpint (n : Nat) : List UInt8 := sshString (mpintBody n)

/-- It has the value, is not negative, and no shorter string is both. -/
structure IsMpintBody (n : Nat) (body : List UInt8) : Prop where
  value : beNat body = n
  sign : NonNegative body
  shortest : ∀ other, beNat other = n → NonNegative other → body.length ≤ other.length

section Bytes

theorem beNat_cons (top : UInt8) (rest : List UInt8) :
    beNat (top :: rest) = top.toNat * 256 ^ rest.length + beNat rest := by
  rw [← List.singleton_append, beNat_append]
  simp [beNat]

theorem beNat_zero_cons (bytes : List UInt8) : beNat (0 :: bytes) = beNat bytes := by
  simp [beNat_cons]

/-- Leading zeros do not count. -/
theorem beNat_dropZeros (bytes : List UInt8) : beNat (bytes.dropWhile (· == 0)) = beNat bytes := by
  induction bytes with
  | nil => rfl
  | cons byte rest ih =>
      by_cases zero : byte = 0
      · subst zero
        rw [List.dropWhile_cons_of_pos (by simp), ih, beNat_zero_cons]
      · rw [List.dropWhile_cons_of_neg (by simpa using zero)]

theorem head_dropZeros (bytes : List UInt8) : (bytes.dropWhile (· == 0)).head? ≠ some 0 := by
  intro zero
  have kept := List.head?_dropWhile_not (fun byte : UInt8 => byte == 0) bytes
  rw [zero] at kept
  simp at kept

/-- Without a leading zero the bytes are the digits. -/
theorem bigEndian_beNat {bytes : List UInt8} (stripped : bytes.head? ≠ some 0) : bigEndian (beNat bytes) = bytes := by
  have small : ∀ d ∈ bytes.reverse.map UInt8.toNat, d < 256 := by
    intro d mem
    obtain ⟨byte, -, rfl⟩ := List.mem_map.1 mem
    exact byte.toNat_lt
  have top : ∀ some_ : bytes.reverse.map UInt8.toNat ≠ [], (bytes.reverse.map UInt8.toNat).getLast some_ ≠ 0 := by
    intro some_
    cases bytes with
    | nil => exact absurd rfl some_
    | cons top rest =>
        simp only [List.reverse_cons, List.map_append, List.map_cons, List.map_nil, List.getLast_concat]
        intro zero
        exact stripped (congrArg some (UInt8.toNat_inj.1 zero))
  rw [bigEndian, beNat, Nat.digits_ofDigits 256 (by decide) _ small top, List.map_map]
  have back : UInt8.ofNat ∘ UInt8.toNat = id := funext fun byte => UInt8.ofNat_toNat
  rw [back, List.map_id, List.reverse_reverse]

/-- A number is that of its bytes, and they have no leading zero. -/
theorem bigEndian_spec (n : Nat) : beNat (bigEndian n) = n ∧ (bigEndian n).head? ≠ some 0 := by
  have back : ((Nat.digits 256 n).map UInt8.ofNat).map UInt8.toNat = Nat.digits 256 n := by
    rw [List.map_map]
    apply (List.map_congr_left _).trans (List.map_id _)
    intro d mem
    have small : d < 256 := Nat.digits_lt_base (by decide) mem
    simp [Nat.mod_eq_of_lt small]
  constructor
  · rw [beNat, bigEndian, List.reverse_reverse, back, Nat.ofDigits_digits]
  · rw [bigEndian, List.head?_reverse]
    intro zero
    have last : (Nat.digits 256 n).getLast? = some 0 := by
      rw [← back, List.getLast?_map, zero]
      rfl
    by_cases none : n = 0
    · simp [none] at last
    · have some_ : Nat.digits 256 n ≠ [] := Nat.digits_ne_nil_iff_ne_zero.2 none
      rw [List.getLast?_eq_some_getLast some_, Option.some.injEq] at last
      exact Nat.getLast_digit_ne_zero 256 none last

/-- Not negative means below half of what the length has room for. -/
theorem beNat_lt_half {bytes : List UInt8} (sign : NonNegative bytes) (some_ : bytes ≠ []) :
    beNat bytes < 128 * 256 ^ (bytes.length - 1) := by
  cases bytes with
  | nil => exact absurd rfl some_
  | cons top rest =>
      have low := sign top rfl
      have bound := beNat_lt rest
      rw [beNat_cons, List.length_cons, Nat.add_sub_cancel]
      have most : top.toNat * 256 ^ rest.length ≤ 127 * 256 ^ rest.length := Nat.mul_le_mul_right _ (by omega)
      omega

theorem length_le_of_value {bytes : List UInt8} {n : Nat} (least : n ≤ beNat bytes) {k : Nat} (large : 256 ^ k ≤ n) :
    k < bytes.length := by
  have bound := beNat_lt bytes
  exact (Nat.pow_lt_pow_iff_right (by decide : 1 < 256)).1 (by omega)

end Bytes

/-! ## The shortest string -/

theorem mpintBody_zero : mpintBody 0 = [] := by
  simp [mpintBody, bigEndian, NonNegative]

/-- The body of the RFC is the shortest string that is not negative. -/
theorem mpintBody_isMpintBody (n : Nat) : IsMpintBody n (mpintBody n) := by
  obtain ⟨value, stripped⟩ := bigEndian_spec n
  rw [mpintBody]
  cases is : bigEndian n with
  | nil =>
      rw [is] at value
      rw [if_pos (by simp [NonNegative])]
      exact ⟨value, by simp [NonNegative], fun _ _ _ => Nat.zero_le _⟩
  | cons top rest =>
      rw [is] at value stripped
      have nonzero : top.toNat ≠ 0 := fun zero => stripped (congrArg some (UInt8.toNat_inj.1 zero))
      rw [beNat_cons] at value
      by_cases sign : NonNegative (top :: rest)
      · rw [if_pos sign]
        refine ⟨by rw [beNat_cons, value], sign, fun other same _ => ?_⟩
        apply length_le_of_value (Nat.le_of_eq same.symm)
        have least : 1 * 256 ^ rest.length ≤ top.toNat * 256 ^ rest.length := Nat.mul_le_mul_right _ (by omega)
        omega
      · rw [if_neg sign]
        refine ⟨by rw [beNat_zero_cons, beNat_cons, value], by simp [NonNegative], fun other same nonNegative => ?_⟩
        have high : 128 ≤ top.toNat := by
          by_contra low
          exact sign fun byte is => by obtain rfl := Option.some.inj is; omega
        have least : 128 * 256 ^ rest.length ≤ top.toNat * 256 ^ rest.length := Nat.mul_le_mul_right _ high
        have some_ : other ≠ [] := by
          rintro rfl
          have none : n = 0 := same.symm
          have power := Nat.pow_pos (n := rest.length) (show 0 < 256 by decide)
          omega
        have bound := beNat_lt_half nonNegative some_
        have larger : 256 ^ rest.length < 256 ^ (other.length - 1) := by omega
        have longer := (Nat.pow_lt_pow_iff_right (by decide : 1 < 256)).1 larger
        simp only [List.length_cons]
        omega

/-- There is one such string. -/
theorem IsMpintBody.unique {n : Nat} {body body' : List UInt8} (one : IsMpintBody n body) (other : IsMpintBody n body') :
    body = body' := by
  have shorter := one.shortest body' other.value other.sign
  have shorter' := other.shortest body one.value one.sign
  exact beNat_inj (by omega) (one.value.trans other.value.symm)

/-! ## The encoder -/

theorem topBit_iff (top : UInt8) : top &&& 0x80 ≠ 0 ↔ ¬ top.toNat < 128 := by
  have all : ∀ n < 256, UInt8.ofNat n &&& 0x80 ≠ 0 ↔ ¬ (UInt8.ofNat n).toNat < 128 := by decide +kernel
  have this := all top.toNat top.toNat_lt
  rwa [UInt8.ofNat_toNat] at this

/-- What the code appends is the `mpint` of the number. -/
theorem mpint_eq (input : List UInt8) : mpint input = rfcMpint (beNat input) := by
  have stripped := head_dropZeros input
  rw [← beNat_dropZeros input, rfcMpint, mpintBody, bigEndian_beNat stripped]
  unfold mpint
  cases input.dropWhile (· == 0) with
  | nil =>
      have none : NonNegative [] := by simp [NonNegative]
      rw [if_pos none]
  | cons top rest =>
      dsimp only
      by_cases sign : top.toNat < 128
      · rw [if_neg fun set => (topBit_iff top).1 set sign, if_pos (by simpa [NonNegative] using sign)]
      · rw [if_pos ((topBit_iff top).2 sign), if_neg (by simpa [NonNegative] using sign)]

/-- The value of an `mpint` can be read back. -/
theorem rfcMpint_inj {n k : Nat} (same : rfcMpint n = rfcMpint k) : n = k := by
  have bodies : mpintBody n = mpintBody k := by
    have tails := congrArg (List.drop 4) same
    rwa [rfcMpint, rfcMpint, sshString, sshString, List.drop_left' (length_be32 _),
      List.drop_left' (length_be32 _)] at tails
  rw [← (mpintBody_isMpintBody n).value, bodies, (mpintBody_isMpintBody k).value]

theorem mpint_inj {a b : List UInt8} (same : mpint a = mpint b) : beNat a = beNat b := by
  rw [mpint_eq, mpint_eq] at same
  exact rfcMpint_inj same

/-- **The encoding is canonical.**  For every byte string and every buffer with room for it:
what is appended is the `mpint` of the number the string denotes, whose body is the shortest
that is not negative; two strings give the same just if they denote the same number; and a
secret of 32 bytes fits the 37 bytes of the key derivation. -/
theorem append_mpint_canonical (input out : List UInt8) (max : Nat) (short : input.length < 2 ^ 31)
    (room : out.length + (rfcMpint (beNat input)).length ≤ max) :
    bufAppendMpintBe max input out = some (out ++ rfcMpint (beNat input)) ∧
      IsMpintBody (beNat input) (mpintBody (beNat input)) ∧
      (beNat input = 0 → mpintBody (beNat input) = []) ∧
      (rfcMpint (beNat input)).length < 2 ^ 32 ∧
      (∀ other, out.length + (rfcMpint (beNat other)).length ≤ max →
        (bufAppendMpintBe max other out = bufAppendMpintBe max input out ↔ beNat other = beNat input)) ∧
      (input.length = 32 → ∃ made, bufAppendMpintBe 37 input [] = some made ∧ made.length ≤ 37) := by
  have appends : ∀ bytes, out.length + (rfcMpint (beNat bytes)).length ≤ max →
      bufAppendMpintBe max bytes out = some (out ++ rfcMpint (beNat bytes)) := by
    intro bytes fits
    rw [← mpint_eq] at fits ⊢
    exact bufAppendMpintBe_fits fits
  have length := length_mpint_le input
  rw [mpint_eq] at length
  refine ⟨appends input room, mpintBody_isMpintBody _, ?_, by omega, ?_, ?_⟩
  · intro zero
    rw [zero, mpintBody_zero]
  · intro other fits
    rw [appends other fits, appends input room, Option.some.injEq, List.append_cancel_left_eq]
    exact ⟨rfcMpint_inj, fun same => by rw [same]⟩
  · intro secret
    refine ⟨_, @bufAppendMpintBe_some 37 input [] (by simp [secret]), ?_⟩
    rw [mpint_eq]
    simp only [List.nil_append]
    omega

/-- A secret with the top bit set behind a zero byte. -/
theorem append_mpint_canonical_padded :
    bufAppendMpintBe 7 [0, 200] [] = some ([] ++ rfcMpint (beNat [0, 200])) :=
  (append_mpint_canonical [0, 200] [] 7 (by decide) (by rw [← mpint_eq]; decide)).1

end NoxSsh.Wire
