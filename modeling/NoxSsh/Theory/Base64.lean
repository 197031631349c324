/-
# Theory.Base64 — three bytes as four letters

Base64 without padding: a text of whole groups.  `encode` writes three bytes as the four
letters of their 24 bits, `decode` reads them back and refuses every byte that is not a
letter.  Each undoes the other (`decode_encode`, `encode_of_decode`), so a text that is
read is the only one that stands for its bytes.

Base64 with padding (RFC 4648): `=` stands in the last one or two places of a text that
`IsBase64`, and `decoding` is what the letters say; the bits they leave over are dropped.
-/
import Mathlib.Data.List.Basic

namespace NoxSsh.Theory.Base64

set_option autoImplicit false

/-! ## Letters -/

/-- The letter of a six-bit value. -/
def letter (v : Nat) : UInt8 :=
  if v < 26 then UInt8.ofNat (65 + v)
  else if v < 52 then UInt8.ofNat (97 + (v - 26))
  else if v < 62 then UInt8.ofNat (48 + (v - 52))
  else if v = 62 then 43
  else 47

/-- The value of a letter. -/
def value (c : UInt8) : Option Nat :=
  if 65 ≤ c ∧ c ≤ 90 then some (c.toNat - 65)
  else if 97 ≤ c ∧ c ≤ 122 then some (c.toNat - 97 + 26)
  else if 48 ≤ c ∧ c ≤ 57 then some (c.toNat - 48 + 52)
  else if c = 43 then some 62
  else if c = 47 then some 63
  else none

theorem value_letter : ∀ v < 64, value (letter v) = some v := by decide

theorem letter_of_value {c : UInt8} {v : Nat} (is : value c = some v) : letter v = c ∧ v < 64 := by
  have each : ∀ n < 256, ∀ v ∈ value (UInt8.ofNat n), letter v = UInt8.ofNat n ∧ v < 64 := by decide +kernel
  have := each c.toNat c.toNat_lt v (by rw [UInt8.ofNat_toNat]; exact is)
  rwa [UInt8.ofNat_toNat] at this

/-! ## Groups -/

/-- The 24 bits of four values. -/
def join (a b c d : Nat) : Nat := a * 262144 + b * 4096 + c * 64 + d

/-- Their three bytes. -/
def bytesOf (x : Nat) : List UInt8 := [UInt8.ofNat (x / 65536), UInt8.ofNat (x / 256), UInt8.ofNat x]

/-- The letters of three bytes. -/
def lettersOf (x y z : UInt8) : List UInt8 :=
  let n := x.toNat * 65536 + y.toNat * 256 + z.toNat
  [letter (n / 262144), letter (n / 4096 % 64), letter (n / 64 % 64), letter (n % 64)]

def encode : List UInt8 → List UInt8
  | x :: y :: z :: rest => lettersOf x y z ++ encode rest
  | _ => []

def decode : List UInt8 → Option (List UInt8)
  | p :: q :: r :: s :: rest => do
      let a ← value p
      let b ← value q
      let c ← value r
      let d ← value s
      let more ← decode rest
      pure (bytesOf (join a b c d) ++ more)
  | [] => some []
  | _ => none

theorem bytesOf_join (x y z : UInt8) :
    bytesOf (x.toNat * 65536 + y.toNat * 256 + z.toNat) = [x, y, z] := by
  have := x.toNat_lt
  have := y.toNat_lt
  have := z.toNat_lt
  simp only [bytesOf, List.cons.injEq, and_true, ← UInt8.toNat_inj, UInt8.toNat_ofNat']
  refine ⟨?_, ?_, ?_⟩ <;> omega

theorem decode_encode : ∀ (bytes : List UInt8), bytes.length % 3 = 0 → decode (encode bytes) = some bytes
  | [], _ => rfl
  | [_], whole => by simp at whole
  | [_, _], whole => by simp at whole
  | x :: y :: z :: rest, whole => by
      have ih := decode_encode rest (by simp only [List.length_cons] at whole; omega)
      have := x.toNat_lt
      have := y.toNat_lt
      have := z.toNat_lt
      obtain ⟨n, is⟩ : ∃ n, n = x.toNat * 65536 + y.toNat * 256 + z.toNat := ⟨_, rfl⟩
      have joined : join (n / 262144) (n / 4096 % 64) (n / 64 % 64) (n % 64) = n := by
        unfold join
        omega
      have split : bytesOf n = [x, y, z] := by
        rw [is]
        exact bytesOf_join x y z
      rw [encode, lettersOf]
      simp only [← is, List.cons_append, List.nil_append, decode]
      rw [value_letter _ (by omega), value_letter _ (by omega), value_letter _ (by omega), value_letter _ (by omega), ih]
      simp only [Option.bind_eq_bind, Option.bind_some, joined, split, Option.pure_def]
      rfl

theorem lettersOf_bytesOf {a b c d : Nat} (ha : a < 64) (hb : b < 64) (hc : c < 64) (hd : d < 64) :
    encode (bytesOf (join a b c d)) = [letter a, letter b, letter c, letter d] := by
  obtain ⟨n, is⟩ : ∃ n, n = join a b c d := ⟨_, rfl⟩
  unfold join at is
  have back : (UInt8.ofNat (n / 65536)).toNat * 65536 + (UInt8.ofNat (n / 256)).toNat * 256 + (UInt8.ofNat n).toNat = n := by
    simp only [UInt8.toNat_ofNat']
    omega
  have high : n / 262144 = a := by omega
  have upper : n / 4096 % 64 = b := by omega
  have lower : n / 64 % 64 = c := by omega
  have low : n % 64 = d := by omega
  rw [join, ← is]
  simp only [bytesOf, encode, lettersOf, back, high, upper, lower, low, List.append_nil]

/-- A text that can be read is the one its bytes are written as. -/
theorem encode_of_decode : ∀ (text bytes : List UInt8), decode text = some bytes → encode bytes = text
  | [], bytes, read => by
      obtain rfl := Option.some.inj read
      rfl
  | [_], _, read => by cases read
  | [_, _], _, read => by cases read
  | [_, _, _], _, read => by cases read
  | p :: q :: r :: s :: rest, bytes, read => by
      simp only [decode, Option.bind_eq_bind, Option.bind_eq_some_iff, Option.pure_def, Option.some.injEq] at read
      obtain ⟨a, isA, b, isB, c, isC, d, isD, more, isMore, rfl⟩ := read
      obtain ⟨rfl, smallA⟩ := letter_of_value isA
      obtain ⟨rfl, smallB⟩ := letter_of_value isB
      obtain ⟨rfl, smallC⟩ := letter_of_value isC
      obtain ⟨rfl, smallD⟩ := letter_of_value isD
      have group := lettersOf_bytesOf smallA smallB smallC smallD
      have ih := encode_of_decode rest more isMore
      simp only [bytesOf, encode, List.append_nil] at group
      rw [bytesOf, List.cons_append, List.cons_append, List.cons_append, List.nil_append, encode, group, ih]
      rfl

theorem length_encode : ∀ (bytes : List UInt8), bytes.length % 3 = 0 → (encode bytes).length = bytes.length / 3 * 4
  | [], _ => rfl
  | [_], whole => by simp at whole
  | [_, _], whole => by simp at whole
  | x :: y :: z :: rest, whole => by
      simp only [List.length_cons] at whole
      have ih := length_encode rest (by omega)
      simp only [encode, lettersOf, List.length_append, List.length_cons, List.length_nil, ih]
      omega

theorem length_decode : ∀ (text bytes : List UInt8), decode text = some bytes → bytes.length * 4 = text.length * 3
  | [], bytes, read => by
      obtain rfl := Option.some.inj read
      rfl
  | [_], _, read => by cases read
  | [_, _], _, read => by cases read
  | [_, _, _], _, read => by cases read
  | p :: q :: r :: s :: rest, bytes, read => by
      simp only [decode, Option.bind_eq_bind, Option.bind_eq_some_iff, Option.pure_def, Option.some.injEq] at read
      obtain ⟨a, -, b, -, c, -, d, -, more, isMore, rfl⟩ := read
      have ih := length_decode rest more isMore
      simp only [bytesOf, List.length_append, List.length_cons, List.length_nil]
      omega

/-- Every byte of a text is a letter. -/
theorem letters_encode : ∀ (bytes : List UInt8), ∀ c ∈ encode bytes, ∃ v < 64, c = letter v
  | [], _, mem => by cases mem
  | [_], _, mem => by cases mem
  | [_, _], _, mem => by cases mem
  | x :: y :: z :: rest, c, mem => by
      have := x.toNat_lt
      have := y.toNat_lt
      have := z.toNat_lt
      rcases List.mem_append.1 mem with mem | mem
      · simp only [lettersOf, List.mem_cons, List.not_mem_nil, or_false] at mem
        rcases mem with rfl | rfl | rfl | rfl
        · exact ⟨_, by omega, rfl⟩
        · exact ⟨_, by omega, rfl⟩
        · exact ⟨_, by omega, rfl⟩
        · exact ⟨_, by omega, rfl⟩
      · exact letters_encode rest c mem

/-! ## Padding -/

/-- The bytes of the values of a text; bits that are left over do not count. -/
def pack : List Nat → List UInt8
  | a :: b :: c :: d :: rest => bytesOf (join a b c d) ++ pack rest
  | [a, b, c] => [UInt8.ofNat (a * 4 + b / 16), UInt8.ofNat (b % 16 * 16 + c / 4)]
  | [a, b] => [UInt8.ofNat (a * 4 + b / 16)]
  | _ => []

def isLetter (c : UInt8) : Bool := (value c).isSome

/-- Whole groups of letters, but the last one or two characters may be `=`. -/
def IsBase64 (text : List UInt8) : Prop :=
  text.length % 4 = 0 ∧ ∃ letters pad, text = letters ++ pad ∧ (∀ c ∈ letters, isLetter c = true) ∧
    pad ∈ [[], [61], [61, 61]]

/-- What such a text stands for. -/
def decoding (text : List UInt8) : List UInt8 := pack (text.filterMap value)

def encodePadded : List UInt8 → List UInt8
  | x :: y :: z :: rest => lettersOf x y z ++ encodePadded rest
  | [x, y] => (lettersOf x y 0).take 3 ++ [61]
  | [x] => (lettersOf x 0 0).take 2 ++ [61, 61]
  | [] => []

/-- Four characters that are a whole text: letters, with `=` for the last or the last two. -/
def LastGroup (p q r s : UInt8) : Prop :=
  isLetter p = true ∧ isLetter q = true ∧
    ((isLetter r = true ∧ (isLetter s = true ∨ s = 61)) ∨ r = 61 ∧ s = 61)

theorem isBase64_nil : IsBase64 [] := ⟨rfl, [], [], rfl, by simp, by simp⟩

theorem isBase64_last {p q r s : UInt8} : IsBase64 [p, q, r, s] ↔ LastGroup p q r s := by
  constructor
  · rintro ⟨-, letters, pad, is, known, padded⟩
    simp only [List.mem_cons, List.not_mem_nil, or_false] at padded
    rcases padded with rfl | rfl | rfl
    · rw [List.append_nil] at is
      subst is
      simp only [List.mem_cons, List.not_mem_nil, or_false, forall_eq_or_imp, forall_eq] at known
      exact ⟨known.1, known.2.1, .inl ⟨known.2.2.1, .inl known.2.2.2⟩⟩
    · obtain ⟨rfl, last⟩ := @List.append_inj' _ [p, q, r] [s] _ _ is rfl
      obtain rfl : s = 61 := by simpa using last
      simp only [List.mem_cons, List.not_mem_nil, or_false, forall_eq_or_imp, forall_eq] at known
      exact ⟨known.1, known.2.1, .inl ⟨known.2.2, .inr rfl⟩⟩
    · obtain ⟨rfl, both⟩ := @List.append_inj' _ [p, q] [r, s] _ _ is rfl
      obtain ⟨rfl, rfl⟩ : r = 61 ∧ s = 61 := by simpa using both
      simp only [List.mem_cons, List.not_mem_nil, or_false, forall_eq_or_imp, forall_eq] at known
      exact ⟨known.1, known.2, .inr ⟨rfl, rfl⟩⟩
  · rintro ⟨first, second, (⟨third, last | rfl⟩ | ⟨rfl, rfl⟩)⟩
    · exact ⟨Nat.mod_self 4, [p, q, r, s], [], by simp, by simp [first, second, third, last], by simp⟩
    · exact ⟨Nat.mod_self 4, [p, q, r], [61], by simp, by simp [first, second, third], by simp⟩
    · exact ⟨Nat.mod_self 4, [p, q], [61, 61], by simp, by simp [first, second], by simp⟩

/-- Before other characters a group is all letters. -/
theorem isBase64_cons {p q r s : UInt8} {rest : List UInt8} (more : rest ≠ []) :
    IsBase64 (p :: q :: r :: s :: rest) ↔
      isLetter p = true ∧ isLetter q = true ∧ isLetter r = true ∧ isLetter s = true ∧ IsBase64 rest := by
  constructor
  · rintro ⟨whole, letters, pad, is, known, padded⟩
    have short : pad.length ≤ 2 := by
      simp only [List.mem_cons, List.not_mem_nil, or_false] at padded
      rcases padded with rfl | rfl | rfl <;> simp
    have size := congrArg List.length is
    have some_ := List.length_pos_iff.2 more
    simp only [List.length_cons, List.length_append] at size whole
    obtain ⟨p', q', r', s', letters, rfl⟩ : ∃ p q r s rest, letters = p :: q :: r :: s :: rest := by
      match letters, show 4 ≤ letters.length by omega with
      | p :: q :: r :: s :: rest, _ => exact ⟨p, q, r, s, rest, rfl⟩
    simp only [List.cons_append, List.cons.injEq] at is
    obtain ⟨rfl, rfl, rfl, rfl, rfl⟩ := is
    simp only [List.mem_cons, forall_eq_or_imp] at known
    exact ⟨known.1, known.2.1, known.2.2.1, known.2.2.2.1, by omega, letters, pad, rfl, known.2.2.2.2, padded⟩
  · rintro ⟨first, second, third, fourth, whole, letters, pad, rfl, known, padded⟩
    refine ⟨?_, p :: q :: r :: s :: letters, pad, rfl, ?_, padded⟩
    · simp only [List.length_cons]
      omega
    · simp only [List.mem_cons, forall_eq_or_imp]
      exact ⟨first, second, third, fourth, known⟩

/-- Its characters are letters and `=`. -/
theorem IsBase64.chars {text : List UInt8} (is : IsBase64 text) : ∀ c ∈ text, isLetter c = true ∨ c = 61 := by
  obtain ⟨-, letters, pad, rfl, known, padded⟩ := is
  intro c mem
  rcases List.mem_append.1 mem with mem | mem
  · exact .inl (known c mem)
  · simp only [List.mem_cons, List.not_mem_nil, or_false] at padded
    rcases padded with rfl | rfl | rfl
    · cases mem
    · exact .inr (by simpa using mem)
    · exact .inr (by simpa using mem)

theorem isLetter_iff {c : UInt8} : isLetter c = true ↔ ∃ v, value c = some v := Option.isSome_iff_exists

theorem decoding_cons {p q r s : UInt8} {a b c d : Nat} (isA : value p = some a) (isB : value q = some b)
    (isC : value r = some c) (isD : value s = some d) (rest : List UInt8) :
    decoding (p :: q :: r :: s :: rest) = bytesOf (join a b c d) ++ decoding rest := by
  simp [decoding, isA, isB, isC, isD, pack]

theorem isLetter_letter {v : Nat} (small : v < 64) : isLetter (letter v) = true := isLetter_iff.2 ⟨v, value_letter v small⟩

theorem decoding_three {p q r : UInt8} {a b c : Nat} (isA : value p = some a) (isB : value q = some b)
    (isC : value r = some c) :
    decoding [p, q, r, 61] = [UInt8.ofNat (a * 4 + b / 16), UInt8.ofNat (b % 16 * 16 + c / 4)] := by
  have none : value 61 = none := by decide
  simp [decoding, isA, isB, isC, none, pack]

theorem decoding_two {p q : UInt8} {a b : Nat} (isA : value p = some a) (isB : value q = some b) :
    decoding [p, q, 61, 61] = [UInt8.ofNat (a * 4 + b / 16)] := by
  have none : value 61 = none := by decide
  simp [decoding, isA, isB, none, pack]

theorem encodePadded_ne_nil {bytes : List UInt8} (some_ : bytes ≠ []) : encodePadded bytes ≠ [] := by
  match bytes, some_ with
  | [x], _ => simp [encodePadded]
  | [x, y], _ => simp [encodePadded]
  | x :: y :: z :: rest, _ => simp [encodePadded, lettersOf]

theorem length_encodePadded : ∀ (bytes : List UInt8), bytes.length ≤ (encodePadded bytes).length
  | [] => Nat.le_refl 0
  | [_] => by simp [encodePadded, lettersOf]
  | [_, _] => by simp [encodePadded, lettersOf]
  | x :: y :: z :: rest => by
      have ih := length_encodePadded rest
      simp only [encodePadded, lettersOf, List.length_append, List.length_cons, List.length_nil]
      omega

/-- What is encoded is base64 and stands for the bytes. -/
theorem encodePadded_spec : ∀ (bytes : List UInt8), IsBase64 (encodePadded bytes) ∧ decoding (encodePadded bytes) = bytes
  | [] => ⟨isBase64_nil, rfl⟩
  | [x] => by
      have := x.toNat_lt
      obtain ⟨n, is⟩ : ∃ n, n = x.toNat * 65536 := ⟨_, rfl⟩
      have text : encodePadded [x] = [letter (n / 262144), letter (n / 4096 % 64), 61, 61] := by simp [encodePadded, lettersOf, is]
      have high : n / 262144 * 4 + n / 4096 % 64 / 16 = x.toNat := by omega
      rw [text]
      refine ⟨isBase64_last.2 ⟨isLetter_letter (by omega), isLetter_letter (by omega), .inr ⟨rfl, rfl⟩⟩, ?_⟩
      rw [decoding_two (value_letter _ (by omega)) (value_letter _ (by omega)), high, UInt8.ofNat_toNat]
  | [x, y] => by
      have := x.toNat_lt
      have := y.toNat_lt
      obtain ⟨n, is⟩ : ∃ n, n = x.toNat * 65536 + y.toNat * 256 := ⟨_, rfl⟩
      have text : encodePadded [x, y] = [letter (n / 262144), letter (n / 4096 % 64), letter (n / 64 % 64), 61] := by
        simp [encodePadded, lettersOf, is]
      have high : n / 262144 * 4 + n / 4096 % 64 / 16 = x.toNat := by omega
      have low : n / 4096 % 64 % 16 * 16 + n / 64 % 64 / 4 = y.toNat := by omega
      rw [text]
      refine ⟨isBase64_last.2 ⟨isLetter_letter (by omega), isLetter_letter (by omega),
        .inl ⟨isLetter_letter (by omega), .inr rfl⟩⟩, ?_⟩
      rw [decoding_three (value_letter _ (by omega)) (value_letter _ (by omega)) (value_letter _ (by omega)), high, low,
        UInt8.ofNat_toNat, UInt8.ofNat_toNat]
  | x :: y :: z :: rest => by
      have := x.toNat_lt
      have := y.toNat_lt
      have := z.toNat_lt
      obtain ⟨ih, back⟩ := encodePadded_spec rest
      obtain ⟨n, is⟩ : ∃ n, n = x.toNat * 65536 + y.toNat * 256 + z.toNat := ⟨_, rfl⟩
      have text : encodePadded (x :: y :: z :: rest) =
          letter (n / 262144) :: letter (n / 4096 % 64) :: letter (n / 64 % 64) :: letter (n % 64) :: encodePadded rest := by
        simp [encodePadded, lettersOf, is]
      have joined : join (n / 262144) (n / 4096 % 64) (n / 64 % 64) (n % 64) = n := by
        unfold join
        omega
      have split : bytesOf n = [x, y, z] := by
        rw [is]
        exact bytesOf_join x y z
      rw [text]
      refine ⟨?_, ?_⟩
      · by_cases none : rest = []
        · subst none
          exact isBase64_last.2 ⟨isLetter_letter (by omega), isLetter_letter (by omega),
            .inl ⟨isLetter_letter (by omega), .inl (isLetter_letter (by omega))⟩⟩
        · exact (isBase64_cons (encodePadded_ne_nil none)).2 ⟨isLetter_letter (by omega), isLetter_letter (by omega),
            isLetter_letter (by omega), isLetter_letter (by omega), ih⟩
      · rw [decoding_cons (value_letter _ (by omega)) (value_letter _ (by omega)) (value_letter _ (by omega))
          (value_letter _ (by omega)), joined, split, back]
        rfl

end NoxSsh.Theory.Base64
