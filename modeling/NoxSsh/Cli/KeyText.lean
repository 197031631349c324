/-
# Cli.KeyText — the base64 the command line client accepts

`noxssh_base64_decode` goes through its input in groups of four characters.  In every
group the last two characters may be `=`, each for itself, and a value that is not there
counts as `-1`.

So it accepts more than base64: padding inside the text, and a letter behind a `=`.  Where
every `=` stands in the last one or two places it accepts base64 and nothing else, and
returns what it stands for (`base64_decode_exact_iff`).
-/
import NoxSsh.Theory.Base64

namespace NoxSsh.Cli

open Theory

set_option autoImplicit false

/-! ## The decoder -/

/-- `noxssh_base64_val`. -/
def base64Val (c : UInt8) : Int :=
  if 65 ≤ c ∧ c ≤ 90 then (c.toNat : Int) - 65
  else if 97 ≤ c ∧ c ≤ 122 then (c.toNat : Int) - 97 + 26
  else if 48 ≤ c ∧ c ≤ 57 then (c.toNat : Int) - 48 + 52
  else if c = 43 then 62
  else if c = 47 then 63
  else -1

/-- `out[o++] = value`, if there is room. -/
def put (outMax : Nat) (value : Int) (out : List UInt8) : Option (List UInt8) :=
  if out.length + 1 > outMax then none else some (out ++ [UInt8.ofInt value])

/-- The two optional bytes of a group: none for a `=`. -/
def putUnlessPad (c : UInt8) (outMax : Nat) (value : Int) (out : List UInt8) : Option (List UInt8) :=
  if c ≠ 61 then put outMax value out else some out

/-- The loop of `noxssh_base64_decode`.  `/` and `%` are the shifts and masks of the source;
on `-1` they are what its arithmetic is on all ones. -/
def base64Loop (outMax : Nat) : List UInt8 → List UInt8 → Option (List UInt8)
  | c0 :: c1 :: c2 :: c3 :: rest, out =>
      let v0 := base64Val c0
      let v1 := base64Val c1
      if v0 < 0 ∨ v1 < 0 then none
      else
        let v2 := if c2 = 61 then -1 else base64Val c2
        let v3 := if c3 = 61 then -1 else base64Val c3
        if v2 < -1 ∨ v3 < -1 ∨ (v2 < 0 ∧ c2 ≠ 61) ∨ (v3 < 0 ∧ c3 ≠ 61) then none
        else do
          let out ← put outMax (v0 * 4 + v1 / 16) out
          let out ← putUnlessPad c2 outMax (v1 % 16 * 16 + v2 / 4) out
          let out ← putUnlessPad c3 outMax (v2 % 4 * 64 + v3) out
          base64Loop outMax rest out
  | _, out => some out

/-- `noxssh_base64_decode`. -/
def base64Decode (input : List UInt8) (outMax : Nat) : Option (List UInt8) :=
  if input.length % 4 ≠ 0 then none else base64Loop outMax input []

/-! ## What it accepts -/

/-- A letter or `=`. -/
def LetterOrPad (c : UInt8) : Prop := c = 61 ∨ Base64.isLetter c = true

/-- Every group of four begins with two letters and goes on with letters or `=`. -/
def Tolerated : List UInt8 → Prop
  | c0 :: c1 :: c2 :: c3 :: rest =>
      Base64.isLetter c0 = true ∧ Base64.isLetter c1 = true ∧ LetterOrPad c2 ∧ LetterOrPad c3 ∧ Tolerated rest
  | [] => True
  | _ => False

/-- `=` stands in the last one or two places, if at all. -/
def PadsAtEnd (input : List UInt8) : Prop :=
  ∃ body pad, input = body ++ pad ∧ 61 ∉ body ∧ pad ∈ [[], [61], [61, (61 : UInt8)]]

/-- It succeeds on base64 and on nothing else, with the bytes the text stands for. -/
def DecodesExactly (input : List UInt8) (outMax : Nat) : Prop :=
  ∀ bytes, base64Decode input outMax = some bytes ↔ Base64.IsBase64 input ∧ bytes = Base64.decoding input

section Loop

variable {outMax : Nat}

theorem base64Val_eq (c : UInt8) : base64Val c = ((Base64.value c).map fun v => (v : Int)).getD (-1) := by
  unfold base64Val Base64.value
  have := c.toNat_lt
  split
  · rename_i upper
    have low := UInt8.le_iff_toNat_le.1 upper.1
    simp at low ⊢
    omega
  split
  · rename_i lower
    have low := UInt8.le_iff_toNat_le.1 lower.1
    simp at low ⊢
    omega
  split
  · rename_i digit
    have low := UInt8.le_iff_toNat_le.1 digit.1
    simp at low ⊢
    omega
  split
  · rfl
  split
  · rfl
  · rfl

/-- A letter has a value, of at most six bits; anything else has `-1`. -/
theorem base64Val_cases (c : UInt8) :
    (∃ v, Base64.value c = some v ∧ base64Val c = v ∧ v < 64 ∧ c ≠ 61) ∨ (Base64.isLetter c = false ∧ base64Val c = -1) := by
  have is := base64Val_eq c
  cases known : Base64.value c with
  | none =>
      rw [known] at is
      exact .inr ⟨by simp [Base64.isLetter, known], is⟩
  | some v =>
      rw [known] at is
      refine .inl ⟨v, rfl, is, (Base64.letter_of_value known).2, ?_⟩
      rintro rfl
      have none : Base64.value 61 = none := by decide
      rw [none] at known
      cases known

theorem put_some {value : Int} {out : List UInt8} (room : out.length + 1 ≤ outMax) :
    put outMax value out = some (out ++ [UInt8.ofInt value]) := by
  rw [put, if_neg (by omega)]

theorem ofInt_nat (n : Nat) : UInt8.ofInt (n : Int) = UInt8.ofNat n := by
  rw [← UInt8.toNat_inj]
  simp [UInt8.ofInt]
  omega

/-- The three bytes of a group of letters. -/
theorem bytes_of_values (a : Nat) {b c d : Nat} (hc : c < 64) (hd : d < 64) :
    [UInt8.ofNat (a * 4 + b / 16), UInt8.ofNat (b % 16 * 16 + c / 4), UInt8.ofNat (c % 4 * 64 + d)] =
      Base64.bytesOf (Base64.join a b c d) := by
  simp only [Base64.bytesOf, Base64.join, List.cons.injEq, and_true, ← UInt8.toNat_inj, UInt8.toNat_ofNat']
  refine ⟨?_, ?_, ?_⟩ <;> omega

/-- What a group adds; the value of `=` counts as all ones. -/
def groupBytes (a b : Nat) (v2 v3 : Option Nat) : List UInt8 :=
  [UInt8.ofNat (a * 4 + b / 16)] ++ v2.elim [] (fun c => [UInt8.ofNat (b % 16 * 16 + c / 4)]) ++
    v3.elim [] fun d => [UInt8.ofNat (v2.getD 3 % 4 * 64 + d)]

section Group

variable {c0 c1 c2 c3 : UInt8} {a b : Nat} {rest out : List UInt8}

theorem letterOrPad_cases {c : UInt8} (is : LetterOrPad c) :
    (c = 61 ∧ Base64.value c = none) ∨ ∃ v, c ≠ 61 ∧ Base64.value c = some v ∧ base64Val c = v := by
  rcases is with rfl | letter
  · exact .inl ⟨rfl, by decide⟩
  · rcases base64Val_cases c with ⟨v, known, val, -, other⟩ | ⟨none, -⟩
    · exact .inr ⟨v, other, known, val⟩
    · rw [letter] at none
      cases none

/-- A value, or `-1` for `=`. -/
theorem guard_passes {v2 v3 : Int} (third : 0 ≤ v2 ∨ v2 = -1 ∧ c2 = 61) (fourth : 0 ≤ v3 ∨ v3 = -1 ∧ c3 = 61) :
    ¬ (v2 < -1 ∨ v3 < -1 ∨ (v2 < 0 ∧ c2 ≠ 61) ∨ (v3 < 0 ∧ c3 ≠ 61)) := by
  rintro (low | low | ⟨low, other⟩ | ⟨low, other⟩)
  · omega
  · omega
  · exact other (third.resolve_left (by omega)).2
  · exact other (fourth.resolve_left (by omega)).2

theorem put_nat {value : Int} (n : Nat) (is : value = n) (room : out.length + 1 ≤ outMax) :
    put outMax value out = some (out ++ [UInt8.ofNat n]) := by
  rw [put, if_neg (by omega), is, ofInt_nat]

theorem putUnlessPad_nat {value : Int} {c : UInt8} (letter : c ≠ 61) (n : Nat) (is : value = n)
    (room : out.length + 1 ≤ outMax) : putUnlessPad c outMax value out = some (out ++ [UInt8.ofNat n]) := by
  rw [putUnlessPad, if_pos letter, put_nat n is room]

theorem putUnlessPad_pad {value : Int} {c : UInt8} (pad : c = 61) : putUnlessPad c outMax value out = some out :=
  if_neg fun other => other pad

theorem base64Loop_group (isA : Base64.value c0 = some a) (isB : Base64.value c1 = some b) (third : LetterOrPad c2)
    (fourth : LetterOrPad c3) (room : out.length + 3 ≤ outMax) :
    base64Loop outMax (c0 :: c1 :: c2 :: c3 :: rest) out =
      base64Loop outMax rest (out ++ groupBytes a b (Base64.value c2) (Base64.value c3)) := by
  have v0 : base64Val c0 = a := by rw [base64Val_eq, isA]; rfl
  have v1 : base64Val c1 = b := by rw [base64Val_eq, isB]; rfl
  have first : put outMax ((a : Int) * 4 + b / 16) out = some (out ++ [UInt8.ofNat (a * 4 + b / 16)]) :=
    put_nat _ (by simp) (by omega)
  rw [base64Loop, v0, v1, if_neg (by omega), groupBytes]
  generalize UInt8.ofNat (a * 4 + b / 16) = x at first
  rcases letterOrPad_cases third with ⟨pad2, none2⟩ | ⟨c, other2, is2, val2⟩ <;>
    rcases letterOrPad_cases fourth with ⟨pad3, none3⟩ | ⟨d, other3, is3, val3⟩
  · rw [none2, none3, if_pos pad2, if_pos pad3, if_neg (guard_passes (.inr ⟨rfl, pad2⟩) (.inr ⟨rfl, pad3⟩)), first]
    simp [putUnlessPad_pad pad2, putUnlessPad_pad pad3]
  · have last : putUnlessPad c3 outMax ((-1 : Int) % 4 * 64 + d) (out ++ [x]) =
        some (out ++ [x] ++ [UInt8.ofNat (3 % 4 * 64 + d)]) := putUnlessPad_nat other3 _ (by simp) (by simp; omega)
    rw [none2, is3, if_pos pad2, if_neg other3, val3, if_neg (guard_passes (.inr ⟨rfl, pad2⟩) (.inl (by omega))), first]
    simp only [Option.bind_eq_bind, Option.bind_some, putUnlessPad_pad pad2]
    rw [last]
    simp
  · have second : putUnlessPad c2 outMax ((b : Int) % 16 * 16 + c / 4) (out ++ [x]) =
        some (out ++ [x] ++ [UInt8.ofNat (b % 16 * 16 + c / 4)]) := putUnlessPad_nat other2 _ (by simp) (by simp; omega)
    rw [is2, none3, if_neg other2, val2, if_pos pad3, if_neg (guard_passes (.inl (by omega)) (.inr ⟨rfl, pad3⟩)), first]
    simp only [Option.bind_eq_bind, Option.bind_some, putUnlessPad_pad pad3]
    rw [second]
    simp
  · have second : putUnlessPad c2 outMax ((b : Int) % 16 * 16 + c / 4) (out ++ [x]) =
        some (out ++ [x] ++ [UInt8.ofNat (b % 16 * 16 + c / 4)]) := putUnlessPad_nat other2 _ (by simp) (by simp; omega)
    have last : putUnlessPad c3 outMax ((c : Int) % 4 * 64 + d) (out ++ [x] ++ [UInt8.ofNat (b % 16 * 16 + c / 4)]) =
        some (out ++ [x] ++ [UInt8.ofNat (b % 16 * 16 + c / 4)] ++ [UInt8.ofNat (c % 4 * 64 + d)]) :=
      putUnlessPad_nat other3 _ (by simp) (by simp; omega)
    rw [is2, is3, if_neg other2, val2, if_neg other3, val3, if_neg (guard_passes (.inl (by omega)) (.inl (by omega))), first]
    simp only [Option.bind_eq_bind, Option.bind_some]
    rw [second, Option.bind_some, last]
    simp

/-- Any other group is refused. -/
theorem base64Loop_refuses
    (bad : ¬ (Base64.isLetter c0 = true ∧ Base64.isLetter c1 = true ∧ LetterOrPad c2 ∧ LetterOrPad c3)) :
    base64Loop outMax (c0 :: c1 :: c2 :: c3 :: rest) out = none := by
  have negative : ∀ {c : UInt8}, Base64.isLetter c ≠ true → base64Val c = -1 := by
    intro c none
    rcases base64Val_cases c with ⟨v, known, -⟩ | ⟨-, is⟩
    · exact absurd (Base64.isLetter_iff.2 ⟨v, known⟩) none
    · exact is
  rw [base64Loop]
  by_cases first : Base64.isLetter c0 = true ∧ Base64.isLetter c1 = true
  · have later : ¬ LetterOrPad c2 ∨ ¬ LetterOrPad c3 := by
      rw [← not_and_or]
      exact fun both => bad ⟨first.1, first.2, both.1, both.2⟩
    split
    · rfl
    rw [if_pos]
    rcases later with other | other
    · have none : base64Val c2 = -1 := negative fun is => other (.inr is)
      have notPad : c2 ≠ 61 := fun is => other (.inl is)
      exact .inr (.inr (.inl ⟨by rw [if_neg notPad, none]; decide, notPad⟩))
    · have none : base64Val c3 = -1 := negative fun is => other (.inr is)
      have notPad : c3 ≠ 61 := fun is => other (.inl is)
      exact .inr (.inr (.inr ⟨by rw [if_neg notPad, none]; decide, notPad⟩))
  · rw [if_pos]
    rcases not_and_or.1 first with none | none
    · exact .inl (by rw [negative none]; decide)
    · exact .inr (by rw [negative none]; decide)

end Group

theorem length_groupBytes_le (a b : Nat) (v2 v3 : Option Nat) : (groupBytes a b v2 v3).length ≤ 3 := by
  cases v2 <;> cases v3 <;> simp [groupBytes]

/-- With room for three bytes a group, what is accepted is what is tolerated. -/
theorem base64Loop_isSome : ∀ (input out : List UInt8), input.length % 4 = 0 → out.length + input.length / 4 * 3 ≤ outMax →
    ((∃ result, base64Loop outMax input out = some result) ↔ Tolerated input)
  | [], out, _, _ => ⟨fun _ => trivial, fun _ => ⟨out, rfl⟩⟩
  | [_], _, whole, _ => by simp at whole
  | [_, _], _, whole, _ => by simp at whole
  | [_, _, _], _, whole, _ => by simp at whole
  | c0 :: c1 :: c2 :: c3 :: rest, out, whole, room => by
      simp only [List.length_cons] at room whole
      by_cases group : Base64.isLetter c0 = true ∧ Base64.isLetter c1 = true ∧ LetterOrPad c2 ∧ LetterOrPad c3
      · obtain ⟨first, second, third, fourth⟩ := group
        obtain ⟨a, isA⟩ := Base64.isLetter_iff.1 first
        obtain ⟨b, isB⟩ := Base64.isLetter_iff.1 second
        have most := length_groupBytes_le a b (Base64.value c2) (Base64.value c3)
        have ih := base64Loop_isSome rest (out ++ groupBytes a b (Base64.value c2) (Base64.value c3)) (by omega)
          (by rw [List.length_append]; omega)
        rw [base64Loop_group isA isB third fourth (by omega), ih]
        exact ⟨fun later => ⟨first, second, third, fourth, later⟩, fun all => all.2.2.2.2⟩
      · rw [base64Loop_refuses group]
        constructor
        · rintro ⟨result, none⟩
          cases none
        · exact fun all => absurd ⟨all.1, all.2.1, all.2.2.1, all.2.2.2.1⟩ group

/-- A group of letters adds its three bytes. -/
theorem base64Loop_letters {c0 c1 c2 c3 : UInt8} {a b c d : Nat} {rest out : List UInt8} (isA : Base64.value c0 = some a)
    (isB : Base64.value c1 = some b) (isC : Base64.value c2 = some c) (isD : Base64.value c3 = some d)
    (room : out.length + 3 ≤ outMax) :
    base64Loop outMax (c0 :: c1 :: c2 :: c3 :: rest) out =
      base64Loop outMax rest (out ++ Base64.bytesOf (Base64.join a b c d)) := by
  have third := Base64.isLetter_iff.2 ⟨c, isC⟩
  have fourth := Base64.isLetter_iff.2 ⟨d, isD⟩
  rw [base64Loop_group isA isB (.inr third) (.inr fourth) room, isC, isD,
    ← bytes_of_values a (Base64.letter_of_value isC).2 (Base64.letter_of_value isD).2]
  rfl

/-- Base64 is decoded. -/
theorem base64Loop_decoding : ∀ (input out : List UInt8), Base64.IsBase64 input → out.length + input.length / 4 * 3 ≤ outMax →
    base64Loop outMax input out = some (out ++ Base64.decoding input)
  | [], out, _, _ => by simp [base64Loop, Base64.decoding, Base64.pack]
  | [_], _, is, _ => by simpa using is.1
  | [_, _], _, is, _ => by simpa using is.1
  | [_, _, _], _, is, _ => by simpa using is.1
  | c0 :: c1 :: c2 :: c3 :: rest, out, is, room => by
      simp only [List.length_cons] at room
      have pad : Base64.value 61 = none := by decide
      by_cases last : rest = []
      · subst last
        obtain ⟨first, second, group⟩ := Base64.isBase64_last.1 is
        obtain ⟨a, isA⟩ := Base64.isLetter_iff.1 first
        obtain ⟨b, isB⟩ := Base64.isLetter_iff.1 second
        rcases group with ⟨third, fourth | rfl⟩ | ⟨rfl, rfl⟩
        · obtain ⟨c, isC⟩ := Base64.isLetter_iff.1 third
          obtain ⟨d, isD⟩ := Base64.isLetter_iff.1 fourth
          rw [base64Loop_letters isA isB isC isD (by omega), Base64.decoding_cons isA isB isC isD]
          simp [base64Loop, Base64.decoding, Base64.pack]
        · obtain ⟨c, isC⟩ := Base64.isLetter_iff.1 third
          rw [base64Loop_group isA isB (.inr third) (.inl rfl) (by omega), isC, pad, Base64.decoding_three isA isB isC]
          rfl
        · rw [base64Loop_group isA isB (.inl rfl) (.inl rfl) (by omega), pad, Base64.decoding_two isA isB]
          rfl
      · obtain ⟨first, second, third, fourth, later⟩ := (Base64.isBase64_cons last).1 is
        obtain ⟨a, isA⟩ := Base64.isLetter_iff.1 first
        obtain ⟨b, isB⟩ := Base64.isLetter_iff.1 second
        obtain ⟨c, isC⟩ := Base64.isLetter_iff.1 third
        obtain ⟨d, isD⟩ := Base64.isLetter_iff.1 fourth
        have ih := base64Loop_decoding rest (out ++ Base64.bytesOf (Base64.join a b c d)) later
          (by rw [List.length_append]; simp [Base64.bytesOf]; omega)
        rw [base64Loop_letters isA isB isC isD (by omega), ih, Base64.decoding_cons isA isB isC isD, List.append_assoc]

end Loop

/-! ## Base64 and what is tolerated -/

section Texts

variable {input : List UInt8}

theorem not_isLetter_pad : Base64.isLetter 61 = false := by decide

theorem padsAtEnd_of_isBase64 (is : Base64.IsBase64 input) : PadsAtEnd input := by
  obtain ⟨-, letters, pad, rfl, known, padded⟩ := is
  refine ⟨letters, pad, rfl, fun mem => ?_, padded⟩
  have letter := known 61 mem
  rw [not_isLetter_pad] at letter
  cases letter

theorem Tolerated.spec : ∀ {input : List UInt8}, Tolerated input → input.length % 4 = 0 ∧ ∀ c ∈ input, LetterOrPad c
  | [], _ => ⟨rfl, by simp⟩
  | [_], bad => bad.elim
  | [_, _], bad => bad.elim
  | [_, _, _], bad => bad.elim
  | c0 :: c1 :: c2 :: c3 :: rest, ⟨first, second, third, fourth, later⟩ => by
      obtain ⟨whole, each⟩ := Tolerated.spec later
      refine ⟨by simp only [List.length_cons]; omega, ?_⟩
      simp only [List.mem_cons, forall_eq_or_imp]
      exact ⟨.inr first, .inr second, third, fourth, each⟩

theorem isBase64_of_tolerated (tolerated : Tolerated input) (pads : PadsAtEnd input) : Base64.IsBase64 input := by
  obtain ⟨whole, each⟩ := tolerated.spec
  obtain ⟨body, pad, rfl, fresh, padded⟩ := pads
  refine ⟨whole, body, pad, rfl, fun c mem => ?_, padded⟩
  rcases each c (List.mem_append_left _ mem) with rfl | letter
  · exact absurd mem fresh
  · exact letter

variable {outMax : Nat}

theorem base64Decode_of_isBase64 (is : Base64.IsBase64 input) (room : input.length / 4 * 3 ≤ outMax) :
    base64Decode input outMax = some (Base64.decoding input) := by
  rw [base64Decode, if_neg (by simpa using is.1), base64Loop_decoding input [] is (by simpa using room)]
  rfl

theorem base64Decode_encodePadded {bytes : List UInt8} (room : (Base64.encodePadded bytes).length / 4 * 3 ≤ outMax) :
    base64Decode (Base64.encodePadded bytes) outMax = some bytes := by
  obtain ⟨is, back⟩ := Base64.encodePadded_spec bytes
  rw [base64Decode_of_isBase64 is room, back]

end Texts

/-- **What the decoder takes for base64.**  For every input and enough room, it accepts base64
and nothing else, and returns what the text stands for, exactly if `=` stands only in the
last one or two places, or some group of four does not begin with two letters and go on
with letters or `=`.  The padded encoding of any bytes is decoded to them. -/
theorem base64_decode_exact_iff (input : List UInt8) (outMax : Nat) (room : input.length / 4 * 3 ≤ outMax) :
    (DecodesExactly input outMax ↔ (Tolerated input → PadsAtEnd input)) ∧
      ∀ bytes, Base64.encodePadded bytes = input → base64Decode input outMax = some bytes := by
  have fits : ([] : List UInt8).length + input.length / 4 * 3 ≤ outMax := by simpa using room
  have accepts : ∀ bytes, base64Decode input outMax = some bytes → Tolerated input := by
    intro bytes accepted
    rw [base64Decode] at accepted
    split at accepted
    · cases accepted
    rename_i whole
    exact (base64Loop_isSome input [] (by simpa using whole) fits).1 ⟨bytes, accepted⟩
  refine ⟨⟨?_, ?_⟩, ?_⟩
  · intro exactly_ tolerated
    obtain ⟨result, accepted⟩ := (base64Loop_isSome input [] tolerated.spec.1 fits).2 tolerated
    have is := (exactly_ result).1 (by rw [base64Decode, if_neg (by simpa using tolerated.spec.1), accepted])
    exact padsAtEnd_of_isBase64 is.1
  · intro pads bytes
    constructor
    · intro accepted
      have is := isBase64_of_tolerated (accepts bytes accepted) (pads (accepts bytes accepted))
      rw [base64Decode_of_isBase64 is room] at accepted
      exact ⟨is, (Option.some.inj accepted).symm⟩
    · rintro ⟨is, rfl⟩
      exact base64Decode_of_isBase64 is room
  · rintro bytes rfl
    exact base64Decode_encodePadded room

/-- The encoding of one byte. -/
theorem base64_decode_exact_one :
    (DecodesExactly [81, 81, 61, 61] 3 ↔ (Tolerated [81, 81, 61, 61] → PadsAtEnd [81, 81, 61, 61])) ∧
      ∀ bytes, Base64.encodePadded bytes = [81, 81, 61, 61] → base64Decode [81, 81, 61, 61] 3 = some bytes :=
  base64_decode_exact_iff [81, 81, 61, 61] 3 (by decide)

/-- `QQ=A` is accepted: the letter behind the `=` becomes a byte with two bits of the `-1`. -/
theorem base64_decode_inexact : base64Decode [81, 81, 61, 65] 3 = some [65, 192] ∧ ¬ DecodesExactly [81, 81, 61, 65] 3 := by
  have accepted : base64Decode [81, 81, 61, 65] 3 = some [65, 192] := by decide
  refine ⟨accepted, fun exactly_ => ?_⟩
  obtain ⟨is, -⟩ := (exactly_ _).1 accepted
  obtain ⟨-, -, letters⟩ := Base64.isBase64_last.1 is
  revert letters
  decide

end NoxSsh.Cli
