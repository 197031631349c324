/-
# Wire.Codec — the append functions over a buffer, and reading back

`Wire.Payload` gives the append functions on the bytes written so far.  Here they are on
what the C caller has: an array of `payload_max` bytes and the number of those in use.
`shows_*` connects the two.

A list of fields that fits is written and read back as it was, and the offset stands at
the end (`codec_round_trip`).  One that does not fit is written up to the field that does
not, and that append changes nothing.
-/
import NoxSsh.Wire.Payload

namespace NoxSsh.Wire

open Theory

set_option autoImplicit false

/-! ## The buffer -/

/-- `memcpy` to address `off`. -/
def write (m : Mem) (off : Nat) (bytes : List UInt8) : Mem :=
  fun i => if off ≤ i then (bytes[i - off]?).getD (m i) else m i

/-- The array and `payload_len`. -/
structure Buffer where
  mem : Mem
  used : Nat

/-- `netnox_ssh_payload_append_u8`. -/
def Buffer.appendU8 (max : Nat) (value : UInt8) (b : Buffer) : Bool × Buffer :=
  if wrap32 (b.used + 1) > max then (false, b)
  else (true, ⟨write b.mem b.used [value], wrap32 (b.used + 1)⟩)

/-- `netnox_ssh_payload_append_u32`. -/
def Buffer.appendU32 (max : Nat) (value : UInt32) (b : Buffer) : Bool × Buffer :=
  if wrap32 (b.used + 4) > max then (false, b)
  else (true, ⟨write b.mem b.used (be32 value.toNat), wrap32 (b.used + 4)⟩)

/-- `netnox_ssh_payload_append_string`, of a length that is a `uint32_t`. -/
def Buffer.appendString (max : Nat) (str : List UInt8) (b : Buffer) : Bool × Buffer :=
  if wrap32 (wrap32 (b.used + 4) + str.length) > max then (false, b)
  else
    let b : Buffer := ⟨write b.mem b.used (be32 str.length), wrap32 (b.used + 4)⟩
    if 0 < str.length then (true, ⟨write b.mem b.used str, wrap32 (b.used + str.length)⟩)
    else (true, b)

section Write

variable {m : Mem} {off : Nat} {bytes : List UInt8}

theorem write_below {i : Nat} (below : i < off) : write m off bytes i = m i := if_neg (Nat.not_le.2 below)

@[simp] theorem write_nil : write m off [] = m := by
  funext i
  simp [write]

/-- What was written stands there. -/
theorem holds_write : Holds (write m off bytes) off bytes := by
  apply List.ext_getElem
  · simp
  · intro i _ inside
    simp [slice, write, inside]

/-- What stands before it stays. -/
theorem slice_write_below {start n : Nat} (before : start + n ≤ off) :
    slice (write m off bytes) start n = slice m start n := by
  apply List.ext_getElem
  · simp
  · intro i inside _
    simp only [length_slice] at inside
    simp only [slice, List.getElem_map, List.getElem_range]
    exact write_below (by omega)

theorem Holds.write {start : Nat} {s : List UInt8} (stands : Holds m start s) (before : start + s.length ≤ off) :
    Holds (write m off bytes) start s := by
  rw [Holds, slice_write_below before]
  exact stands

/-- Written in two turns or in one. -/
theorem write_write (more : List UInt8) : write (write m off bytes) (off + bytes.length) more = write m off (bytes ++ more) := by
  funext i
  by_cases low : off ≤ i
  · by_cases high : off + bytes.length ≤ i
    · have past : bytes.length ≤ i - off := by omega
      have same : i - (off + bytes.length) = i - off - bytes.length := by omega
      have none : bytes[i - off]? = none := List.getElem?_eq_none past
      rw [write, if_pos high, write, if_pos low, write, if_pos low, List.getElem?_append_right past, same, none,
        Option.getD_none]
    · have inside : i - off < bytes.length := by omega
      rw [write_below (by omega), write, write, if_pos low, if_pos low, List.getElem?_append_left inside]
  · rw [write_below (by omega), write_below (by omega), write_below (by omega)]

end Write

/-! ## The bytes written so far -/

/-- What is in use. -/
def Buffer.shows (b : Buffer) : List UInt8 := slice b.mem 0 b.used

/-- The buffer with these bytes behind those in use. -/
def Buffer.put (b : Buffer) (bytes : List UInt8) : Buffer := ⟨write b.mem b.used bytes, b.used + bytes.length⟩

section Shows

variable {max : Nat} {b : Buffer} {bytes str : List UInt8}

@[simp] theorem used_put : (b.put bytes).used = b.used + bytes.length := rfl

@[simp] theorem length_shows : b.shows.length = b.used := length_slice _ _ _

theorem put_put (more : List UInt8) : (b.put bytes).put more = b.put (bytes ++ more) := by
  simp only [Buffer.put, write_write, List.length_append, Nat.add_assoc]

theorem shows_put : (b.put bytes).shows = b.shows ++ bytes := by
  have behind : slice (write b.mem b.used bytes) b.used bytes.length = bytes := holds_write
  rw [Buffer.shows, used_put, slice_add, Nat.zero_add, Buffer.put, slice_write_below (by omega), behind]
  rfl

/-- Each append puts its encoding or changes nothing. -/
theorem appendU8_eq (small : max < 2 ^ 30) (inside : b.used ≤ max) (value : UInt8) :
    b.appendU8 max value = if b.used + 1 ≤ max then (true, b.put [value]) else (false, b) := by
  rw [Buffer.appendU8, wrap32_of_lt (by omega)]
  by_cases fits : b.used + 1 ≤ max
  · rw [if_neg (by omega), if_pos fits]
    rfl
  · rw [if_pos (by omega), if_neg fits]

theorem appendU32_eq (small : max < 2 ^ 30) (inside : b.used ≤ max) (value : UInt32) :
    b.appendU32 max value = if b.used + 4 ≤ max then (true, b.put (be32 value.toNat)) else (false, b) := by
  rw [Buffer.appendU32, wrap32_of_lt (by omega)]
  by_cases fits : b.used + 4 ≤ max
  · rw [if_neg (by omega), if_pos fits]
    rfl
  · rw [if_pos (by omega), if_neg fits]

theorem appendString_eq (small : max < 2 ^ 30) (inside : b.used ≤ max) (short : str.length < 2 ^ 30) :
    b.appendString max str = if b.used + (4 + str.length) ≤ max then (true, b.put (sshString str)) else (false, b) := by
  rw [Buffer.appendString, @wrap32_of_lt (b.used + 4) (by omega), wrap32_of_lt (by omega)]
  by_cases fits : b.used + (4 + str.length) ≤ max
  · have whole : b.put (sshString str) = (b.put (be32 str.length)).put str := (put_put str).symm
    rw [if_neg (by omega), if_pos fits, whole]
    by_cases some_ : 0 < str.length
    · rw [if_pos some_]
      dsimp only
      rw [wrap32_of_lt (by omega)]
      rfl
    · obtain rfl : str = [] := List.length_eq_zero_iff.1 (by omega)
      rw [if_neg some_]
      simp [Buffer.put]
  · rw [if_pos (by omega), if_neg fits]

/-- The append functions of `Wire.Payload` are these, on the bytes in use. -/
theorem shows_appendU8 (small : max < 2 ^ 30) (inside : b.used ≤ max) (value : UInt8) :
    payloadAppendU8 max value b.shows =
      if (b.appendU8 max value).1 then some (b.appendU8 max value).2.shows else none := by
  rw [appendU8_eq small inside, payloadAppendU8, length_shows]
  by_cases fits : b.used + 1 ≤ max
  · rw [if_neg (by omega), if_pos fits, if_pos rfl, shows_put]
  · rw [if_pos (by omega), if_neg fits, if_neg (by simp)]

theorem shows_appendU32 (small : max < 2 ^ 30) (inside : b.used ≤ max) (value : UInt32) :
    payloadAppendU32 max value.toNat b.shows =
      if (b.appendU32 max value).1 then some (b.appendU32 max value).2.shows else none := by
  rw [appendU32_eq small inside, payloadAppendU32, length_shows]
  by_cases fits : b.used + 4 ≤ max
  · rw [if_neg (by omega), if_pos fits, if_pos rfl, shows_put]
  · rw [if_pos (by omega), if_neg fits, if_neg (by simp)]

theorem shows_appendString (small : max < 2 ^ 30) (inside : b.used ≤ max) (short : str.length < 2 ^ 30) :
    payloadAppendString max str b.shows =
      if (b.appendString max str).1 then some (b.appendString max str).2.shows else none := by
  rw [appendString_eq small inside short, payloadAppendString, length_shows]
  by_cases fits : b.used + (4 + str.length) ≤ max
  · rw [if_neg (by omega), if_pos fits, if_pos rfl, shows_put, sshString, List.append_assoc]
  · rw [if_pos (by omega), if_neg fits, if_neg (by simp)]

end Shows

/-! ## Fields -/

inductive Field where
  | byte (value : UInt8)
  | word (value : UInt32)
  | string (str : List UInt8)
  deriving DecidableEq, Repr

/-- A string is shorter than `2 ^ 30`. -/
def Field.Short : Field → Prop
  | .string str => str.length < 2 ^ 30
  | _ => True

def Field.encoding : Field → List UInt8
  | .byte value => [value]
  | .word value => be32 value.toNat
  | .string str => sshString str

def Field.append (max : Nat) (b : Buffer) : Field → Bool × Buffer
  | .byte value => b.appendU8 max value
  | .word value => b.appendU32 max value
  | .string str => b.appendString max str

/-- The field of the same kind at the offset, and the offset behind it; a single byte is
read without a function. -/
def Field.readBack (m : Mem) (payloadLen offset : Nat) : Field → Option (Field × Nat)
  | .byte _ => some (.byte (m offset), offset + 1)
  | .word _ => (payloadReadU32 m payloadLen offset).map fun (value, next) => (.word (UInt32.ofNat value), next)
  | .string _ => (payloadReadStringView m payloadLen offset).map fun (v, next) => (.string (v.bytes m), next)

/-- All of them in order, as long as each succeeds. -/
def appendAll (max : Nat) : List Field → Buffer → Bool × Buffer
  | [], b => (true, b)
  | f :: fields, b =>
      let (done, b) := f.append max b
      if done then appendAll max fields b else (false, b)

def readAll (m : Mem) (payloadLen : Nat) : List Field → Nat → Option (List Field × Nat)
  | [], offset => some ([], offset)
  | f :: fields, offset => do
      let (field, offset) ← f.readBack m payloadLen offset
      let (rest, offset) ← readAll m payloadLen fields offset
      pure (field :: rest, offset)

section Fields

variable {max : Nat} {b : Buffer} {m : Mem} {payloadLen offset : Nat}

theorem append_eq (small : max < 2 ^ 30) (inside : b.used ≤ max) {f : Field} (short : f.Short) :
    f.append max b = if b.used + f.encoding.length ≤ max then (true, b.put f.encoding) else (false, b) := by
  cases f with
  | byte value => exact appendU8_eq small inside value
  | word value => exact appendU32_eq small inside value
  | string str =>
      rw [Field.encoding, length_sshString]
      exact appendString_eq small inside short

/-- A field that stands at the offset is read. -/
theorem readBack_holds (f : Field) (stands : Holds m offset f.encoding) (inside : offset + f.encoding.length ≤ payloadLen)
    (small : payloadLen < 4294967296) :
    f.readBack m payloadLen offset = some (f, offset + f.encoding.length) := by
  cases f with
  | byte value =>
      have here : m offset = value := by
        have slices : slice m offset 1 = [value] := stands
        simpa [slice] using slices
      rw [Field.readBack, here]
      rfl
  | word value =>
      have bound := value.toNat_lt
      rw [Field.readBack, payloadReadU32_holds stands inside small, wrap32_of_lt bound]
      simp [Field.encoding]
  | string str =>
      rw [Field.encoding, length_sshString] at inside
      rw [Field.readBack, payloadReadStringView_holds stands inside small]
      simp [Field.encoding, view_sshString stands]

theorem readAll_holds (small : payloadLen < 4294967296) : ∀ (fields : List Field) (offset : Nat),
    Holds m offset (fields.flatMap Field.encoding) → offset + (fields.flatMap Field.encoding).length ≤ payloadLen →
    readAll m payloadLen fields offset = some (fields, offset + (fields.flatMap Field.encoding).length) := by
  intro fields
  induction fields with
  | nil => exact fun _ _ _ => rfl
  | cons f fields ih =>
      intro offset stands inside
      rw [List.flatMap_cons] at stands inside ⊢
      rw [List.length_append] at inside ⊢
      obtain ⟨here, later⟩ := holds_append.1 stands
      have first := readBack_holds f here (by omega) small
      have rest := ih _ later (by omega)
      rw [readAll, first, Option.bind_eq_bind, Option.bind_some]
      dsimp only
      rw [rest, Nat.add_assoc]
      rfl

/-- Fields that fit are put one behind the other. -/
theorem appendAll_fits (small : max < 2 ^ 30) : ∀ (fields : List Field) (b : Buffer), (∀ f ∈ fields, f.Short) →
    b.used + (fields.flatMap Field.encoding).length ≤ max →
    appendAll max fields b = (true, b.put (fields.flatMap Field.encoding)) := by
  intro fields
  induction fields with
  | nil =>
      intro b _ _
      simp [appendAll, Buffer.put]
  | cons f fields ih =>
      intro b short fits
      rw [List.flatMap_cons, List.length_append] at fits
      have first := append_eq (b := b) small (by omega) (short f List.mem_cons_self)
      rw [if_pos (by omega)] at first
      have rest := ih (b.put f.encoding) (fun g mem => short g (List.mem_cons_of_mem _ mem)) (by rw [used_put]; omega)
      rw [appendAll, first, List.flatMap_cons, ← put_put]
      exact rest

/-- Of fields that do not fit some do, and the next one is refused. -/
theorem appendAll_full (small : max < 2 ^ 30) : ∀ (fields : List Field) (b : Buffer), (∀ f ∈ fields, f.Short) →
    b.used ≤ max → max < b.used + (fields.flatMap Field.encoding).length →
    ∃ written f left, fields = written ++ f :: left ∧
      appendAll max written b = (true, b.put (written.flatMap Field.encoding)) ∧
      max < b.used + (written.flatMap Field.encoding).length + f.encoding.length ∧
      f.append max (b.put (written.flatMap Field.encoding)) = (false, b.put (written.flatMap Field.encoding)) ∧
      appendAll max fields b = (false, b.put (written.flatMap Field.encoding)) := by
  intro fields
  induction fields with
  | nil =>
      intro b _ inside full
      exact absurd full (by simp; omega)
  | cons f fields ih =>
      intro b short inside full
      rw [List.flatMap_cons, List.length_append] at full
      have first := append_eq small inside (short f List.mem_cons_self)
      by_cases fits : b.used + f.encoding.length ≤ max
      · rw [if_pos fits] at first
        obtain ⟨written, g, left, rfl, begins, more, refuses, ends⟩ :=
          ih (b.put f.encoding) (fun g mem => short g (List.mem_cons_of_mem _ mem)) fits (by rw [used_put]; omega)
        rw [put_put, ← List.flatMap_cons] at begins refuses ends
        refine ⟨f :: written, g, left, rfl, ?_, ?_, refuses, ?_⟩
        · rw [appendAll, first]
          exact begins
        · rw [used_put] at more
          rw [List.flatMap_cons, List.length_append]
          omega
        · rw [appendAll, first]
          exact ends
      · rw [if_neg fits] at first
        have untouched : b.put [] = b := by simp [Buffer.put]
        refine ⟨[], f, fields, rfl, ?_, ?_, ?_, ?_⟩
        · rw [List.flatMap_nil, untouched]
          rfl
        · simpa using fits
        · rw [List.flatMap_nil, untouched]
          exact first
        · rw [List.flatMap_nil, untouched, appendAll, first]
          rfl

end Fields

/-- **Payloads are read back as they were written.**  For every capacity below `2 ^ 30` and
every list of fields with strings shorter than that, into an empty buffer: if their
encodings fit, all appends succeed, and the readers return the same fields and stop at the
end.  If they do not, there is an append that fails, all before it succeed, and it leaves
array and length as they were. -/
theorem codec_round_trip (max : Nat) (small : max < 2 ^ 30) (fields : List Field) (short : ∀ f ∈ fields, f.Short) (m : Mem) :
    ((fields.flatMap Field.encoding).length ≤ max →
      ∃ b, appendAll max fields ⟨m, 0⟩ = (true, b) ∧ b.used = (fields.flatMap Field.encoding).length ∧
        readAll b.mem b.used fields 0 = some (fields, b.used)) ∧
    (max < (fields.flatMap Field.encoding).length →
      ∃ written f left b, fields = written ++ f :: left ∧ appendAll max written ⟨m, 0⟩ = (true, b) ∧
        max < b.used + f.encoding.length ∧ f.append max b = (false, b) ∧ appendAll max fields ⟨m, 0⟩ = (false, b)) := by
  constructor
  · intro fits
    have appends := appendAll_fits (b := ⟨m, 0⟩) small fields short (by simpa using fits)
    have stands : Holds (write m 0 (fields.flatMap Field.encoding)) 0 (fields.flatMap Field.encoding) := holds_write
    have size : (Buffer.put ⟨m, 0⟩ (fields.flatMap Field.encoding)).used = (fields.flatMap Field.encoding).length :=
      Nat.zero_add _
    have reads := @readAll_holds _ (fields.flatMap Field.encoding).length (by omega) fields 0 stands (by omega)
    rw [Nat.zero_add] at reads
    refine ⟨_, appends, size, ?_⟩
    rw [size]
    exact reads
  · intro full
    obtain ⟨written, f, left, is, begins, more, refuses, ends⟩ := appendAll_full (b := ⟨m, 0⟩) small fields short
      (Nat.zero_le _) (by simpa using full)
    exact ⟨written, f, left, _, is, begins, more, refuses, ends⟩

/-- A byte, a word and a string. -/
theorem codec_round_trip_three :
    ∃ b, appendAll 16 [.byte 5, .word 7, .string [104, 105]] ⟨fun _ => 0, 0⟩ = (true, b) ∧ b.used = 11 ∧
      readAll b.mem b.used [.byte 5, .word 7, .string [104, 105]] 0 =
        some ([.byte 5, .word 7, .string [104, 105]], b.used) :=
  (codec_round_trip 16 (by decide) [.byte 5, .word 7, .string [104, 105]] (by simp [Field.Short]) fun _ => 0).1 (by decide)

end NoxSsh.Wire
